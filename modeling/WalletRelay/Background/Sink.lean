import WalletRelay.Relay.Message

/-!
# Where outcomes go

A sink takes outcomes one after another and may fail at any of them. The simplest one is a channel,
which keeps what it is given until it is read, and fails once its reader is gone.
-/

namespace WalletRelay

/-- Why an outcome was not delivered. -/
inductive DeliveryError where
  /-- The background could not be asked, or its reply could not be read. -/
  | transport (detail : String)
  /-- The background has refused the outcome. -/
  | rejected (reason : String)
  /-- Nobody reads the channel any more. -/
  | closed
deriving DecidableEq, Repr

def DeliveryError.message : DeliveryError → String
  | .transport detail => "Background request failed: " ++ detail
  | .rejected reason => "Background rejected the outcome: " ++ reason
  | .closed => "Outcome channel closed"

/-- The behaviour of a sink whose state is a `τ`. -/
structure Sink (τ : Type) where
  /-- Deliver an outcome. -/
  deliver : CallOutcome → τ → Except DeliveryError Unit × τ

structure OutcomeChannel where
  /-- The outcomes that were not read yet, in order. -/
  waiting : List CallOutcome
  /-- Whether somebody will read them. -/
  isRead : Bool

namespace OutcomeChannel

def empty : OutcomeChannel :=
  ⟨[], true⟩

def takeAll (c : OutcomeChannel) : List CallOutcome × OutcomeChannel :=
  (c.waiting, { c with waiting := [] })

def close (_ : OutcomeChannel) : OutcomeChannel :=
  ⟨[], false⟩

def sink : Sink OutcomeChannel where
  deliver outcome c :=
    if c.isRead then (.ok (), { c with waiting := c.waiting ++ [outcome] })
    else (.error .closed, c)

end OutcomeChannel
end WalletRelay
