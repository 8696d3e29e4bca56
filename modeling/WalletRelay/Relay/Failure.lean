import WalletRelay.Text.Blank

/-!
# Failures

A failure is described by a message, by the message of what caused it, and by a form for developers.
Whoever waits for the call is told the first of them that says anything.
-/

namespace WalletRelay

structure Failure where
  message : String
  /-- The messages of what caused the failure, the direct cause first. -/
  causes : List String
  /-- The form for developers. -/
  debug : String
deriving DecidableEq, Repr

/-- What is told of a failure: its message, or else that of its direct cause, or else its form for
developers. Texts of blanks alone say nothing. -/
def Failure.reason (f : Failure) : String :=
  if Text.isBlankText f.message then
    match f.causes with
    | [] => f.debug
    | cause :: _ => if Text.isBlankText cause then f.debug else cause
  else f.message

end WalletRelay
