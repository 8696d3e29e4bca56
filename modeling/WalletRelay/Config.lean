import WalletRelay.Text.Blank
import WalletRelay.Text.Case
import WalletRelay.Text.Numeral
import WalletRelay.Url.Basic

/-!
# Configuration

The relay is configured through named variables. A value counts without the blanks at its ends, and a
blank value counts as none. Values are looked at in a fixed order; the first that cannot be read is
reported. The host, the recovery phrase and the log format can be any text.

What the log format is for, the log itself, is left out.
-/

namespace WalletRelay

/-! ### Log format -/

inductive LogFormat where
  | pretty
  | json
deriving DecidableEq, Repr

def LogFormat.tag : LogFormat → String
  | .pretty => "pretty"
  | .json => "json"

/-- The format that a text names; anything but `json` is the pretty one. -/
def LogFormat.ofText (s : String) : LogFormat :=
  if Text.asciiLower (Text.trim s) = "json" then .json else .pretty

/-! ### Configuration -/

structure Config where
  host : String
  port : UInt16
  /-- Where outcomes are delivered; without it they are only logged. -/
  backgroundUrl : Option Url
  /-- The recovery phrase of the emulated device; without it no device is attached. -/
  deviceMnemonic : Option String
  startFocused : Bool
  /-- How many calls may wait for the worker. -/
  queueCapacity : UInt64
  logFormat : LogFormat
deriving DecidableEq, Repr

/-- The configuration without any variables. -/
def Config.defaults : Config where
  host := "0.0.0.0"
  port := 8080
  backgroundUrl := none
  deviceMnemonic := none
  startFocused := true
  queueCapacity := 64
  logFormat := .pretty

/-- Which value cannot be read, and why. -/
inductive ConfigError where
  | port (cause : Numeral.Error)
  | backgroundUrl (cause : UrlError)
  | startFocused (value : String)
  | queueCapacity (value : String)
deriving DecidableEq, Repr

namespace ConfigError

def variableName : ConfigError → String
  | .port _ => "PORT"
  | .backgroundUrl _ => "BACKGROUND_URL"
  | .startFocused _ => "START_FOCUSED"
  | .queueCapacity _ => "RELAY_QUEUE_CAPACITY"

def reason : ConfigError → String
  | .port cause => cause.message
  | .backgroundUrl cause => cause.message
  | .startFocused value => "expected true/false, got `" ++ value ++ "`"
  | .queueCapacity value => "expected a positive integer, got `" ++ value ++ "`"

/-- The text of an error. -/
def message (e : ConfigError) : String :=
  "Invalid value for " ++ e.variableName ++ ": " ++ e.reason

end ConfigError

namespace Config

/-- The truth value that a word stands for. -/
def flag? (s : String) : Option Bool :=
  let word := Text.asciiLower s
  if word ∈ ["1", "true", "yes", "on"] then some true
  else if word ∈ ["0", "false", "no", "off"] then some false
  else none

def readPort (s : String) : Except ConfigError UInt16 :=
  match Numeral.read UInt16.size s.toList with
  | .error e => .error (.port e)
  | .ok n => .ok (UInt16.ofNat n)

def readUrl (s : String) : Except ConfigError Url :=
  (Url.parse s).mapError .backgroundUrl

def readFlag (s : String) : Except ConfigError Bool :=
  match flag? s with
  | none => .error (.startFocused s)
  | some b => .ok b

/-- Read the capacity of the queue, which is not zero. -/
def readCapacity (s : String) : Except ConfigError UInt64 :=
  match Numeral.read UInt64.size s.toList with
  | .error _ => .error (.queueCapacity s)
  | .ok n => if n = 0 then .error (.queueCapacity s) else .ok (UInt64.ofNat n)

def readIfSet {α : Type} (value : Option String) (fallback : α) (read : String → Except ConfigError α) :
    Except ConfigError α :=
  match value with
  | none => .ok fallback
  | some s => read s

/-- The configuration that the values of variables give. -/
def ofLookup (lookup : String → Option String) : Except ConfigError Config := do
  let value (name : String) : Option String := (lookup name).bind Text.trimmed?
  let port ← readIfSet (value "PORT") defaults.port readPort
  let backgroundUrl ← readIfSet (value "BACKGROUND_URL") none fun s => (readUrl s).map some
  let startFocused ← readIfSet (value "START_FOCUSED") defaults.startFocused readFlag
  let queueCapacity ← readIfSet (value "RELAY_QUEUE_CAPACITY") defaults.queueCapacity readCapacity
  return {
    host := (value "HOST").getD defaults.host
    port, backgroundUrl
    deviceMnemonic := value "DEVICE_MNEMONIC"
    startFocused, queueCapacity
    logFormat := ((value "LOG_FORMAT").map LogFormat.ofText).getD defaults.logFormat }

/-- The address that the service listens on. -/
def bindAddress (c : Config) : String :=
  c.host ++ ":" ++ toString c.port.toNat

end Config
end WalletRelay
