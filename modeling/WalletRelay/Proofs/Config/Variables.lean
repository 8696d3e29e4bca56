import Mathlib.Logic.Basic
import WalletRelay.Config
import WalletRelay.Proofs.Except
import WalletRelay.Proofs.Text.Blank
import WalletRelay.Proofs.Text.Numeral

/-!
# What the variables make of the configuration

Each variable has texts that are valid for it (`Config.Variable.Valid`), and it is *fine* if it is not set, is
blank, or has a valid text with blanks around it (`Config.Variable.IsFine`). Reading looks at four of them, in
a fixed order, and gives up at the first that is not fine (`Config.first_of_error`); the other three can be
any text. If all are fine, the configuration is what they say: `Config.Describes` tells each field from its own
variable alone (`Config.ofLookup_eq_ok_iff`).

Every reader is specified once, by `readPort_eq_ok_iff` and its like, and `Variable.ReadBy` says what the
four have in common. `configuration_of_variables` puts all of this together.
-/

namespace WalletRelay

namespace Config

/-! ### Variables -/

inductive Variable where
  | port
  | backgroundUrl
  | startFocused
  | queueCapacity
  | host
  | deviceMnemonic
  | logFormat
deriving DecidableEq, Repr

def Variable.name : Variable → String
  | .port => "PORT"
  | .backgroundUrl => "BACKGROUND_URL"
  | .startFocused => "START_FOCUSED"
  | .queueCapacity => "RELAY_QUEUE_CAPACITY"
  | .host => "HOST"
  | .deviceMnemonic => "DEVICE_MNEMONIC"
  | .logFormat => "LOG_FORMAT"

/-- The variables whose values can be refused, in the order in which they are looked at. -/
def Variable.checked : List Variable :=
  [.port, .backgroundUrl, .startFocused, .queueCapacity]

/-- The value of a variable, without the blanks at its ends; a blank one counts as none. -/
def value? (lookup : String → Option String) (x : Variable) : Option String :=
  (lookup x.name).bind Text.trimmed?

def flagWords : Bool → List String
  | true => ["1", "true", "yes", "on"]
  | false => ["0", "false", "no", "off"]

/-- The values that a variable can have. -/
def Variable.Valid : Variable → String → Prop
  | .port, v => ∃ n, Numeral.Spells v.toList n ∧ n < UInt16.size
  | .backgroundUrl, v => ∃ url, Url.parse v = .ok url
  | .startFocused, v => ∃ b, Text.asciiLower v ∈ flagWords b
  | .queueCapacity, v => ∃ n, Numeral.Spells v.toList n ∧ 0 < n ∧ n < UInt64.size
  | .host, _ | .deviceMnemonic, _ | .logFormat, _ => True

/-- The variable is not set, its value is blank, or it is valid without the blanks at its ends. -/
def Variable.IsFine (lookup : String → Option String) (x : Variable) : Prop :=
  ∀ s, lookup x.name = some s →
    (∀ c ∈ s.toList, Text.isBlank c = true) ∨ ∃ v, Text.IsPadded s v ∧ x.Valid v

variable {lookup lookup' : String → Option String} {x : Variable} {c c' : Config} {e : ConfigError}

/-- A variable is fine exactly if the value that counts, if there is one, is valid. -/
theorem isFine_iff : x.IsFine lookup ↔ ∀ v, value? lookup x = some v → x.Valid v := by
  rw [Variable.IsFine, value?]
  cases lookup x.name with
  | none => exact iff_of_true nofun nofun
  | some s =>
    rw [Option.bind_some]
    cases trimmed : Text.trimmed? s with
    | none =>
      have blank := Text.trimmed?_eq_none_iff.1 trimmed
      refine iff_of_true ?_ nofun
      rintro _ ⟨⟩
      exact .inl blank
    | some v =>
      -- The value between the blanks is the only one that the variable can be padded from.
      have padded := Text.trimmed?_eq_some_iff.1 trimmed
      constructor
      · rintro fine _ ⟨⟩
        obtain blank | ⟨v', padded', valid⟩ := fine s rfl
        · rw [Text.trimmed?_eq_none_iff.2 blank] at trimmed
          cases trimmed
        · rw [Text.trimmed?_eq_some_iff.2 padded'] at trimmed
          cases trimmed
          exact valid
      · rintro fine _ ⟨⟩
        exact .inr ⟨v, padded, fine v rfl⟩

/-! ### Reading one value -/

/-- A port is read exactly from the texts that stand for it. -/
theorem readPort_eq_ok_iff {v : String} {port : UInt16} :
    readPort v = .ok port ↔ Numeral.Spells v.toList port.toNat := by
  have positive : 0 < UInt16.size := by decide
  rw [readPort]
  -- A port below the bound is not changed by being put into a word.
  cases read : Numeral.read UInt16.size v.toList with
  | error cause =>
    constructor
    · nofun
    · intro spells
      have large := Numeral.le_of_read_error positive read spells
      exact absurd port.toNat_lt (Nat.not_lt.2 large)
  | ok n =>
    obtain ⟨spells, small⟩ := (Numeral.read_eq_ok_iff positive).1 read
    constructor
    · rintro ⟨⟩
      rwa [UInt16.toNat_ofNat_of_lt' small]
    · intro spells'
      cases spells.unique spells'
      exact congrArg Except.ok (UInt16.ofNat_toNat)

/-- A capacity is read exactly from the texts that stand for it, and it is not zero. -/
theorem readCapacity_eq_ok_iff {v : String} {capacity : UInt64} :
    readCapacity v = .ok capacity ↔ Numeral.Spells v.toList capacity.toNat ∧ 0 < capacity.toNat := by
  have positive : 0 < UInt64.size := by decide
  rw [readCapacity]
  cases read : Numeral.read UInt64.size v.toList with
  | error cause =>
    constructor
    · nofun
    · rintro ⟨spells, -⟩
      have large := Numeral.le_of_read_error positive read spells
      exact absurd capacity.toNat_lt (Nat.not_lt.2 large)
  | ok n =>
    obtain ⟨spells, small⟩ := (Numeral.read_eq_ok_iff positive).1 read
    dsimp only
    split
    -- A text that stands for zero stands for no other number.
    next zero =>
      constructor
      · nofun
      · rintro ⟨spells', some⟩
        have same := spells.unique spells'
        omega
    next some =>
      constructor
      · rintro ⟨⟩
        rw [UInt64.toNat_ofNat_of_lt' small]
        exact ⟨spells, Nat.pos_of_ne_zero some⟩
      · rintro ⟨spells', -⟩
        cases spells.unique spells'
        exact congrArg Except.ok (UInt64.ofNat_toNat)

theorem readUrl_eq_ok_iff {v : String} {url : Url} : readUrl v = .ok url ↔ Url.parse v = .ok url :=
  Except.mapError_eq_ok_iff

/-- A truth value is read exactly from its words, in small or capital letters. -/
theorem readFlag_eq_ok_iff {v : String} {b : Bool} :
    readFlag v = .ok b ↔ Text.asciiLower v ∈ flagWords b := by
  have flag : flag? v = some b ↔ Text.asciiLower v ∈ flagWords b := by
    -- The words for `true` are tried first. They are no words for `false`.
    have disjoint : ∀ word ∈ flagWords true, word ∉ flagWords false := by decide
    show (if Text.asciiLower v ∈ flagWords true then some true
      else if Text.asciiLower v ∈ flagWords false then some false else none) = some b ↔ _
    split
    next yes =>
      cases b with
      | false => exact iff_of_false nofun (disjoint _ yes)
      | true => exact iff_of_true rfl yes
    next notYes =>
      split
      next no =>
        cases b with
        | false => exact iff_of_true rfl no
        | true => exact iff_of_false nofun notYes
      next notNo =>
        cases b with
        | false => exact iff_of_false nofun notNo
        | true => exact iff_of_false nofun notYes
  rw [← flag, readFlag]
  cases flag? v with
  | none => exact iff_of_false nofun nofun
  | some b' => rw [Except.ok.injEq, Option.some.injEq]

/-! ### Checked variables -/

/-- A reader for the values of a variable: it reads the valid ones, and its errors name the variable. -/
structure Variable.ReadBy {α : Type} (x : Variable) (read : String → Except ConfigError α) : Prop where
  ok : ∀ v, (∃ a, read v = .ok a) ↔ x.Valid v
  error : ∀ v e, read v = .error e → e.variableName = x.name

theorem readBy_readPort : Variable.ReadBy .port readPort where
  ok v := by
    constructor
    · rintro ⟨port, read⟩
      exact ⟨_, readPort_eq_ok_iff.1 read, port.toNat_lt⟩
    · rintro ⟨n, spells, small⟩
      refine ⟨.ofNat n, readPort_eq_ok_iff.2 ?_⟩
      rwa [UInt16.toNat_ofNat_of_lt' small]
  error v e := by
    rw [readPort]
    split
    · rintro ⟨⟩
      rfl
    · nofun

theorem readBy_readUrl :
    Variable.ReadBy .backgroundUrl fun v => (readUrl v).map some where
  ok v := by
    constructor
    · rintro ⟨_, read⟩
      obtain ⟨url, read, -⟩ := Except.map_eq_ok_iff.1 read
      exact ⟨url, readUrl_eq_ok_iff.1 read⟩
    · rintro ⟨url, read⟩
      exact ⟨some url, Except.map_eq_ok_iff.2 ⟨url, readUrl_eq_ok_iff.2 read, rfl⟩⟩
  error v e unread := by
    obtain ⟨cause, -, rfl⟩ := Except.mapError_eq_error_iff.1 (Except.map_eq_error_iff.1 unread)
    rfl

theorem readBy_readFlag : Variable.ReadBy .startFocused readFlag where
  ok v := exists_congr fun _ => readFlag_eq_ok_iff
  error v e := by
    rw [readFlag]
    split
    · rintro ⟨⟩
      rfl
    · nofun

theorem readBy_readCapacity : Variable.ReadBy .queueCapacity readCapacity where
  ok v := by
    constructor
    · rintro ⟨capacity, read⟩
      obtain ⟨spells, some⟩ := readCapacity_eq_ok_iff.1 read
      exact ⟨_, spells, some, capacity.toNat_lt⟩
    · rintro ⟨n, spells, some, small⟩
      refine ⟨.ofNat n, readCapacity_eq_ok_iff.2 ?_⟩
      rw [UInt64.toNat_ofNat_of_lt' small]
      exact ⟨spells, some⟩
  error v e := by
    rw [readCapacity]
    split
    · rintro ⟨⟩
      rfl
    · split
      · rintro ⟨⟩
        rfl
      · nofun

section Checked

variable {α : Type} {fallback : α} {read : String → Except ConfigError α} (readBy : x.ReadBy read)

include readBy

/-- A variable is read exactly if it is fine. -/
theorem Variable.ReadBy.isFine_iff :
    (∃ a, readIfSet (value? lookup x) fallback read = .ok a) ↔ x.IsFine lookup := by
  rw [Config.isFine_iff]
  cases value? lookup x with
  | none => exact iff_of_true ⟨fallback, rfl⟩ nofun
  | some v =>
    rw [readIfSet, readBy.ok]
    constructor
    · rintro valid _ ⟨⟩
      exact valid
    · intro valid
      exact valid v rfl

/-- If a variable cannot be read, the error names it, and it is not fine. -/
theorem Variable.ReadBy.of_error (failed : readIfSet (value? lookup x) fallback read = .error e) :
    e.variableName = x.name ∧ ¬ x.IsFine lookup := by
  refine ⟨?_, ?_⟩
  · cases given : value? lookup x with
    | none =>
      rw [given] at failed
      cases failed
    | some v =>
      rw [given] at failed
      exact readBy.error v e failed
  · intro fine
    obtain ⟨a, read⟩ : ∃ a, readIfSet (value? lookup x) fallback read = .ok a :=
      readBy.isFine_iff.2 fine
    rw [failed] at read
    cases read

end Checked

/-! ### The whole configuration -/

theorem ofLookup_eq_bind (lookup : String → Option String) :
    ofLookup lookup = do
      let port ← readIfSet (value? lookup .port) defaults.port readPort
      let backgroundUrl ← readIfSet (value? lookup .backgroundUrl) none fun v => (readUrl v).map some
      let startFocused ← readIfSet (value? lookup .startFocused) defaults.startFocused readFlag
      let queueCapacity ← readIfSet (value? lookup .queueCapacity) defaults.queueCapacity readCapacity
      return {
        host := (value? lookup .host).getD defaults.host
        port, backgroundUrl
        deviceMnemonic := value? lookup .deviceMnemonic
        startFocused, queueCapacity
        logFormat := ((value? lookup .logFormat).map LogFormat.ofText).getD defaults.logFormat } :=
  rfl

/-- The parts of a configuration, each read from its own variable. -/
structure IsReadFrom (lookup : String → Option String) (c : Config) : Prop where
  port : readIfSet (value? lookup .port) defaults.port readPort = .ok c.port
  backgroundUrl : readIfSet (value? lookup .backgroundUrl) none (fun v => (readUrl v).map some) =
    .ok c.backgroundUrl
  startFocused : readIfSet (value? lookup .startFocused) defaults.startFocused readFlag =
    .ok c.startFocused
  queueCapacity : readIfSet (value? lookup .queueCapacity) defaults.queueCapacity readCapacity =
    .ok c.queueCapacity
  host : (value? lookup .host).getD defaults.host = c.host
  deviceMnemonic : value? lookup .deviceMnemonic = c.deviceMnemonic
  logFormat : ((value? lookup .logFormat).map LogFormat.ofText).getD defaults.logFormat = c.logFormat

/-- A configuration is read exactly if each of its parts is. -/
theorem ofLookup_eq_ok_iff_isReadFrom : ofLookup lookup = .ok c ↔ IsReadFrom lookup c := by
  rw [ofLookup_eq_bind]
  simp only [Except.bind_eq_ok_iff]
  constructor
  · rintro ⟨_, port, _, url, _, focused, _, capacity, ⟨⟩⟩
    exact ⟨port, url, focused, capacity, rfl, rfl, rfl⟩
  · rintro ⟨port, url, focused, capacity, host, mnemonic, format⟩
    refine ⟨_, port, _, url, _, focused, _, capacity, ?_⟩
    rw [host, mnemonic, format]
    rfl

/-- An error tells of the first variable that is not fine. -/
theorem first_of_error (failed : ofLookup lookup = .error e) :
    ∃ before x after, Variable.checked = before ++ x :: after ∧ e.variableName = x.name ∧
      ¬ x.IsFine lookup ∧ ∀ y ∈ before, y.IsFine lookup := by
  rw [ofLookup_eq_bind] at failed
  obtain failed | ⟨_, read, failed⟩ := Except.bind_eq_error_iff.1 failed
  · obtain ⟨named, bad⟩ := readBy_readPort.of_error failed
    exact ⟨[], .port, _, rfl, named, bad, nofun⟩
  have port := readBy_readPort.isFine_iff.1 ⟨_, read⟩
  obtain failed | ⟨_, read, failed⟩ := Except.bind_eq_error_iff.1 failed
  · obtain ⟨named, bad⟩ := readBy_readUrl.of_error failed
    exact ⟨[.port], .backgroundUrl, _, rfl, named, bad, by simpa using port⟩
  have url := readBy_readUrl.isFine_iff.1 ⟨_, read⟩
  obtain failed | ⟨_, read, failed⟩ := Except.bind_eq_error_iff.1 failed
  · obtain ⟨named, bad⟩ := readBy_readFlag.of_error failed
    exact ⟨[.port, .backgroundUrl], .startFocused, _, rfl, named, bad, by simpa using ⟨port, url⟩⟩
  have focused := readBy_readFlag.isFine_iff.1 ⟨_, read⟩
  obtain failed | ⟨_, read, failed⟩ := Except.bind_eq_error_iff.1 failed
  · obtain ⟨named, bad⟩ := readBy_readCapacity.of_error failed
    exact ⟨[.port, .backgroundUrl, .startFocused], .queueCapacity, _, rfl, named, bad,
      by simpa using ⟨port, url, focused⟩⟩
  · cases failed

/-- A configuration is read exactly if every checked variable is fine. -/
theorem exists_ofLookup_eq_ok_iff :
    (∃ c, ofLookup lookup = .ok c) ↔ ∀ x ∈ Variable.checked, x.IsFine lookup := by
  constructor
  · rintro ⟨c, read⟩ x mem
    have parts := ofLookup_eq_ok_iff_isReadFrom.1 read
    cases x with
    | port => exact readBy_readPort.isFine_iff.1 ⟨_, parts.port⟩
    | backgroundUrl => exact readBy_readUrl.isFine_iff.1 ⟨_, parts.backgroundUrl⟩
    | startFocused => exact readBy_readFlag.isFine_iff.1 ⟨_, parts.startFocused⟩
    | queueCapacity => exact readBy_readCapacity.isFine_iff.1 ⟨_, parts.queueCapacity⟩
    | host | deviceMnemonic | logFormat => exact absurd mem (by decide)
  · intro fine
    cases read : ofLookup lookup with
    | ok c => exact ⟨c, rfl⟩
    | error e =>
      obtain ⟨before, x, after, order, -, bad, -⟩ := first_of_error read
      have mem : x ∈ Variable.checked := order ▸ List.mem_append_right before List.mem_cons_self
      exact absurd (fine x mem) bad

/-! ### Other values -/

/-- Only the values without the blanks around them count. -/
theorem ofLookup_congr (same : ∀ x, value? lookup' x = value? lookup x) :
    ofLookup lookup' = ofLookup lookup := by
  simp only [ofLookup_eq_bind, same]

/-- An error depends on the checked variables only. -/
theorem ofLookup_eq_error_congr (same : ∀ x ∈ Variable.checked, value? lookup' x = value? lookup x) :
    ofLookup lookup' = .error e ↔ ofLookup lookup = .error e := by
  have port := same .port (by decide)
  have url := same .backgroundUrl (by decide)
  have focused := same .startFocused (by decide)
  have capacity := same .queueCapacity (by decide)
  simp only [ofLookup_eq_bind, Except.bind_eq_error_iff, port, url, focused, capacity, pure, Except.pure,
    reduceCtorEq]

def Variable.SameField : Variable → Config → Config → Prop
  | .port, c, c' => c.port = c'.port
  | .backgroundUrl, c, c' => c.backgroundUrl = c'.backgroundUrl
  | .startFocused, c, c' => c.startFocused = c'.startFocused
  | .queueCapacity, c, c' => c.queueCapacity = c'.queueCapacity
  | .host, c, c' => c.host = c'.host
  | .deviceMnemonic, c, c' => c.deviceMnemonic = c'.deviceMnemonic
  | .logFormat, c, c' => c.logFormat = c'.logFormat

/-- The field of a variable depends on the value of this variable alone. -/
theorem sameField_of_value? (read : ofLookup lookup = .ok c) (read' : ofLookup lookup' = .ok c')
    (same : value? lookup x = value? lookup' x) : x.SameField c c' := by
  have parts := ofLookup_eq_ok_iff_isReadFrom.1 read
  have parts' := ofLookup_eq_ok_iff_isReadFrom.1 read'
  cases x with
  | port => exact Except.ok.inj (parts.port.symm.trans (same ▸ parts'.port))
  | backgroundUrl => exact Except.ok.inj (parts.backgroundUrl.symm.trans (same ▸ parts'.backgroundUrl))
  | startFocused => exact Except.ok.inj (parts.startFocused.symm.trans (same ▸ parts'.startFocused))
  | queueCapacity => exact Except.ok.inj (parts.queueCapacity.symm.trans (same ▸ parts'.queueCapacity))
  | host => exact parts.host.symm.trans (same ▸ parts'.host)
  | deviceMnemonic => exact parts.deviceMnemonic.symm.trans (same ▸ parts'.deviceMnemonic)
  | logFormat => exact parts.logFormat.symm.trans (same ▸ parts'.logFormat)

/-! ### What the fields say -/

/-- A field has its default if its variable has no value; else its value reads as the field. -/
def Gives {α : Type} (value : Option String) (fallback : α) (reads : String → α → Prop) (a : α) : Prop :=
  (value = none → a = fallback) ∧ ∀ v, value = some v → reads v a

/-- The configuration is what the variables say. -/
structure Describes (lookup : String → Option String) (c : Config) : Prop where
  port : Gives (value? lookup .port) 8080 (fun v n => Numeral.Spells v.toList n.toNat) c.port
  backgroundUrl : Gives (value? lookup .backgroundUrl) none
    (fun v url => ∃ u, Url.parse v = .ok u ∧ url = some u) c.backgroundUrl
  startFocused : Gives (value? lookup .startFocused) true
    (fun v b => Text.asciiLower v ∈ flagWords b) c.startFocused
  queueCapacity : Gives (value? lookup .queueCapacity) 64
    (fun v n => Numeral.Spells v.toList n.toNat ∧ 0 < n.toNat) c.queueCapacity
  host : Gives (value? lookup .host) "0.0.0.0" (fun v host => v = host) c.host
  deviceMnemonic : c.deviceMnemonic = value? lookup .deviceMnemonic
  logFormat : Gives (value? lookup .logFormat) .pretty
    (fun v format => format = .json ↔ Text.asciiLower v = "json") c.logFormat

/-- Reading a value if there is one gives what the value says, or the default. -/
theorem readIfSet_eq_ok_iff {α : Type} {value : Option String} {fallback a : α}
    {read : String → Except ConfigError α} {reads : String → α → Prop}
    (spec : ∀ v a, read v = .ok a ↔ reads v a) :
    readIfSet value fallback read = .ok a ↔ Gives value fallback reads a := by
  cases value with
  | none =>
    constructor
    · rintro ⟨⟩
      exact ⟨fun _ => rfl, nofun⟩
    · rintro ⟨same, -⟩
      exact congrArg Except.ok (same rfl).symm
  | some v =>
    -- A value that is there decides alone; the default has no part in it.
    rw [readIfSet, spec]
    constructor
    · intro read
      refine ⟨nofun, ?_⟩
      rintro _ ⟨⟩
      exact read
    · rintro ⟨-, read⟩
      exact read v rfl

theorem getD_map_eq_iff {α : Type} {value : Option String} {fallback a : α} {read : String → α} :
    (value.map read).getD fallback = a ↔ Gives value fallback (fun v a => read v = a) a := by
  cases value with
  | none =>
    constructor
    · rintro rfl
      exact ⟨fun _ => rfl, nofun⟩
    · rintro ⟨same, -⟩
      exact (same rfl).symm
  | some v =>
    constructor
    · rintro rfl
      refine ⟨nofun, ?_⟩
      rintro _ ⟨⟩
      rfl
    · rintro ⟨-, read⟩
      exact read v rfl

/-- A format is the one for machines exactly if the word for it is there. -/
theorem ofText_eq_iff {v : String} {format : LogFormat} (given : value? lookup x = some v) :
    LogFormat.ofText v = format ↔ (format = .json ↔ Text.asciiLower v = "json") := by
  have trimmed : Text.trim v = v := by
    obtain ⟨s, -, trimmed⟩ := Option.bind_eq_some_iff.1 given
    exact (Text.trimmed?_eq_some_iff.1 trimmed).trim_eq
  rw [LogFormat.ofText, trimmed]
  split
  next json => cases format <;> simp [json]
  next other => cases format <;> simp [other]

theorem readUrl_map_some_eq_ok_iff {v : String} {given : Option Url} :
    (readUrl v).map some = .ok given ↔ ∃ url, Url.parse v = .ok url ∧ given = some url := by
  rw [Except.map_eq_ok_iff]
  exact exists_congr fun _ => and_congr readUrl_eq_ok_iff eq_comm

/-- The format of the log never fails to be read: every other word stands for the usual one. -/
theorem logFormat_eq_iff :
    ((value? lookup .logFormat).map LogFormat.ofText).getD defaults.logFormat = c.logFormat ↔
      Gives (value? lookup .logFormat) .pretty
        (fun v format => format = .json ↔ Text.asciiLower v = "json") c.logFormat := by
  rw [getD_map_eq_iff]
  exact and_congr_right fun _ => forall₂_congr fun _ given => ofText_eq_iff given

/-- A configuration is read exactly if it is what the variables say. -/
theorem ofLookup_eq_ok_iff : ofLookup lookup = .ok c ↔ Describes lookup c := by
  -- The host is its own value, so it is read by the identity.
  have host := @getD_map_eq_iff String (value? lookup .host) defaults.host c.host id
  rw [Option.map_id, id_eq] at host
  rw [ofLookup_eq_ok_iff_isReadFrom]
  constructor
  · intro parts
    exact {
      port := (readIfSet_eq_ok_iff fun _ _ => readPort_eq_ok_iff).1 parts.port
      backgroundUrl :=
        (readIfSet_eq_ok_iff fun _ _ => readUrl_map_some_eq_ok_iff).1 parts.backgroundUrl
      startFocused := (readIfSet_eq_ok_iff fun _ _ => readFlag_eq_ok_iff).1 parts.startFocused
      queueCapacity := (readIfSet_eq_ok_iff fun _ _ => readCapacity_eq_ok_iff).1 parts.queueCapacity
      host := host.1 parts.host
      deviceMnemonic := parts.deviceMnemonic.symm
      logFormat := logFormat_eq_iff.1 parts.logFormat }
  · intro described
    exact {
      port := (readIfSet_eq_ok_iff fun _ _ => readPort_eq_ok_iff).2 described.port
      backgroundUrl :=
        (readIfSet_eq_ok_iff fun _ _ => readUrl_map_some_eq_ok_iff).2 described.backgroundUrl
      startFocused := (readIfSet_eq_ok_iff fun _ _ => readFlag_eq_ok_iff).2 described.startFocused
      queueCapacity := (readIfSet_eq_ok_iff fun _ _ => readCapacity_eq_ok_iff).2 described.queueCapacity
      host := host.2 described.host
      deviceMnemonic := described.deviceMnemonic.symm
      logFormat := logFormat_eq_iff.2 described.logFormat }

/-! ### All variables together -/

/-- Only the values without the blanks around them count, and a blank value counts as none. A configuration is
read exactly if every variable is fine, and it is then what the variables say, each field by its own variable.
Otherwise the error names the first of the checked variables that is not fine; the others have no part
in it. -/
theorem configuration_of_variables (lookup : String → Option String) :
    (∀ lookup', (∀ x, value? lookup' x = value? lookup x) → ofLookup lookup' = ofLookup lookup) ∧
    ((∃ c, ofLookup lookup = .ok c) ↔ ∀ x ∈ Variable.checked, x.IsFine lookup) ∧
    (∀ e, ofLookup lookup = .error e → ∃ before x after, Variable.checked = before ++ x :: after ∧
      e.variableName = x.name ∧ ¬ x.IsFine lookup ∧ ∀ y ∈ before, y.IsFine lookup) ∧
    (∀ lookup', (∀ x ∈ Variable.checked, value? lookup' x = value? lookup x) →
      ∀ e, ofLookup lookup' = .error e ↔ ofLookup lookup = .error e) ∧
    (∀ c, ofLookup lookup = .ok c ↔ Describes lookup c) ∧
    ∀ c, ofLookup lookup = .ok c → ∀ lookup' c', ofLookup lookup' = .ok c' →
      ∀ x : Variable, value? lookup x = value? lookup' x → x.SameField c c' := by
  refine ⟨fun _ => ofLookup_congr, exists_ofLookup_eq_ok_iff, fun _ => first_of_error, ?_,
    fun _ => ofLookup_eq_ok_iff, ?_⟩
  · intro lookup' same e
    exact ofLookup_eq_error_congr same
  · intro c read lookup' c' read' x same
    exact sameField_of_value? read read' same

/-- Values with a sign, with zeros in front and with capital letters. -/
def plainVariables : String → Option String
  | "PORT" => some "+0080"
  | "START_FOCUSED" => some "oFF"
  | _ => none

/-- The same values with blanks around them, and one of blanks alone. -/
def paddedVariables : String → Option String
  | "PORT" => some "\u3000 +0080\n"
  | "START_FOCUSED" => some "\toFF"
  | "HOST" => some "\u2003 "
  | _ => none

/-- A capacity of zero, after a word that is no truth value. -/
def misspelledVariables : String → Option String
  | "START_FOCUSED" => some "o ff"
  | "RELAY_QUEUE_CAPACITY" => some "-0"
  | name => plainVariables name

/-- A padded port and flag are read as the plain ones are, and of two bad values the flag is the one that is
told of. -/
theorem configuration_of_variables_padded :
    (∀ x, value? paddedVariables x = value? plainVariables x) ∧
    ofLookup paddedVariables = ofLookup plainVariables ∧
    ofLookup plainVariables = .ok { defaults with port := 80, startFocused := false } ∧
    Numeral.Spells "+0080".toList 80 ∧
    ofLookup misspelledVariables = .error (.startFocused "o ff") ∧
    ¬ Variable.startFocused.IsFine misspelledVariables := by
  have same : ∀ x, value? paddedVariables x = value? plainVariables x := by
    intro x
    cases x <;> decide +kernel
  have read : ofLookup plainVariables = .ok { defaults with port := 80, startFocused := false } := by
    decide +kernel
  have refused : ofLookup misspelledVariables = .error (.startFocused "o ff") := by decide +kernel
  obtain ⟨congr, -, -, -, described, -⟩ := configuration_of_variables plainVariables
  obtain ⟨before, x, after, -, named, bad, -⟩ :=
    (configuration_of_variables misspelledVariables).2.2.1 _ refused
  refine ⟨same, congr paddedVariables same, read, ?_, refused, ?_⟩
  · exact ((described _).1 read).port.2 _ (by decide +kernel)
  -- Only one checked variable has the name that the error tells.
  · cases x with
    | startFocused => exact bad
    | _ => exact absurd named (by decide)

end Config
end WalletRelay
