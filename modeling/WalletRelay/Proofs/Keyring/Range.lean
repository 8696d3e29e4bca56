import Mathlib.Data.UInt
import WalletRelay.Proofs.Keyring.Derivation
import WalletRelay.Proofs.Keyring.Root
import WalletRelay.Proofs.Relay.Call

/-!
# Indices in words

A state has its page and its unlock index in words of 64 bits, and a state may be handed over from outside
with any words in it. `Call.indices?` says what a call reckons with these words before it asks the device:
the indices of the accounts that it wants, or that they are out of range. A result that is not a word is a
failure of its own; only sums that are checked and results that are cut off at the last word are excepted.

Such a failure never comes about (`range?_eq`, `pageIndices?_eq`), and what is reckoned in words is what the
exact numbers give. A call does what was reckoned. If the indices are out of range it is rejected at once
(`invoke_of_outOfRange`); otherwise it asks the device for one index after another, until all accounts are
there or the device refuses one (`invoke_asks`).
-/

namespace WalletRelay

variable {σ : Type} {d : Device σ}

/-! ### Words -/

namespace Word

open Keyring (maxIndex indexLimit pageSize checkRange checkRange_eq_ok_iff)

def sum? (a b : UInt64) : Option UInt64 :=
  if a.toNat + b.toNat < UInt64.size then some (a + b) else none

def difference? (a b : UInt64) : Option UInt64 :=
  if b ≤ a then some (a - b) else none

def nearest (n : Int) : UInt64 :=
  .ofNat (min n.toNat maxIndex)

/-- The words through which a loop counts. The last step of the loop leads to the word after them. -/
def counted? (start : UInt64) : (count : Nat) → Option (List UInt64)
  | 0 => some []
  | count + 1 => do
    let next ← sum? start 1
    let others ← counted? next count
    return start :: others

/-- The indices of `count` accounts from one on. The sum is looked at, so it may be no word. -/
def range? (start count : UInt64) : Option (Except KeyringError (List UInt64)) :=
  match sum? start count with
  | none => some (.error (.indexOutOfRange (max start.toNat indexLimit)))
  | some stop =>
    if stop.toNat ≤ indexLimit then (counted? start (stop.toNat - start.toNat)).map .ok
    else some (.error (.indexOutOfRange (max start.toNat indexLimit)))

/-- The page that is so many steps from another one, cut off at both ends, but at least the first one. -/
def pageAfter (page : UInt64) (steps : Int) : UInt64 :=
  max (nearest (page.toNat + steps)) 1

/-- The indices on a page. The product is cut off at the last word. -/
def pageIndices? (page : UInt64) : Option (Except KeyringError (List UInt64)) := do
  let before ← difference? page 1
  range? (nearest (before.toNat * pageSize)) (.ofNat pageSize)

variable {start : UInt64} {count : Nat}

/-- A sum that is small enough is a word. -/
theorem sum?_of_lt {a b : UInt64} (h : a.toNat + b.toNat < UInt64.size) :
    ∃ c, sum? a b = some c ∧ c.toNat = a.toNat + b.toNat := by
  refine ⟨a + b, if_pos h, ?_⟩
  rw [UInt64.toNat_add]
  exact Nat.mod_eq_of_lt h

/-- The nearest word is the number, cut off at the last word. -/
theorem toNat_nearest (n : Int) : (nearest n).toNat = min n.toNat maxIndex := by
  apply UInt64.toNat_ofNat_of_lt'
  exact Nat.lt_of_le_of_lt (Nat.min_le_right _ _) (by decide)

/-- Below the limit there is always a next word. -/
theorem counted?_eq (inRange : start.toNat + count ≤ indexLimit) :
    counted? start count = some ((List.range' start.toNat count).map .ofNat) := by
  induction count generalizing start with
  | zero => rfl
  | succ count ih =>
    -- The last index is below the limit, and the word after it still is one.
    have fits : start.toNat + 1 ≤ indexLimit := by omega
    obtain ⟨next, sum, same⟩ : ∃ next, sum? start 1 = some next ∧ next.toNat = start.toNat + 1 :=
      sum?_of_lt (Nat.lt_of_le_of_lt fits (by decide))
    have others : counted? next count = some ((List.range' (start.toNat + 1) count).map .ofNat) := by
      rw [← same]
      apply ih
      rw [same]
      omega
    rw [counted?, sum]
    simp only [Option.bind_eq_bind, Option.bind_some, others]
    rw [List.range'_succ, List.map_cons, UInt64.ofNat_toNat]
    rfl

/-- In words, a range of indices is found to be what it is in exact numbers. -/
theorem range?_eq (start count : UInt64) :
    range? start count = some ((checkRange start.toNat count.toNat).map fun _ =>
      (List.range' start.toNat count.toNat).map .ofNat) := by
  by_cases fits : start.toNat + count.toNat < UInt64.size
  · obtain ⟨stop, sum, same⟩ := sum?_of_lt fits
    by_cases inRange : start.toNat + count.toNat ≤ indexLimit
    · have indices := counted?_eq inRange
      simp only [range?, sum, same, if_pos inRange, Nat.add_sub_cancel_left, indices,
        checkRange_eq_ok_iff.2 inRange]
      rfl
    · simp only [range?, sum, same, if_neg inRange, checkRange]
      rfl
  · -- A sum that is not a word is far out of range.
    have beyond : ¬ start.toNat + count.toNat ≤ indexLimit :=
      fun inRange => fits (Nat.lt_of_le_of_lt inRange (by decide))
    simp only [range?, sum?, if_neg fits, checkRange, if_neg beyond]
    rfl

/-- Below the limit an index is the same in words. -/
theorem map_ofNat_range' {α : Type} (f : Nat → α) {start count : Nat}
    (inRange : start + count ≤ indexLimit) :
    ((List.range' start count).map UInt64.ofNat).map (fun i => f i.toNat) =
      (List.range' start count).map f := by
  rw [List.map_map]
  apply List.map_congr_left
  intro i mem
  have below : i < indexLimit := Nat.lt_of_lt_of_le (List.mem_range'_1.1 mem).2 inRange
  rw [Function.comp_apply, Keyring.toNat_ofNat_of_le_indexLimit (Nat.le_of_lt below)]

/-- The page in words is the page in numbers. -/
theorem toNat_pageAfter (page : UInt64) (steps : Int) :
    (pageAfter page steps).toNat = max (min (page.toNat + steps).toNat maxIndex) 1 := by
  rw [pageAfter, UInt64.toNat_max, toNat_nearest]
  rfl

theorem pageAfter_pos (page : UInt64) (steps : Int) : 0 < (pageAfter page steps).toNat := by
  rw [toNat_pageAfter]
  exact Nat.lt_of_lt_of_le Nat.one_pos (Nat.le_max_right _ _)

/-- There is a page before every page but the first one. -/
theorem pageIndices?_eq {page : UInt64} (pos : 0 < page.toNat) :
    pageIndices? page = some
      ((checkRange (min ((page.toNat - 1) * pageSize) maxIndex) pageSize).map fun _ =>
        (List.range' (min ((page.toNat - 1) * pageSize) maxIndex) pageSize).map .ofNat) := by
  have least : (1 : UInt64) ≤ page := UInt64.le_iff_toNat_le.2 pos
  have before : (page - 1).toNat = page.toNat - 1 := UInt64.toNat_sub_of_le _ _ least
  have size : (UInt64.ofNat pageSize).toNat = pageSize := rfl
  rw [pageIndices?, difference?, if_pos least, Option.bind_eq_bind, Option.bind_some, range?_eq,
    toNat_nearest, before, size, ← Int.natCast_mul, Int.toNat_natCast]

end Word

/-! ### Calls -/

namespace Call

/-- What a call reckons before it asks the device: the indices of the accounts that it wants, or an error. -/
def indices? (s : KeyringState) : Call → Option (Except KeyringError (List UInt64))
  | .unlock _ => some (.ok [0])
  | .addAccounts count => Word.range? s.unlockedAccount (.ofNat count)
  | .getFirstPage => Word.pageIndices? (Word.pageAfter 0 1)
  | .getNextPage => Word.pageIndices? (Word.pageAfter s.page 1)
  | .getPreviousPage => Word.pageIndices? (Word.pageAfter s.page (-1))
  | _ => some (.ok [])

/-- The first index that a call wants, and how many. -/
def wanted (s : KeyringState) : Call → Nat × Nat
  | .unlock _ => (0, 1)
  | .addAccounts count => (s.unlockedAccount.toNat, count)
  | .getFirstPage => (0, Keyring.pageSize)
  | .getNextPage =>
    (min ((min (s.page.toNat + 1) Keyring.maxIndex - 1) * Keyring.pageSize) Keyring.maxIndex,
      Keyring.pageSize)
  | .getPreviousPage =>
    (min ((max (s.page.toNat - 1) 1 - 1) * Keyring.pageSize) Keyring.maxIndex, Keyring.pageSize)
  | _ => (0, 0)

/-- The calls that do not ask for more accounts than one call may add. -/
def IsModest : Call → Prop
  | .addAccounts count => count ≤ maxAddedAccounts
  | _ => True

/-- The arguments of a call are only accepted if it is modest. -/
theorem isModest_of_parse {method : Method} {args : List Json} {call : Call}
    (parsed : parse method args = .ok call) : call.IsModest := by
  cases call with
  | addAccounts count =>
    obtain rfl := method_of_parse parsed
    obtain ⟨n, read, same⟩ := Except.map_eq_ok_iff.1 (Except.mapError_eq_ok_iff.1 parsed)
    cases same
    -- One account unless a number is given, and a number that is too large is refused.
    unfold accountCount at read
    split at read
    · cases read
    · cases read
      show 1 ≤ maxAddedAccounts
      decide
    · split at read
      · cases read
      · next enough =>
        cases read
        exact Nat.le_of_not_lt enough
  | _ => trivial

/-- No call wants more accounts than one call may add. -/
theorem wanted_snd_le {s : KeyringState} {call : Call} (modest : call.IsModest) :
    (call.wanted s).2 ≤ maxAddedAccounts := by
  cases call with
  | addAccounts count => exact modest
  | unlock hdPath =>
    show 1 ≤ maxAddedAccounts
    decide
  | getFirstPage | getNextPage | getPreviousPage =>
    show Keyring.pageSize ≤ maxAddedAccounts
    decide
  | _ => exact Nat.zero_le _

/-- No operation on words fails, and the indices are the exact ones. -/
theorem indices?_eq {s : KeyringState} {call : Call} (modest : call.IsModest) :
    call.indices? s =
      some ((Keyring.checkRange (call.wanted s).1 (call.wanted s).2).map fun _ =>
        (List.range' (call.wanted s).1 (call.wanted s).2).map .ofNat) := by
  cases call with
  | addAccounts count =>
    have fits : (UInt64.ofNat count).toNat = count :=
      UInt64.toNat_ofNat_of_lt' (Nat.lt_of_le_of_lt modest (by decide))
    rw [indices?, Word.range?_eq, fits]
    rfl
  | getNextPage =>
    have page : (Word.pageAfter s.page 1).toNat = min (s.page.toNat + 1) Keyring.maxIndex := by
      rw [Word.toNat_pageAfter]
      simp only [Keyring.maxIndex, UInt64.size]
      omega
    rw [indices?, Word.pageIndices?_eq (Word.pageAfter_pos _ _), page]
    rfl
  -- Below the first page there is none, so going back is cut off there.
  | getPreviousPage =>
    have page : (Word.pageAfter s.page (-1)).toNat = max (s.page.toNat - 1) 1 := by
      have small : s.page.toNat < UInt64.size := s.page.toNat_lt
      rw [Word.toNat_pageAfter]
      simp only [Keyring.maxIndex, UInt64.size] at *
      omega
    rw [indices?, Word.pageIndices?_eq (Word.pageAfter_pos _ _), page]
    rfl
  | _ => rfl

/-- Before the last page that a state can hold there is none in range, either. -/
example : getPreviousPage.indices? { KeyringState.new "m" with page := .ofNat Keyring.maxIndex } =
    some (.error (.indexOutOfRange 0xffffffffffffffff)) := rfl

end Call

/-! ### What a device is asked -/

namespace Device

def Request.path? : Request → Option String
  | .address path => some path
  | _ => none

/-- The paths whose addresses a device was asked for, in the order in which it was. -/
def pathsAsked (notes : List Request) : List String :=
  (notes.filterMap Request.path?).reverse

theorem pathsAsked_address (path : String) (notes : List Request) :
    pathsAsked (.address path :: notes) = pathsAsked notes ++ [path] := by
  simp [pathsAsked, Request.path?]

/-- A request for an address is noted behind the others. -/
theorem pathsAsked_of_address {path : String} {u w : σ × List Request}
    {answer : Except DeviceError Address} (asked : d.recording.address path u = (answer, w)) :
    pathsAsked w.2 = pathsAsked u.2 ++ [path] := by
  cases asked
  exact pathsAsked_address path u.2

/-- While addresses are found one after another, their paths are noted in this order. -/
theorem Derives.pathsAsked {root : String} {index : Nat} {u w : σ × List Request} {as : List Address}
    (derived : d.recording.Derives root index u as w) :
    pathsAsked w.2 = pathsAsked u.2 ++ (List.range' index as.length).map (accountPath root) := by
  induction derived with
  | nil => simp
  | cons asked _ ih =>
    rw [ih, pathsAsked_of_address asked, List.length_cons, List.range'_succ, List.map_cons,
      List.append_assoc, List.singleton_append]

end Device

namespace Keyring

variable {α β : Type}

/-- An operation has asked its device for the addresses at these paths, one after another. If it did not ask
for all of them, the device has refused the last one that it was asked for. -/
structure AsksInTurn (paths : List String) (before : List Device.Request)
    (r : Result (σ × List Device.Request) α) : Prop where
  asked : ∃ asked, asked <+: paths ∧
    Device.pathsAsked r.2.device.2 = Device.pathsAsked before ++ asked ∧
    (asked = paths ∨ ∃ e, r.1 = .error (.device e))
  inRange : ∀ index, r.1 ≠ .error (.indexOutOfRange index)

variable {k : Keyring (σ × List Device.Request)} {paths : List String} {before : List Device.Request}

/-- The answer itself does not matter, only the errors. -/
theorem AsksInTurn.congr {r : Result (σ × List Device.Request) α} {r' : Result (σ × List Device.Request) β}
    (h : AsksInTurn paths before r) (device : r'.2.device = r.2.device)
    (errors : ∀ e, r'.1 = .error e ↔ r.1 = .error e) : AsksInTurn paths before r' where
  asked := by
    obtain ⟨asked, first, notes, rest⟩ := h.asked
    refine ⟨asked, first, by rw [device, notes], ?_⟩
    simpa only [errors] using rest
  inRange index := by
    rw [ne_eq, errors]
    exact h.inRange index

theorem AsksInTurn.respond {r : Result (σ × List Device.Request) α} (toJson : α → Json)
    (h : AsksInTurn paths before r) : AsksInTurn paths before (Call.respond toJson r) :=
  h.congr rfl fun _ => Except.map_eq_error_iff

/-- What the two loops have in common. -/
theorem asksInTurn_of_derives {index count : Nat} {r : Result (σ × List Device.Request) α}
    (given : ∀ {as w}, d.recording.Derives k.state.hdPath index k.device as w → as.length = count →
      r.2.device = w ∧ ∃ a, r.1 = .ok a)
    (refused : ∀ {as v w e}, d.recording.Derives k.state.hdPath index k.device as v →
      as.length < count →
      d.recording.address (accountPath k.state.hdPath (index + as.length)) v = (.error e, w) →
      r.2.device = w ∧ r.1 = .error (.device e)) :
    AsksInTurn ((List.range' index count).map (accountPath k.state.hdPath)) k.device.2 r := by
  obtain ⟨as, v, derived, total | ⟨fewer, e, w, asked⟩⟩ :=
    d.recording.exists_derives k.state.hdPath index count k.device
  · obtain ⟨device, a, answer⟩ := given derived total
    subst total
    constructor
    · refine ⟨_, List.prefix_refl _, ?_, .inl rfl⟩
      rw [device, derived.pathsAsked]
    · rw [answer]
      exact nofun
  · obtain ⟨device, answer⟩ := refused derived fewer asked
    constructor
    -- The last path that was asked for is the refused one.
    · have first : List.range' index (as.length + 1) <+: List.range' index count := by
        obtain ⟨others, rfl⟩ := Nat.exists_eq_add_of_le (Nat.succ_le_of_lt fewer)
        exact ⟨_, List.range'_append_1⟩
      refine ⟨_, first.map (accountPath k.state.hdPath), ?_, .inr ⟨e, answer⟩⟩
      rw [device, Device.pathsAsked_of_address asked, derived.pathsAsked, List.append_assoc,
        List.range'_1_concat, List.map_append, List.map_singleton]
    · rw [answer]
      exact nofun

/-- The loop that adds accounts asks for their paths in turn. -/
theorem trackFrom_asks (d : Device σ) (index count : Nat) :
    AsksInTurn ((List.range' index count).map (accountPath k.state.hdPath)) k.device.2
      (trackFrom d.recording index count k) := by
  apply asksInTurn_of_derives (d := d)
  · rintro as w derived rfl
    rw [trackFrom_of_derives derived]
    exact ⟨rfl, (), rfl⟩
  · intro as v w e derived fewer refused
    rw [trackFrom_of_refusal derived fewer refused]
    exact ⟨rfl, rfl⟩

/-- The loop that shows accounts asks for their paths in turn. -/
theorem entriesFrom_asks (d : Device σ) (index count : Nat) :
    AsksInTurn ((List.range' index count).map (accountPath k.state.hdPath)) k.device.2
      (entriesFrom d.recording index count k) := by
  apply asksInTurn_of_derives (d := d)
  · rintro as w derived rfl
    rw [entriesFrom_of_derives derived]
    exact ⟨rfl, _, rfl⟩
  · intro as v w e derived fewer refused
    rw [entriesFrom_of_refusal derived fewer refused]
    exact ⟨rfl, rfl⟩

theorem asksInTurn_nil {r : Result (σ × List Device.Request) α}
    (notes : Device.pathsAsked r.2.device.2 = Device.pathsAsked before)
    (inRange : ∀ index, r.1 ≠ .error (.indexOutOfRange index)) : AsksInTurn [] before r where
  asked := ⟨[], List.prefix_refl [], by rw [notes, List.append_nil], .inl rfl⟩
  inRange := inRange

/-- Requests for other things than addresses do not count. -/
theorem signWith_asks {ask : String → σ × List Device.Request →
      Except DeviceError Signature × (σ × List Device.Request)}
    (other : ∀ path u, Device.pathsAsked (ask path u).2.2 = Device.pathsAsked u.2) (hash : Hash32)
    (a : Address) : AsksInTurn [] k.device.2 (k.signWith ask hash a) := by
  unfold signWith
  split
  · exact asksInTurn_nil rfl nofun
  · next path _ =>
    -- A request for a signature is noted too, but it asks for no address.
    have notes := other path k.device
    split
    · next asked =>
      rw [asked] at notes
      exact asksInTurn_nil notes nofun
    · next asked =>
      rw [asked] at notes
      refine asksInTurn_nil notes ?_
      unfold checkSigner
      split <;> exact nofun

/-- One address is asked for by its path. -/
theorem addressAt_asks (d : Device σ) (index : Nat) :
    AsksInTurn [accountPath k.state.hdPath index] k.device.2 (k.addressAt d.recording index) := by
  constructor
  · refine ⟨_, List.prefix_refl _, ?_, .inl rfl⟩
    rw [addressAt_eq]
    exact Device.pathsAsked_address _ _
  · intro i stopped
    rw [addressAt_eq] at stopped
    obtain ⟨e, -, same⟩ := Except.mapError_eq_error_iff.1 stopped
    cases same

/-- Adding accounts asks for the paths from the unlock index on. -/
theorem addAccounts_asks (d : Device σ) {count : Nat}
    (inRange : k.state.unlockedAccount.toNat + count ≤ indexLimit) :
    AsksInTurn ((List.range' k.state.unlockedAccount.toNat count).map (accountPath k.state.hdPath)) k.device.2
      (k.addAccounts d.recording count) := by
  have loop := trackFrom_asks (k := k) d k.state.unlockedAccount.toNat count
  simp only [addAccounts, checkRange_eq_ok_iff.2 inRange]
  -- The call ends as the loop does.
  split
  · next stopped =>
    rw [stopped] at loop
    exact loop.congr rfl fun e => by simp
  · next added =>
    rw [added] at loop
    exact loop.congr rfl fun e => by simp

/-- Showing a page asks for the paths of its five accounts. -/
theorem showPage_asks (d : Device σ) {page : Nat}
    (inRange : min ((page - 1) * pageSize) maxIndex + pageSize ≤ indexLimit) :
    AsksInTurn ((List.range' (min ((page - 1) * pageSize) maxIndex) pageSize).map
      (accountPath k.state.hdPath)) k.device.2 (k.showPage d.recording page) := by
  have loop := entriesFrom_asks (k := k) d (min ((page - 1) * pageSize) maxIndex) pageSize
  simp only [showPage, checkRange_eq_ok_iff.2 inRange]
  split
  · next stopped =>
    rw [stopped] at loop
    exact loop.congr rfl fun e => by simp
  · next shown =>
    rw [shown] at loop
    exact loop.congr rfl fun e => by simp

/-- A call whose indices are within range asks for them in order, and for no other addresses. -/
theorem invoke_asks (d : Device σ) {call : Call}
    (inRange : (call.wanted k.state).1 + (call.wanted k.state).2 ≤ indexLimit) :
    AsksInTurn ((List.range' (call.wanted k.state).1 (call.wanted k.state).2).map
      (accountPath (call.rootAfter k.kind k.state.hdPath))) k.device.2 (call.invoke d.recording k) := by
  cases call with
  | serialize | isUnlocked | setAccountToUnlock | getAccounts | setHdPath | forgetDevice =>
    exact asksInTurn_nil rfl nofun
  | deserialize serialized =>
    refine AsksInTurn.respond _ ?_
    unfold restore
    split <;> exact asksInTurn_nil rfl nofun
  | removeAccount a =>
    refine AsksInTurn.respond _ ?_
    unfold removeAccount
    split <;> exact asksInTurn_nil rfl nofun
  | unlock hdPath =>
    refine AsksInTurn.respond _ ?_
    cases hdPath with
    | none => exact addressAt_asks d 0
    | some path =>
      have asks := addressAt_asks (k := k.setHdPath path) d 0
      -- The root is changed first, and the account is looked for under the new one.
      have root : (k.setHdPath path).state.hdPath = path := k.state.hdPath_setRoot path
      rw [root] at asks
      exact asks
  | addAccounts count => exact (addAccounts_asks d inRange).respond _
  | getFirstPage =>
    let start : Keyring (σ × List Device.Request) := { k with state := { k.state with page := 0 } }
    have first : min ((1 - 1) * pageSize) maxIndex = 0 := rfl
    have asks := showPage_asks (k := start) d (by rw [first]; exact inRange)
    rw [first] at asks
    exact asks.respond _
  | getNextPage => exact (showPage_asks d inRange).respond _
  | getPreviousPage => exact (showPage_asks d inRange).respond _
  | signTransaction a tx =>
    refine AsksInTurn.respond _ ?_
    have asks : AsksInTurn [] k.device.2
        (k.signWith (d.recording.signTransaction · tx) tx.signatureHash a) :=
      signWith_asks (fun _ _ => rfl) tx.signatureHash a
    exact asks.congr rfl fun _ => Except.map_eq_error_iff
  | signPersonalMessage a message =>
    exact (signWith_asks (fun _ _ => rfl) (messageHash message) a).respond _

/-- A page that is out of range is refused before the device is asked. -/
theorem showPage_of_outOfRange (d : Device σ) {k : Keyring σ} {page : Nat} {e : KeyringError}
    (refused : checkRange (min ((page - 1) * pageSize) maxIndex) pageSize = .error e) :
    k.showPage d page = (.error e, k) := by
  simp only [showPage, refused]

/-- A call whose indices are out of range is rejected at once. -/
theorem invoke_of_outOfRange (d : Device σ) {k : Keyring σ} {call : Call} {e : KeyringError}
    (refused : checkRange (call.wanted k.state).1 (call.wanted k.state).2 = .error e) :
    call.invoke d k = (.error e, k) := by
  cases call with
  | addAccounts count =>
    have stopped : k.addAccounts d count = (.error e, k) := by
      rw [Call.wanted] at refused
      simp only [addAccounts, refused]
    rw [Call.invoke, stopped]
    rfl
  | getNextPage =>
    have stopped : k.nextPage d = (.error e, k) := showPage_of_outOfRange d refused
    rw [Call.invoke, stopped]
    rfl
  | getPreviousPage =>
    have stopped : k.previousPage d = (.error e, k) := showPage_of_outOfRange d refused
    rw [Call.invoke, stopped]
    rfl
  -- All other calls want no accounts, or the first ones only.
  | _ => cases refused

end Keyring
end WalletRelay
