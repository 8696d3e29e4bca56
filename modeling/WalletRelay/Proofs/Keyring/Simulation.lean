import WalletRelay.Proofs.Keyring.Root
import WalletRelay.Relay.Basic

/-!
# Devices that answer alike

A keyring learns of its device by the answers alone. So two devices that give the same answers, from
states that need not be of one type, cannot be told apart by any call: `Device.Simulates` relates the
devices, `Keyring.Corresponds` the keyrings at them, and `invoke_alike` and `perform_alike` say that
corresponding keyrings give the same answers and still correspond afterwards.

Two instances are of use. A device that notes what it is asked answers as the device itself does
(`recording_simulates`), and a device without a history answers the same from all of its states
(`HistoryFree.simulates`).

The operations are compared under less than that. A keyring uses its root path to make the paths of
accounts, so two root paths that give them all the same paths are spellings of one, and keyrings that
differ in the spelling only (`Keyring.SpelledAlike`) answer alike too (`SpelledAlike.invoke`). The calls
that show the root path, or compare another one with it, are the exception (`Call.LeavesRootAside`): it is
shown and compared as text.
-/

namespace WalletRelay

variable {σ τ α β : Type} {R : σ → τ → Prop}

/-- Two answers are the same and leave related states. -/
def AnswersAlike (R : σ → τ → Prop) (x : α × σ) (y : α × τ) : Prop :=
  x.1 = y.1 ∧ R x.2 y.2

/-- Operations that end alike have both failed, for the same reason, or have both succeeded. -/
theorem AnswersAlike.cases {ε : Type} {x : Except ε α × σ} {y : Except ε α × τ}
    (h : AnswersAlike R x y) :
    (∃ e u v, x = (.error e, u) ∧ y = (.error e, v) ∧ R u v) ∨
      (∃ a u v, x = (.ok a, u) ∧ y = (.ok a, v) ∧ R u v) := by
  obtain ⟨answer, u⟩ := x
  obtain ⟨answer', v⟩ := y
  obtain ⟨same, related⟩ := h
  cases same
  cases answer with
  | error e => exact .inl ⟨e, u, v, rfl, rfl, related⟩
  | ok a => exact .inr ⟨a, u, v, rfl, rfl, related⟩

namespace Device

/-- From related states, one device answers as the other does, and the states stay related. -/
structure Simulates (R : σ → τ → Prop) (d : Device σ) (e : Device τ) : Prop where
  isConnected : ∀ {u v}, R u v → AnswersAlike R (d.isConnected u) (e.isConnected v)
  address : ∀ {u v}, R u v → ∀ path, AnswersAlike R (d.address path u) (e.address path v)
  signTransaction : ∀ {u v}, R u v → ∀ path tx,
    AnswersAlike R (d.signTransaction path tx u) (e.signTransaction path tx v)
  signMessage : ∀ {u v}, R u v → ∀ path message,
    AnswersAlike R (d.signMessage path message u) (e.signMessage path message v)
  forget : ∀ {u v}, R u v → R (d.forget u) (e.forget v)

/-- What a device answers depends on the request alone, not on what it was asked before. -/
structure HistoryFree (d : Device σ) : Prop where
  isConnected : ∀ u v, (d.isConnected u).1 = (d.isConnected v).1
  address : ∀ path u v, (d.address path u).1 = (d.address path v).1
  signTransaction : ∀ path tx u v, (d.signTransaction path tx u).1 = (d.signTransaction path tx v).1
  signMessage : ∀ path message u v,
    (d.signMessage path message u).1 = (d.signMessage path message v).1

/-- A device without a history answers alike in any two states. -/
theorem HistoryFree.simulates {d : Device σ} (free : d.HistoryFree) :
    d.Simulates (fun _ _ => True) d where
  isConnected _ := ⟨free.isConnected _ _, trivial⟩
  address _ path := ⟨free.address path _ _, trivial⟩
  signTransaction _ path tx := ⟨free.signTransaction path tx _ _, trivial⟩
  signMessage _ path message := ⟨free.signMessage path message _ _, trivial⟩
  forget _ := trivial

/-- Noting the requests does not change the answers. -/
theorem recording_simulates (d : Device σ) :
    d.recording.Simulates (fun noted u => noted.1 = u) d where
  isConnected := by rintro _ _ rfl; exact ⟨rfl, rfl⟩
  address := by rintro _ _ rfl path; exact ⟨rfl, rfl⟩
  signTransaction := by rintro _ _ rfl path tx; exact ⟨rfl, rfl⟩
  signMessage := by rintro _ _ rfl path message; exact ⟨rfl, rfl⟩
  forget := by rintro _ _ rfl; rfl

/-- A device answers as it does itself. -/
theorem simulates_self (d : Device σ) : d.Simulates Eq d where
  isConnected := by rintro _ _ rfl; exact ⟨rfl, rfl⟩
  address := by rintro _ _ rfl path; exact ⟨rfl, rfl⟩
  signTransaction := by rintro _ _ rfl path tx; exact ⟨rfl, rfl⟩
  signMessage := by rintro _ _ rfl path message; exact ⟨rfl, rfl⟩
  forget := by rintro _ _ rfl; rfl

end Device

/-! ### Spellings of a root path -/

namespace KeyringState

/-- The state with another root path and otherwise unchanged, the page too. -/
def atRoot (s : KeyringState) (root : String) : KeyringState :=
  { s with hdPath := root }

@[simp] theorem atRoot_hdPath (s : KeyringState) : s.atRoot s.hdPath = s := rfl

/-- An account is taken into use in the same way under every root. -/
theorem track_atRoot (s : KeyringState) (root : String) (a : Address) (details : AccountDetails) :
    (s.atRoot root).track a details = (s.track a details).atRoot root := by
  unfold track
  show (if s.contains a then _ else _) = _
  split <;> rfl

end KeyringState

/-- The calls that are not given a root path and do not show the one of the keyring. -/
def Call.LeavesRootAside : Call → Prop
  | .serialize | .unlock (some _) | .setHdPath _ => False
  | _ => True

namespace Keyring

/-- Two keyrings of one kind have the same state but for the root path, under which all accounts have the
same paths, and their devices are in related states. -/
structure SpelledAlike (R : σ → τ → Prop) (k : Keyring σ) (l : Keyring τ) : Prop where
  kind : k.kind = l.kind
  state : k.state = l.state.atRoot k.state.hdPath
  path : ∀ index, accountPath k.state.hdPath index = accountPath l.state.hdPath index
  device : R k.device l.device

variable {d : Device σ} {e : Device τ} {k : Keyring σ} {l : Keyring τ}

/-- A serialized state brings its own root path. -/
theorem restore_alike {Q : Keyring σ → Keyring τ → Prop} (kind : k.kind = l.kind) (before : Q k l)
    (after : ∀ s, Q { k with state := s } { l with state := s }) (serialized : Json) :
    AnswersAlike Q (k.restore serialized) (l.restore serialized) := by
  have read : KeyringState.ofJson k.kind.defaultPath serialized =
      KeyringState.ofJson l.kind.defaultPath serialized := by
    rw [kind]
  rw [restore, restore, read]
  cases KeyringState.ofJson l.kind.defaultPath serialized with
  | error e => exact ⟨rfl, before⟩
  | ok s => exact ⟨rfl, after s⟩

/-- Operations that answer alike respond alike. -/
theorem respond_alike {Q : Keyring σ → Keyring τ → Prop} {toJson : α → Json} {x : Result σ α}
    {y : Result τ α} (h : AnswersAlike Q x y) :
    AnswersAlike Q (Call.respond toJson x) (Call.respond toJson y) :=
  ⟨congrArg (·.map toJson) h.1, h.2⟩

namespace SpelledAlike

theorem withDevice (h : k.SpelledAlike R l) {u : σ} {v : τ} (related : R u v) :
    ({ k with device := u } : Keyring σ).SpelledAlike R { l with device := v } :=
  ⟨h.kind, h.state, h.path, related⟩

theorem withState (h : k.SpelledAlike R l) (s : KeyringState) :
    ({ k with state := s } : Keyring σ).SpelledAlike R { l with state := s } :=
  ⟨h.kind, rfl, fun _ => rfl, h.device⟩

/-- A change of the states that has nothing to do with the root path. -/
theorem change (h : k.SpelledAlike R l) (f : KeyringState → KeyringState)
    (commutes : ∀ s root, f (s.atRoot root) = (f s).atRoot root) :
    ({ k with state := f k.state } : Keyring σ).SpelledAlike R { l with state := f l.state } := by
  have keeps (s : KeyringState) : (f s).hdPath = s.hdPath := by
    have unchanged := congrArg KeyringState.hdPath (commutes s s.hdPath)
    rwa [KeyringState.atRoot_hdPath] at unchanged
  refine ⟨h.kind, ?_, ?_, h.device⟩
  · show f k.state = (f l.state).atRoot (f k.state).hdPath
    rw [keeps, ← commutes, ← h.state]
  · intro index
    show accountPath (f k.state).hdPath index = accountPath (f l.state).hdPath index
    rw [keeps, keeps]
    exact h.path index

theorem accounts_eq (h : k.SpelledAlike R l) : k.state.accounts = l.state.accounts := by
  rw [h.state]
  rfl

theorem page_eq (h : k.SpelledAlike R l) : k.state.page = l.state.page := by
  rw [h.state]
  rfl

theorem unlockedAccount_eq (h : k.SpelledAlike R l) :
    k.state.unlockedAccount = l.state.unlockedAccount := by
  rw [h.state]
  rfl

/-- Keyrings that are spelled alike have the same paths on record. -/
theorem pathOf?_eq (h : k.SpelledAlike R l) (a : Address) :
    k.state.pathOf? a = l.state.pathOf? a := by
  rw [h.state]
  rfl

/-! ### Operations -/

/-- Taking an account into use keeps keyrings spelled alike: its path is the same under both roots. -/
theorem track (h : k.SpelledAlike R l) (a : Address) (index : Nat) :
    ({ k with state := k.state.track a ⟨accountPath k.state.hdPath index, .ofNat index⟩ } :
      Keyring σ).SpelledAlike R
      { l with state := l.state.track a ⟨accountPath l.state.hdPath index, .ofNat index⟩ } := by
  rw [h.path index]
  exact h.change (fun s => s.track a ⟨accountPath l.state.hdPath index, .ofNat index⟩)
    fun s root => s.track_atRoot root a _

/-- Removing an account answers alike. -/
theorem removeAccount (h : k.SpelledAlike R l) (a : Address) :
    AnswersAlike (SpelledAlike R) (k.removeAccount a) (l.removeAccount a) := by
  have same : k.state.contains a = l.state.contains a := by
    rw [KeyringState.contains, h.accounts_eq, KeyringState.contains]
  simp only [Keyring.removeAccount, same]
  split
  · exact ⟨rfl, h.change (KeyringState.forget · a) fun _ _ => rfl⟩
  · exact ⟨rfl, h⟩

section Asking

variable (sim : d.Simulates R e) (h : k.SpelledAlike R l)

include sim h

/-- Asking for an account answers alike. -/
theorem addressAt (index : Nat) :
    AnswersAlike (SpelledAlike R) (k.addressAt d index) (l.addressAt e index) := by
  rw [addressAt_eq, addressAt_eq, h.path]
  obtain ⟨answer, device⟩ := sim.address h.device (accountPath l.state.hdPath index)
  exact ⟨congrArg (·.mapError KeyringError.device) answer, h.withDevice device⟩

/-- The loop that adds accounts answers alike. -/
theorem trackFrom (index count : Nat) :
    AnswersAlike (SpelledAlike R) (Keyring.trackFrom d index count k)
      (Keyring.trackFrom e index count l) := by
  induction count generalizing index k l with
  | zero => exact ⟨rfl, h⟩
  | succ count ih =>
    obtain ⟨err, k', l', asked, asked', h'⟩ | ⟨a, k', l', asked, asked', h'⟩ :=
      (addressAt sim h index).cases
    · simp only [Keyring.trackFrom, asked, asked']
      exact ⟨rfl, h'⟩
    · simp only [Keyring.trackFrom, asked, asked']
      exact ih (h'.track a index) (index + 1)

/-- Adding accounts answers alike. -/
theorem addAccounts (count : Nat) :
    AnswersAlike (SpelledAlike R) (k.addAccounts d count) (l.addAccounts e count) := by
  simp only [Keyring.addAccounts, h.unlockedAccount_eq]
  cases checkRange l.state.unlockedAccount.toNat count with
  | error err => exact ⟨rfl, h⟩
  | ok _ =>
    obtain ⟨err, k', l', done, done', h'⟩ | ⟨⟨⟩, k', l', done, done', h'⟩ :=
      (trackFrom sim h l.state.unlockedAccount.toNat count).cases
    · simp only [done, done']
      exact ⟨rfl, h'⟩
    · simp only [done, done', h'.accounts_eq]
      exact ⟨rfl, h'⟩

/-- The loop that shows accounts answers alike. -/
theorem entriesFrom (index count : Nat) :
    AnswersAlike (SpelledAlike R) (Keyring.entriesFrom d index count k)
      (Keyring.entriesFrom e index count l) := by
  induction count generalizing index k l with
  | zero => exact ⟨rfl, h⟩
  | succ count ih =>
    obtain ⟨err, k', l', asked, asked', h'⟩ | ⟨a, k', l', asked, asked', h'⟩ :=
      (addressAt sim h index).cases
    · simp only [Keyring.entriesFrom, asked, asked']
      exact ⟨rfl, h'⟩
    -- Both sides have asked for one account; the rest of the loop answers alike.
    · obtain ⟨err, k₂, l₂, rest, rest', h₂⟩ | ⟨entries, k₂, l₂, rest, rest', h₂⟩ :=
        (ih h' (index + 1)).cases
      · simp only [Keyring.entriesFrom, asked, asked', rest, rest']
        exact ⟨rfl, h₂⟩
      · simp only [Keyring.entriesFrom, asked, asked', rest, rest']
        exact ⟨rfl, h₂⟩

/-- Showing a page answers alike. -/
theorem showPage (page : Nat) :
    AnswersAlike (SpelledAlike R) (k.showPage d page) (l.showPage e page) := by
  simp only [Keyring.showPage]
  cases checkRange (min ((page - 1) * pageSize) maxIndex) pageSize with
  | error err => exact ⟨rfl, h⟩
  | ok _ =>
    obtain ⟨err, k', l', shown, shown', h'⟩ | ⟨entries, k', l', shown, shown', h'⟩ :=
      (entriesFrom sim h (min ((page - 1) * pageSize) maxIndex) pageSize).cases
    · simp only [shown, shown']
      exact ⟨rfl, h'⟩
    · simp only [shown, shown']
      exact ⟨rfl, h'.change (fun s => { s with page := .ofNat page }) fun _ _ => rfl⟩

theorem firstPage : AnswersAlike (SpelledAlike R) (k.firstPage d) (l.firstPage e) :=
  showPage sim (h.change (fun s => { s with page := 0 }) fun _ _ => rfl) 1

end Asking

/-- The path of a signature is the recorded one. -/
theorem signWith {ask : String → σ → Except DeviceError Signature × σ}
    {ask' : String → τ → Except DeviceError Signature × τ}
    (asks : ∀ {u v}, R u v → ∀ path, AnswersAlike R (ask path u) (ask' path v))
    (h : k.SpelledAlike R l) (hash : Hash32) (a : Address) :
    AnswersAlike (SpelledAlike R) (k.signWith ask hash a) (l.signWith ask' hash a) := by
  simp only [Keyring.signWith, h.pathOf?_eq]
  -- The path on record is the same text, so the devices are asked the same.
  cases l.state.pathOf? a with
  | none => exact ⟨rfl, h⟩
  | some path =>
    obtain ⟨err, u, v, asked, asked', related⟩ | ⟨g, u, v, asked, asked', related⟩ :=
      (asks h.device path).cases
    · simp only [asked, asked']
      exact ⟨rfl, h.withDevice related⟩
    · simp only [asked, asked']
      exact ⟨rfl, h.withDevice related⟩

/-! ### Calls -/

/-- No call tells devices apart that answer alike, and few calls tell spellings of a root path apart. -/
theorem invoke (sim : d.Simulates R e) (h : k.SpelledAlike R l) {call : Call}
    (aside : call.LeavesRootAside) :
    AnswersAlike (SpelledAlike R) (call.invoke d k) (call.invoke e l) := by
  cases call with
  -- These show or set the root path itself, so they are kept out.
  | serialize | setHdPath => cases aside
  | deserialize serialized => exact respond_alike (restore_alike h.kind h h.withState serialized)
  | isUnlocked =>
    obtain ⟨answer, device⟩ := sim.isConnected h.device
    exact ⟨congrArg (fun b => Except.ok (Json.bool b)) answer, h.withDevice device⟩
  | unlock hdPath =>
    cases hdPath with
    | none => exact respond_alike (addressAt sim h 0)
    | some path => cases aside
  | setAccountToUnlock index =>
    exact ⟨rfl, h.change (fun s => { s with unlockedAccount := index }) fun _ _ => rfl⟩
  | addAccounts count => exact respond_alike (addAccounts sim h count)
  | getFirstPage => exact respond_alike (firstPage sim h)
  | getNextPage =>
    rw [Call.invoke, Call.invoke, nextPage, nextPage, h.page_eq]
    exact respond_alike (showPage sim h _)
  | getPreviousPage =>
    rw [Call.invoke, Call.invoke, previousPage, previousPage, h.page_eq]
    exact respond_alike (showPage sim h _)
  | getAccounts =>
    rw [Call.invoke, Call.invoke, h.accounts_eq]
    exact ⟨rfl, h⟩
  | removeAccount a => exact respond_alike (h.removeAccount a)
  | forgetDevice =>
    rw [Call.invoke, Call.invoke, forgetDevice, forgetDevice, h.kind]
    exact ⟨rfl, rfl, rfl, fun _ => rfl, sim.forget h.device⟩
  | signTransaction a tx =>
    have signed := signWith (fun r path => sim.signTransaction r path tx) h tx.signatureHash a
    exact respond_alike ⟨congrArg (·.map tx.withSignature) signed.1, signed.2⟩
  | signPersonalMessage a message =>
    exact respond_alike
      (signWith (fun r path => sim.signMessage r path message) h (messageHash message) a)

end SpelledAlike

/-! ### The same state -/

/-- Two keyrings of one kind have the same state, and their devices are in related states. -/
structure Corresponds (R : σ → τ → Prop) (k : Keyring σ) (l : Keyring τ) : Prop where
  kind : k.kind = l.kind
  state : k.state = l.state
  device : R k.device l.device

theorem Corresponds.withState (h : k.Corresponds R l) (s : KeyringState) :
    ({ k with state := s } : Keyring σ).Corresponds R { l with state := s } :=
  ⟨h.kind, rfl, h.device⟩

/-- Keyrings that correspond are spelled alike. -/
theorem Corresponds.spelledAlike (h : k.Corresponds R l) : k.SpelledAlike R l := by
  refine ⟨h.kind, ?_, ?_, h.device⟩
  · rw [h.state, KeyringState.atRoot_hdPath]
  · intro index
    rw [h.state]

/-- Keyrings that are spelled alike correspond if their roots are the same. -/
theorem SpelledAlike.corresponds (h : k.SpelledAlike R l) (same : k.state.hdPath = l.state.hdPath) :
    k.Corresponds R l := by
  refine ⟨h.kind, ?_, h.device⟩
  rw [h.state, same, KeyringState.atRoot_hdPath]

theorem setHdPath_corresponds (h : k.Corresponds R l) (path : String) :
    (k.setHdPath path).Corresponds R (l.setHdPath path) := by
  rw [setHdPath, setHdPath, h.state]
  exact h.withState _

/-- What root path a call leaves does not depend on the device. -/
theorem hdPath_invoke_congr (d : Device σ) (e : Device τ) (h : k.Corresponds R l) (call : Call) :
    (call.invoke d k).2.state.hdPath = (call.invoke e l).2.state.hdPath := by
  rw [hdPath_invoke, hdPath_invoke, h.kind, h.state]

/-- No call tells devices apart that answer alike. -/
theorem invoke_alike (sim : d.Simulates R e) (h : k.Corresponds R l) (call : Call) :
    AnswersAlike (Corresponds R) (call.invoke d k) (call.invoke e l) := by
  have alike : AnswersAlike (SpelledAlike R) (call.invoke d k) (call.invoke e l) := by
    cases call with
    | serialize => exact ⟨by rw [Call.invoke, Call.invoke, h.state], h.spelledAlike⟩
    | setHdPath path => exact ⟨rfl, (setHdPath_corresponds h path).spelledAlike⟩
    | unlock hdPath =>
      cases hdPath with
      | none => exact h.spelledAlike.invoke sim trivial
      | some path =>
        exact respond_alike (SpelledAlike.addressAt sim (setHdPath_corresponds h path).spelledAlike 0)
    | deserialize | isUnlocked | setAccountToUnlock | addAccounts | getFirstPage | getNextPage
    | getPreviousPage | getAccounts | removeAccount | forgetDevice | signTransaction
    | signPersonalMessage => exact h.spelledAlike.invoke sim trivial
  -- The root paths were the same text, and every call leaves the same text in both.
  exact ⟨alike.1, alike.2.corresponds (hdPath_invoke_congr d e h call)⟩

/-! ### Requests -/

/-- Keyrings that correspond take over a state alike. -/
theorem adopt_alike (h : k.Corresponds R l) (prevState : Json) :
    AnswersAlike (Corresponds R) (k.adopt prevState) (l.adopt prevState) := by
  unfold adopt
  split
  · exact ⟨rfl, h⟩
  · exact restore_alike h.kind h h.withState prevState

/-- A call that begins in corresponding keyrings ends alike. -/
theorem perform_alike (sim : d.Simulates R e) (h : k.Corresponds R l) (method : Method)
    (args : List Json) (prevState : Json) :
    AnswersAlike (Corresponds R) (k.perform d method args prevState)
      (l.perform e method args prevState) := by
  obtain ⟨err, k', l', adopted, adopted', h'⟩ | ⟨⟨⟩, k', l', adopted, adopted', h'⟩ :=
    (adopt_alike h prevState).cases
  · simp only [perform, adopted, adopted']
    exact ⟨rfl, h'⟩
  · simp only [perform, adopted, adopted']
    -- Arguments are read without regard to the keyring.
    cases Call.parse method args with
    | error err => exact ⟨rfl, h'⟩
    | ok call =>
      obtain ⟨err, k₂, l₂, done, done', h₂⟩ | ⟨response, k₂, l₂, done, done', h₂⟩ :=
        (invoke_alike sim h' call).cases
      · simp only [done, done']
        exact ⟨rfl, h₂⟩
      · simp only [done, done', h₂.state]
        exact ⟨rfl, h₂⟩

end Keyring
end WalletRelay
