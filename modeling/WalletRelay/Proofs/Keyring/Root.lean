import WalletRelay.Proofs.Keyring.Changes

/-!
# The root path of a keyring

Accounts are looked for under the root path. Four calls have a path to put in its place: a serialized
state brings one along, unlocking and setting the path are given one, and forgetting the device goes back
to the one of the kind. `Call.rootAfter` says what root path a call leaves. It leaves it even if the device
then refuses what it is asked (`hdPath_invoke`).

All other calls keep the root path (`hdPath_after`), so what was found under it is found there again.
-/

namespace WalletRelay

variable {σ : Type} {d : Device σ} {kind : KeyringKind}

namespace Call

/-- The root path that a call leaves at a keyring whose root path was `root`. -/
def rootAfter (kind : KeyringKind) (root : String) : Call → String
  | .deserialize serialized =>
    match KeyringState.ofJson kind.defaultPath serialized with
    | .ok s => s.hdPath
    | .error _ => root
  | .unlock (some path) => path
  | .setHdPath path => path
  | .forgetDevice => kind.defaultPath
  | _ => root

/-- The calls that have no path to put in place of the root path. -/
def KeepsRoot : Call → Prop
  | .deserialize _ | .unlock (some _) | .setHdPath _ | .forgetDevice => False
  | _ => True

end Call

theorem KeyringState.hdPath_setRoot (s : KeyringState) (root : String) :
    (s.setRoot root).hdPath = root := by
  unfold KeyringState.setRoot
  split
  · assumption
  · rfl

/-- A step of a call that has no path to put in place of the root leaves the root. -/
theorem Call.Change.hdPath_eq {call : Call} {s s' : KeyringState} (keeps : call.KeepsRoot)
    (step : call.Change d kind s s') : s'.hdPath = s.hdPath := by
  cases step with
  | restored | unlocked | rooted | forgotten => cases keeps
  | tracked => exact s.hdPath_track _ _
  | started | paged | removed => rfl

namespace Keyring

/-- A call that has no path to put in place of the root leaves the root. -/
theorem hdPath_of_keepsRoot (d : Device σ) (k : Keyring σ) {call : Call} (keeps : call.KeepsRoot) :
    (call.invoke d k).2.state.hdPath = k.state.hdPath := by
  have changed := invoke_changes d k call
  refine changed.keeps (P := fun s => s.hdPath = k.state.hdPath) ?_ rfl
  intro s s' step same
  exact (step.hdPath_eq keeps).trans same

/-- A call leaves its root path, whatever the device answers. -/
theorem hdPath_invoke (d : Device σ) (k : Keyring σ) (call : Call) :
    (call.invoke d k).2.state.hdPath = call.rootAfter k.kind k.state.hdPath := by
  cases call with
  | deserialize serialized =>
    simp only [Call.invoke, Call.respond, restore, Call.rootAfter]
    cases KeyringState.ofJson k.kind.defaultPath serialized with
    | error e => rfl
    | ok s => rfl
  | unlock hdPath =>
    cases hdPath with
    | none => exact hdPath_of_keepsRoot d k trivial
    | some path =>
      -- The path is in its place before the device is asked.
      obtain ⟨u, frame⟩ := addressAt_frame d (k.setHdPath path) 0
      simp only [Call.invoke, Call.respond, unlock, frame]
      exact k.state.hdPath_setRoot path
  | setHdPath path => exact k.state.hdPath_setRoot path
  | forgetDevice => rfl
  | serialize | isUnlocked | setAccountToUnlock | addAccounts | getFirstPage | getNextPage
  | getPreviousPage | getAccounts | removeAccount | signTransaction | signPersonalMessage =>
    exact hdPath_of_keepsRoot d k trivial

/-- Calls that have no path to put in place of the root leave the root. -/
theorem hdPath_after {calls : List Call} {k : Keyring σ} (keeps : ∀ call ∈ calls, call.KeepsRoot) :
    (k.after d calls).state.hdPath = k.state.hdPath := by
  refine after_keeps (P := fun s => s.hdPath = k.state.hdPath) ?_ rfl
  intro call mem s s' step same
  exact (step.hdPath_eq (keeps call mem)).trans same

end Keyring
end WalletRelay
