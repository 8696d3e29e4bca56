import WalletRelay.Proofs.Keyring.Codec
import WalletRelay.Relay.Call

/-!
# Calls that are understood

Which requests name a method, and which arguments it accepts: the look-ups and the decoders are
characterized by what they give (`resolve_eq_ok_iff`, `required_eq_ok_iff`), and both signing calls by
their two arguments (`parse_signTransaction_eq_ok_iff`, `parse_signPersonalMessage_eq_ok_iff`).
-/

namespace WalletRelay

/-! ### Methods -/

namespace Method

theorem find?_all_name (m : Method) : all.find? (fun other => other.name == m.name) = some m := by
  cases m <;> decide

/-- A method is known by its name. -/
theorem name_injective {m m' : Method} (h : m.name = m'.name) : m = m' := by
  have found := find?_all_name m
  rw [h, find?_all_name m'] at found
  exact (Option.some.inj found).symm

/-- A keyring finds the methods that it has by their names. -/
theorem find?_eq_some_iff {kind : KeyringKind} {name : String} {m : Method} :
    find? kind name = some m ↔ isSupported kind m ∧ m.name = name := by
  constructor
  · intro h
    have mem := List.mem_of_find?_eq_some h
    have same := List.find?_some h
    exact ⟨mem_supported.1 mem, by simpa using same⟩
  · rintro ⟨has, rfl⟩
    cases h : find? kind m.name with
    | none =>
      -- The method is in the list, so the search cannot have passed it.
      have other := List.find?_eq_none.1 h m (mem_supported.2 has)
      simp at other
    | some m' =>
      have same : m'.name = m.name := by simpa using List.find?_some h
      rw [name_injective same]

/-- A request is resolved to a method that the keyring it names has. -/
theorem resolve_eq_ok_iff {type name : String} {kind : KeyringKind} {m : Method} :
    resolve type name = .ok (kind, m) ↔
      KeyringKind.ofText? type = some kind ∧ find? kind name = some m := by
  unfold resolve
  grind

/-- Once the keyring is named, only its method can be unknown. -/
theorem resolve_of_named {type : String} {kind : KeyringKind}
    (named : KeyringKind.ofText? type = some kind) (name : String) :
    resolve type name = .error (.unsupportedMethod kind name) ∨
      ∃ m, find? kind name = some m ∧ resolve type name = .ok (kind, m) := by
  cases known : find? kind name with
  | none => exact .inl (by simp only [resolve, named, known])
  | some m => exact .inr ⟨m, rfl, resolve_eq_ok_iff.2 ⟨named, known⟩⟩

end Method

/-! ### Arguments -/

namespace Call

variable {α : Type} {args : List Json}

/-- A required argument is there, is not null and can be decoded. -/
theorem required_eq_ok_iff {decode : Json → Decoded α} {position : Nat} {x : α} :
    required args decode position = .ok x ↔
      ∃ j, args[position]? = some j ∧ j ≠ .null ∧ decode j = .ok x := by
  unfold required optional
  grind

theorem asText_eq_ok_iff {j : Json} {s : String} : j.asText = .ok s ↔ j = .string s := by
  cases j <;> simp [Json.asText]

/-- A text is not null, so being there is enough. -/
theorem required_text_eq_ok_iff {position : Nat} {s : String} :
    required args Json.asText position = .ok s ↔ args[position]? = some (.string s) := by
  simp [required_eq_ok_iff, asText_eq_ok_iff]

/-- A required address cannot be `null`: that is no address in any form. -/
theorem required_address_eq_ok_iff {position : Nat} {a : Address} :
    required args Json.asAddress position = .ok a ↔
      ∃ j, args[position]? = some j ∧ j.asAddress = .ok a := by
  rw [required_eq_ok_iff]
  constructor
  · rintro ⟨j, present, -, read⟩
    exact ⟨j, present, read⟩
  · rintro ⟨j, present, read⟩
    refine ⟨j, present, ?_, read⟩
    rintro rfl
    cases read

/-- Blanks around the digits of a message do not count. -/
theorem messageBytes_eq_ok_iff {message : List UInt8} :
    messageBytes args = .ok message ↔
      ∃ text, args[1]? = some (.string text) ∧ Hex.decode (Text.trim text) = .ok message := by
  unfold messageBytes
  constructor
  · intro h
    split at h
    · cases h
    · next text read =>
      -- What is left is the error of the digits, which is told as one of the argument.
      exact ⟨text, required_text_eq_ok_iff.1 read, Except.mapError_eq_ok_iff.1 h⟩
  · rintro ⟨text, present, read⟩
    rw [required_text_eq_ok_iff.2 present]
    exact Except.mapError_eq_ok_iff.2 read

/-- Both arguments are needed, the payload being the second one. It is looked for first, but read only after
the account. -/
theorem parse_signTransaction_eq_ok_iff {call : Call} :
    parse .signTransaction args = .ok call ↔
      ∃ text tx j a, args[1]? = some (.string text) ∧ UnsignedTransaction.ofHex text = .ok tx ∧
        args[0]? = some j ∧ j.asAddress = .ok a ∧ call = .signTransaction a tx := by
  simp only [parse, Except.bind_eq_ok_iff, Except.mapError_eq_ok_iff, required_text_eq_ok_iff,
    required_address_eq_ok_iff]
  constructor
  · rintro ⟨text, payload, a, ⟨j, account, address⟩, tx, transaction, h⟩
    cases h
    exact ⟨text, tx, j, a, payload, transaction, account, address, rfl⟩
  · rintro ⟨text, tx, j, a, payload, transaction, account, address, rfl⟩
    exact ⟨text, payload, a, ⟨j, account, address⟩, tx, transaction, rfl⟩

/-- Here the message is read before the account is. -/
theorem parse_signPersonalMessage_eq_ok_iff {call : Call} :
    parse .signPersonalMessage args = .ok call ↔
      ∃ text message j a, args[1]? = some (.string text) ∧
        Hex.decode (Text.trim text) = .ok message ∧
        args[0]? = some j ∧ j.asAddress = .ok a ∧ call = .signPersonalMessage a message := by
  simp only [parse, Except.bind_eq_ok_iff, Except.mapError_eq_ok_iff, messageBytes_eq_ok_iff,
    required_address_eq_ok_iff]
  constructor
  · rintro ⟨message, ⟨text, payload, bytes⟩, a, ⟨j, account, address⟩, h⟩
    cases h
    exact ⟨text, message, j, a, payload, bytes, account, address, rfl⟩
  · rintro ⟨text, message, j, a, payload, bytes, account, address, rfl⟩
    exact ⟨message, ⟨text, payload, bytes⟩, a, ⟨j, account, address⟩, rfl⟩

/-- Arguments are read as those of the method that was asked for. -/
theorem method_of_parse {method : Method} {call : Call} (h : parse method args = .ok call) :
    call.method = method := by
  cases method with
  | serialize | isUnlocked | getFirstPage | getNextPage | getPreviousPage | getAccounts
  | forgetDevice =>
    cases h
    rfl
  | deserialize | unlock | setAccountToUnlock | addAccounts | removeAccount | setHdPath =>
    obtain ⟨_, -, rfl⟩ := Except.map_eq_ok_iff.1 (Except.mapError_eq_ok_iff.1 h)
    rfl
  -- The two signing calls are read in several steps, the others in one.
  | signTransaction =>
    obtain ⟨_, _, _, _, -, -, -, -, rfl⟩ := parse_signTransaction_eq_ok_iff.1 h
    rfl
  | signPersonalMessage =>
    obtain ⟨_, _, _, _, -, -, -, -, rfl⟩ := parse_signPersonalMessage_eq_ok_iff.1 h
    rfl

end Call
end WalletRelay
