import WalletRelay.Proofs.Config.Variables

/-!
# Room in the queue

The queue for calls is a channel, and a channel can be made only for a number of places between one and
`channelLimit`. The capacity that is read from the configuration is never zero, but it can be any other number
of 64 bits (`exists_capacity_iff`). So a channel can be made for a configuration exactly if no number above the
limit was asked for (`queue_made_iff`), and there are configurations for which none can be made
(`exists_capacity_above_channelLimit`).
-/

namespace WalletRelay

namespace Config

/-- The most places that a channel can have: three bits of a word are put to other use. -/
def channelLimit : Nat :=
  (UInt64.size - 1) >>> 3

/-- The variables when the capacity alone is set. -/
def capacityAlone (text : String) : String → Option String
  | "RELAY_QUEUE_CAPACITY" => some text
  | _ => none

/-- A written number has no blanks around it. -/
theorem trimmed?_toString (n : Nat) : Text.trimmed? (toString n) = some (toString n) := by
  have visible : ∀ c ∈ (toString n).toList, Text.isBlank c = false := by
    intro c mem
    exact Text.isBlank_of_isDigit (Numeral.isDigit_of_mem_toString mem)
  exact Text.trimmed?_eq_some_iff.2 (Text.isPadded_self (Numeral.toList_toString_ne_nil n) visible)

/-- Every positive number of 64 bits is read. -/
theorem ofLookup_capacityAlone {n : UInt64} (positive : 0 < n.toNat) :
    ofLookup (capacityAlone (toString n.toNat)) = .ok { defaults with queueCapacity := n } := by
  have given : value? (capacityAlone (toString n.toNat)) .queueCapacity = some (toString n.toNat) :=
    trimmed?_toString n.toNat
  rw [ofLookup_eq_ok_iff]
  refine ⟨⟨fun _ => rfl, nofun⟩, ⟨fun _ => rfl, nofun⟩, ⟨fun _ => rfl, nofun⟩, ?_,
    ⟨fun _ => rfl, nofun⟩, rfl, ⟨fun _ => rfl, nofun⟩⟩
  rw [given]
  refine ⟨nofun, ?_⟩
  rintro _ ⟨⟩
  exact ⟨Numeral.spells_toString n.toNat, positive⟩

variable {lookup : String → Option String} {c : Config}

/-- The capacity is the number that its variable asks for, or 64 if it asks for none. -/
theorem queueCapacity_of_value (read : ofLookup lookup = .ok c) :
    (value? lookup .queueCapacity = none ∧ c.queueCapacity = 64) ∨
      ∃ v, value? lookup .queueCapacity = some v ∧ Numeral.Spells v.toList c.queueCapacity.toNat ∧
        0 < c.queueCapacity.toNat := by
  obtain ⟨unset, set⟩ := (ofLookup_eq_ok_iff.1 read).queueCapacity
  cases given : value? lookup .queueCapacity with
  | none => exact .inl ⟨rfl, unset given⟩
  | some v => exact .inr ⟨v, rfl, set v given⟩

/-- A capacity that is read is never zero. -/
theorem queueCapacity_pos (read : ofLookup lookup = .ok c) : 0 < c.queueCapacity.toNat := by
  obtain ⟨-, usual⟩ | ⟨v, -, -, positive⟩ := queueCapacity_of_value read
  · rw [usual]
    decide
  · exact positive

/-- The capacities that can be read are all positive numbers of 64 bits. -/
theorem exists_capacity_iff {n : UInt64} :
    (∃ lookup c, ofLookup lookup = .ok c ∧ c.queueCapacity = n) ↔ 0 < n.toNat := by
  constructor
  · rintro ⟨lookup, c, read, rfl⟩
    exact queueCapacity_pos read
  · intro positive
    exact ⟨_, _, ofLookup_capacityAlone positive, rfl⟩

/-- The capacity is within the limit exactly if no larger number was asked for. -/
theorem queueCapacity_le_iff (read : ofLookup lookup = .ok c) :
    c.queueCapacity.toNat ≤ channelLimit ↔
      ∀ v n, value? lookup .queueCapacity = some v → Numeral.Spells v.toList n → n ≤ channelLimit := by
  obtain ⟨unset, usual⟩ | ⟨v, given, spells, -⟩ := queueCapacity_of_value read
  · rw [unset, usual]
    exact iff_of_true (by decide) nofun
  · rw [given]
    constructor
    · rintro small _ n ⟨⟩ spells'
      rwa [spells'.unique spells]
    · intro small
      exact small v _ rfl spells

/-- Let `create` make channels, which it can for one to `channelLimit` places. The capacities that can be read
are all positive numbers of 64 bits, and a channel is made for a configuration exactly if the number that was
asked for, if there was one, is not above the limit. -/
theorem queue_made_iff {τ : Type} (create : UInt64 → Option τ)
    (creates : ∀ n, (create n).isSome = true ↔ 1 ≤ n.toNat ∧ n.toNat ≤ channelLimit) :
    (∀ n, (∃ lookup c, ofLookup lookup = .ok c ∧ c.queueCapacity = n) ↔ 0 < n.toNat) ∧
    ∀ lookup c, ofLookup lookup = .ok c →
      ((create c.queueCapacity).isSome = true ↔
        ∀ v n, value? lookup .queueCapacity = some v → Numeral.Spells v.toList n → n ≤ channelLimit) := by
  refine ⟨fun _ => exists_capacity_iff, ?_⟩
  intro lookup c read
  have positive : 1 ≤ c.queueCapacity.toNat := queueCapacity_pos read
  rw [creates, and_iff_right positive, queueCapacity_le_iff read]

/-- A channel that only knows how many places it has. -/
def places? (n : UInt64) : Option Nat :=
  if 1 ≤ n.toNat ∧ n.toNat ≤ channelLimit then some n.toNat else none

/-- For the largest capacity within the limit a channel is made, and for the next one it is not. -/
theorem queue_made_iff_places :
    (∀ n, (places? n).isSome = true ↔ 1 ≤ n.toNat ∧ n.toNat ≤ channelLimit) ∧
    (∃ c, ofLookup (capacityAlone "\t2305843009213693951 ") = .ok c ∧
      (places? c.queueCapacity).isSome = true) ∧
    ∃ c, ofLookup (capacityAlone "2305843009213693952") = .ok c ∧
      (places? c.queueCapacity).isSome = false := by
  -- The stand-in makes channels for the same capacities.
  have creates (n : UInt64) : (places? n).isSome = true ↔ 1 ≤ n.toNat ∧ n.toNat ≤ channelLimit := by
    rw [places?]
    split
    next fits => exact iff_of_true rfl fits
    next large => exact iff_of_false nofun large
  obtain ⟨-, made⟩ := queue_made_iff places? creates
  have fits : ofLookup (capacityAlone "\t2305843009213693951 ") =
      .ok { defaults with queueCapacity := 2305843009213693951 } := by decide +kernel
  have exceeds : ofLookup (capacityAlone "2305843009213693952") =
      .ok { defaults with queueCapacity := 2305843009213693952 } := by decide +kernel
  refine ⟨creates, ⟨_, fits, ?_⟩, ⟨_, exceeds, ?_⟩⟩
  · exact (made _ _ fits).2 ((queueCapacity_le_iff fits).1 (by decide))
  · rw [Bool.eq_false_iff]
    intro some
    exact absurd ((queueCapacity_le_iff exceeds).2 ((made _ _ exceeds).1 some)) (by decide)

/-- A configuration can be read that asks for one place more than a channel can have. -/
theorem exists_capacity_above_channelLimit :
    ∃ c, ofLookup (capacityAlone "2305843009213693952") = .ok c ∧
      ¬ (1 ≤ c.queueCapacity.toNat ∧ c.queueCapacity.toNat ≤ channelLimit) := by
  refine ⟨{ defaults with queueCapacity := 2305843009213693952 }, ?_, ?_⟩
  · decide +kernel
  · decide

end Config
end WalletRelay
