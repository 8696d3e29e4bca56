import Mathlib.Data.List.TakeWhile
import WalletRelay.Text.Blank

/-!
# Texts and the blanks around them

`Text.trimmed?` takes the blanks off both ends of a text and leaves those inside it alone: what it gives is
the one text that has none at its ends and from which the first text is made by putting blanks around it
(`Text.trimmed?_eq_some_iff`). It gives nothing for texts of blanks alone (`Text.trimmed?_eq_none_iff`).
-/

namespace WalletRelay.Text

/-- The first text is made from the second one by putting blanks around it. The second one is not empty and
has no blanks at its ends. -/
structure IsPadded (s core : String) : Prop where
  padding : ∃ before after, (∀ c ∈ before, isBlank c = true) ∧ (∀ c ∈ after, isBlank c = true) ∧
    s.toList = before ++ (core.toList ++ after)
  given : core.toList ≠ []
  first : ∀ c ∈ core.toList.head?, isBlank c = false
  last : ∀ c ∈ core.toList.getLast?, isBlank c = false

/-! ### Blanks at both ends -/

theorem isBlank_of_isDigit {c : Char} (digit : c.isDigit = true) : isBlank c = false := by
  have low : '0'.toNat = 48 := rfl
  have high : '9'.toNat = 57 := rfl
  rw [Char.isDigit_iff_toNat] at digit
  simp only [isBlank, Bool.or_eq_false_iff, Bool.and_eq_false_iff, beq_eq_false_iff_ne,
    decide_eq_false_iff_not]
  omega

theorem head?_dropWhile_isBlank {cs : List Char} {c : Char} (mem : c ∈ (cs.dropWhile isBlank).head?) :
    isBlank c = false := by
  have stopped := List.head?_dropWhile_not isBlank cs
  rw [Option.mem_def.1 mem] at stopped
  exact stopped

theorem dropWhile_eq_self {p : Char → Bool} {cs : List Char} (h : ∀ c ∈ cs.head?, p c = false) :
    cs.dropWhile p = cs := by
  cases cs with
  | nil => rfl
  | cons c rest => exact List.dropWhile_cons_of_neg (by simp [h c rfl])

/-- Trimming takes away exactly the blanks around a text that neither begins nor ends with one. -/
theorem trimChars_padded {before core after : List Char} (blank : ∀ c ∈ before, isBlank c = true)
    (blank' : ∀ c ∈ after, isBlank c = true) (first : ∀ c ∈ core.head?, isBlank c = false)
    (last : ∀ c ∈ core.getLast?, isBlank c = false) :
    trimChars (before ++ (core ++ after)) = core := by
  rw [trimChars, List.dropWhile_append_of_pos blank]
  cases core with
  | nil =>
    -- There is nothing to stop at: all blanks are taken away from the front.
    rw [List.nil_append, List.dropWhile_eq_nil_iff.2 blank']
    rfl
  | cons c rest =>
    have front : (c :: rest ++ after).dropWhile isBlank = c :: rest ++ after := dropWhile_eq_self first
    have back : (c :: rest).reverse.dropWhile isBlank = (c :: rest).reverse := by
      apply dropWhile_eq_self
      rwa [List.head?_reverse]
    have blank'' : ∀ c ∈ after.reverse, isBlank c = true := fun c mem => blank' c (List.mem_reverse.1 mem)
    rw [front, List.reverse_append, List.dropWhile_append_of_pos blank'', back, List.reverse_reverse]

/-- A text is what is left of it with blanks around. -/
theorem exists_padding (cs : List Char) :
    ∃ before after, (∀ c ∈ before, isBlank c = true) ∧ (∀ c ∈ after, isBlank c = true) ∧
      cs = before ++ (trimChars cs ++ after) ∧ cs.dropWhile isBlank = trimChars cs ++ after := by
  have back : cs.dropWhile isBlank =
      trimChars cs ++ ((cs.dropWhile isBlank).reverse.takeWhile isBlank).reverse := by
    rw [trimChars, ← List.reverse_append, List.takeWhile_append_dropWhile, List.reverse_reverse]
  refine ⟨cs.takeWhile isBlank, ((cs.dropWhile isBlank).reverse.takeWhile isBlank).reverse, ?_, ?_, ?_,
    back⟩
  · intro c mem
    exact List.mem_takeWhile_imp mem
  · intro c mem
    exact List.mem_takeWhile_imp (List.mem_reverse.1 mem)
  · rw [← back, List.takeWhile_append_dropWhile]

/-- A trimmed text does not begin with a blank. -/
theorem head?_trimChars {cs : List Char} {c : Char} (mem : c ∈ (trimChars cs).head?) :
    isBlank c = false := by
  obtain ⟨-, after, -, -, -, rest⟩ := exists_padding cs
  have first : c ∈ (cs.dropWhile isBlank).head? := by
    rw [rest, List.head?_append, Option.mem_def.1 mem]
    rfl
  exact head?_dropWhile_isBlank first

/-- A trimmed text does not end with a blank. -/
theorem getLast?_trimChars {cs : List Char} {c : Char} (mem : c ∈ (trimChars cs).getLast?) :
    isBlank c = false := by
  rw [trimChars, List.getLast?_reverse] at mem
  exact head?_dropWhile_isBlank mem

/-- Nothing is left of a text exactly if all of it is blank. -/
theorem trimChars_eq_nil_iff {cs : List Char} :
    trimChars cs = [] ↔ ∀ c ∈ cs, isBlank c = true := by
  constructor
  · intro none
    obtain ⟨before, after, blank, blank', whole, -⟩ := exists_padding cs
    rw [none, List.nil_append] at whole
    intro c mem
    rw [whole] at mem
    obtain front | back := List.mem_append.1 mem
    · exact blank c front
    · exact blank' c back
  · intro blank
    rw [trimChars, List.dropWhile_eq_nil_iff.2 blank]
    rfl

/-! ### The text between the blanks -/

variable {s core : String}

/-- A text counts as absent exactly if all of it is blank. -/
theorem trimmed?_eq_none_iff : trimmed? s = none ↔ ∀ c ∈ s.toList, isBlank c = true := by
  rw [← trimChars_eq_nil_iff, trimmed?]
  cases trimChars s.toList with
  | nil => exact iff_of_true rfl rfl
  | cons c rest => exact iff_of_false nofun nofun

/-- Trimming gives the text from which the other one is made by padding. -/
theorem trimmed?_eq_some_iff : trimmed? s = some core ↔ IsPadded s core := by
  have meaning : trimmed? s = some core ↔ trimChars s.toList = core.toList ∧ core.toList ≠ [] := by
    rw [trimmed?]
    cases trimChars s.toList with
    | nil =>
      constructor
      · nofun
      · rintro ⟨empty, given⟩
        exact absurd empty.symm given
    | cons c rest =>
      constructor
      · intro same
        rw [← Option.some.inj same, String.toList_ofList]
        exact ⟨rfl, nofun⟩
      · rintro ⟨same, -⟩
        show some (String.ofList (c :: rest)) = some core
        rw [same, String.ofList_toList]
  rw [meaning]
  constructor
  · rintro ⟨trimmed, given⟩
    -- The padding is what trimming has taken away.
    obtain ⟨before, after, blank, blank', whole, -⟩ := exists_padding s.toList
    rw [trimmed] at whole
    refine ⟨⟨before, after, blank, blank', whole⟩, given, ?_, ?_⟩
    · rw [← trimmed]
      exact fun c => head?_trimChars
    · rw [← trimmed]
      exact fun c => getLast?_trimChars
  · intro padded
    obtain ⟨before, after, blank, blank', whole⟩ := padded.padding
    refine ⟨?_, padded.given⟩
    rw [whole]
    exact trimChars_padded blank blank' padded.first padded.last

/-- A text without blanks has none around it. -/
theorem isPadded_self (given : s.toList ≠ []) (visible : ∀ c ∈ s.toList, isBlank c = false) :
    IsPadded s s where
  padding := ⟨[], [], nofun, nofun, by rw [List.nil_append, List.append_nil]⟩
  given := given
  first c mem := visible c (List.mem_of_mem_head? mem)
  last c mem := visible c (List.mem_of_mem_getLast? mem)

/-- What was trimmed once stays as it is. -/
theorem IsPadded.trim_eq (padded : IsPadded s core) : trim core = core := by
  have again := @trimChars_padded [] core.toList [] nofun nofun padded.first padded.last
  rw [List.nil_append, List.append_nil] at again
  rw [trim, again, String.ofList_toList]

end WalletRelay.Text
