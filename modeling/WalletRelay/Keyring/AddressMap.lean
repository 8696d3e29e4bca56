import WalletRelay.Ethereum.Address

/-!
# Maps from addresses

A map keeps its entries in the order of their addresses, each address once, so two maps with the same
look-ups are the same map (`ext_get?`). Inserting and erasing change the look-up of one address only
(`get?_insert`, `get?_erase`).
-/

namespace WalletRelay

structure AddressMap (α : Type) where
  /-- The entries in the order of their addresses. -/
  entries : List (Address × α)
  /-- The addresses increase, so none comes twice. -/
  sorted : entries.Pairwise fun a b => a.1.toNat < b.1.toNat
deriving DecidableEq, Repr

namespace AddressMap

variable {α : Type}

/-! ### On lists of entries -/

def find? (a : Address) : List (Address × α) → Option α
  | [] => none
  | (k, v) :: rest => if a = k then some v else find? a rest

/-- Put an entry into its place, instead of one with the same address. -/
def insertEntry (a : Address) (x : α) : List (Address × α) → List (Address × α)
  | [] => [(a, x)]
  | (k, v) :: rest =>
    if a.toNat < k.toNat then (a, x) :: (k, v) :: rest
    else if a = k then (a, x) :: rest
    else (k, v) :: insertEntry a x rest

/-- Putting an entry into its place adds no other one. -/
theorem mem_insertEntry {a : Address} {x : α} {e : Address × α} {l : List (Address × α)}
    (h : e ∈ insertEntry a x l) : e = (a, x) ∨ e ∈ l := by
  induction l with
  | nil => simpa [insertEntry] using h
  | cons f rest ih =>
    obtain ⟨k, v⟩ := f
    rw [insertEntry] at h
    split at h
    · simpa using h
    · split at h
      · rcases List.mem_cons.1 h with h | h
        · exact .inl h
        · exact .inr (List.mem_cons_of_mem _ h)
      · rcases List.mem_cons.1 h with h | h
        · exact .inr (h ▸ List.mem_cons_self)
        · exact (ih h).imp_right (List.mem_cons_of_mem _)

/-- The order stays when an entry is put into its place. -/
theorem sorted_insertEntry (a : Address) (x : α) {l : List (Address × α)}
    (h : l.Pairwise fun a b => a.1.toNat < b.1.toNat) :
    (insertEntry a x l).Pairwise fun a b => a.1.toNat < b.1.toNat := by
  induction l with
  | nil => simp [insertEntry]
  | cons f rest ih =>
    obtain ⟨k, v⟩ := f
    obtain ⟨hk, hrest⟩ := List.pairwise_cons.1 h
    rw [insertEntry]
    split
    · next lt =>
      refine List.pairwise_cons.2 ⟨fun e he => ?_, h⟩
      rcases List.mem_cons.1 he with rfl | he
      · exact lt
      · exact Nat.lt_trans lt (hk e he)
    · next notLt =>
      split
      · next eq => subst eq; exact List.pairwise_cons.2 ⟨hk, hrest⟩
      · next ne =>
        refine List.pairwise_cons.2 ⟨fun e he => ?_, ih hrest⟩
        rcases mem_insertEntry he with rfl | he
        · have : a.toNat ≠ k.toNat := fun h => ne (Address.toNat_injective h)
          show k.toNat < a.toNat
          omega
        · exact hk e he

/-- Only the address of the entry is found to have another value. -/
theorem find?_insertEntry (a b : Address) (x : α) (l : List (Address × α)) :
    find? b (insertEntry a x l) = if b = a then some x else find? b l := by
  induction l with
  | nil => simp [insertEntry, find?]
  | cons f rest ih =>
    obtain ⟨k, v⟩ := f
    rw [insertEntry]
    split
    · simp [find?]
    · split
      · next eq => subst eq; by_cases h : b = a <;> simp [find?, h]
      · next ne =>
        by_cases h : b = k
        · subst h; simp [find?, Ne.symm ne]
        · simp [find?, h, ih]

/-- Leaving the entries of an address out changes what is found for this address only. -/
theorem find?_filter (a b : Address) (l : List (Address × α)) :
    find? b (l.filter fun e => decide (e.1 ≠ a)) = if b = a then none else find? b l := by
  induction l with
  | nil => simp [find?]
  | cons f rest ih =>
    obtain ⟨k, v⟩ := f
    by_cases hk : k = a
    · subst hk
      rw [List.filter_cons_of_neg (by simp), ih]
      by_cases h : b = k <;> simp [find?, h]
    · rw [List.filter_cons_of_pos (by simp [hk]), find?, find?, ih]
      by_cases h : b = k
      · subst h; simp [hk]
      · simp [h]

theorem find?_eq_none {a : Address} {l : List (Address × α)} (h : ∀ e ∈ l, a ≠ e.1) :
    find? a l = none := by
  induction l with
  | nil => rfl
  | cons f rest ih =>
    rw [find?, if_neg (h f List.mem_cons_self)]
    exact ih fun e he => h e (List.mem_cons_of_mem _ he)

private theorem ne_of_before {k : Address} {l : List (Address × α)}
    (h : ∀ e ∈ l, k.toNat < e.1.toNat) : ∀ e ∈ l, k ≠ e.1 := by
  intro e he eq
  have := h e he
  rw [eq] at this
  exact Nat.lt_irrefl _ this

/-- Entries in the order of their addresses are settled by what is found for each address. -/
theorem ext_find? {l m : List (Address × α)}
    (hl : l.Pairwise fun a b => a.1.toNat < b.1.toNat)
    (hm : m.Pairwise fun a b => a.1.toNat < b.1.toNat)
    (h : ∀ a, find? a l = find? a m) : l = m := by
  induction l generalizing m with
  | nil =>
    cases m with
    | nil => rfl
    | cons f rest => simpa [find?] using h f.1
  | cons f l ih =>
    obtain ⟨k, v⟩ := f
    obtain ⟨hk, hl'⟩ := List.pairwise_cons.1 hl
    cases m with
    | nil => simpa [find?] using h k
    | cons g m =>
      obtain ⟨k', v'⟩ := g
      obtain ⟨hk', hm'⟩ := List.pairwise_cons.1 hm
      -- Of two different first addresses, the smaller one is only found in its own list.
      have same : k = k' := by
        by_cases eq : k = k'
        · exact eq
        · exfalso
          have ne : k.toNat ≠ k'.toNat := fun h => eq (Address.toNat_injective h)
          rcases Nat.lt_or_gt_of_ne ne with lt | lt
          · have none₂ : find? k m = none :=
              find?_eq_none (ne_of_before fun e he => Nat.lt_trans lt (hk' e he))
            simpa [find?, eq, none₂] using h k
          · have none₁ : find? k' l = none :=
              find?_eq_none (ne_of_before fun e he => Nat.lt_trans lt (hk e he))
            simpa [find?, Ne.symm eq, none₁] using h k'
      subst same
      have value : v = v' := by simpa [find?] using h k
      subst value
      -- The first address does not come again, so what follows agrees as well.
      have rest : ∀ a, find? a l = find? a m := by
        intro a
        by_cases ha : a = k
        · subst ha
          rw [find?_eq_none (ne_of_before hk), find?_eq_none (ne_of_before hk')]
        · simpa [find?, ha] using h a
      rw [ih hl' hm' rest]

/-! ### On maps -/

def empty : AddressMap α :=
  ⟨[], .nil⟩

def get? (m : AddressMap α) (a : Address) : Option α :=
  find? a m.entries

def insert (m : AddressMap α) (a : Address) (x : α) : AddressMap α :=
  ⟨insertEntry a x m.entries, sorted_insertEntry a x m.sorted⟩

def erase (m : AddressMap α) (a : Address) : AddressMap α :=
  ⟨m.entries.filter fun e => decide (e.1 ≠ a), m.sorted.filter _⟩

@[simp] theorem get?_empty (a : Address) : (empty : AddressMap α).get? a = none := rfl

theorem get?_insert (m : AddressMap α) (a b : Address) (x : α) :
    (m.insert a x).get? b = if b = a then some x else m.get? b :=
  find?_insertEntry a b x m.entries

theorem get?_erase (m : AddressMap α) (a b : Address) :
    (m.erase a).get? b = if b = a then none else m.get? b :=
  find?_filter a b m.entries

@[ext] theorem ext_get? {l m : AddressMap α} (h : ∀ a, l.get? a = m.get? a) : l = m := by
  have := ext_find? l.sorted m.sorted h
  cases l; cases m; simp_all

end AddressMap
end WalletRelay
