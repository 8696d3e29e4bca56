import Mathlib.Data.List.Basic
import WalletRelay.Proofs.Keyring.Derivation
import WalletRelay.Proofs.Keyring.Onboarding

/-!
# Pages

A page shows five accounts. Which page is shown depends on the one that was shown last (`Call.Turns`), and
nothing but its number is kept of it. With a device whose addresses depend on the path alone, a page can
therefore be said beforehand (`Device.pageAt`), and whether a call shows it depends on the device and the
range of indices only (`shown_of_turn`, `turn_of_lists`).

So whoever turns the pages one by one sees every account once and in order, and on the way back the same
pages again (`pages_in_order`). Before the first page there is none, so it comes again and again.
-/

namespace WalletRelay

variable {σ : Type} {d : Device σ} {root : String}

/-! ### What a device has to show -/

namespace Device

/-- The entries are those of `count` accounts from an index on, in order, with the addresses that the
device has for them. -/
structure Lists (d : Device σ) (root : String) (start count : Nat) (entries : List PageEntry) :
    Prop where
  indices : entries.map (·.index.toNat) = List.range' start count
  addresses : ∀ e ∈ entries, d.HasAt (accountPath root e.index.toNat) e.address

theorem Lists.nil (d : Device σ) (root : String) (start : Nat) : d.Lists root start 0 [] :=
  ⟨rfl, nofun⟩

/-- Entries that go on where others end are entries of all these accounts. -/
theorem Lists.append {start m n : Nat} {es fs : List PageEntry} (h : d.Lists root start m es)
    (h' : d.Lists root (start + m) n fs) : d.Lists root start (m + n) (es ++ fs) where
  indices := by
    rw [List.map_append, h.indices, h'.indices]
    simp
  addresses e mem := by
    rcases List.mem_append.1 mem with mem | mem
    · exact h.addresses e mem
    · exact h'.addresses e mem

/-- What a device gives one after another is listed in the rows. -/
theorem Derives.lists (byPath : d.AnswersByPath) {index : Nat} {u w : σ} {as : List Address}
    (derived : d.Derives root index u as w) (inRange : index + as.length ≤ Keyring.indexLimit) :
    d.Lists root index as.length (PageEntry.rows index as) := by
  induction derived with
  | nil index => exact .nil d root index
  | @cons index u _ _ a as asked _ ih =>
    rw [List.length_cons] at inRange
    obtain ⟨indices, addresses⟩ := ih (by omega)
    -- The index is below the limit, so the word of the entry holds it.
    have stored : (UInt64.ofNat index).toNat = index := by
      apply Keyring.toNat_ofNat_of_le_indexLimit
      omega
    constructor
    · rw [PageEntry.rows, List.map_cons, indices, stored, List.length_cons, List.range'_succ]
    · intro e mem
      cases mem with
      | head =>
        rw [stored]
        exact byPath.hasAt (congrArg Prod.fst asked)
      | tail _ mem => exact addresses e mem

/-- What is listed is what the device gives one after another, in all of its states. -/
theorem Lists.derives {start count : Nat} {entries : List PageEntry}
    (h : d.Lists root start count entries) (u : σ) :
    ∃ as w, d.Derives root start u as w ∧ as.length = count ∧ PageEntry.rows start as = entries := by
  induction entries generalizing start count u with
  | nil =>
    cases count with
    | zero => exact ⟨[], u, .nil start u, rfl, rfl⟩
    | succ count => cases h.indices
  | cons e entries ih =>
    cases count with
    | zero => cases h.indices
    | succ count =>
      obtain ⟨index, indices⟩ := List.cons.inj h.indices
      change e.index.toNat = start at index
      have rest : d.Lists root (start + 1) count entries :=
        ⟨indices, fun e mem => h.addresses e (List.mem_cons_of_mem _ mem)⟩
      -- The device has the account in every state, and thus in the one that it is asked in.
      have answer := h.addresses e List.mem_cons_self u
      rw [index] at answer
      obtain ⟨as, w, derived, total, same⟩ := ih rest (d.address (accountPath root start) u).2
      refine ⟨e.address :: as, w, .cons (Prod.ext answer rfl) derived, congrArg (· + 1) total, ?_⟩
      rw [PageEntry.rows, same, ← index, UInt64.ofNat_toNat]

/-- The row of an account, as a device shows it that is in a given state. -/
def entryAt? (d : Device σ) (root : String) (u : σ) (index : Nat) : Option PageEntry :=
  match (d.address (accountPath root index) u).1 with
  | .ok a => some ⟨a, .ofNat index⟩
  | .error _ => none

/-- The page with a number, counted from zero, as a device shows it that is in a given state. -/
def pageAt (d : Device σ) (root : String) (u : σ) (number : Nat) : List PageEntry :=
  (List.range' (5 * number) 5).filterMap (d.entryAt? root u)

/-- Five entries from a multiple of five on are the page with this number. -/
theorem Lists.eq_pageAt {number : Nat} {entries : List PageEntry}
    (h : d.Lists root (5 * number) 5 entries) (u : σ) : entries = d.pageAt root u number := by
  have each : ∀ e ∈ entries, (d.entryAt? root u ∘ fun e => e.index.toNat) e = some e := by
    intro e mem
    simp only [Function.comp, entryAt?, h.addresses e mem u, UInt64.ofNat_toNat]
  rw [pageAt, ← h.indices, List.filterMap_map, List.filterMap_congr each, List.filterMap_some]

/-- Pages that follow each other list all their accounts in order. -/
theorem lists_flatMap {page : Nat → List PageEntry} {count : Nat}
    (each : ∀ i < count, d.Lists root (5 * i) 5 (page i)) :
    d.Lists root 0 (5 * count) ((List.range count).flatMap page) := by
  induction count with
  | zero => exact .nil d root 0
  | succ count ih =>
    have before := ih fun i lt => each i (Nat.lt_succ_of_lt lt)
    have last := each count (Nat.lt_succ_self count)
    rw [← Nat.zero_add (5 * count)] at last
    rw [List.range_succ, List.flatMap_append, List.flatMap_singleton]
    exact before.append last

end Device

/-! ### Turning pages -/

/-- The page that a call shows, counted from one, after the one that was shown last. Zero stands for none. -/
inductive Call.Turns : Call → (last page : Nat) → Prop
  | first (last : Nat) : Turns .getFirstPage last 1
  | next (last : Nat) : Turns .getNextPage last (last + 1)
  | previous (last : Nat) : Turns .getPreviousPage last (max (last - 1) 1)

theorem Call.Turns.pos {call : Call} {last page : Nat} (turn : call.Turns last page) : 0 < page := by
  cases turn with
  | first | next => exact Nat.succ_pos _
  | previous => exact Nat.lt_of_lt_of_le Nat.one_pos (Nat.le_max_right _ _)

namespace Keyring

variable {k k' : Keyring σ} {page : Nat} {entries : List PageEntry} {call : Call} {response : Json}

/-- The range of a page is checked as if the numbers had no end. -/
theorem checkRange_page (pos : 0 < page) :
    checkRange (min ((page - 1) * pageSize) maxIndex) pageSize = .ok () ↔ 5 * page ≤ indexLimit := by
  rw [checkRange_eq_ok_iff]
  simp only [pageSize, maxIndex, indexLimit, UInt64.size]
  omega

/-- Within range, the first index of a page is not cut off. -/
theorem start_of_page (inRange : 5 * page ≤ indexLimit) :
    min ((page - 1) * pageSize) maxIndex = 5 * (page - 1) := by
  simp only [pageSize, maxIndex, indexLimit, UInt64.size] at *
  omega

/-- The last page that a state can hold is far out of range. -/
theorem min_maxIndex_of_inRange (inRange : 5 * min page maxIndex ≤ indexLimit) :
    min page maxIndex = page := by
  simp only [maxIndex, indexLimit, UInt64.size] at *
  omega

def onPage (k : Keyring σ) (page : Nat) (device : σ) : Keyring σ :=
  { k with state := { k.state with page := .ofNat page }, device }

/-- A page that is shown has the entries of its accounts and is remembered. -/
theorem showPage_eq_ok (byPath : d.AnswersByPath) (pos : 0 < page)
    (shown : k.showPage d page = (.ok entries, k')) :
    5 * page ≤ indexLimit ∧ d.Lists k.state.hdPath (5 * (page - 1)) 5 entries ∧
      ∃ w, k' = k.onPage page w := by
  simp only [showPage] at shown
  split at shown
  · cases shown
  · next checked =>
    have inRange : 5 * page ≤ indexLimit := (checkRange_page pos).1 checked
    rw [start_of_page inRange] at shown
    refine ⟨inRange, ?_⟩
    obtain ⟨as, w, derived, all | ⟨fewer, e, w', refused⟩⟩ :=
      d.exists_derives k.state.hdPath (5 * (page - 1)) pageSize k.device
    -- All entries are there, so the last index of the page is within range as well.
    · have below : 5 * (page - 1) + as.length ≤ indexLimit := by
        rw [all, pageSize]
        omega
      have lists := derived.lists byPath below
      rw [all] at lists
      rw [← all, entriesFrom_of_derives derived] at shown
      cases shown
      exact ⟨lists, w, rfl⟩
    · rw [entriesFrom_of_refusal derived fewer refused] at shown
      cases shown

/-- A page whose accounts the device has is shown. -/
theorem showPage_of_lists (inRange : 5 * page ≤ indexLimit) (pos : 0 < page)
    (lists : d.Lists k.state.hdPath (5 * (page - 1)) 5 entries) :
    ∃ w, k.showPage d page = (.ok entries, k.onPage page w) := by
  obtain ⟨as, w, derived, all, rfl⟩ := lists.derives k.device
  have found := entriesFrom_of_derives derived
  rw [all] at found
  have checked := (checkRange_page pos).2 inRange
  rw [start_of_page inRange] at checked
  refine ⟨w, ?_⟩
  simp only [showPage, start_of_page inRange, checked]
  rw [pageSize, found]
  rfl

/-- If a call shows a page, the page is within range, its accounts are those of the device, and nothing else
is changed. -/
theorem shown_of_turn (byPath : d.AnswersByPath) (turn : call.Turns k.state.page.toNat page)
    (answered : call.invoke d k = (.ok response, k')) :
    ∃ entries w, 5 * page ≤ indexLimit ∧ d.Lists k.state.hdPath (5 * (page - 1)) 5 entries ∧
      response = Call.pageToJson entries ∧ k' = k.onPage page w := by
  cases turn with
  | first =>
    obtain ⟨entries, shown, rfl⟩ := Call.respond_eq_ok_iff.1 answered
    obtain ⟨inRange, lists, w, rfl⟩ := showPage_eq_ok byPath Nat.one_pos shown
    exact ⟨entries, w, inRange, lists, rfl, rfl⟩
  | next =>
    obtain ⟨entries, shown, rfl⟩ := Call.respond_eq_ok_iff.1 answered
    have pos : 0 < min (k.state.page.toNat + 1) maxIndex :=
      Nat.lt_min.2 ⟨Nat.succ_pos _, by decide⟩
    obtain ⟨inRange, lists, w, rfl⟩ := showPage_eq_ok byPath pos shown
    have same := min_maxIndex_of_inRange inRange
    rw [same] at inRange lists ⊢
    exact ⟨entries, w, inRange, lists, rfl, rfl⟩
  | previous =>
    obtain ⟨entries, shown, rfl⟩ := Call.respond_eq_ok_iff.1 answered
    obtain ⟨inRange, lists, w, rfl⟩ :=
      showPage_eq_ok byPath (Call.Turns.previous k.state.page.toNat).pos shown
    exact ⟨entries, w, inRange, lists, rfl, rfl⟩

/-- A call shows a page that is within range if the device has all its accounts. -/
theorem turn_of_lists (turn : call.Turns k.state.page.toNat page) (inRange : 5 * page ≤ indexLimit)
    (lists : d.Lists k.state.hdPath (5 * (page - 1)) 5 entries) :
    ∃ w, call.invoke d k = (.ok (Call.pageToJson entries), k.onPage page w) := by
  have pos := turn.pos
  cases turn with
  | first =>
    let start : Keyring σ := { k with state := { k.state with page := 0 } }
    obtain ⟨w, shown⟩ := showPage_of_lists (k := start) inRange pos lists
    refine ⟨w, ?_⟩
    rw [Call.invoke, firstPage, shown]
    rfl
  | next =>
    obtain ⟨w, shown⟩ := showPage_of_lists inRange pos lists
    have cut : 5 * min (k.state.page.toNat + 1) maxIndex ≤ indexLimit :=
      Nat.le_trans (Nat.mul_le_mul_left 5 (Nat.min_le_left _ _)) inRange
    refine ⟨w, ?_⟩
    rw [Call.invoke, nextPage, min_maxIndex_of_inRange cut, shown]
    rfl
  | previous =>
    obtain ⟨w, shown⟩ := showPage_of_lists inRange pos lists
    refine ⟨w, ?_⟩
    rw [Call.invoke, previousPage, shown]
    rfl

/-! ### Walks -/

def answers (d : Device σ) (k : Keyring σ) : List Call → List (Except KeyringError Json)
  | [] => []
  | call :: calls => (call.invoke d k).1 :: answers d (call.invoke d k).2 calls

theorem answers_cons {calls : List Call} {answer : Except KeyringError Json}
    (answered : call.invoke d k = (answer, k')) :
    k.answers d (call :: calls) = answer :: k'.answers d calls := by
  rw [answers, answered]

theorem after_cons {calls : List Call} {answer : Except KeyringError Json}
    (answered : call.invoke d k = (answer, k')) : k.after d (call :: calls) = k'.after d calls := by
  rw [after, List.foldl_cons, answered]
  rfl

def walkForth (count : Nat) : List Call :=
  .getFirstPage :: List.replicate count .getNextPage

def walkBack (count : Nat) : List Call :=
  List.replicate count .getPreviousPage

/-- On a walk that began with the keyring `k`, the page with a number, counted from zero, was shown last. -/
structure HasTurnedTo (k : Keyring σ) (number : Nat) (k' : Keyring σ) : Prop where
  state : k'.state = { k.state with page := .ofNat (number + 1) }
  inRange : 5 * (number + 1) ≤ indexLimit

namespace HasTurnedTo

variable {k₀ : Keyring σ} {number : Nat}

/-- Pages are remembered by their number counted from one. -/
theorem toNat_page (h : k₀.HasTurnedTo number k) : k.state.page.toNat = number + 1 := by
  have below := h.inRange
  rw [h.state]
  apply toNat_ofNat_of_le_indexLimit
  omega

theorem onPage (h : k₀.HasTurnedTo number k) {number' : Nat} (inRange : 5 * (number' + 1) ≤ indexLimit)
    (w : σ) : k₀.HasTurnedTo number' (k.onPage (number' + 1) w) where
  state := by rw [Keyring.onPage, h.state]
  inRange := inRange

/-- If the next page is shown, it is the page with the next number. -/
theorem next (byPath : d.AnswersByPath) (u : σ) (h : k₀.HasTurnedTo number k)
    (answered : Call.getNextPage.invoke d k = (.ok response, k')) :
    d.Lists k₀.state.hdPath (5 * (number + 1)) 5 (d.pageAt k₀.state.hdPath u (number + 1)) ∧
      response = Call.pageToJson (d.pageAt k₀.state.hdPath u (number + 1)) ∧
      k₀.HasTurnedTo (number + 1) k' := by
  have turn : Call.getNextPage.Turns k.state.page.toNat (number + 2) := by
    rw [h.toNat_page]
    exact .next _
  obtain ⟨entries, w, inRange, lists, rfl, rfl⟩ := shown_of_turn byPath turn answered
  have root : k.state.hdPath = k₀.state.hdPath := by rw [h.state]
  rw [root] at lists
  have same : entries = d.pageAt k₀.state.hdPath u (number + 1) := lists.eq_pageAt u
  rw [← same]
  exact ⟨lists, rfl, h.onPage inRange w⟩

/-- The page before is shown again, or the first one. -/
theorem previous (h : k₀.HasTurnedTo number k)
    (lists : d.Lists k₀.state.hdPath (5 * (number - 1)) 5 entries) :
    ∃ k', Call.getPreviousPage.invoke d k = (.ok (Call.pageToJson entries), k') ∧
      k₀.HasTurnedTo (number - 1) k' := by
  have turn : Call.getPreviousPage.Turns k.state.page.toNat (number - 1 + 1) := by
    have target : number - 1 + 1 = max (number + 1 - 1) 1 := by omega
    rw [h.toNat_page, target]
    exact .previous _
  have inRange : 5 * (number - 1 + 1) ≤ indexLimit := by
    have below := h.inRange
    omega
  have root : k.state.hdPath = k₀.state.hdPath := by rw [h.state]
  rw [← root] at lists
  obtain ⟨w, shown⟩ := turn_of_lists turn inRange lists
  exact ⟨_, shown, h.onPage inRange w⟩

/-- Turning pages forth. -/
theorem forth (byPath : d.AnswersByPath) (u : σ) {count : Nat} (h : k₀.HasTurnedTo number k)
    (answered : ∀ answer ∈ k.answers d (List.replicate count .getNextPage), ∃ j, answer = .ok j) :
    (∀ i < count, d.Lists k₀.state.hdPath (5 * (number + 1 + i)) 5
      (d.pageAt k₀.state.hdPath u (number + 1 + i))) ∧
    k.answers d (List.replicate count .getNextPage) = (List.range count).map (fun i =>
      .ok (Call.pageToJson (d.pageAt k₀.state.hdPath u (number + 1 + i)))) ∧
    k₀.HasTurnedTo (number + count) (k.after d (List.replicate count .getNextPage)) := by
  induction count generalizing number k with
  | zero => exact ⟨nofun, rfl, h⟩
  | succ count ih =>
    cases first : Call.getNextPage.invoke d k with | mk answer k' =>
    rw [List.replicate_succ, answers_cons first] at answered ⊢
    rw [after_cons first]
    obtain ⟨response, rfl⟩ := answered _ List.mem_cons_self
    -- One page forth, and then the others from there.
    obtain ⟨lists, rfl, turned⟩ := h.next byPath u first
    obtain ⟨others, same, last⟩ := ih turned fun answer mem => answered answer (.tail _ mem)
    have shift (i : Nat) : number + 1 + 1 + i = number + 1 + (i + 1) := by omega
    simp only [shift] at others same
    refine ⟨?_, ?_, ?_⟩
    · intro i lt
      cases i with
      | zero => exact lists
      | succ i => exact others i (Nat.lt_of_succ_lt_succ lt)
    · rw [same, List.range_succ_eq_map, List.map_cons, List.map_map]
      rfl
    · rw [Nat.add_right_comm] at last
      exact last

/-- Turning pages back, over pages that the device has. -/
theorem back {page : Nat → List PageEntry} {count : Nat} (h : k₀.HasTurnedTo number k)
    (lists : ∀ i ≤ number, d.Lists k₀.state.hdPath (5 * i) 5 (page i)) :
    k.answers d (walkBack count) =
      (List.range count).map (fun i => .ok (Call.pageToJson (page (number - (i + 1))))) ∧
    k₀.HasTurnedTo (number - count) (k.after d (walkBack count)) := by
  induction count generalizing number k with
  | zero => exact ⟨rfl, h⟩
  | succ count ih =>
    obtain ⟨k', shown, turned⟩ := h.previous (lists (number - 1) (Nat.sub_le number 1))
    obtain ⟨same, last⟩ := ih turned fun i le => lists i (Nat.le_trans le (Nat.sub_le number 1))
    have shift (i : Nat) : number - 1 - i = number - (i + 1) := by omega
    simp only [shift] at same last
    rw [walkBack, List.replicate_succ, answers_cons shown, after_cons shown]
    refine ⟨?_, last⟩
    rw [List.range_succ_eq_map, List.map_cons, List.map_map]
    exact congrArg _ same

end HasTurnedTo

/-- Pages are turned one by one. -/
structure TurnsPages (d : Device σ) (k : Keyring σ) : Prop where
  /-- A page that is shown has the five accounts at its place, as the device has them. Its number is kept,
  and nothing else is changed. -/
  turn : ∀ {call : Call} {page : Nat} {response : Json} {k' : Keyring σ},
    call.Turns k.state.page.toNat page →
    call.invoke d k = (.ok response, k') →
    k'.state.page.toNat = page ∧
    k' = { k with state := { k.state with page := k'.state.page }, device := k'.device } ∧
    ∃ entries, d.Lists k.state.hdPath (5 * (page - 1)) 5 entries ∧
      response = .array (entries.map fun e => .object
        [("address", .string e.address.toText), ("balance", .null), ("index", .ofNat e.index.toNat)])
  /-- A walk from the first page on shows all accounts in order, each once. On the way back the same pages
  come again, and the first one for as long as the walk is continued. -/
  walk : ∀ count, (∀ answer ∈ k.answers d (walkForth count), ∃ response, answer = .ok response) →
    let page (number : Nat) := d.pageAt k.state.hdPath k.device number
    (∀ i ≤ count, d.Lists k.state.hdPath (5 * i) 5 (page i)) ∧
    d.Lists k.state.hdPath 0 (5 * (count + 1)) ((List.range (count + 1)).flatMap page) ∧
    k.answers d (walkForth count) =
      (List.range (count + 1)).map (fun i => .ok (Call.pageToJson (page i))) ∧
    ∀ back, (k.after d (walkForth count)).answers d (walkBack back) =
      (List.range back).map fun i => .ok (Call.pageToJson (page (count - (i + 1))))

/-- With a device whose addresses depend on the path alone, pages are turned one by one, whichever page a
keyring has shown last. -/
theorem pages_in_order (byPath : d.AnswersByPath) (k : Keyring σ) : k.TurnsPages d where
  turn := by
    intro call page response k' turn answered
    obtain ⟨entries, w, inRange, lists, rfl, rfl⟩ := shown_of_turn byPath turn answered
    refine ⟨?_, rfl, entries, lists, rfl⟩
    apply toNat_ofNat_of_le_indexLimit
    omega
  walk := by
    intro count answered page
    cases first : Call.getFirstPage.invoke d k with | mk answer k' =>
    rw [walkForth, answers_cons first] at answered ⊢
    rw [after_cons first]
    obtain ⟨response, rfl⟩ := answered _ List.mem_cons_self
    obtain ⟨entries, w, inRange, lists, rfl, rfl⟩ :=
      shown_of_turn byPath (.first k.state.page.toNat) first
    obtain rfl : entries = page 0 := lists.eq_pageAt k.device
    have turned : k.HasTurnedTo 0 (k.onPage 1 w) := ⟨rfl, inRange⟩
    obtain ⟨others, same, last⟩ :=
      turned.forth byPath k.device fun answer mem => answered answer (.tail _ mem)
    -- The first page, and those that the walk has shown after it.
    have each : ∀ i ≤ count, d.Lists k.state.hdPath (5 * i) 5 (page i) := by
      intro i le
      cases i with
      | zero => exact lists
      | succ i =>
        have other := others i le
        rwa [Nat.zero_add, Nat.add_comm 1] at other
    refine ⟨each, Device.lists_flatMap fun i lt => each i (Nat.le_of_lt_succ lt), ?_, ?_⟩
    · rw [same, List.range_succ_eq_map, List.map_cons, List.map_map]
      simp only [Nat.zero_add, Nat.add_comm 1]
      rfl
    · intro back
      rw [Nat.zero_add] at last
      exact (last.back each).1

end Keyring

/-- Two pages forth and four back: the first page is shown again and again. -/
theorem pages_in_order_echoing :
    ∃ first second third,
      (Keyring.new .trezor ()).answers .echoing (Keyring.walkForth 2) =
        [.ok first, .ok second, .ok third] ∧
      ((Keyring.new .trezor ()).after .echoing (Keyring.walkForth 2)).answers .echoing
        (Keyring.walkBack 4) = [.ok second, .ok first, .ok first, .ok first] := by
  have byPath : Device.echoing.AnswersByPath := fun _ _ _ => rfl
  have shown : ∀ answer ∈ (Keyring.new .trezor ()).answers .echoing (Keyring.walkForth 2),
      ∃ response, answer = .ok response := by
    intro answer mem
    cases mem with
    | head => exact ⟨_, rfl⟩
    | tail _ mem => cases mem with
      | head => exact ⟨_, rfl⟩
      | tail _ mem => cases mem with
        | head => exact ⟨_, rfl⟩
        | tail _ mem => cases mem
  obtain ⟨-, -, forth, back⟩ :=
    (Keyring.pages_in_order byPath (Keyring.new .trezor ())).walk 2 shown
  exact ⟨_, _, _, forth, back 4⟩

end WalletRelay
