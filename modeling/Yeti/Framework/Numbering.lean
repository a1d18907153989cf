import Mathlib.Data.Int.Interval

/-! # Numbers for items that may wish for one

    Items are numbered one after the other.  An item gets the number it wishes for if
    no item before it has got that one; otherwise it gets the next number of a counter,
    which steps over the numbers given and over the reserved ones.

    The numbers are distinct, a wish that nobody makes earlier is fulfilled if the
    counter cannot come first, and the counter gets no further than there are items.
-/

namespace Numbering

/-! ### The first free number -/

/-- The first number from `next` on that is not taken, looked for in a number of steps. -/
def firstFreeLoop (taken : Finset ℤ) : ℕ → ℤ → ℤ
  | 0, next => next
  | fuel + 1, next => if next ∈ taken then firstFreeLoop taken fuel (next + 1) else next

/-- The first number from `next` on that is not taken. -/
def firstFree (taken : Finset ℤ) (next : ℤ) : ℤ := firstFreeLoop taken taken.card next

theorem le_firstFreeLoop (taken : Finset ℤ) (fuel : ℕ) (next : ℤ) :
    next ≤ firstFreeLoop taken fuel next := by
  induction fuel generalizing next with
  | zero => exact Int.le_refl next
  | succ fuel ih =>
    rw [firstFreeLoop]
    split_ifs
    · have hstep := ih (next + 1)
      omega
    · exact Int.le_refl next

/-- The numbers that are stepped over are taken. -/
theorem mem_of_lt_firstFreeLoop {taken : Finset ℤ} {fuel : ℕ} {next n : ℤ} (hle : next ≤ n)
    (hlt : n < firstFreeLoop taken fuel next) : n ∈ taken := by
  induction fuel generalizing next with
  | zero =>
    rw [firstFreeLoop] at hlt
    omega
  | succ fuel ih =>
    rw [firstFreeLoop] at hlt
    split_ifs at hlt with hmem
    · rcases Int.lt_or_eq_of_le hle with hless | heq
      · exact ih (by omega) hlt
      · exact heq ▸ hmem
    · omega

/-- Numbers without a gap from `a` on are no more than there are elements. -/
theorem le_add_card {taken : Finset ℤ} {a b : ℤ} (h : ∀ n, a ≤ n → n < b → n ∈ taken) :
    b ≤ a + taken.card := by
  have hsub : Finset.Ico a b ⊆ taken := by
    intro n hn
    obtain ⟨hle, hlt⟩ := Finset.mem_Ico.mp hn
    exact h n hle hlt
  have hcard := Finset.card_le_card hsub
  rw [Int.card_Ico] at hcard
  omega

/-- As many steps as there are taken numbers are enough. -/
theorem firstFree_notMem (taken : Finset ℤ) (next : ℤ) : firstFree taken next ∉ taken := by
  suffices hfuel : ∀ fuel next, firstFreeLoop taken fuel next ∈ taken →
      next + fuel ≤ firstFreeLoop taken fuel next by
    intro hmem
    have hfar := hfuel taken.card next hmem
    -- the numbers passed and the last one would be one too many
    have hbound : firstFree taken next + 1 ≤ next + taken.card := by
      refine le_add_card ?_
      intro n hle hlt
      rcases Int.lt_or_eq_of_le (Int.lt_add_one_iff.mp hlt) with hless | heq
      · exact mem_of_lt_firstFreeLoop hle hless
      · exact heq ▸ hmem
    have : firstFree taken next = firstFreeLoop taken taken.card next := rfl
    omega
  intro fuel
  induction fuel with
  | zero =>
    intro next _
    rw [firstFreeLoop]
    omega
  | succ fuel ih =>
    intro next hmem
    rw [firstFreeLoop] at hmem ⊢
    split_ifs at hmem ⊢ with hid
    · have := ih (next + 1) hmem
      omega
    · exact absurd hmem hid

theorem le_firstFree (taken : Finset ℤ) (next : ℤ) : next ≤ firstFree taken next :=
  le_firstFreeLoop taken taken.card next

theorem mem_of_lt_firstFree {taken : Finset ℤ} {next n : ℤ} (hle : next ≤ n)
    (hlt : n < firstFree taken next) : n ∈ taken :=
  mem_of_lt_firstFreeLoop hle hlt

/-! ### Numbering -/

/-- The number for an item with this wish, and the counter afterwards. -/
def give (reserved used : Finset ℤ) (next : ℤ) (wish : Option ℤ) : ℤ × ℤ :=
  (wish.filter (· ∉ used)).elim
    (firstFree (used ∪ reserved) next, firstFree (used ∪ reserved) next) fun n => (n, next)

/-- The numbers for items with these wishes. -/
def giveAll (reserved : Finset ℤ) : Finset ℤ → ℤ → List (Option ℤ) → List ℤ
  | _, _, [] => []
  | used, next, wish :: wishes =>
    (give reserved used next wish).1 ::
      giveAll reserved (insert (give reserved used next wish).1 used)
        (give reserved used next wish).2 wishes

variable {reserved used : Finset ℤ} {next : ℤ}

/-- A wish is fulfilled, or the counter moves to a free number. -/
theorem give_cases (reserved used : Finset ℤ) (next : ℤ) (wish : Option ℤ) :
    (∃ n, wish = some n ∧ n ∉ used ∧ give reserved used next wish = (n, next)) ∨
      (∀ n ∈ wish, n ∈ used) ∧ give reserved used next wish =
        (firstFree (used ∪ reserved) next, firstFree (used ∪ reserved) next) := by
  cases wish with
  | none => exact .inr ⟨by simp, rfl⟩
  | some n =>
    by_cases hn : n ∈ used
    · exact .inr ⟨by simpa using hn, by simp [give, Option.filter, hn]⟩
    · exact .inl ⟨n, rfl, hn, by simp [give, Option.filter, hn]⟩

/-- No number is given twice. -/
theorem give_notMem (wish : Option ℤ) : (give reserved used next wish).1 ∉ used := by
  rcases give_cases reserved used next wish with ⟨n, -, hn, hgive⟩ | ⟨-, hgive⟩
  · rw [hgive]
    exact hn
  · rw [hgive]
    exact fun hmem => firstFree_notMem (used ∪ reserved) next (Finset.mem_union_left _ hmem)

theorem le_give (wish : Option ℤ) : next ≤ (give reserved used next wish).2 := by
  rcases give_cases reserved used next wish with ⟨n, -, -, hgive⟩ | ⟨-, hgive⟩
  · rw [hgive]
  · rw [hgive]
    exact le_firstFree _ _

/-- The wish is given afterwards, to this item or to an earlier one. -/
theorem mem_insert_give {wish : Option ℤ} {n : ℤ} (hn : n ∈ wish) :
    n ∈ insert (give reserved used next wish).1 used := by
  rcases give_cases reserved used next wish with ⟨k, hwish, -, hgive⟩ | ⟨hused, -⟩
  · rw [hwish] at hn
    obtain rfl := Option.some.inj hn
    rw [hgive]
    exact Finset.mem_insert_self _ _
  · exact Finset.mem_insert_of_mem (hused n hn)

theorem length_giveAll (wishes : List (Option ℤ)) :
    (giveAll reserved used next wishes).length = wishes.length := by
  induction wishes generalizing used next with
  | nil => rfl
  | cons wish wishes ih =>
    rw [giveAll, List.length_cons, List.length_cons, ih]

theorem giveAll_notMem {wishes : List (Option ℤ)} {n : ℤ}
    (hn : n ∈ giveAll reserved used next wishes) : n ∉ used := by
  induction wishes generalizing used next with
  | nil => cases hn
  | cons wish wishes ih =>
    rw [giveAll] at hn
    rcases List.mem_cons.mp hn with rfl | hrest
    · exact give_notMem wish
    · exact fun hmem => ih hrest (Finset.mem_insert_of_mem hmem)

/-- The numbers are distinct. -/
theorem giveAll_nodup (wishes : List (Option ℤ)) : (giveAll reserved used next wishes).Nodup := by
  induction wishes generalizing used next with
  | nil => exact List.nodup_nil
  | cons wish wishes ih =>
    rw [giveAll, List.nodup_cons]
    exact ⟨fun hmem => giveAll_notMem hmem (Finset.mem_insert_self _ _), ih⟩

/-! ### Wishes that are fulfilled -/

/-- A wish that is not given yet and not made earlier, and that the counter cannot come
    to, is fulfilled. -/
theorem giveAll_getElem? {wishes : List (Option ℤ)} {i : ℕ} {n : ℤ}
    (hi : wishes[i]? = some (some n)) (hused : n ∉ used) (hearlier : some n ∉ wishes.take i)
    (hcounter : n < next ∨ n ∈ reserved) : (giveAll reserved used next wishes)[i]? = some n := by
  induction wishes generalizing used next i with
  | nil => simp at hi
  | cons wish wishes ih =>
    rw [giveAll]
    cases i with
    | zero =>
      obtain rfl : wish = some n := by simpa using hi
      simp [give, Option.filter, hused]
    | succ i =>
      rw [List.getElem?_cons_succ] at hi ⊢
      rw [List.take_succ_cons, List.mem_cons, not_or] at hearlier
      have hne : n ≠ (give reserved used next wish).1 := by
        rcases give_cases reserved used next wish with ⟨k, rfl, -, hgive⟩ | ⟨-, hgive⟩
        · rw [hgive]
          rintro rfl
          exact hearlier.1 rfl
        · rw [hgive]
          rcases hcounter with hlt | hmem
          · have := le_firstFree (used ∪ reserved) next
            show n ≠ firstFree (used ∪ reserved) next
            omega
          · rintro rfl
            exact firstFree_notMem _ _ (Finset.mem_union_right used hmem)
      refine ih hi ?_ hearlier.2 ?_
      · rw [Finset.mem_insert, not_or]
        exact ⟨hne, hused⟩
      · exact hcounter.imp_left fun hlt => Int.lt_of_lt_of_le hlt (le_give wish)

/-- Distinct wishes that are not given yet are all fulfilled. -/
theorem giveAll_of_nodup {numbers : List ℤ} (hnodup : numbers.Nodup)
    (hused : ∀ n ∈ numbers, n ∉ used) :
    giveAll reserved used next (numbers.map some) = numbers := by
  induction numbers generalizing used next with
  | nil => rfl
  | cons n numbers ih =>
    obtain ⟨hn, hnumbers⟩ := List.nodup_cons.mp hnodup
    obtain ⟨hfree, hrest⟩ := List.forall_mem_cons.mp hused
    have hgive : give reserved used next (some n) = (n, next) := by
      simp [give, Option.filter, hfree]
    rw [List.map_cons, giveAll, hgive, ih hnumbers]
    intro k hk
    rw [Finset.mem_insert, not_or]
    refine ⟨?_, hrest k hk⟩
    rintro rfl
    exact hn hk

/-! ### How far the counter gets -/

/-- The state between two items: `count` numbers are given, the reserved numbers are
    given or wished for later, and the counter, which began at `start`, left no gap. -/
structure Counted (reserved used : Finset ℤ) (start next : ℤ) (count : ℕ)
    (wishes : List (Option ℤ)) : Prop where
  given : used.card ≤ count
  reserved_wished : ∀ n ∈ reserved, n ∈ used ∨ some n ∈ wishes
  no_gap : ∀ n, start ≤ n → n < next → n ∈ used ∪ reserved
  started : start ≤ next

/-- The numbers taken when an item does not get its wish are fewer than the items. -/
theorem Counted.card_taken_le {start : ℤ} {count : ℕ} {wish : Option ℤ}
    {wishes : List (Option ℤ)}
    (h : Counted reserved used start next count (wish :: wishes)) (hwish : ∀ n ∈ wish, n ∈ used) :
    (used ∪ reserved).card ≤ count + wishes.length := by
  have hsub : used ∪ reserved ⊆ used ∪ (wishes.filterMap fun wish => wish).toFinset := by
    intro n hn
    rcases Finset.mem_union.mp hn with hused | hreserved
    · exact Finset.mem_union_left _ hused
    · rcases h.reserved_wished n hreserved with hused | hmem
      · exact Finset.mem_union_left _ hused
      · rcases List.mem_cons.mp hmem with heq | hlater
        · exact Finset.mem_union_left _ (hwish n heq.symm)
        · refine Finset.mem_union_right _ (List.mem_toFinset.mpr ?_)
          exact List.mem_filterMap.mpr ⟨some n, hlater, rfl⟩
  have hlater : (wishes.filterMap fun wish => wish).toFinset.card ≤ wishes.length :=
    Nat.le_trans (List.toFinset_card_le _) (List.length_filterMap_le _ _)
  calc (used ∪ reserved).card ≤ (used ∪ (wishes.filterMap fun wish => wish).toFinset).card :=
        Finset.card_le_card hsub
    _ ≤ used.card + (wishes.filterMap fun wish => wish).toFinset.card := Finset.card_union_le _ _
    _ ≤ count + wishes.length := Nat.add_le_add h.given hlater

/-- An item that does not get its wish gets a number less than the items from `start`. -/
theorem Counted.firstFree_le {start : ℤ} {count : ℕ} {wish : Option ℤ}
    {wishes : List (Option ℤ)}
    (h : Counted reserved used start next count (wish :: wishes)) (hwish : ∀ n ∈ wish, n ∈ used) :
    firstFree (used ∪ reserved) next ≤ start + (count + wishes.length) := by
  have hle : firstFree (used ∪ reserved) next ≤ start + (used ∪ reserved).card := by
    refine le_add_card ?_
    intro n hstart hlt
    rcases Int.lt_or_le n next with hpassed | hahead
    · exact h.no_gap n hstart hpassed
    · exact mem_of_lt_firstFree hahead hlt
  have hcard := h.card_taken_le hwish
  omega

/-- One more item. -/
theorem Counted.step {start : ℤ} {count : ℕ} {wish : Option ℤ} {wishes : List (Option ℤ)}
    (h : Counted reserved used start next count (wish :: wishes)) :
    Counted reserved (insert (give reserved used next wish).1 used) start
      (give reserved used next wish).2 (count + 1) wishes where
  given := by
    have hcard := Finset.card_insert_le (give reserved used next wish).1 used
    have hgiven := h.given
    omega
  reserved_wished := by
    intro n hn
    rcases h.reserved_wished n hn with hused | hmem
    · exact .inl (Finset.mem_insert_of_mem hused)
    · rcases List.mem_cons.mp hmem with heq | hlater
      · exact .inl (mem_insert_give heq.symm)
      · exact .inr hlater
  no_gap := by
    intro n hstart hlt
    have hmono : n ∈ used ∪ reserved →
        n ∈ insert (give reserved used next wish).1 used ∪ reserved := fun hmem =>
      Finset.union_subset_union (Finset.subset_insert _ _) (Finset.Subset.refl _) hmem
    refine hmono ?_
    rcases give_cases reserved used next wish with ⟨k, -, -, hgive⟩ | ⟨-, hgive⟩
    · rw [hgive] at hlt
      exact h.no_gap n hstart hlt
    · rw [hgive] at hlt
      rcases Int.lt_or_le n next with hpassed | hahead
      · exact h.no_gap n hstart hpassed
      · exact mem_of_lt_firstFree hahead hlt
  started := Int.le_trans h.started (le_give wish)

/-- A number is a wish of its item, or one of as many numbers from `start` on as there
    are items. -/
theorem Counted.giveAll_mem {start : ℤ} {count : ℕ} {wishes : List (Option ℤ)}
    (h : Counted reserved used start next count wishes) {n : ℤ}
    (hn : n ∈ giveAll reserved used next wishes) :
    some n ∈ wishes ∨ start ≤ n ∧ n < start + (count + wishes.length) := by
  induction wishes generalizing used next count with
  | nil => cases hn
  | cons wish wishes ih =>
    rw [giveAll] at hn
    rw [List.length_cons]
    rcases List.mem_cons.mp hn with heq | hrest
    · rcases give_cases reserved used next wish with ⟨k, rfl, -, hgive⟩ | ⟨hwish, hgive⟩
      · rw [hgive] at heq
        obtain rfl : n = k := heq
        exact .inl List.mem_cons_self
      · rw [hgive] at heq
        have hle := h.firstFree_le hwish
        have hstart := Int.le_trans h.started (le_firstFree (used ∪ reserved) next)
        obtain rfl : n = firstFree (used ∪ reserved) next := heq
        exact .inr ⟨hstart, by omega⟩
    · rcases ih h.step hrest with hwish | ⟨hle, hlt⟩
      · exact .inl (List.mem_cons_of_mem wish hwish)
      · exact .inr ⟨hle, by omega⟩

/-- Before the first item, if every reserved number is wished for. -/
theorem counted_start {wishes : List (Option ℤ)} (start : ℤ)
    (h : ∀ n ∈ reserved, some n ∈ wishes) : Counted reserved ∅ start start 0 wishes where
  given := Nat.le_refl 0
  reserved_wished n hn := .inr (h n hn)
  no_gap n hle hlt := absurd hlt (by omega)
  started := Int.le_refl start

end Numbering
