import Mathlib.Data.List.Basic

/-! # Lists: removal of an item, blocks, beginnings, lookups, consecutive numbers -/

namespace List

variable {α β : Type*}

/-- Taking out the item at `i` leaves all others. -/
theorem eq_or_mem_eraseIdx {l : List α} {i : Nat} {a b : α} (hi : l[i]? = some a) (hb : b ∈ l) :
    b = a ∨ b ∈ l.eraseIdx i := by
  obtain ⟨j, hj⟩ := List.mem_iff_getElem?.mp hb
  by_cases hji : j = i
  · left
    rw [hji, hi] at hj
    exact (Option.some.inj hj).symm
  · right
    exact List.mem_eraseIdx_iff_getElem?.mpr ⟨j, hji, hj⟩

/-- An item of a list with one more at the end. -/
theorem getElem?_concat_eq_some {l : List α} {i : Nat} {a b : α}
    (h : (l ++ [a])[i]? = some b) : l[i]? = some b ∨ i = l.length ∧ b = a := by
  rcases Nat.lt_trichotomy i l.length with hlt | heq | hgt
  · rw [List.getElem?_append_left hlt] at h
    exact .inl h
  · rw [heq, List.getElem?_concat_length] at h
    exact .inr ⟨heq, (Option.some.inj h).symm⟩
  · rw [List.getElem?_eq_none (by simp; omega)] at h
    cases h

/-- Blocks of equal lengths make equal lists exactly when they are equal. -/
theorem flatMap_inj_of_length {f g : α → List β} (hlen : ∀ a, (f a).length = (g a).length)
    (l : List α) : l.flatMap f = l.flatMap g ↔ ∀ a ∈ l, f a = g a := by
  induction l with
  | nil => simp
  | cons a l ih =>
    rw [List.flatMap_cons, List.flatMap_cons, List.forall_mem_cons, ← ih]
    constructor
    · intro h
      -- equal lengths tell where the first block ends
      exact List.append_inj h (hlen a)
    · intro ⟨ha, hl⟩
      rw [ha, hl]

/-- What holds of all beginnings of a list holds of the empty one and of those that
    start with the first item. -/
theorem forall_prefix_cons {a : α} {l : List α} {p : List α → Prop} :
    (∀ past, past <+: a :: l → p past) ↔ p [] ∧ ∀ past, past <+: l → p (a :: past) := by
  constructor
  · intro h
    refine ⟨h [] List.nil_prefix, ?_⟩
    intro past hpast
    exact h (a :: past) (List.cons_prefix_cons.mpr ⟨rfl, hpast⟩)
  · intro ⟨hnil, hcons⟩ past hpast
    cases past with
    | nil => exact hnil
    | cons b past =>
      obtain ⟨rfl, htail⟩ := List.cons_prefix_cons.mp hpast
      exact hcons past htail

/-- What holds of all items and those before them, with one more item at the end. -/
theorem forall_before_concat {l : List α} {b : α} {p : List α → α → Prop} :
    (∀ past a, past ++ [a] <+: l ++ [b] → p past a) ↔
      (∀ past a, past ++ [a] <+: l → p past a) ∧ p l b := by
  constructor
  · intro h
    refine ⟨?_, h l b (List.prefix_refl _)⟩
    intro past a hpast
    exact h past a (hpast.trans (List.prefix_append l [b]))
  · intro ⟨hl, hb⟩ past a hpast
    rcases List.prefix_concat_iff.mp hpast with heq | hpast
    · obtain ⟨rfl, hab⟩ := List.append_inj' heq rfl
      rw [List.head_eq_of_cons_eq hab]
      exact hb
    · exact hl past a hpast

/-- What a lookup finds for the items of one list, and the items of the other that it
    should have found none of, make up that other list exactly if every item is found
    as often as it is there, or not at all. -/
theorem perm_filterMap_append_filter_iff [DecidableEq α] (find : β → Option α)
    (missing : α → Bool) (given : List β) (l : List α) :
    (given.filterMap find ++ l.filter missing).Perm l ↔
      ∀ a, given.countP (fun b => find b == some a) = if missing a then 0 else l.count a := by
  rw [List.perm_iff_count]
  refine forall_congr' fun a => ?_
  rw [List.count_append, List.count_filterMap]
  cases hmissing : missing a with
  | true =>
    rw [List.count_filter hmissing, if_pos rfl]
    omega
  | false =>
    have hnone : (l.filter missing).count a = 0 := by
      rw [List.count_eq_zero]
      simp [hmissing]
    rw [hnone, if_neg Bool.false_ne_true]
    omega

/-- A loop that may fail does so at some item. -/
theorem mapM_eq_none_iff {α β : Type} {f : α → Option β} {l : List α} :
    l.mapM f = none ↔ ∃ a ∈ l, f a = none := by
  induction l with
  | nil => simp
  | cons a l ih =>
    rw [List.mapM_cons]
    cases ha : f a with
    | none => simp [ha]
    | some b =>
      cases hl : l.mapM f with
      | none =>
        obtain ⟨a', hmem, hnone⟩ := ih.mp hl
        simp only [Option.bind_eq_bind, Option.bind_some, Option.bind_none, List.mem_cons, true_iff]
        exact ⟨a', .inr hmem, hnone⟩
      | some bs =>
        have hrest : ¬ ∃ a ∈ l, f a = none := fun h => by
          rw [ih.mpr h] at hl
          cases hl
        simpa [ha] using hrest

/-- A loop that does not fail gives one value for each item. -/
theorem length_of_mapM {α β : Type} {f : α → Option β} {l : List α} {bs : List β}
    (h : l.mapM f = some bs) : bs.length = l.length := by
  induction l generalizing bs with
  | nil =>
    rw [← Option.some.inj h]
    rfl
  | cons a l ih =>
    rw [List.mapM_cons] at h
    obtain ⟨b, -, htail⟩ := Option.bind_eq_some_iff.mp h
    obtain ⟨bs', hbs', hpure⟩ := Option.bind_eq_some_iff.mp htail
    rw [← Option.some.inj hpure, List.length_cons, ih hbs', List.length_cons]

/-- `k` consecutive numbers from `n` on. -/
def countUp (n : Int) : Nat → List Int
  | 0 => []
  | k + 1 => n :: countUp (n + 1) k

theorem mem_countUp {n x : Int} {k : Nat} : x ∈ countUp n k ↔ n ≤ x ∧ x < n + k := by
  induction k generalizing n with
  | zero =>
    simp only [countUp, List.not_mem_nil, false_iff]
    omega
  | succ k ih =>
    simp only [countUp, List.mem_cons, ih]
    omega

theorem pairwise_countUp (n : Int) (k : Nat) : (countUp n k).Pairwise (· < ·) := by
  induction k generalizing n with
  | zero => exact List.Pairwise.nil
  | succ k ih =>
    refine List.pairwise_cons.mpr ⟨?_, ih (n + 1)⟩
    intro x hx
    have hle := (mem_countUp.mp hx).1
    omega

theorem countUp_append (n : Int) (j k : Nat) :
    countUp n j ++ countUp (n + j) k = countUp n (j + k) := by
  induction j generalizing n with
  | zero => simp [countUp]
  | succ j ih =>
    have hj : n + ((j + 1 : Nat) : Int) = n + 1 + j := by omega
    rw [Nat.succ_add, countUp, countUp, List.cons_append, hj, ih (n + 1)]

/-- A list goes on with consecutive numbers as far as it goes on with the first. -/
theorem pairwise_append_countUp (l : List Int) (n : Int) (k : Nat) :
    (l ++ countUp n (k + 1)).Pairwise (· < ·) ↔ (l ++ [n]).Pairwise (· < ·) := by
  rw [List.pairwise_append, List.pairwise_append]
  constructor
  · rintro ⟨hl, -, hlt⟩
    refine ⟨hl, List.pairwise_singleton _ n, ?_⟩
    intro x hx y hy
    rw [List.mem_singleton.mp hy]
    exact hlt x hx n (mem_countUp.mpr (by omega))
  · rintro ⟨hl, -, hlt⟩
    refine ⟨hl, pairwise_countUp n (k + 1), ?_⟩
    intro x hx y hy
    have hxn : x < n := hlt x hx n (List.mem_singleton.mpr rfl)
    have hny : n ≤ y := (mem_countUp.mp hy).1
    omega

/-- A number that was listed must not come again. -/
theorem not_pairwise_lt_of_mem {l r : List Int} {n : Int} (hn : n ∈ l) :
    ¬ (l ++ n :: r).Pairwise (· < ·) := by
  intro h
  have hlt : n < n := (List.pairwise_append.mp h).2.2 n hn n List.mem_cons_self
  omega

end List
