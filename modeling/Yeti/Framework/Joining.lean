import Mathlib.Data.List.TakeWhile

/-! # Items joined with a separator

    The loop that joins items one after the other and puts the separator before an
    item as soon as something is there already.  Empty items are joined as well, so
    they leave separators behind unless they come first.
-/

namespace Joining

variable {α : Type*}

/-- One more item, after a separator if it is not the first. -/
def add (sep : α) (ret item : List α) : List α :=
  (if ret.isEmpty then ret else ret ++ [sep]) ++ item

/-- No empty item comes after one that is not. -/
def NoGap (items : List (List α)) : Prop :=
  ∀ item ∈ items.dropWhile List.isEmpty, item ≠ []

instance [DecidableEq α] : DecidablePred (NoGap (α := α)) := fun items =>
  inferInstanceAs (Decidable (∀ item ∈ items.dropWhile List.isEmpty, item ≠ []))

@[simp] theorem add_nil (sep : α) (item : List α) : add sep [] item = item := rfl

theorem add_of_ne_nil {sep : α} {ret : List α} (h : ret ≠ []) (item : List α) :
    add sep ret item = ret ++ sep :: item := by
  unfold add
  rw [if_neg (by simpa using h), List.append_assoc]
  rfl

theorem foldl_add_of_ne_nil {sep : α} {ret : List α} (h : ret ≠ []) (items : List (List α)) :
    items.foldl (add sep) ret = ret ++ items.flatMap (sep :: ·) := by
  induction items generalizing ret with
  | nil => exact (List.append_nil ret).symm
  | cons item items ih =>
    rw [List.foldl_cons, add_of_ne_nil h, ih (by simp), List.flatMap_cons, List.append_assoc]

theorem intercalate_cons (sep : α) (item : List α) (items : List (List α)) :
    [sep].intercalate (item :: items) = item ++ items.flatMap (sep :: ·) := by
  induction items generalizing item with
  | nil => simp
  | cons next items ih =>
    rw [List.intercalate_cons_cons, ih, List.flatMap_cons, List.append_assoc]
    rfl

/-- The loop joins the items without the empty ones at the front. -/
theorem foldl_add_nil (sep : α) (items : List (List α)) :
    items.foldl (add sep) [] = [sep].intercalate (items.dropWhile List.isEmpty) := by
  induction items with
  | nil => rfl
  | cons item items ih =>
    rw [List.foldl_cons, add_nil]
    cases item with
    | nil => exact ih
    | cons a item =>
      rw [foldl_add_of_ne_nil (List.cons_ne_nil a item), List.dropWhile_cons_of_neg (by simp),
        intercalate_cons]

/-- The empty items cost a separator each. -/
theorem length_flatMap_filter (sep : α) (items : List (List α)) :
    (items.flatMap (sep :: ·)).length =
      ((items.filter (!·.isEmpty)).flatMap (sep :: ·)).length + items.countP List.isEmpty := by
  induction items with
  | nil => rfl
  | cons item items ih =>
    rw [List.flatMap_cons, List.length_append, ih]
    cases item with
    | nil =>
      rw [List.filter_cons_of_neg (by simp), List.countP_cons_of_pos (by simp), List.length_singleton]
      omega
    | cons a item =>
      rw [List.filter_cons_of_pos (by simp), List.countP_cons_of_neg (by simp), List.flatMap_cons,
        List.length_append]
      omega

theorem filter_dropWhile_isEmpty (items : List (List α)) :
    (items.dropWhile List.isEmpty).filter (!·.isEmpty) = items.filter (!·.isEmpty) := by
  induction items with
  | nil => rfl
  | cons item items ih =>
    cases item with
    | nil => exact ih
    | cons a item => rw [List.dropWhile_cons_of_neg (by simp)]

/-- The loop joins the items that are not empty exactly if there is no gap. -/
theorem foldl_add_eq_iff (sep : α) (items : List (List α)) :
    items.foldl (add sep) [] = [sep].intercalate (items.filter (!·.isEmpty)) ↔ NoGap items := by
  rw [foldl_add_nil, ← filter_dropWhile_isEmpty, NoGap]
  have hfirst := List.head?_dropWhile_not List.isEmpty items
  cases hitems : items.dropWhile List.isEmpty with
  | nil => simp
  | cons item rest =>
    rw [hitems] at hfirst
    have hitem : item.isEmpty = false := by simpa using hfirst
    rw [List.filter_cons_of_pos (by simpa using hitem), intercalate_cons, intercalate_cons,
      List.append_cancel_left_eq, List.forall_mem_cons]
    have hlength := length_flatMap_filter sep rest
    constructor
    · intro heq
      rw [heq] at hlength
      have hcount : rest.countP List.isEmpty = 0 := by omega
      refine ⟨by simpa using hitem, ?_⟩
      intro other hother hempty
      exact List.countP_eq_zero.mp hcount other hother (by simp [hempty])
    · rintro ⟨-, hrest⟩
      have hfilter : rest.filter (!·.isEmpty) = rest := by
        rw [List.filter_eq_self]
        intro other hother
        simpa using hrest other hother
      rw [hfilter]

/-- Joined items that are not empty are nothing only if there are none. -/
theorem intercalate_eq_nil_iff (sep : α) (items : List (List α)) :
    [sep].intercalate (items.filter (!·.isEmpty)) = [] ↔ ∀ item ∈ items, item = [] := by
  cases hitems : items.filter (!·.isEmpty) with
  | nil => simpa using hitems
  | cons item rest =>
    have hmem : item ∈ items.filter (!·.isEmpty) := hitems ▸ List.mem_cons_self
    obtain ⟨hin, hitem⟩ := List.mem_filter.mp hmem
    have hne : item ≠ [] := by simpa using hitem
    rw [intercalate_cons]
    refine iff_of_false (by simp [hne]) ?_
    intro h
    exact hne (h item hin)

theorem noGap_of_forall_eq_nil {items : List (List α)} (h : ∀ item ∈ items, item = []) :
    NoGap items := by
  have hnone : items.dropWhile List.isEmpty = [] := by
    rw [List.dropWhile_eq_nil_iff]
    intro item hitem
    simp [h item hitem]
  intro item hitem
  rw [hnone] at hitem
  cases hitem

end Joining
