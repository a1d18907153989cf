import Mathlib.Data.List.Sort

/-! # Association lists

    A map as the list of its entries in the order of the keys.  `set` adds an entry or
    replaces the one with its key; `List.lookup` finds an entry.
-/

namespace Assoc

variable {K V : Type} [LinearOrder K]

/-- An entry, new or in place of the one with its key. -/
def set (m : List (K × V)) (key : K) (v : V) : List (K × V) :=
  (m.filter (·.1 ≠ key)).orderedInsert (fun a b => a.1 ≤ b.1) (key, v)

theorem lookup_cons_ite (k id : K) (v : V) (m : List (K × V)) :
    ((k, v) :: m).lookup id = if id = k then some v else m.lookup id := by
  rw [List.lookup_cons]
  by_cases hid : id = k
  · rw [if_pos hid, beq_iff_eq.mpr hid]
  · rw [if_neg hid, beq_eq_false_iff_ne.mpr hid]

theorem lookup_filter_ne (m : List (K × V)) (key id : K) :
    (m.filter (·.1 ≠ key)).lookup id = if id = key then none else m.lookup id := by
  induction m with
  | nil =>
    show none = if id = key then none else none
    rw [ite_self]
  | cons e m ih =>
    obtain ⟨k, v⟩ := e
    by_cases hk : k = key
    · have hfilter : ((k, v) :: m).filter (·.1 ≠ key) = m.filter (·.1 ≠ key) := by simp [hk]
      rw [hfilter, ih, lookup_cons_ite, hk]
      split_ifs <;> rfl
    · have hfilter : ((k, v) :: m).filter (·.1 ≠ key) = (k, v) :: m.filter (·.1 ≠ key) := by
        simp [hk]
      rw [hfilter, lookup_cons_ite, lookup_cons_ite, ih]
      split_ifs with hid hkey
      · exact absurd (hid.symm.trans hkey) hk
      · rfl
      · rfl
      · rfl

theorem lookup_orderedInsert {m : List (K × V)} {key : K} {v : V}
    (hkey : m.lookup key = none) (id : K) :
    (m.orderedInsert (fun a b => a.1 ≤ b.1) (key, v)).lookup id =
      if id = key then some v else m.lookup id := by
  induction m with
  | nil => rw [List.orderedInsert_nil, lookup_cons_ite]
  | cons e m ih =>
    obtain ⟨k, w⟩ := e
    rw [lookup_cons_ite] at hkey
    split_ifs at hkey with hne
    rw [List.orderedInsert_cons]
    split_ifs with hle hid hid
    · rw [hid, lookup_cons_ite, if_pos rfl]
    · rw [lookup_cons_ite, if_neg hid]
    · -- the key comes later, past the head
      rw [lookup_cons_ite, ih hkey, if_neg (hid ▸ hne), if_pos hid]
    · rw [lookup_cons_ite, lookup_cons_ite, ih hkey, if_neg hid]

theorem lookup_set (m : List (K × V)) (key : K) (v : V) (id : K) :
    (set m key v).lookup id = if id = key then some v else m.lookup id := by
  have hnone : (m.filter (·.1 ≠ key)).lookup key = none := by
    rw [lookup_filter_ne, if_pos rfl]
  rw [set, lookup_orderedInsert hnone, lookup_filter_ne]
  split_ifs <;> rfl

theorem mem_set {m : List (K × V)} {key : K} {v : V}
    {e : K × V} : e ∈ set m key v ↔ e = (key, v) ∨ e ∈ m ∧ e.1 ≠ key := by
  simp [set, List.mem_orderedInsert]

theorem nodup_keys_set {m : List (K × V)} (h : (m.map Prod.fst).Nodup)
    (key : K) (v : V) : ((set m key v).map Prod.fst).Nodup := by
  have hperm : ((set m key v).map Prod.fst).Perm
      (key :: (m.filter (·.1 ≠ key)).map Prod.fst) :=
    (List.perm_orderedInsert _ _ _).map Prod.fst
  rw [hperm.nodup_iff, List.nodup_cons]
  constructor
  · simp
  · exact h.sublist (List.filter_sublist.map Prod.fst)

theorem lookup_isSome_iff (m : List (K × V)) (key : K) :
    (m.lookup key).isSome ↔ key ∈ m.map Prod.fst := by
  induction m with
  | nil => simp
  | cons e m ih =>
    obtain ⟨k, v⟩ := e
    rw [lookup_cons_ite, List.map_cons, List.mem_cons, ← ih]
    split_ifs with hk
    · simp [hk]
    · simp [hk]

theorem mem_of_lookup {m : List (K × V)} {key : K} {v : V}
    (h : m.lookup key = some v) : (key, v) ∈ m := by
  induction m with
  | nil => cases h
  | cons e m ih =>
    obtain ⟨k, w⟩ := e
    rw [lookup_cons_ite] at h
    split_ifs at h with hk
    · rw [hk, Option.some.inj h]
      exact List.mem_cons_self
    · exact List.mem_cons_of_mem _ (ih h)

end Assoc
