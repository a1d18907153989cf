import Mathlib.Data.List.AList

/-! # Sweeps over association lists

    One pass over a map that keeps, changes or drops each entry on its own.
-/

namespace AList

universe u v

variable {α : Type u} {β : α → Type v}

/-! ### Lists of entries -/

/-- One pass over a list of entries. -/
def sweepEntries (f : ∀ a, β a → Option (β a)) (l : List (Sigma β)) : List (Sigma β) :=
  l.filterMap fun e => (f e.1 e.2).map (Sigma.mk e.1)

theorem sweepEntries_cons_none {f : ∀ a, β a → Option (β a)} {a : α} {b : β a}
    (h : f a b = none) (l : List (Sigma β)) :
    sweepEntries f (⟨a, b⟩ :: l) = sweepEntries f l := by
  simp [sweepEntries, h]

theorem sweepEntries_cons_some {f : ∀ a, β a → Option (β a)} {a : α} {b b' : β a}
    (h : f a b = some b') (l : List (Sigma β)) :
    sweepEntries f (⟨a, b⟩ :: l) = ⟨a, b'⟩ :: sweepEntries f l := by
  simp [sweepEntries, h]

theorem keys_sweepEntries_sublist (f : ∀ a, β a → Option (β a)) (l : List (Sigma β)) :
    (sweepEntries f l).keys.Sublist l.keys := by
  induction l with
  | nil => exact List.Sublist.refl _
  | cons e l ih =>
    obtain ⟨a, b⟩ := e
    rcases hf : f a b with _ | b'
    · rw [sweepEntries_cons_none hf, List.keys_cons]
      exact ih.cons a
    · rw [sweepEntries_cons_some hf, List.keys_cons, List.keys_cons]
      exact ih.cons_cons a

/-! ### Maps -/

/-- One pass over a map. -/
def sweep (f : ∀ a, β a → Option (β a)) (s : AList β) : AList β where
  entries := sweepEntries f s.entries
  nodupKeys := List.Nodup.sublist (keys_sweepEntries_sublist f s.entries) s.nodupKeys

variable [DecidableEq α]

theorem dlookup_sweepEntries (f : ∀ a, β a → Option (β a)) (a : α) {l : List (Sigma β)}
    (hl : l.NodupKeys) :
    (sweepEntries f l).dlookup a = (l.dlookup a).bind (f a) := by
  induction l with
  | nil => rfl
  | cons e l ih =>
    obtain ⟨k, b⟩ := e
    have hnodup := List.nodupKeys_cons.mp hl
    have ih := ih hnodup.2
    by_cases hk : a = k
    · subst hk
      -- the key is not found again further on
      have hrest : (sweepEntries f l).dlookup a = none := by
        rw [ih, List.dlookup_eq_none.mpr hnodup.1]
        rfl
      rw [List.dlookup_cons_eq]
      rcases hf : f a b with _ | b'
      · rw [sweepEntries_cons_none hf, hrest]
        exact hf.symm
      · rw [sweepEntries_cons_some hf, List.dlookup_cons_eq]
        exact hf.symm
    · -- another key: its entry may go or stay, the lookup passes it
      rw [List.dlookup_cons_ne l ⟨k, b⟩ hk]
      rcases hf : f k b with _ | b'
      · rw [sweepEntries_cons_none hf, ih]
      · rw [sweepEntries_cons_some hf, List.dlookup_cons_ne _ ⟨k, b'⟩ hk, ih]

/-- An entry after the pass comes from the entry of the same key. -/
theorem lookup_sweep (f : ∀ a, β a → Option (β a)) (s : AList β) (a : α) :
    (s.sweep f).lookup a = (s.lookup a).bind (f a) :=
  dlookup_sweepEntries f a s.nodupKeys

end AList
