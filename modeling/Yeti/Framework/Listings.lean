import Yeti.Framework.Assoc

/-! # Listings

    A map filled by assignments, one after the other.  A field has in the end what the last
    assignment to it gave; a listing may leave out the assignments to some of the fields.
-/

namespace Listing

section Last

variable {K V : Type} [DecidableEq K]

/-- What the last assignment to a field gives. -/
def last (entries : List (K × V)) (key : K) : Option V := entries.reverse.lookup key

@[simp] theorem last_nil (key : K) : last ([] : List (K × V)) key = none := rfl

theorem last_append (entries entries' : List (K × V)) (key : K) :
    last (entries ++ entries') key = (last entries' key).or (last entries key) := by
  unfold last
  rw [List.reverse_append, List.lookup_append]

theorem last_singleton (key' : K) (v : V) (key : K) :
    last [(key', v)] key = if key = key' then some v else none := by
  by_cases hkey : key = key'
  · simp [last, hkey]
  · simp [last, hkey, List.lookup_cons, beq_eq_false_iff_ne.mpr hkey]

theorem last_cons (e : K × V) (entries : List (K × V)) (key : K) :
    last (e :: entries) key = (last entries key).or (if key = e.1 then some e.2 else none) := by
  rw [← List.singleton_append, last_append, last_singleton]

theorem last_eq_none_iff {entries : List (K × V)} {key : K} :
    last entries key = none ↔ key ∉ entries.map Prod.fst := by
  induction entries with
  | nil => simp
  | cons e entries ih =>
    rw [last_cons, Option.or_eq_none_iff, ih, List.map_cons, List.mem_cons, not_or]
    by_cases hkey : key = e.1
    · simp [hkey]
    · simp [hkey]

theorem mem_of_last {entries : List (K × V)} {key : K} {v : V}
    (h : last entries key = some v) : (key, v) ∈ entries := by
  induction entries with
  | nil => simp at h
  | cons e entries ih =>
    rw [last_cons] at h
    cases hlast : last entries key with
    | some w =>
      rw [hlast] at h
      exact List.mem_cons_of_mem _ (ih (hlast.trans h))
    | none =>
      rw [hlast, Option.none_or] at h
      split at h
      · next hkey =>
        have hentry : (key, v) = e := Prod.ext hkey (Option.some.inj h).symm
        exact hentry ▸ List.mem_cons_self
      · contradiction

/-- A field that is always assigned the same has it in the end. -/
theorem last_eq_some_iff {entries : List (K × V)} {key : K} {v : V}
    (hsame : ∀ w, (key, v) ∈ entries → (key, w) ∈ entries → w = v) :
    last entries key = some v ↔ (key, v) ∈ entries := by
  constructor
  · exact mem_of_last
  · intro hmem
    cases hlast : last entries key with
    | none =>
      have hkey : key ∈ entries.map Prod.fst := List.mem_map_of_mem hmem
      exact absurd hkey (last_eq_none_iff.mp hlast)
    | some w => rw [hsame w hmem (mem_of_last hlast)]

/-- Leaving out fields does not change the others. -/
theorem last_filter (p : K → Bool) (entries : List (K × V)) (key : K) :
    last (entries.filter fun e => p e.1) key = if p key then last entries key else none := by
  induction entries with
  | nil => simp
  | cons e entries ih =>
    rw [last_cons, List.filter_cons]
    by_cases hkey : key = e.1
    · subst hkey
      by_cases hp : p e.1
      · simp [hp, last_cons, ih]
      · simp [hp, ih]
    · by_cases hp : p e.1
      · simp [hp, hkey, last_cons, ih]
      · simp [hp, hkey, ih]

end Last

section Assign

variable {K V : Type} [LinearOrder K]

/-- The assignments `m[key] = v` in their order. -/
def assign (m entries : List (K × V)) : List (K × V) :=
  entries.foldl (fun m e => Assoc.set m e.1 e.2) m

theorem lookup_assign (m entries : List (K × V)) (key : K) :
    (assign m entries).lookup key = (last entries key).or (m.lookup key) := by
  induction entries generalizing m with
  | nil => rfl
  | cons e entries ih =>
    have hstep : assign m (e :: entries) = assign (Assoc.set m e.1 e.2) entries := rfl
    rw [hstep, ih, Assoc.lookup_set, last_cons, Option.or_assoc]
    by_cases hkey : key = e.1
    · simp [hkey]
    · simp [hkey]

end Assign

end Listing
