import Yeti.Framework.Occurrences

/-! # Replacement of placeholders

    Model of `ResourceControl::replace` and of its copies in `SBCCallLeg.cpp` and `Cdr.cpp`,
    which put values in the place of `$id`, `$name` and the like.
-/

namespace Yeti.Params

open Occurrences

/-- `s.find(from, pos)`. -/
def findFrom (from_ s : List Char) (pos : Nat) : Option Nat :=
  if pos ≤ s.length then (find from_ (s.drop pos)).map (pos + ·) else none

/-- The `while` loop; none if `fuel` passes do not bring it to its end. -/
def replaceLoop (from_ to_ : List Char) : Nat → List Char → Nat → Option (List Char)
  | 0, _, _ => none
  | fuel + 1, s, pos =>
    match findFrom from_ s pos with
    | none => some s
    | some pos =>
      let s := s.take pos ++ to_ ++ s.drop (pos + from_.length)
      -- `pos += s.length()`, the length of the whole string
      replaceLoop from_ to_ fuel s (pos + s.length)

/-- `replace`, with a pass for every character and one more. -/
def replace (s from_ to_ : List Char) : Option (List Char) :=
  replaceLoop from_ to_ (s.length + 1) s 0

/-- `ResourceControl::replace`. -/
def ResourceControl.replace (s from_ to_ : List Char) : Option (List Char) :=
  Params.replace s from_ to_

/-- `replace` of `SBCCallLeg.cpp`. -/
def SBCCallLeg.replace (s from_ to_ : List Char) : Option (List Char) :=
  Params.replace s from_ to_

/-- `Cdr::replace`. -/
def Cdr.replace (s from_ to_ : List Char) : Option (List Char) :=
  Params.replace s from_ to_

/-- The three copies. -/
def replaceFunctions : List (List Char → List Char → List Char → Option (List Char)) :=
  [ResourceControl.replace, SBCCallLeg.replace, Cdr.replace]

theorem eq_replace_of_mem {f : List Char → List Char → List Char → Option (List Char)}
    (hf : f ∈ replaceFunctions) : f = replace := by
  simp only [replaceFunctions, List.mem_cons, List.not_mem_nil, or_false] at hf
  rcases hf with rfl | rfl | rfl <;> rfl

theorem findFrom_zero (from_ s : List Char) : findFrom from_ s 0 = find from_ s := by
  unfold findFrom
  rw [if_pos (Nat.zero_le _), List.drop_zero]
  cases find from_ s with
  | none => rfl
  | some i => exact congrArg some (Nat.zero_add i)

/-- Nothing is found from the end of the string on. -/
theorem findFrom_of_length_le {from_ : List Char} (hne : from_ ≠ []) {s : List Char} {pos : Nat}
    (hpos : s.length ≤ pos) : findFrom from_ s pos = none := by
  unfold findFrom
  split_ifs
  · rw [List.drop_of_length_le hpos, find, if_neg hne]
    rfl
  · rfl

/-- What the function comes to: the first occurrence is replaced. -/
theorem replace_eq {from_ : List Char} (hne : from_ ≠ []) (s to_ : List Char) :
    replace s from_ to_ =
      some ((find from_ s).elim s fun i => s.take i ++ to_ ++ s.drop (i + from_.length)) := by
  rw [replace, replaceLoop, findFrom_zero]
  cases hfind : find from_ s with
  | none => rfl
  | some i =>
    -- the second pass begins behind the end of the string
    obtain ⟨fuel, hfuel⟩ : ∃ fuel, s.length = fuel + 1 :=
      ⟨s.length - 1, by have := find_lt_length hne hfind; omega⟩
    dsimp only
    rw [hfuel, replaceLoop, findFrom_of_length_le hne (Nat.le_add_left _ _)]
    rfl

/-- **Placeholders.**  Each copy comes to an end, and replaces every occurrence exactly if
    there is one at most, or it is to be replaced by itself. -/
theorem replace_all_iff (f : List Char → List Char → List Char → Option (List Char))
    (hf : f ∈ replaceFunctions) (s from_ to_ : List Char) (hne : from_ ≠ []) :
    f s from_ to_ = some (replaceAll from_ to_ s) ↔ to_ = from_ ∨ AtMostOnce from_ s := by
  rw [eq_replace_of_mem hf, replace_eq hne, Option.some.injEq]
  unfold AtMostOnce
  cases hfind : find from_ s with
  | none =>
    refine iff_of_true (replaceAll_of_find_none hfind).symm (.inr ?_)
    intro i hi
    cases hi
  | some i =>
    -- the loop ends after the first occurrence, so what follows it must stay
    have honce : (∀ j ∈ some i, find from_ (s.drop (j + from_.length)) = none) ↔
        find from_ (s.drop (i + from_.length)) = none := by simp
    rw [honce, Option.elim_some, replaceAll_of_find hne hfind, List.append_assoc,
      List.append_right_inj, List.append_right_inj, eq_comm, replaceAll_eq_self_iff hne]

/-- One placeholder. -/
theorem replace_all_iff_once :
    ResourceControl.replace "id: $id.".toList "$id".toList "17".toList = some "id: 17.".toList := by
  have hiff := replace_all_iff ResourceControl.replace List.mem_cons_self "id: $id.".toList
    "$id".toList "17".toList (by decide)
  refine hiff.mpr (.inr ?_)
  intro i hi
  have hfive : i = 4 := by
    have hfind : find "$id".toList "id: $id.".toList = some 4 := by decide
    exact Option.some.inj (hi.symm.trans hfind)
  rw [hfive]
  decide

/-- The second placeholder stays. -/
theorem not_replace_all_twice :
    ResourceControl.replace "$id/$id".toList "$id".toList "17".toList ≠
      some (replaceAll "$id".toList "17".toList "$id/$id".toList) := by decide

end Yeti.Params
