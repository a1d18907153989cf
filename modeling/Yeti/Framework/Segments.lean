import Mathlib.Data.List.Basic
import Mathlib.Data.List.Flatten

/-! # Segments of a list

    `splitAfter sep` cuts a list after every occurrence of `sep`, keeping it at
    the end of its segment.  `Segments sep` describes the lists of lists obtained
    in this way, which are closed under taking sublists: dropping segments never
    merges two others.
-/

namespace Segments

variable {α : Type*} (sep : α)

/-- Cut a list after every `sep`. -/
def splitAfter [DecidableEq α] : List α → List (List α)
  | [] => []
  | c :: cs =>
    if c = sep then [c] :: splitAfter cs
    else
      match splitAfter cs with
      | [] => [[c]]
      | l :: ls => (c :: l) :: ls

/-- Segments that end with their only `sep`; the last one may lack it. -/
inductive IsSegments : List (List α) → Prop where
  | nil : IsSegments []
  | last {l : List α} (hne : l ≠ []) (hsep : sep ∉ l) : IsSegments [l]
  | cons {body : List α} {ls : List (List α)} (hsep : sep ∉ body) (h : IsSegments ls) :
      IsSegments ((body ++ [sep]) :: ls)

variable {sep}

/-- Dropping segments leaves segments. -/
theorem IsSegments.sublist {ls ls' : List (List α)} (h : IsSegments sep ls)
    (hsub : ls'.Sublist ls) : IsSegments sep ls' := by
  induction h generalizing ls' with
  | nil =>
    rw [List.sublist_nil.mp hsub]
    exact .nil
  | last hne hsep =>
    rcases List.sublist_singleton.mp hsub with rfl | rfl
    · exact .nil
    · exact .last hne hsep
  | cons hsep h ih =>
    -- a segment keeps its separator, so dropping the one before it merges nothing
    cases hsub with
    | cons _ hsub => exact ih hsub
    | cons_cons _ hsub => exact .cons hsep (ih hsub)

/-- A segment is not empty. -/
theorem IsSegments.ne_nil {ls : List (List α)} (h : IsSegments sep ls) : ∀ l ∈ ls, l ≠ [] := by
  induction h with
  | nil => simp
  | last hne hsep => simpa using hne
  | cons hsep h ih =>
    intro l hl
    rcases List.mem_cons.mp hl with rfl | hl
    · simp
    · exact ih l hl

/-- There are at least as many elements as segments. -/
theorem IsSegments.length_le_length_flatten {ls : List (List α)} (h : IsSegments sep ls) :
    ls.length ≤ ls.flatten.length := by
  induction h with
  | nil => simp
  | last hne hsep =>
    have := List.length_pos_iff.mpr hne
    simp only [List.length_cons, List.length_nil, List.flatten_cons, List.flatten_nil,
      List.append_nil]
    omega
  | cons hsep h ih =>
    simp only [List.length_cons, List.flatten_cons, List.length_append]
    omega

/-- Two ways of dropping segments leave the same exactly if they drop the same ones. -/
theorem IsSegments.flatten_filter_eq_iff {ls : List (List α)} (h : IsSegments sep ls)
    {p q : List α → Bool} (hpq : ∀ l, p l = true → q l = true) :
    (ls.filter p).flatten = (ls.filter q).flatten ↔ ∀ l ∈ ls, q l = true → p l = true := by
  have hne := h.ne_nil
  clear h
  induction ls with
  | nil => simp
  | cons l ls ih =>
    obtain ⟨hl, hls⟩ := List.forall_mem_cons.mp hne
    rw [List.forall_mem_cons]
    cases hp : p l with
    | true =>
      rw [List.filter_cons_of_pos hp, List.filter_cons_of_pos (hpq l hp), List.flatten_cons,
        List.flatten_cons, List.append_right_inj]
      refine (ih hls).trans ?_
      simp
    | false =>
      rw [List.filter_cons_of_neg (by simp [hp])]
      cases hq : q l with
      | false =>
        rw [List.filter_cons_of_neg (by simp [hq])]
        refine (ih hls).trans ?_
        simp
      | true =>
        -- one more segment on one side makes a longer list
        have hsub : (ls.filter p).flatten.Sublist (ls.filter q).flatten :=
          (List.monotone_filter_right ls hpq).flatten
        have hpos := List.length_pos_iff.mpr hl
        rw [List.filter_cons_of_pos hq, List.flatten_cons]
        refine iff_of_false ?_ (by simp)
        intro heq
        have hlength := congrArg List.length heq
        have hle := hsub.length_le
        rw [List.length_append] at hlength
        omega

variable [DecidableEq α]

theorem isSegments_splitAfter (cs : List α) : IsSegments sep (splitAfter sep cs) := by
  induction cs with
  | nil => exact .nil
  | cons c cs ih =>
    unfold splitAfter
    split_ifs with hc
    · subst hc
      have hbody : c ∉ ([] : List α) := by simp
      exact .cons hbody ih
    · split
      · exact .last (by simp) (by simpa using Ne.symm hc)
      · next l ls heq =>
        rw [heq] at ih
        -- the new element extends the first segment, which may be the last one
        cases ih with
        | last hne hsep => exact .last (by simp) (by simp [hsep, Ne.symm hc])
        | @cons body _ hsep h =>
          have hbody : sep ∉ c :: body := by simp [hsep, Ne.symm hc]
          exact .cons hbody h

@[simp] theorem flatten_splitAfter (cs : List α) : (splitAfter sep cs).flatten = cs := by
  induction cs with
  | nil => rfl
  | cons c cs ih =>
    unfold splitAfter
    split_ifs with hc
    · simp [ih]
    · split
      · next heq =>
        rw [heq] at ih
        simp [← ih]
      · next l ls heq =>
        rw [heq] at ih
        simp [← ih]

/-- A segment put in front. -/
theorem splitAfter_append {body : List α} (hsep : sep ∉ body) (cs : List α) :
    splitAfter sep (body ++ sep :: cs) = (body ++ [sep]) :: splitAfter sep cs := by
  induction body with
  | nil => simp [splitAfter]
  | cons c body ih =>
    obtain ⟨hc, hbody⟩ : sep ≠ c ∧ sep ∉ body := by simpa using hsep
    rw [List.cons_append, splitAfter, if_neg (Ne.symm hc), ih hbody]
    rfl

theorem splitAfter_of_not_mem {l : List α} (hne : l ≠ []) (hsep : sep ∉ l) :
    splitAfter sep l = [l] := by
  induction l with
  | nil => exact absurd rfl hne
  | cons c l ih =>
    obtain ⟨hc, hl⟩ : sep ≠ c ∧ sep ∉ l := by simpa using hsep
    rw [splitAfter, if_neg (Ne.symm hc)]
    cases l with
    | nil => rfl
    | cons c' l => rw [ih (by simp) hl]

/-- Segments are what their concatenation is cut into. -/
theorem IsSegments.splitAfter_flatten {ls : List (List α)} (h : IsSegments sep ls) :
    splitAfter sep ls.flatten = ls := by
  induction h with
  | nil => rfl
  | last hne hsep => simpa using splitAfter_of_not_mem hne hsep
  | cons hsep h ih =>
    rw [List.flatten_cons, List.append_assoc, List.singleton_append, splitAfter_append hsep, ih]

end Segments
