import Yeti.Params.Scan

/-! # Truncated templates

    Where the expansion reads behind the template.  Two placeholders look further than
    the template may be long: a `$` that is the last character, whose missing letter falls
    into the default case, and a `$H` that is the last placeholder.  Every other read is
    guarded, in the top call and in the calls on bracket contents.
-/

namespace Yeti.Params

variable {L : Library} {env : Env} {s₀ s : List Char} {st₀ : St} {k : Cursor}

/-- The positions that an expansion scans, with the template that is scanned there: the
    given one or the content of a bracket. -/
inductive Reaches (L : Library) (env : Env) (s₀ : List Char) (st₀ : St) :
    List Char → Cursor → Prop where
  | start : Reaches L env s₀ st₀ s₀ { st := st₀ }
  | next {s : List Char} {k k' : Cursor} (h : Reaches L env s₀ st₀ s k) (hp : k.p < s.length)
      (hk : iteration L env (replaceParameters L env) s k = .ok k') : Reaches L env s₀ st₀ s k'
  | content {s br : List Char} {k : Cursor} (h : Reaches L env s₀ st₀ s k)
      (hbr : nextContent L s k = some br) : Reaches L env s₀ st₀ br { st := k.st }

/-- The expansion ends and reads nothing behind the template. -/
def ReadsWithin (L : Library) (env : Env) (s : List Char) (st : St) : Prop :=
  replaceParameters L env s st ≠ .error .out_of_range ∧
    replaceParameters L env s st ≠ .error .unfinished

/-- The only fault is a division by zero. -/
def Harmless {α : Type} (r : Except Fault α) : Prop := ∀ f, r = .error f → f = .division_by_zero

theorem Harmless.ok {α : Type} (a : α) : Harmless (.ok a) := by
  intro f hf
  cases hf

theorem Harmless.division {α : Type} : Harmless (.error .division_by_zero : Except Fault α) := by
  intro f hf
  cases hf
  rfl

theorem overreads_lt (h : Overreads s k) : k.p < s.length :=
  (List.getElem?_eq_some_iff.mp h.1.2).1

theorem nextContent_lt {br : List Char} (h : nextContent L s k = some br) : k.p < s.length := by
  unfold nextContent at h
  split_ifs at h with hat
  exact (List.getElem?_eq_some_iff.mp hat.2).1

/-! ### A read behind the template shows -/

theorem scan_overreads (hL : L.SkipsWithin) (h : Overreads s k) :
    scan L env s k = .error .out_of_range := by
  have hp := overreads_lt h
  rw [scan_step hL hp]
  cases iteration_cases env hL hp with
  | overread hover hit => rw [hit (replaceParameters L env), error_bind]
  | plain hover => exact absurd h hover
  | nested hover => exact absurd h hover

theorem scan_content_fault (hL : L.SkipsWithin) {br : List Char}
    (hbr : nextContent L s k = some br)
    (h : replaceParameters L env br k.st = .error .out_of_range) :
    scan L env s k = .error .out_of_range := by
  have hp := nextContent_lt hbr
  rw [scan_step hL hp]
  cases iteration_cases env hL hp with
  | overread hover hit => rw [hit (replaceParameters L env), error_bind]
  | plain hover hnone => exact absurd (hbr.symm.trans hnone) (by simp)
  | nested hover content hcontent hsize finish hfinish hit =>
    have hsame : content = br := Option.some.inj (hcontent.symm.trans hbr)
    rw [hit (replaceParameters L env), hsame, h, error_bind, error_bind]

theorem fault_of_reaches (hL : L.SkipsWithin) (h : Reaches L env s₀ st₀ s k)
    (hfault : scan L env s k = .error .out_of_range) :
    replaceParameters L env s₀ st₀ = .error .out_of_range := by
  induction h with
  | start => exact hfault
  | next _ hp hk ih =>
    refine ih ?_
    rw [scan_step hL hp, hk, ok_bind]
    exact hfault
  | content _ hbr ih => exact ih (scan_content_fault hL hbr hfault)

/-! ### Nothing else is read behind the template -/

/-- From a reached position on, by induction on the rest of the template. -/
theorem scan_harmless (hL : L.SkipsWithin)
    (hin : ∀ s k, Reaches L env s₀ st₀ s k → AtPlaceholder s k → InBounds s (k.p + 1))
    (h : Reaches L env s₀ st₀ s k) : Harmless (scan L env s k) := by
  induction hn : s.length - k.p using Nat.strongRecOn generalizing s k with
  | ind n ih =>
    by_cases hp : k.p < s.length
    · rw [scan_step hL hp]
      cases iteration_cases env hL hp with
      | overread hover => exact absurd (hin s k h hover.1) hover.2
      | plain hover hbr k' hk' hit =>
        -- the same template, further on
        have hreach : Reaches L env s₀ st₀ s k' := .next h hp (hit _)
        rw [hit (replaceParameters L env), ok_bind]
        exact ih (s.length - k'.p) (by omega) hreach rfl
      | nested hover content hbr hsize finish hfinish hit =>
        -- the content is reached too, and shorter
        have hinner : Harmless (scan L env content { st := k.st }) :=
          ih content.length (by omega) (.content h hbr) rfl
        rw [hit (replaceParameters L env)]
        cases hr : replaceParameters L env content k.st with
        | error f =>
          have hf : f = .division_by_zero := hinner f hr
          rw [error_bind, error_bind, hf]
          exact .division
        | ok r =>
          rw [ok_bind]
          rcases hfinish r with ⟨k', hk', hprogress⟩ | hdiv
          · have hstep : iteration L env (replaceParameters L env) s k = .ok k' := by
              rw [hit (replaceParameters L env), hr, ok_bind, hk']
            rw [hk', ok_bind]
            exact ih (s.length - k'.p) (by omega) (.next h hp hstep) rfl
          · rw [hdiv, error_bind]
            exact .division
    · rw [scan_done hp]
      exact .ok _

/-- Template expansion reads within its template exactly if every placeholder that it comes
    to has its letter, and a letter `H` something behind it. -/
theorem reads_within_template_iff (L : Library) (hL : L.SkipsWithin) (env : Env)
    (s : List Char) (st : St) :
    ReadsWithin L env s st ↔
      ∀ s' k, Reaches L env s st s' k → AtPlaceholder s' k → InBounds s' (k.p + 1) := by
  constructor
  · intro hwithin s' k hreach hat
    by_contra hover
    exact hwithin.1 (fault_of_reaches hL hreach (scan_overreads hL ⟨hat, hover⟩))
  · intro hin
    have hharmless : Harmless (replaceParameters L env s st) := scan_harmless hL hin .start
    constructor
    · intro hfault
      cases hharmless _ hfault
    · intro hfault
      cases hharmless _ hfault

theorem reads_within_template_iff_small :
    ReadsWithin .small .small "$fU".toList {} ↔
      ∀ s' k, Reaches .small .small "$fU".toList {} s' k → AtPlaceholder s' k →
        InBounds s' (k.p + 1) :=
  reads_within_template_iff .small Library.small_skipsWithin .small "$fU".toList {}

/-- A `$H` at the end of a template is looked at two characters further. -/
theorem not_reads_within_template_H :
    ¬∀ (L : Library) (env : Env) (s : List Char) (st : St), L.SkipsWithin →
      ReadsWithin L env s st := by
  intro hall
  have hwithin := hall .small .small "$H".toList {} Library.small_skipsWithin
  exact hwithin.1 rfl

end Yeti.Params
