import Mathlib.Data.List.Basic

/-! # Labelled transition systems with computable steps

    A component is a `System`: a set of initial states and a partial step
    function.  `next s l = none` means that label `l` is not enabled in `s`.

    Every reachability notion here is relative to a *condition on steps*
    `ok : State → Label → Prop`, read in the state before the step:

    * `ReachableUnder ok` collects the states reached by runs all of whose
      steps meet `ok`; `Reachable` drops the condition.
    * `invariant_under` is the induction rule for such runs.
    * `runUnder` replays a list of labels, checking `ok` on the way, so that a
      concrete run can be evaluated.
-/

namespace LTS

universe u v

/-- A transition system with a computable, partial step function. -/
structure System (State : Type u) (Label : Type v) where
  init : State → Prop
  next : State → Label → Option State

namespace System

variable {State : Type u} {Label : Type v} (sys : System State Label)

/-! ### Reachability -/

/-- States reached by the runs whose steps all meet `ok`. -/
inductive ReachableUnder (ok : State → Label → Prop) : State → Prop where
  | init {s : State} : sys.init s → ReachableUnder ok s
  | step {s s' : State} (l : Label) :
      ReachableUnder ok s → ok s l → sys.next s l = some s' → ReachableUnder ok s'

/-- States reached by any run. -/
def Reachable (s : State) : Prop := sys.ReachableUnder (fun _ _ => True) s

variable {sys}

/-- **Invariant rule**: a property that holds initially and is preserved by
    every step that meets `ok` holds in every state of every such run. -/
theorem invariant_under {ok : State → Label → Prop} (inv : State → Prop)
    (hinit : ∀ s, sys.init s → inv s)
    (hstep : ∀ s l s', inv s → ok s l → sys.next s l = some s' → inv s')
    {s : State} (h : sys.ReachableUnder ok s) : inv s := by
  induction h with
  | init h₀ => exact hinit _ h₀
  | step l _ hok hnext ih => exact hstep _ l _ ih hok hnext

/-! ### Replaying concrete runs -/

variable (sys)

/-- Replay `ls` from `s`, stopping with `none` at the first label that is not
    enabled or does not meet `ok`. -/
def runUnder (ok : State → Label → Prop) [∀ s l, Decidable (ok s l)] :
    State → List Label → Option State
  | s, [] => some s
  | s, l :: ls =>
    if ok s l then
      match sys.next s l with
      | some s' => runUnder ok s' ls
      | none => none
    else none

variable {sys}

/-- A replay stays within the reachable states. -/
theorem reachableUnder_of_runUnder {ok : State → Label → Prop}
    [∀ s l, Decidable (ok s l)] {s t : State} {ls : List Label}
    (hs : sys.ReachableUnder ok s) (hrun : sys.runUnder ok s ls = some t) :
    sys.ReachableUnder ok t := by
  induction ls generalizing s with
  | nil =>
    simp only [runUnder, Option.some.injEq] at hrun
    exact hrun ▸ hs
  | cons l ls ih =>
    simp only [runUnder] at hrun
    split at hrun
    · next hok =>
      split at hrun
      · next s' hnext => exact ih (.step l hs hok hnext) hrun
      · contradiction
    · contradiction

variable (sys) in
/-- A replay whose end state passes the test `p` reaches a state with `p`. -/
theorem exists_reachableUnder_of_any (ok : State → Label → Prop)
    [∀ s l, Decidable (ok s l)] (p : State → Bool) (s : State) (ls : List Label)
    (hs : sys.init s) (hany : (sys.runUnder ok s ls).any p = true) :
    ∃ t, sys.ReachableUnder ok t ∧ p t = true := by
  cases hrun : sys.runUnder ok s ls with
  | none => simp [hrun] at hany
  | some t =>
    refine ⟨t, reachableUnder_of_runUnder (.init hs) hrun, ?_⟩
    simpa [hrun] using hany

end System

end LTS
