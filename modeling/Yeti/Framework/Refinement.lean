import Yeti.Framework.System

/-! # Refinement between transition systems

    A `System` may be part of a larger one: a component among others, or the abstract
    view of what the larger one does.  `mapped_reachable` carries every run of the large
    system over to the small one along a function on states.

    * Every step is matched by a run of the small system, which may be empty, so that
      steps of the other components are no steps of this one.
    * An invariant of the large system may be used to match a step, and both systems run
      under conditions on their steps.
-/

namespace LTS

universe u v

namespace System

variable {State : Type u} {Label : Type v} {sys : System State Label}

/-- A state that is reached from `s` by steps that meet `ok`. -/
inductive StepsUnder (sys : System State Label) (ok : State → Label → Prop) (s : State) :
    State → Prop where
  | refl : StepsUnder sys ok s s
  | step {t t' : State} (l : Label) :
      StepsUnder sys ok s t → ok t l → sys.next t l = some t' → StepsUnder sys ok s t'

/-- One step. -/
theorem StepsUnder.single {ok : State → Label → Prop} {s s' : State} (l : Label) (hok : ok s l)
    (hnext : sys.next s l = some s') : sys.StepsUnder ok s s' :=
  .step l .refl hok hnext

theorem StepsUnder.trans {ok : State → Label → Prop} {s t u : State}
    (hst : sys.StepsUnder ok s t) (htu : sys.StepsUnder ok t u) : sys.StepsUnder ok s u := by
  induction htu with
  | refl => exact hst
  | step l _ hok hnext ih => exact .step l ih hok hnext

/-- Runs go on. -/
theorem ReachableUnder.append {ok : State → Label → Prop} {s t : State}
    (hs : sys.ReachableUnder ok s) (hst : sys.StepsUnder ok s t) : sys.ReachableUnder ok t := by
  induction hst with
  | refl => exact hs
  | step l _ hok hnext ih => exact .step l ih hok hnext

/-- What holds in all steps that meet a condition holds in those that meet a stronger
    one. -/
theorem ReachableUnder.weaken {ok ok' : State → Label → Prop} (hle : ∀ s l, ok s l → ok' s l)
    {s : State} (h : sys.ReachableUnder ok s) : sys.ReachableUnder ok' s := by
  induction h with
  | init h₀ => exact .init h₀
  | step l _ hok hnext ih => exact .step l ih (hle _ _ hok) hnext

/-- **Refinement**: when every step of a system is matched by a run of another one, the
    states it reaches are mapped to states that the other one reaches. -/
theorem mapped_reachable {State' Label' : Type*} {small : System State' Label'}
    {ok : State → Label → Prop} {ok' : State' → Label' → Prop} (view : State → State')
    (inv : State → Prop) (hinit : ∀ s, sys.init s → inv s ∧ small.init (view s))
    (hstep : ∀ s l s', inv s → ok s l → sys.next s l = some s' →
      inv s' ∧ small.StepsUnder ok' (view s) (view s'))
    {s : State} (h : sys.ReachableUnder ok s) : inv s ∧ small.ReachableUnder ok' (view s) := by
  induction h with
  | init h₀ =>
    obtain ⟨hinv, hsmall⟩ := hinit _ h₀
    exact ⟨hinv, .init hsmall⟩
  | step l _ hok hnext ih =>
    obtain ⟨hinv, hreach⟩ := ih
    obtain ⟨hinv', hsteps⟩ := hstep _ l _ hinv hok hnext
    exact ⟨hinv', hreach.append hsteps⟩

end System

end LTS
