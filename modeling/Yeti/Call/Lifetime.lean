import Yeti.Framework.System

/-! # Lifetime of the call context

    The legs of a call share one `CallCtx`, which counts them by hand: the count is
    changed when the context is created (`onIdentityReady`), when a B leg is made
    from a leg that holds it, when a B leg accepts a REFER and forgets about it, and
    when a leg is destroyed.  The leg that drops the count to zero in
    `onBeforeDestroy` puts the resources, writes the last CDR and deletes the
    context; a REFER only drops the count.
-/

open LTS

namespace Yeti.Call

/-! ### State -/

/-- A leg, as far as the context goes. -/
structure Leg where
  a_leg : Bool
  /-- `call_ctx` is not null. -/
  call_ctx : Bool
  destroyed : Bool := false
  deriving DecidableEq, Repr

/-- The legs of one call with their context. -/
structure SharedCtx where
  legs : List Leg
  created : Bool := false
  /-- `CallCtx::references`. -/
  references : Nat := 0
  /-- The `resource_handler` of the current profile, if there is one. -/
  current_profile : Option String := none
  /-- The handlers given to `rctl.put` by `onBeforeDestroy`. -/
  puts : List String := []
  /-- How often `router.write_cdr(cdr, true)` was called. -/
  lastCdrs : Nat := 0
  /-- How often the context was deleted. -/
  deletes : Nat := 0
  /-- A leg has used the context after it was deleted. -/
  usedAfterDelete : Bool := false
  deriving DecidableEq, Repr

namespace SharedCtx

/-- The legs that hold the context. -/
def holders (s : SharedCtx) : Nat := s.legs.countP (·.call_ctx)

/-- A leg uses the context through its pointer. -/
def use (s : SharedCtx) : SharedCtx :=
  { s with usedAfterDelete := s.usedAfterDelete || s.deletes ≠ 0 }

/-! ### Steps -/

/-- `SBCCallLeg::onIdentityReady` of the A leg `i`. -/
def onIdentityReady (s : SharedCtx) (i : Nat) (leg : Leg) : SharedCtx :=
  { s with
    created := true
    -- the constructor of `CallCtx` sets the count, for the leg that has made it
    references := 1
    legs := s.legs.set i { leg with call_ctx := true } }

/-- The constructor of a B leg from a leg that holds the context. -/
def newBLeg (s : SharedCtx) : SharedCtx :=
  let s := s.use
  { s with
    references := s.references + 1
    legs := s.legs ++ [{ a_leg := false, call_ctx := true }] }

/-- `onSipRequest` accepts a REFER on the B leg `i`. -/
def refer (s : SharedCtx) (i : Nat) (leg : Leg) : SharedCtx :=
  let s := s.use
  { s with
    -- only the count goes down: the source logs a possible leak when it reaches zero
    references := s.references - 1
    legs := s.legs.set i { leg with call_ctx := false } }

/-- `SBCCallLeg::onBeforeDestroy` of the leg `i`. -/
def onBeforeDestroy (s : SharedCtx) (i : Nat) (leg : Leg) : SharedCtx :=
  if !leg.call_ctx then { s with legs := s.legs.set i { leg with destroyed := true } }
  else
    let s := s.use
    let s := if s.references ≠ 0 then { s with references := s.references - 1 } else s
    let s :=
      if s.references = 0 then
        { s with
          puts := s.puts ++ s.current_profile.toList
          lastCdrs := s.lastCdrs + 1
          deletes := s.deletes + 1 }
      else s
    { s with legs := s.legs.set i { leg with call_ctx := false, destroyed := true } }

/-- Labels of the shared context; `i` is the leg that makes the step. -/
inductive Label where
  | onIdentityReady (i : Nat)
  /-- The current profile of the context changes. -/
  | profile (i : Nat) (resource_handler : String)
  | newBLeg (i : Nat)
  /-- A REFER request; it is accepted when it passes the checks of its headers and
      of the transfer options of the leg. -/
  | refer (i : Nat) (accepted : Bool)
  | onBeforeDestroy (i : Nat)
  deriving DecidableEq, Repr

/-- One step, made by a leg that is not destroyed yet. -/
def next (s : SharedCtx) (l : Label) : Option SharedCtx :=
  match l with
  | .onIdentityReady i =>
    match s.legs[i]? with
    | some leg =>
      if leg.destroyed || !leg.a_leg || s.created then none else some (s.onIdentityReady i leg)
    | none => none
  | .profile i resource_handler =>
    match s.legs[i]? with
    | some leg =>
      if leg.destroyed || !leg.call_ctx then none
      else some { s.use with current_profile := some resource_handler }
    | none => none
  | .newBLeg i =>
    match s.legs[i]? with
    | some leg => if leg.destroyed || !leg.call_ctx then none else some s.newBLeg
    | none => none
  | .refer i accepted =>
    match s.legs[i]? with
    | some leg =>
      if leg.destroyed then none
      -- without a context the request is passed on, and an A leg refuses it
      else if !leg.call_ctx || leg.a_leg || !accepted then some s
      else some (s.refer i leg)
    | none => none
  | .onBeforeDestroy i =>
    match s.legs[i]? with
    | some leg => if leg.destroyed then none else some (s.onBeforeDestroy i leg)
    | none => none

/-- The call starts with its A leg. -/
def started : SharedCtx where
  legs := [{ a_leg := true, call_ctx := false }]

/-- The shared context as a system. -/
def system : System SharedCtx Label where
  init s := s = started
  next := next

/-! ### The invariant -/

/-- A REFER is not accepted by the leg that holds the last reference. -/
def NotLast (s : SharedCtx) : Label → Prop
  | .refer i accepted =>
    accepted = true → (s.legs[i]?.any fun leg => leg.call_ctx && !leg.a_leg) = true →
      s.references ≠ 1
  | _ => True

instance (s : SharedCtx) : (l : Label) → Decidable (s.NotLast l)
  | .refer _ _ => inferInstanceAs (Decidable (_ → _ → _))
  | .onIdentityReady _ => .isTrue trivial
  | .profile _ _ => .isTrue trivial
  | .newBLeg _ => .isTrue trivial
  | .onBeforeDestroy _ => .isTrue trivial

/-- The last-owner duties have been done `n` times. -/
structure Released (s : SharedCtx) (n : Nat) : Prop where
  deletes : s.deletes = n
  lastCdrs : s.lastCdrs = n
  puts : s.puts = (List.replicate n s.current_profile.toList).flatten

/-- The count is right, and the context is deleted when nobody holds it any more. -/
structure Inv (s : SharedCtx) : Prop where
  count : s.references = s.holders
  unused : s.usedAfterDelete = false
  destroyed : ∀ leg ∈ s.legs, leg.destroyed = true → leg.call_ctx = false
  notCreated : s.created = false → s.holders = 0
  released : s.Released (if s.created = true ∧ s.holders = 0 then 1 else 0)

variable {s : SharedCtx} {i : Nat} {leg : Leg}

theorem Inv.started : SharedCtx.started.Inv :=
  ⟨rfl, rfl, by decide, fun _ => rfl, ⟨rfl, rfl, rfl⟩⟩

/-- Replacing a leg changes the number of holders by that leg. -/
theorem countP_set (hleg : s.legs[i]? = some leg) (leg' : Leg) :
    (s.legs.set i leg').countP (·.call_ctx) + (if leg.call_ctx then 1 else 0) =
      s.holders + (if leg'.call_ctx then 1 else 0) := by
  obtain ⟨hi, hget⟩ := List.getElem?_eq_some_iff.mp hleg
  -- the library lemma subtracts, so the leg that goes must be known to be counted
  have hset := List.countP_set (p := fun l : Leg => l.call_ctx) (a := leg') hi
  rw [hget] at hset
  have hle : (if leg.call_ctx then 1 else 0) ≤ s.holders := by
    split
    · next hctx =>
      have hmem := List.mem_of_getElem? hleg
      exact List.countP_pos_iff.mpr ⟨leg, hmem, hctx⟩
    · exact Nat.zero_le _
  unfold holders at hle ⊢
  omega

/-- A leg that holds the context is one of the holders. -/
theorem holders_pos (hleg : s.legs[i]? = some leg) (hctx : leg.call_ctx = true) :
    0 < s.holders :=
  List.countP_pos_iff.mpr ⟨leg, List.mem_of_getElem? hleg, hctx⟩

/-- While a leg holds it, the context exists and has not been deleted. -/
theorem Inv.alive (h : s.Inv) (hpos : 0 < s.holders) :
    s.created = true ∧ s.Released 0 := by
  have hcreated : s.created = true := by
    by_contra hc
    have := h.notCreated (by simpa using hc)
    omega
  have hrel := h.released
  rw [if_neg (by omega)] at hrel
  exact ⟨hcreated, hrel⟩

/-- Using a context that is held does no harm. -/
theorem Inv.use_eq (h : s.Inv) (hpos : 0 < s.holders) : s.use = s := by
  obtain ⟨-, hrel⟩ := h.alive hpos
  have hused : (s.usedAfterDelete || decide (s.deletes ≠ 0)) = s.usedAfterDelete := by
    simp [hrel.deletes]
  unfold use
  rw [hused]

/-- Destroyed legs hold nothing, also after a leg was replaced by one that keeps to this. -/
theorem Inv.destroyed_set (h : s.Inv) {leg' : Leg}
    (hleg' : leg'.destroyed = true → leg'.call_ctx = false) :
    ∀ l ∈ s.legs.set i leg', l.destroyed = true → l.call_ctx = false := by
  intro l hl
  rcases List.mem_or_eq_of_mem_set hl with hl | rfl
  · exact h.destroyed l hl
  · exact hleg'

/-! ### Every step -/

theorem inv_onIdentityReady (h : s.Inv) (hleg : s.legs[i]? = some leg)
    (hlive : leg.destroyed = false) (hnew : s.created = false) :
    (s.onIdentityReady i leg).Inv := by
  have hzero := h.notCreated hnew
  have hctx : leg.call_ctx = false := by
    by_contra hc
    have := holders_pos hleg (by simpa using hc)
    omega
  have hholders : (s.onIdentityReady i leg).holders = 1 := by
    have := countP_set hleg { leg with call_ctx := true }
    simp only [hctx, hzero] at this
    simpa [holders, onIdentityReady] using this
  -- a context that was not created has not been released either, and now has a holder
  have hrel := h.released
  rw [if_neg (by simp [hnew])] at hrel
  refine ⟨hholders.symm, h.unused, ?_, fun hc => ?_, ?_⟩
  · exact h.destroyed_set fun hd => by simp [hlive] at hd
  · simp [onIdentityReady] at hc
  · rw [if_neg (by omega)]
    exact ⟨hrel.deletes, hrel.lastCdrs, hrel.puts⟩

theorem inv_profile (h : s.Inv) (hpos : 0 < s.holders) (resource_handler : String) :
    { s.use with current_profile := some resource_handler }.Inv := by
  rw [h.use_eq hpos]
  obtain ⟨hcreated, hrel⟩ := h.alive hpos
  have hputs : s.puts = [] := hrel.puts
  -- nothing was put yet, so it does not matter that the profile changes
  refine ⟨h.count, h.unused, h.destroyed, h.notCreated, ?_⟩
  show Released _ (if s.created = true ∧ s.holders = 0 then 1 else 0)
  rw [if_neg (by omega)]
  exact ⟨hrel.deletes, hrel.lastCdrs, hputs⟩

theorem inv_newBLeg (h : s.Inv) (hpos : 0 < s.holders) : s.newBLeg.Inv := by
  obtain ⟨hcreated, hrel⟩ := h.alive hpos
  have hholders : s.newBLeg.holders = s.holders + 1 := by
    simp [newBLeg, holders, use]
  unfold newBLeg at hholders ⊢
  rw [h.use_eq hpos] at hholders ⊢
  refine ⟨?_, h.unused, ?_, fun hc => ?_, ?_⟩
  · rw [hholders, ← h.count]
  · intro l hl
    rcases List.mem_append.mp hl with hl | hl
    · exact h.destroyed l hl
    · rw [List.mem_singleton.mp hl]
      simp
  · exact absurd hcreated (by simpa using hc)
  · rw [if_neg (by omega)]
    exact ⟨hrel.deletes, hrel.lastCdrs, hrel.puts⟩

theorem inv_refer (h : s.Inv) (hleg : s.legs[i]? = some leg) (hctx : leg.call_ctx = true)
    (hlast : s.references ≠ 1) : (s.refer i leg).Inv := by
  have hpos := holders_pos hleg hctx
  obtain ⟨hcreated, hrel⟩ := h.alive hpos
  have hcount := h.count
  have hholders : (s.refer i leg).holders + 1 = s.holders := by
    have := countP_set hleg { leg with call_ctx := false }
    simpa [hctx, holders, refer, use] using this
  unfold refer at hholders ⊢
  rw [h.use_eq hpos] at hholders ⊢
  refine ⟨?_, h.unused, ?_, fun hc => ?_, ?_⟩
  · -- truncation is harmless: the leg itself is counted
    show s.references - 1 = _
    omega
  · exact h.destroyed_set fun _ => rfl
  · exact absurd hcreated (by simpa using hc)
  · rw [if_neg (by omega)]
    exact ⟨hrel.deletes, hrel.lastCdrs, hrel.puts⟩

theorem inv_onBeforeDestroy (h : s.Inv) (hleg : s.legs[i]? = some leg) :
    (s.onBeforeDestroy i leg).Inv := by
  have hcount := h.count
  cases hctx : leg.call_ctx with
  | false =>
    -- the leg has no context: nothing but the leg changes
    have hholders : (s.onBeforeDestroy i leg).holders = s.holders := by
      have := countP_set hleg { leg with destroyed := true }
      simpa [hctx, holders, onBeforeDestroy] using this
    unfold onBeforeDestroy at hholders ⊢
    rw [if_pos (by simp [hctx])] at hholders ⊢
    refine ⟨hcount.trans hholders.symm, h.unused, ?_, fun hc => ?_, ?_⟩
    · exact h.destroyed_set fun _ => hctx
    · rw [hholders]
      exact h.notCreated hc
    · rw [hholders]
      exact ⟨h.released.deletes, h.released.lastCdrs, h.released.puts⟩
  | true =>
    have hpos := holders_pos hleg hctx
    obtain ⟨hcreated, hrel⟩ := h.alive hpos
    have hputs : s.puts = [] := hrel.puts
    have hset := countP_set hleg { leg with call_ctx := false, destroyed := true }
    simp only [hctx, if_true, Bool.false_eq_true, if_false, Nat.add_zero] at hset
    unfold onBeforeDestroy
    rw [if_neg (by simp [hctx]), h.use_eq hpos]
    have href : s.references ≠ 0 := by omega
    simp only [href, ne_eq, not_false_eq_true, if_true]
    split
    · next hlast =>
      -- the last leg does the duties of the owner
      refine ⟨?_, h.unused, ?_, fun hc => ?_, ?_⟩
      · show s.references - 1 = (s.legs.set i _).countP _
        omega
      · exact h.destroyed_set fun _ => rfl
      · exact absurd hcreated (by simpa using hc)
      · rw [if_pos ⟨hcreated, by show (s.legs.set i _).countP _ = 0; omega⟩]
        refine ⟨?_, ?_, ?_⟩
        · show s.deletes + 1 = 1
          rw [hrel.deletes]
        · show s.lastCdrs + 1 = 1
          rw [hrel.lastCdrs]
        · show s.puts ++ s.current_profile.toList = _
          rw [hputs]
          simp
    · next hmore =>
      refine ⟨?_, h.unused, ?_, fun hc => ?_, ?_⟩
      · show s.references - 1 = (s.legs.set i _).countP _
        omega
      · exact h.destroyed_set fun _ => rfl
      · exact absurd hcreated (by simpa using hc)
      · rw [if_neg (by
          rintro ⟨-, hz⟩
          change (s.legs.set i _).countP _ = 0 at hz
          omega)]
        exact ⟨hrel.deletes, hrel.lastCdrs, hrel.puts⟩

/-- The steps of a leg that must hold the context. -/
theorem holding_of_next {s' t : SharedCtx}
    (hnext : (match s.legs[i]? with
      | some leg => if leg.destroyed || !leg.call_ctx then none else some t
      | none => none) = some s') :
    ∃ leg, s.legs[i]? = some leg ∧ leg.call_ctx = true ∧ t = s' := by
  split at hnext
  · next leg hleg =>
    split at hnext
    · contradiction
    · next hguard =>
      simp only [Bool.or_eq_true, Bool.not_eq_true', not_or, Bool.not_eq_false] at hguard
      exact ⟨leg, hleg, hguard.2, Option.some.inj hnext⟩
  · contradiction

theorem inv_next {s' : SharedCtx} {l : Label} (h : s.Inv) (hok : s.NotLast l)
    (hnext : s.next l = some s') : s'.Inv := by
  cases l with
  | onIdentityReady i =>
    simp only [next] at hnext
    split at hnext
    · next leg hleg =>
      split at hnext
      · contradiction
      · next hguard =>
        simp only [Bool.or_eq_true, Bool.not_eq_true', not_or, Bool.not_eq_true] at hguard
        rw [← Option.some.inj hnext]
        exact inv_onIdentityReady h hleg hguard.1.1 hguard.2
    · contradiction
  | profile i resource_handler =>
    obtain ⟨leg, hleg, hctx, rfl⟩ := holding_of_next hnext
    exact inv_profile h (holders_pos hleg hctx) resource_handler
  | newBLeg i =>
    obtain ⟨leg, hleg, hctx, rfl⟩ := holding_of_next hnext
    exact inv_newBLeg h (holders_pos hleg hctx)
  | refer i accepted =>
    simp only [next] at hnext
    split at hnext
    · next leg hleg =>
      split at hnext
      · contradiction
      · split at hnext
        · rw [← Option.some.inj hnext]
          exact h
        · next hguard =>
          simp only [Bool.or_eq_true, Bool.not_eq_true', not_or, Bool.not_eq_false,
            Bool.not_eq_true] at hguard
          obtain ⟨⟨hctx, ha⟩, hacc⟩ := hguard
          rw [← Option.some.inj hnext]
          have hlast : s.references ≠ 1 := hok hacc (by simp [hleg, hctx, ha])
          exact inv_refer h hleg hctx hlast
    · contradiction
  | onBeforeDestroy i =>
    simp only [next] at hnext
    split at hnext
    · next leg hleg =>
      split at hnext
      · contradiction
      · rw [← Option.some.inj hnext]
        exact inv_onBeforeDestroy h hleg
    · contradiction

theorem inv_of_reachable (h : system.ReachableUnder NotLast s) : s.Inv := by
  refine System.invariant_under Inv ?_ (fun _ _ _ => inv_next) h
  rintro _ rfl
  exact Inv.started

/-! ### Whole runs -/

/-- What the count is for: it is the number of legs that hold the context, nobody
    uses a deleted context, and a call all of whose legs are gone has deleted its
    context once, after it has put the resources of the current profile and written
    the last CDR. -/
structure Sound (s : SharedCtx) : Prop where
  references : s.references = s.holders
  unused : s.usedAfterDelete = false
  ended : s.created = true → (∀ leg ∈ s.legs, leg.destroyed = true) →
    s.deletes = 1 ∧ s.puts = s.current_profile.toList ∧ s.lastCdrs = 1

instance (s : SharedCtx) : Decidable s.Sound :=
  decidable_of_iff (s.references = s.holders ∧ s.usedAfterDelete = false ∧
      (s.created = true → (∀ leg ∈ s.legs, leg.destroyed = true) →
        s.deletes = 1 ∧ s.puts = s.current_profile.toList ∧ s.lastCdrs = 1))
    ⟨fun ⟨h₁, h₂, h₃⟩ => ⟨h₁, h₂, h₃⟩, fun ⟨h₁, h₂, h₃⟩ => ⟨h₁, h₂, h₃⟩⟩

/-- When no REFER gives away the last reference, the lifetime of the context is
    sound in every state of the run. -/
theorem sound_of_notLast (s : SharedCtx) (h : system.ReachableUnder NotLast s) : s.Sound := by
  have hinv := inv_of_reachable h
  refine ⟨hinv.count, hinv.unused, fun hcreated hall => ?_⟩
  -- a destroyed leg holds nothing, so a call without legs has no holder left
  have hzero : s.holders = 0 := by
    refine List.countP_eq_zero.mpr fun leg hleg => ?_
    simp [hinv.destroyed leg hleg (hall leg hleg)]
  have hrel := hinv.released
  rw [if_pos ⟨hcreated, hzero⟩] at hrel
  exact ⟨hrel.deletes, by simpa using hrel.puts, hrel.lastCdrs⟩

/-- A call of two legs that both end. -/
def twoLegs : List Label :=
  [.onIdentityReady 0, .profile 0 "gw", .newBLeg 0, .onBeforeDestroy 0, .onBeforeDestroy 1]

theorem sound_of_notLast_twoLegs :
    ∃ s, (system.runUnder NotLast started twoLegs) = some s ∧ s.Sound ∧ s.deletes = 1 := by
  have hrun : (system.runUnder NotLast started twoLegs).isSome = true := by decide
  obtain ⟨s, hs⟩ := Option.isSome_iff_exists.mp hrun
  have hreach := System.reachableUnder_of_runUnder (.init rfl) hs
  have hdel : ((system.runUnder NotLast started twoLegs).map (·.deletes)) = some 1 := by decide
  rw [hs] at hdel
  exact ⟨s, hs, sound_of_notLast s hreach, Option.some.inj hdel⟩

/-- The B leg outlives the A leg and accepts a REFER: all legs go, and the context,
    its resources and its CDR stay behind. -/
def lateRefer : List Label :=
  [.onIdentityReady 0, .profile 0 "gw", .newBLeg 0, .onBeforeDestroy 0, .refer 1 true,
    .onBeforeDestroy 1]

theorem not_sound_lateRefer : ¬ ∀ s, system.Reachable s → s.Sound := by
  intro hall
  obtain ⟨s, hreach, hbad⟩ := system.exists_reachableUnder_of_any (fun _ _ => True)
    (fun s => decide (¬ s.Sound)) started lateRefer rfl (by decide)
  exact of_decide_eq_true hbad (hall s hreach)

end SharedCtx

end Yeti.Call
