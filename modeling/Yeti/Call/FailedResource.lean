import Mathlib.Logic.Function.Basic
import Yeti.Call.CallCtx
import Yeti.Resources.Failover

/-! # The failed resource

    `SBCCallLeg::processResourcesAndSdp` and `SBCCallLeg::chooseNextProfile` ask
    `ResourceControl::get` for the resources of one profile after the other, and then use the
    iterator that `get` has left at the resource that failed.

    Both loops run over a list of attempts: what each call of `get` finds.  A list that ends
    early describes a run so far.  `calls` and `uses` record the calls of `get` and the
    dereferences of the iterator.
-/

namespace Yeti.Call.FailedResource

open Resources

/-! ### Resource control -/

/-- `ResourceConfig::ActionType`. -/
inductive ActionType where
  | Reject
  | NextRoute
  | Accept
  deriving DecidableEq, Repr

/-- `struct ResourceConfig`. -/
structure ResourceConfig where
  name : String := ""
  internal_code_id : Nat := 0
  action : ActionType := .Reject
  deriving DecidableEq, Repr

/-- `ResourceCtlResponse`. -/
inductive Response where
  | RES_CTL_OK
  | RES_CTL_NEXT
  | RES_CTL_REJECT
  | RES_CTL_ERROR
  deriving DecidableEq, Repr

def DC_RESOURCE_CACHE_ERROR : Nat := 1600
def DC_RESOURCE_UNKNOWN_TYPE : Nat := 1601

/-- `ResourceControl`, as far as `get` reads it, and the core functions it uses. -/
structure ResourceControl where
  u : AmUtils
  type2cfg : List (Int × ResourceConfig)
  reject_on_error : Bool

/-- A `ResourceList::iterator`: an element of the list of the profile at this position. -/
structure ListIterator where
  list : Nat
  pos : Nat
  deriving DecidableEq, Repr

/-- What a call of `get` finds: whether the container is ready, and the replies of Redis
    that arrive within the timeout. -/
structure Attempt where
  container_ready : Bool
  replies : List CounterReply

/-- What a call of `get` leaves behind. -/
structure GetOutcome where
  ret : Response
  rl : List Resource
  resource_config : ResourceConfig
  rli : Option ListIterator

/-- The answer to an overloaded resource. -/
def ResourceControl.busy (rc : ResourceControl) (rl : List Resource)
    (resource_config : ResourceConfig) (rli : ListIterator) : GetOutcome :=
  match (rl[rli.pos]?).bind fun r => rc.type2cfg.lookup r.type with
  | none =>
    ⟨.RES_CTL_REJECT, rl, { resource_config with internal_code_id := DC_RESOURCE_UNKNOWN_TYPE },
      some rli⟩
  | some cfg =>
    match cfg.action with
    | .Accept => ⟨.RES_CTL_OK, rl, resource_config, some rli⟩
    | .NextRoute => ⟨.RES_CTL_NEXT, rl, cfg, some rli⟩
    | .Reject => ⟨.RES_CTL_REJECT, rl, cfg, some rli⟩

/-- The answer to a failed request; the iterator is the caller's, or that of Redis. -/
def ResourceControl.error (rc : ResourceControl) (rl : List Resource)
    (resource_config : ResourceConfig) (rli : Option ListIterator) : GetOutcome :=
  if rc.reject_on_error then
    ⟨.RES_CTL_ERROR, rl, { resource_config with internal_code_id := DC_RESOURCE_CACHE_ERROR },
      rli⟩
  else ⟨.RES_CTL_OK, rl, resource_config, rli⟩

/-- `ResourceControl::get` on the list of the profile at `list`. -/
def ResourceControl.get (rc : ResourceControl) (a : Attempt) (list : Nat) (rl : List Resource)
    (resource_config : ResourceConfig) (rli : Option ListIterator) : GetOutcome :=
  if rl.isEmpty then ⟨.RES_CTL_OK, rl, resource_config, rli⟩
  else if a.container_ready then
    let g := redisGet rc.u rl a.replies
    let rli : ListIterator := ⟨list, g.resource⟩
    match g.ret with
    | .RES_SUCC => ⟨.RES_CTL_OK, g.rl, resource_config, some rli⟩
    | .RES_BUSY => rc.busy g.rl resource_config rli
    | .RES_ERR => rc.error g.rl resource_config (some rli)
  else rc.error rl resource_config rli

/-! ### The loops -/

/-- A call of `get`. -/
structure Request where
  rl : List Resource
  container_ready : Bool

/-- A dereference of the iterator: the iterator, the list that was passed to `get` last and
    its length. -/
structure Use where
  ri : Option ListIterator
  passed : Option Nat
  size : Nat
  deriving DecidableEq, Repr

/-- The variables of the loops.  `rl` are the resource lists of the profiles, by their
    position. -/
structure Retry where
  ctx : CallCtx
  rl : Nat → List Resource
  resource_config : ResourceConfig := {}
  ri : Option ListIterator := none
  passed : Option Nat := none
  calls : List Request := []
  uses : List Use := []

/-- `*ri`. -/
def Retry.deref (s : Retry) : Retry :=
  { s with uses := s.uses ++ [⟨s.ri, s.passed, (s.passed.elim [] s.rl).length⟩] }

/-- `cdr->update_failed_resource(*ri)`. -/
def Retry.update_failed_resource (s : Retry) : Retry := s.deref

/-- The two `rctl.replace(..., *ri, resource_config)` of a refusal. -/
def Retry.replace (s : Retry) : Retry := s.deref.deref

/-- `rctl.get` on the resources of the current profile. -/
def Retry.get (rc : ResourceControl) (a : Attempt) (s : Retry) : Response × Retry :=
  let list := s.ctx.current_profile
  let g := rc.get a list (s.rl list) s.resource_config s.ri
  (g.ret, { s with
    rl := Function.update s.rl list g.rl
    resource_config := g.resource_config
    ri := g.rli
    passed := some list
    calls := s.calls ++ [⟨s.rl list, a.container_ready⟩] })

/-- How a function ends: it goes on with a profile, gives up, or has not ended yet. -/
inductive Ending where
  | profile
  | refused
  | running
  deriving DecidableEq, Repr

/-- The loop of `processResourcesAndSdp`, with what follows it. -/
def processLoop (rc : ResourceControl) (tr : CodesTranslator) :
    List Attempt → Retry → Ending × Retry
  | [], s => (.running, s)
  | a :: as, s =>
    if s.ctx.getCurrentProfile.isNone then (.refused, s)
    else
      let r := s.get rc a
      match r.1 with
      | .RES_CTL_OK => (.profile, r.2)
      | .RES_CTL_REJECT => (.refused, r.2.update_failed_resource.replace)
      | .RES_CTL_ERROR => (.refused, r.2.replace)
      | .RES_CTL_NEXT =>
        let next := r.2.ctx.getNextProfile tr true false
        let s := { r.2 with ctx := next.1 }
        match next.2 with
        | none => (.refused, s.update_failed_resource)
        | some profile =>
          if profile.disconnect_code_id ≠ 0 then (.refused, s.update_failed_resource.replace)
          -- `check_and_refuse` only refuses a profile with a `disconnect_code_id`
          else processLoop rc tr as s

/-- `SBCCallLeg::processResourcesAndSdp`. -/
def processResourcesAndSdp (rc : ResourceControl) (tr : CodesTranslator) (ctx : CallCtx)
    (rl : Nat → List Resource) (attempts : List Attempt) : Ending × Retry :=
  processLoop rc tr attempts { ctx := ctx, rl := rl }

/-- `rctl.get`, unless the profile has no resources. -/
def Retry.getUnlessEmpty (rc : ResourceControl) (a : Attempt) (s : Retry) : Response × Retry :=
  if (s.rl s.ctx.current_profile).isEmpty then (.RES_CTL_OK, s) else s.get rc a

/-- The loop of `chooseNextProfile` from the profile that was found, with what follows it. -/
def chooseLoop (rc : ResourceControl) (tr : CodesTranslator) :
    List Attempt → Retry → SqlCallProfile → Ending × Retry
  | [], s, _ => (.running, s)
  | a :: as, s, profile =>
    -- `check_and_refuse`
    if profile.disconnect_code_id ≠ 0 then (.refused, s.replace)
    else
      let r := s.getUnlessEmpty rc a
      match r.1 with
      | .RES_CTL_OK => (.profile, r.2)
      | .RES_CTL_ERROR => (.refused, r.2.replace)
      | .RES_CTL_REJECT => (.refused, r.2.update_failed_resource.replace)
      | .RES_CTL_NEXT =>
        let next := r.2.ctx.getNextProfile tr false true
        let s := { r.2 with ctx := next.1 }
        match next.2 with
        | none => (.refused, s.update_failed_resource.replace)
        | some profile =>
          if profile.disconnect_code_id ≠ 0 then (.refused, s.update_failed_resource.replace)
          else chooseLoop rc tr as s profile

/-- `SBCCallLeg::chooseNextProfile`. -/
def chooseNextProfile (rc : ResourceControl) (tr : CodesTranslator) (ctx : CallCtx)
    (rl : Nat → List Resource) (attempts : List Attempt) : Ending × Retry :=
  let next := ctx.getNextProfile tr false false
  let s : Retry := { ctx := next.1, rl := rl }
  match next.2 with
  -- pretend that nothing happened
  | none => (.refused, s)
  | some profile => chooseLoop rc tr attempts s profile

/-! ### Properties -/

/-- The iterator points to an element of the list passed last. -/
def Use.Valid (x : Use) : Prop :=
  ∃ it, x.ri = some it ∧ x.passed = some it.list ∧ it.pos < x.size

/-- The container is ready when there is something to ask for, or errors are passed over. -/
def Request.Steady (rc : ResourceControl) (c : Request) : Prop :=
  c.rl = [] ∨ c.container_ready = true ∨ rc.reject_on_error = false

variable {rc : ResourceControl} {tr : CodesTranslator} {a : Attempt} {s : Retry}

/-! ### The iterator after a call -/

/-- The checking loop stops at a resource of the list. -/
theorem checkLoop_stops {st : CheckState} {rl : List Resource} {result : List Int}
    (h : (checkLoop st rl result).resources_available = false) :
    (checkLoop st rl result).resource < (checkLoop st rl result).rl.length := by
  induction rl generalizing result st with
  | nil => simp [checkLoop] at h
  | cons res rl ih =>
    cases result with
    | nil => simp [checkLoop] at h
    | cons used result =>
      -- every branch goes past `res`, but for the one that stops there
      have hpast : ∀ st r, ((checkLoop st rl result).past r).resources_available = false →
          ((checkLoop st rl result).past r).resource <
            ((checkLoop st rl result).past r).rl.length := by
        intro st r hr
        exact Nat.succ_lt_succ (ih hr)
      unfold checkLoop at h ⊢
      split_ifs at h ⊢
      · exact hpast _ _ h
      · exact hpast _ _ h
      · exact hpast _ _ h
      · exact Nat.zero_lt_succ _
      · exact hpast _ _ h
      · exact hpast _ _ h

/-- Redis leaves the iterator at a resource of the list unless it takes them all. -/
theorem redisGet_stops (u : AmUtils) {rl : List Resource} (hne : rl ≠ [])
    (replies : List CounterReply) :
    (redisGet u rl replies).ret = .RES_SUCC ∨
      (redisGet u rl replies).resource < (redisGet u rl replies).rl.length := by
  have hlen : 0 < rl.length := List.length_pos_of_ne_nil hne
  unfold redisGet
  simp only [CheckResources.perform, if_true, Bool.not_true, Bool.false_eq_true, if_false]
  split_ifs with hfinished herror havailable
  · exact .inr hlen
  · exact .inr hlen
  · exact .inl rfl
  · exact .inr (checkLoop_stops (by simpa using havailable))

/-- The iterator points to an element of the list passed last. -/
def Retry.Points (s : Retry) : Prop :=
  ∃ it, s.ri = some it ∧ s.passed = some it.list ∧ it.pos < (s.rl it.list).length

/-- What a call of `get` leaves for the loops. -/
inductive Retry.Got (rc : ResourceControl) (a : Attempt) (s : Retry) : Prop where
  | ok (hsteady : Request.Steady rc ⟨s.rl s.ctx.current_profile, a.container_ready⟩)
      (h : (s.get rc a).1 = .RES_CTL_OK)
  | points (hsteady : Request.Steady rc ⟨s.rl s.ctx.current_profile, a.container_ready⟩)
      (h : (s.get rc a).2.Points)
  | unready (hsteady : ¬Request.Steady rc ⟨s.rl s.ctx.current_profile, a.container_ready⟩)
      (h : (s.get rc a).1 = .RES_CTL_ERROR) (hri : (s.get rc a).2.ri = s.ri)

theorem busy_rli (rc : ResourceControl) (rl : List Resource) (cfg : ResourceConfig)
    (it : ListIterator) :
    (rc.busy rl cfg it).rli = some it ∧ (rc.busy rl cfg it).rl = rl := by
  unfold ResourceControl.busy
  cases (rl[it.pos]?).bind fun r => rc.type2cfg.lookup r.type with
  | none => exact ⟨rfl, rfl⟩
  | some found =>
    simp only
    cases found.action <;> exact ⟨rfl, rfl⟩

theorem error_rli (rc : ResourceControl) (rl : List Resource) (cfg : ResourceConfig)
    (rli : Option ListIterator) :
    (rc.error rl cfg rli).rli = rli ∧ (rc.error rl cfg rli).rl = rl := by
  unfold ResourceControl.error
  split_ifs <;> exact ⟨rfl, rfl⟩

/-- A ready container leaves the iterator in the list, unless the loops go on. -/
theorem get_ready (rc : ResourceControl) {rl : List Resource} (hne : rl ≠ [])
    (hready : a.container_ready = true) (list : Nat) (cfg : ResourceConfig)
    (rli : Option ListIterator) :
    (rc.get a list rl cfg rli).ret = .RES_CTL_OK ∨
      ∃ pos, (rc.get a list rl cfg rli).rli = some ⟨list, pos⟩ ∧
        pos < (rc.get a list rl cfg rli).rl.length := by
  have hempty : rl.isEmpty = false := by simpa using hne
  have hstops := redisGet_stops rc.u hne a.replies
  unfold ResourceControl.get
  simp only [hempty, hready, Bool.false_eq_true, if_false, if_true]
  cases hret : (redisGet rc.u rl a.replies).ret with
  | RES_SUCC => exact .inl rfl
  | RES_BUSY =>
    have hlt := hstops.resolve_left (by rw [hret]; decide)
    obtain ⟨hrli, hrl⟩ := busy_rli rc (redisGet rc.u rl a.replies).rl cfg
      ⟨list, (redisGet rc.u rl a.replies).resource⟩
    exact .inr ⟨_, hrli, by rw [hrl]; exact hlt⟩
  | RES_ERR =>
    have hlt := hstops.resolve_left (by rw [hret]; decide)
    obtain ⟨hrli, hrl⟩ := error_rli rc (redisGet rc.u rl a.replies).rl cfg
      (some ⟨list, (redisGet rc.u rl a.replies).resource⟩)
    exact .inr ⟨_, hrli, by rw [hrl]; exact hlt⟩

theorem get_cases (rc : ResourceControl) (a : Attempt) (s : Retry) : s.Got rc a := by
  by_cases hne : s.rl s.ctx.current_profile = []
  · refine .ok (.inl hne) ?_
    show (rc.get a _ (s.rl s.ctx.current_profile) _ _).ret = _
    rw [hne]
    rfl
  have hempty : (s.rl s.ctx.current_profile).isEmpty = false := by simpa using hne
  by_cases hready : a.container_ready = true
  · rcases get_ready rc hne hready s.ctx.current_profile s.resource_config s.ri with
      hok | ⟨pos, hrli, hpos⟩
    · exact .ok (.inr (.inl hready)) hok
    · refine .points (.inr (.inl hready)) ⟨_, hrli, rfl, ?_⟩
      show pos < (Function.update s.rl _ _ s.ctx.current_profile).length
      rw [Function.update_self]
      exact hpos
  · have hget : rc.get a s.ctx.current_profile (s.rl s.ctx.current_profile) s.resource_config s.ri =
        rc.error (s.rl s.ctx.current_profile) s.resource_config s.ri := by
      rw [ResourceControl.get, hempty, if_neg (by decide), if_neg hready]
    by_cases hreject : rc.reject_on_error = true
    · have hsteady : ¬Request.Steady rc ⟨s.rl s.ctx.current_profile, a.container_ready⟩ := by
        rintro (h | h | h)
        · exact hne h
        · exact hready h
        · rw [hreject] at h
          cases h
      refine .unready hsteady ?_ ?_
      · show (rc.get a _ _ _ _).ret = _
        rw [hget, ResourceControl.error, if_pos hreject]
      · show (rc.get a _ _ _ _).rli = _
        rw [hget]
        exact (error_rli rc _ _ _).1
    · refine .ok (.inr (.inr (by simpa using hreject))) ?_
      show (rc.get a _ _ _ _).ret = _
      rw [hget, ResourceControl.error, if_neg hreject]

/-! ### The next profile -/

theorem takeNext_some {ctx : CallCtx} {early_state resource_failover : Bool}
    {p q : SqlCallProfile} {k : CallCtx.Skip}
    (h : (ctx.takeNext early_state resource_failover p k).2 = some q) :
    (ctx.takeNext early_state resource_failover p k).1.current_profile =
        ctx.current_profile + k.moved ∧
      (early_state = false → q.disconnect_code_id = 0) := by
  unfold CallCtx.takeNext at h ⊢
  by_cases hrefuse : (!early_state && p.disconnect_code_id ≠ 0) = true
  · rw [if_pos hrefuse] at h
    cases h
  · rw [if_neg hrefuse] at h ⊢
    have hdials : early_state = false → p.disconnect_code_id = 0 := by
      rintro rfl
      simpa using hrefuse
    split_ifs at h ⊢ with hnew
    · cases h
      exact ⟨rfl, hdials⟩
    · cases h
      exact ⟨rfl, hdials⟩

/-- A skipped profile is left behind. -/
theorem skipLoop_moved {cdr : Cdr} {rest : List SqlCallProfile} {p q : SqlCallProfile}
    {k : CallCtx.Skip} (h : (CallCtx.skipLoop tr cdr p rest k).1 = some q) :
    k.moved < (CallCtx.skipLoop tr cdr p rest k).2.moved := by
  have hskip : ∀ p (k : CallCtx.Skip), (CallCtx.skipProfile tr cdr p k).moved = k.moved := by
    intro p k
    unfold CallCtx.skipProfile
    simp only
    split_ifs <;> rfl
  induction rest generalizing p k with
  | nil => cases h
  | cons r rest ih =>
    unfold CallCtx.skipLoop at h ⊢
    simp only at h ⊢
    split_ifs at h ⊢ with hr
    · have hone : k.moved < (CallCtx.skipProfile tr cdr p k).moved + 1 := by
        rw [hskip]
        omega
      exact Nat.lt_trans hone (ih h)
    · show k.moved < (CallCtx.skipProfile tr cdr p k).moved + 1
      rw [hskip]
      omega

/-- The next profile is further on; behind the early state it does not refuse the call. -/
theorem getNextProfile_some {ctx : CallCtx} {early_state resource_failover : Bool}
    {q : SqlCallProfile}
    (h : (ctx.getNextProfile tr early_state resource_failover).2 = some q) :
    ctx.current_profile <
        (ctx.getNextProfile tr early_state resource_failover).1.current_profile ∧
      (early_state = false → q.disconnect_code_id = 0) := by
  unfold CallCtx.getNextProfile at h ⊢
  cases hcur : ctx.getCurrentProfile with
  | none =>
    simp only [hcur] at h
    cases h
  | some p =>
    simp only [hcur] at h ⊢
    by_cases hskipped : p.skip_code_id ≠ 0
    · simp only [if_pos hskipped] at h ⊢
      generalize hloop : CallCtx.skipLoop tr ctx.cdr p ctx.following _ = found at h ⊢
      obtain ⟨next, k⟩ := found
      cases next with
      | none => cases h
      | some r =>
        have hmoved := skipLoop_moved (congrArg Prod.fst hloop)
        rw [hloop] at hmoved
        obtain ⟨hcurrent, hdials⟩ := takeNext_some h
        refine ⟨?_, hdials⟩
        show ctx.current_profile <
          (ctx.takeNext early_state resource_failover r k).1.current_profile
        rw [hcurrent]
        have hpos : 0 < k.moved := hmoved
        omega
    · simp only [if_neg hskipped] at h ⊢
      cases hfollowing : ctx.following with
      | nil =>
        simp only [hfollowing] at h
        cases h
      | cons r rest =>
        simp only [hfollowing] at h ⊢
        obtain ⟨hcurrent, hdials⟩ := takeNext_some h
        rw [hcurrent]
        exact ⟨Nat.lt_succ_self _, hdials⟩

/-! ### Runs -/

/-- Every dereference of the run finds an element of the list passed last. -/
def Retry.UsesValid (s : Retry) : Prop := ∀ x ∈ s.uses, x.Valid

/-- Every call of the run is steady. -/
def Retry.CallsSteady (rc : ResourceControl) (s : Retry) : Prop := ∀ c ∈ s.calls, c.Steady rc

/-- The run so far is good, and the iterator belongs to a profile that is behind. -/
structure Retry.Inv (rc : ResourceControl) (s : Retry) : Prop where
  uses : s.UsesValid
  calls : s.CallsSteady rc
  behind : ∀ it, s.ri = some it → it.list < s.ctx.current_profile

theorem use_valid_iff (s : Retry) :
    (⟨s.ri, s.passed, (s.passed.elim [] s.rl).length⟩ : Use).Valid ↔ s.Points := by
  constructor
  · intro ⟨it, hri, hpassed, hpos⟩
    have hlist : s.passed = some it.list := hpassed
    rw [hlist] at hpos
    exact ⟨it, hri, hlist, hpos⟩
  · intro ⟨it, hri, hpassed, hpos⟩
    refine ⟨it, hri, hpassed, ?_⟩
    rw [hpassed]
    exact hpos

theorem usesValid_deref_iff (s : Retry) : s.deref.UsesValid ↔ s.UsesValid ∧ s.Points := by
  rw [← use_valid_iff]
  constructor
  · intro h
    exact ⟨fun x hx => h x (List.mem_append_left _ hx),
      h _ (List.mem_append_right _ List.mem_cons_self)⟩
  · intro ⟨huses, huse⟩ x hx
    rcases List.mem_append.mp hx with hx | hx
    · exact huses x hx
    · rw [List.mem_singleton.mp hx]
      exact huse

theorem usesValid_replace_iff (s : Retry) : s.replace.UsesValid ↔ s.UsesValid ∧ s.Points := by
  show s.deref.deref.UsesValid ↔ _
  rw [usesValid_deref_iff, usesValid_deref_iff]
  show (s.UsesValid ∧ s.Points) ∧ s.Points ↔ _
  rw [and_assoc, and_self]

/-- The dereferences of a run are valid exactly if its calls are steady. -/
def Agrees (rc : ResourceControl) (s : Retry) : Prop := s.UsesValid ↔ s.CallsSteady rc

/-- A good end: the iterator is used where it points. -/
theorem agrees_of_points {s : Retry} (huses : s.UsesValid) (hcalls : s.CallsSteady rc)
    (h : s.Points) :
    Agrees rc s.replace ∧ Agrees rc s.update_failed_resource ∧
      Agrees rc s.update_failed_resource.replace := by
  have hderef : s.deref.UsesValid := (usesValid_deref_iff s).mpr ⟨huses, h⟩
  refine ⟨iff_of_true ?_ hcalls, iff_of_true hderef hcalls, iff_of_true ?_ hcalls⟩
  · exact (usesValid_replace_iff s).mpr ⟨huses, h⟩
  · exact (usesValid_replace_iff s.deref).mpr ⟨hderef, h⟩

theorem callsSteady_get (hinv : s.Inv rc)
    (h : Request.Steady rc ⟨s.rl s.ctx.current_profile, a.container_ready⟩) :
    (s.get rc a).2.CallsSteady rc := by
  intro c hc
  rcases List.mem_append.mp hc with hc | hc
  · exact hinv.calls c hc
  · rw [List.mem_singleton.mp hc]
    exact h

/-- An error of an unready container: the iterator is used, but it was not set. -/
theorem agrees_of_unready (hinv : s.Inv rc)
    (h : ¬Request.Steady rc ⟨s.rl s.ctx.current_profile, a.container_ready⟩)
    (hri : (s.get rc a).2.ri = s.ri) : Agrees rc (s.get rc a).2.replace := by
  refine iff_of_false (fun huses => ?_) fun hcalls => ?_
  · obtain ⟨it, hit, hpassed, -⟩ := ((usesValid_replace_iff _).mp huses).2
    rw [hri] at hit
    have hbehind := hinv.behind it hit
    have hlist : s.ctx.current_profile = it.list := Option.some.inj hpassed
    omega
  · exact h (hcalls _ (List.mem_append_right _ List.mem_cons_self))

/-- The loops go on with a profile that is further on. -/
theorem inv_of_next (hinv : s.Inv rc)
    (hsteady : Request.Steady rc ⟨s.rl s.ctx.current_profile, a.container_ready⟩)
    (hpoints : (s.get rc a).2.Points) {ctx : CallCtx}
    (hctx : s.ctx.current_profile < ctx.current_profile) :
    ({ (s.get rc a).2 with ctx := ctx } : Retry).Inv rc := by
  refine ⟨hinv.uses, callsSteady_get hinv hsteady, ?_⟩
  intro it hit
  obtain ⟨it', hri, hpassed, -⟩ := hpoints
  have hsame : it' = it := Option.some.inj (hri.symm.trans hit)
  have hlist : s.ctx.current_profile = it'.list := Option.some.inj hpassed
  show it.list < ctx.current_profile
  rw [← hsame]
  omega

theorem processLoop_agrees (attempts : List Attempt) (hinv : s.Inv rc) :
    Agrees rc (processLoop rc tr attempts s).2 := by
  induction attempts generalizing s with
  | nil => exact iff_of_true hinv.uses hinv.calls
  | cons a attempts ih =>
    unfold processLoop
    by_cases hcur : s.ctx.getCurrentProfile.isNone = true
    · rw [if_pos hcur]
      exact iff_of_true hinv.uses hinv.calls
    rw [if_neg hcur]
    cases get_cases rc a s with
    | ok hsteady hret =>
      simp only [hret]
      exact iff_of_true hinv.uses (callsSteady_get hinv hsteady)
    | unready hsteady hret hri =>
      simp only [hret]
      exact agrees_of_unready hinv hsteady hri
    | points hsteady hpoints =>
      have hcalls := callsSteady_get hinv hsteady
      -- the two refusals that use the iterator of this call
      obtain ⟨herror, -, hreject⟩ := agrees_of_points (s := (s.get rc a).2) hinv.uses hcalls
        hpoints
      cases hret : (s.get rc a).1 with
      | RES_CTL_OK =>
        simp only [hret]
        exact iff_of_true hinv.uses hcalls
      | RES_CTL_REJECT =>
        simp only [hret]
        exact hreject
      | RES_CTL_ERROR =>
        simp only [hret]
        exact herror
      | RES_CTL_NEXT =>
        obtain ⟨-, hnone, hrefused⟩ := agrees_of_points
          (s := { (s.get rc a).2 with
            ctx := ((s.get rc a).2.ctx.getNextProfile tr true false).1 }) hinv.uses hcalls hpoints
        cases hnext : ((s.get rc a).2.ctx.getNextProfile tr true false).2 with
        | none =>
          simp only [hret, hnext]
          exact hnone
        | some profile =>
          simp only [hret, hnext]
          by_cases hrefuse : profile.disconnect_code_id ≠ 0
          · rw [if_pos hrefuse]
            exact hrefused
          · rw [if_neg hrefuse]
            exact ih (inv_of_next hinv hsteady hpoints (getNextProfile_some hnext).1)

theorem getUnlessEmpty_eq (hne : s.rl s.ctx.current_profile ≠ []) :
    s.getUnlessEmpty rc a = s.get rc a := by
  unfold Retry.getUnlessEmpty
  rw [if_neg (by simpa using hne)]

/-- `get` is not called for a profile without resources. -/
theorem getUnlessEmpty_empty (h : s.rl s.ctx.current_profile = []) :
    s.getUnlessEmpty rc a = (.RES_CTL_OK, s) := by
  unfold Retry.getUnlessEmpty
  rw [h]
  rfl

theorem chooseLoop_agrees (attempts : List Attempt) (hinv : s.Inv rc) {profile : SqlCallProfile}
    (hdials : profile.disconnect_code_id = 0) :
    Agrees rc (chooseLoop rc tr attempts s profile).2 := by
  induction attempts generalizing s profile with
  | nil => exact iff_of_true hinv.uses hinv.calls
  | cons a attempts ih =>
    unfold chooseLoop
    rw [if_neg (not_not_intro hdials)]
    by_cases hempty : s.rl s.ctx.current_profile = []
    · simp only [getUnlessEmpty_empty hempty]
      exact iff_of_true hinv.uses hinv.calls
    simp only [getUnlessEmpty_eq hempty]
    cases get_cases rc a s with
    | ok hsteady hret =>
      simp only [hret]
      exact iff_of_true hinv.uses (callsSteady_get hinv hsteady)
    | unready hsteady hret hri =>
      simp only [hret]
      exact agrees_of_unready hinv hsteady hri
    | points hsteady hpoints =>
      have hcalls := callsSteady_get hinv hsteady
      -- the two refusals that use the iterator of this call
      obtain ⟨herror, -, hreject⟩ := agrees_of_points (s := (s.get rc a).2) hinv.uses hcalls
        hpoints
      cases hret : (s.get rc a).1 with
      | RES_CTL_OK => exact iff_of_true hinv.uses hcalls
      | RES_CTL_REJECT => exact hreject
      | RES_CTL_ERROR => exact herror
      | RES_CTL_NEXT =>
        obtain ⟨-, -, hnone⟩ := agrees_of_points
          (s := { (s.get rc a).2 with
            ctx := ((s.get rc a).2.ctx.getNextProfile tr false true).1 }) hinv.uses hcalls hpoints
        cases hnext : ((s.get rc a).2.ctx.getNextProfile tr false true).2 with
        | none => exact hnone
        | some next =>
          -- behind the early state a refusing profile is not returned
          obtain ⟨hfurther, hdials'⟩ := getNextProfile_some hnext
          simp only [hdials' rfl]
          exact ih (inv_of_next hinv hsteady hpoints hfurther) (hdials' rfl)

theorem inv_start (ctx : CallCtx) (rl : Nat → List Resource) :
    ({ ctx := ctx, rl := rl } : Retry).Inv rc := by
  refine ⟨?_, ?_, ?_⟩
  · intro x hx
    cases hx
  · intro c hc
    cases hc
  · intro it hit
    cases hit

/-- In every run of the two functions, the iterator of the failed resource points to an
    element of the list passed last whenever it is used, exactly if no call finds the container
    unready while errors are to be rejected and there is something to ask for. -/
theorem failed_resource_valid_iff (rc : ResourceControl) (tr : CodesTranslator) (ctx : CallCtx)
    (rl : Nat → List Resource) (attempts : List Attempt) :
    ((processResourcesAndSdp rc tr ctx rl attempts).2.UsesValid ↔
        (processResourcesAndSdp rc tr ctx rl attempts).2.CallsSteady rc) ∧
      ((chooseNextProfile rc tr ctx rl attempts).2.UsesValid ↔
        (chooseNextProfile rc tr ctx rl attempts).2.CallsSteady rc) := by
  constructor
  · exact processLoop_agrees attempts (inv_start ctx rl)
  · show Agrees rc _
    unfold chooseNextProfile
    have hinv : ({ ctx := (ctx.getNextProfile tr false false).1, rl := rl } : Retry).Inv rc :=
      inv_start _ rl
    cases hnext : (ctx.getNextProfile tr false false).2 with
    | none =>
      simp only [hnext]
      exact iff_of_true hinv.uses hinv.calls
    | some profile =>
      simp only [hnext]
      exact chooseLoop_agrees attempts hinv ((getNextProfile_some hnext).2 rfl)

/-- An unready container: `ri` has not been set when it is dereferenced. -/
theorem not_failed_resource_valid_unready :
    ¬∀ (rc : ResourceControl) (tr : CodesTranslator) (ctx : CallCtx) (rl : Nat → List Resource)
      (attempts : List Attempt),
      (processResourcesAndSdp rc tr ctx rl attempts).2.UsesValid := by
  intro hall
  have huses := hall ⟨.decimal, [], true⟩ ⟨[], [], false, 0⟩
    ⟨[{ ruri := "sip:b@b" }], 0, {}, []⟩ (fun _ => [⟨1, 2, 3, 4, false, false, false⟩])
    [⟨false, []⟩]
  obtain ⟨it, hit, -⟩ := huses ⟨none, some 0, 1⟩ (by decide)
  cases hit

end Yeti.Call.FailedResource
