import Mathlib.Algebra.BigOperators.Pi
import Yeti.Call.Holding

/-! # Who holds the resources

    Every entry of the handlers map belongs to the current profile of exactly one call.
    So nothing is left in the map when the calls are gone, and while the resource
    connection conserves the counters, a counter that is not zero is that of a resource
    which some call has taken.
-/

open LTS

namespace Yeti.Call.Holding

open Resources FailedResource

/-! ### The handlers map -/

section Map

variable (s : Control)

/-- `ResourceControl::put` removes the handler, and nothing else. -/
theorem handlers_put (h : Nat) :
    (s.put h).handlers.map Prod.fst = (s.handlers.map Prod.fst).filter (· ≠ h) := by
  unfold Control.put
  cases hl : s.handlers.lookup h with
  | none =>
    symm
    rw [List.filter_eq_self]
    intro x hx
    obtain ⟨p, hp, rfl⟩ := List.mem_map.mp hx
    have hne := List.lookup_eq_none_iff.mp hl p hp
    simpa using Ne.symm (by simpa using hne)
  | some e =>
    have hfilter : (s.handlers.filter (·.1 ≠ h)).map Prod.fst =
        (s.handlers.map Prod.fst).filter (· ≠ h) := by
      rw [List.filter_map]
      rfl
    simp only
    split
    · exact hfilter
    · exact hfilter

/-- `ResourceControl::get` adds the handler when it serves the request. -/
theorem handlers_get (id : Nat) (rl : List Resource) (check : Option (List Int)) :
    (s.get id rl check).handlers.map Prod.fst =
      s.handlers.map Prod.fst ++ if served s rl check then [id] else [] := by
  unfold Control.get served
  cases hempty : rl.isEmpty with
  | true => simp
  | false =>
    cases hready : s.container_ready with
    | false => simp
    | true =>
      cases check with
      | none => simp
      | some result =>
        cases havailable : (checkLoop .NORMAL rl result).resources_available with
        | false => simp [havailable]
        | true => simp [havailable]

/-- A request that is served is answered with `RES_CTL_OK`. -/
theorem respond_served (rc : ResourceControl) {rl : List Resource} {check : Option (List Int)}
    (h : served s rl check = true) : respond rc s rl check = .RES_CTL_OK := by
  unfold served at h
  simp only [Bool.and_eq_true, Bool.not_eq_true'] at h
  obtain ⟨⟨hempty, hready⟩, hcheck⟩ := h
  cases check with
  | none => cases hcheck
  | some result =>
    have havailable : (checkLoop .NORMAL rl result).resources_available = true := hcheck
    simp [respond, hempty, hready, havailable]

/-- The other steps of the resource control leave the handlers. -/
theorem handlers_nextControl {s' : Control} {l : Control.Label}
    (h : Node.nextControl s l = some s') :
    s'.handlers.map Prod.fst = s.handlers.map Prod.fst ∧ s.next l = some s' := by
  have hnext : s.next l = some s' := by
    cases l with
    | get => cases h
    | put => cases h
    | _ => exact h
  refine ⟨?_, hnext⟩
  cases Control.step_of_next hnext with
  | get => cases h
  | put => cases h
  | invalidate => simp [Control.invalidate_resources]
  | invalidateReturn => rfl
  | reconnect => rfl
  | connectFailed => rfl
  | connect => rfl
  | disconnect => rfl
  | reply a o rest =>
    show (s.deliver o rest a).handlers.map Prod.fst = _
    unfold Control.deliver
    rfl

end Map

/-! ### The next profile -/

/-- The hunting never goes back. -/
theorem le_getNextProfile (tr : CodesTranslator) (ctx : CallCtx)
    (early_state resource_failover : Bool) :
    ctx.current_profile ≤
      (ctx.getNextProfile tr early_state resource_failover).1.current_profile := by
  cases hfound : (ctx.getNextProfile tr early_state resource_failover).2 with
  | some q => exact (getNextProfile_some hfound).1.le
  | none =>
    -- without a profile the position stays
    unfold CallCtx.getNextProfile CallCtx.takeNext at hfound ⊢
    grind

/-! ### The invariant -/

/-- What holds of a call on a node with the handlers `held`. -/
structure HeldCall.Inv (held : List Nat) (next_id : Nat) (call : HeldCall) : Prop where
  assigned : ∀ pos h, call.resource_handler pos = some h → h < next_id
  /-- A loop has put, or never got, what the profiles remember. -/
  released : call.phase ≠ .waiting → ∀ pos h, call.resource_handler pos = some h → h ∉ held
  /-- The profiles that may still be asked for were not. -/
  fresh : ∀ pos, (call.ctx.current_profile < pos ∨
    (call.phase ≠ .waiting ∧ call.ctx.current_profile = pos)) → Control.fresh (call.rl pos) = true

namespace Node

/-- Every handler of the map has an owner, and no two calls remember the same handler. -/
structure Inv (n : Node) : Prop where
  owned : ∀ h ∈ n.held, ∃ c call, n.calls c = some call ∧ call.handler = some h
  below : ∀ h ∈ n.held, h < n.next_id
  distinct : ∀ c c' call call' pos pos' h, n.calls c = some call → n.calls c' = some call' →
    call.resource_handler pos = some h → call'.resource_handler pos' = some h → c = c'
  call : ∀ c call, n.calls c = some call → call.Inv n.held n.next_id

variable {n : Node} {c : Nat} {call call' : HeldCall}

/-- The call that owns a handler is the one that remembers it. -/
theorem Inv.handler_eq (h : n.Inv) (hcall : n.calls c = some call) {pos id : Nat}
    (hid : call.resource_handler pos = some id) (hheld : id ∈ n.held) :
    call.handler = some id := by
  obtain ⟨c', call', hcall', hid'⟩ := h.owned id hheld
  have hc : c = c' := h.distinct c c' call call' pos _ id hcall hcall' hid hid'
  subst hc
  have : call = call' := Option.some.inj (hcall.symm.trans hcall')
  rw [this]
  exact hid'

/-- Handlers may leave the map. -/
theorem Inv.shrink (h : n.Inv) {control : Control}
    (hsub : ∀ id ∈ control.handlers.map Prod.fst, id ∈ n.held) :
    ({ n with control := control } : Node).Inv where
  owned := fun id hid => h.owned id (hsub id hid)
  below := fun id hid => h.below id (hsub id hid)
  distinct := h.distinct
  call := by
    intro c call hcall
    have hinv := h.call c call hcall
    refine ⟨hinv.assigned, ?_, hinv.fresh⟩
    intro hphase pos id hpos hid
    exact hinv.released hphase pos id hpos (hsub id hid)

theorem inv_put (h : n.Inv) (handler : Option Nat) : (n.put handler).Inv := by
  cases handler with
  | none => exact h
  | some id =>
    refine h.shrink ?_
    intro x hx
    rw [handlers_put] at hx
    exact (List.mem_filter.mp hx).1

/-- What was put is not in the map. -/
theorem notMem_put (n : Node) {handler : Option Nat} {id : Nat} (h : handler = some id) :
    id ∉ (n.put handler).held := by
  subst h
  show id ∉ (n.control.put id).handlers.map Prod.fst
  rw [handlers_put]
  simp

theorem held_put_subset (n : Node) (handler : Option Nat) :
    ∀ id ∈ (n.put handler).held, id ∈ n.held := by
  intro id hid
  cases handler with
  | none => exact hid
  | some h =>
    have hmem : id ∈ (n.control.put h).handlers.map Prod.fst := hid
    rw [handlers_put] at hmem
    exact (List.mem_filter.mp hmem).1

/-- A call changes, but remembers the same handlers; it may move on only when its handler
    is not in the map. -/
theorem Inv.setCall (h : n.Inv) (hcall : n.calls c = some call)
    (hsame : call'.resource_handler = call.resource_handler)
    (hmoves : call'.handler = call.handler ∨ ∀ id, call.handler = some id → id ∉ n.held)
    (hinv : call'.Inv n.held n.next_id) : (n.setCall c call').Inv where
  owned := by
    intro id hid
    obtain ⟨c', owner, howner, hhandler⟩ := h.owned id hid
    by_cases hc : c' = c
    · subst hc
      cases Option.some.inj (howner.symm.trans hcall)
      refine ⟨c', call', by simp [Node.setCall], ?_⟩
      rcases hmoves with hkeeps | hleft
      · rw [hkeeps, hhandler]
      · exact absurd hid (hleft id hhandler)
    · exact ⟨c', owner, by simpa [Node.setCall, hc] using howner, hhandler⟩
  below := h.below
  distinct := by
    -- a call and its new value remember the same
    have hold : ∀ d e pos id, (n.setCall c call').calls d = some e →
        e.resource_handler pos = some id →
        ∃ e', n.calls d = some e' ∧ e'.resource_handler pos = some id := by
      intro d e pos id he hid
      by_cases hd : d = c
      · subst hd
        have : call' = e := by simpa [Node.setCall] using he
        subst this
        exact ⟨call, hcall, hsame ▸ hid⟩
      · exact ⟨e, by simpa [Node.setCall, hd] using he, hid⟩
    intro d d' e e' pos pos' id he he' hid hid'
    obtain ⟨f, hf, hfid⟩ := hold d e pos id he hid
    obtain ⟨f', hf', hfid'⟩ := hold d' e' pos' id he' hid'
    exact h.distinct d d' f f' pos pos' id hf hf' hfid hfid'
  call := by
    intro d e he
    by_cases hd : d = c
    · subst hd
      have : call' = e := by simpa [Node.setCall] using he
      exact this ▸ hinv
    · exact h.call d e (by simpa [Node.setCall, hd] using he)

/-! ### The steps of a call -/

variable {rc : ResourceControl} {tr : CodesTranslator}

/-- A call that starts remembers nothing. -/
theorem inv_start (h : n.Inv) (hnew : n.calls c = none) (ctx : CallCtx)
    {rl : List (List Resource)} (hfresh : rl.all Control.fresh = true) :
    (n.setCall c { ctx := ctx, rl := fun pos => rl.getD pos [] }).Inv where
  owned := by
    intro id hid
    obtain ⟨c', owner, howner, hhandler⟩ := h.owned id hid
    have hc : c' ≠ c := by
      rintro rfl
      rw [hnew] at howner
      cases howner
    exact ⟨c', owner, by simpa [Node.setCall, hc] using howner, hhandler⟩
  below := h.below
  distinct := by
    have hold : ∀ d (e : HeldCall) pos (id : Nat),
        (n.setCall c { ctx := ctx, rl := fun pos => rl.getD pos [] }).calls d = some e →
        e.resource_handler pos = some id → n.calls d = some e := by
      intro d e pos id he hid
      by_cases hd : d = c
      · subst hd
        have : HeldCall.mk ctx (fun pos => rl.getD pos []) (fun _ => none) .processing 1 [] = e := by
          simpa [Node.setCall] using he
        subst this
        cases hid
      · simpa [Node.setCall, hd] using he
    intro d d' e e' pos pos' id he he' hid hid'
    exact h.distinct d d' e e' pos pos' id (hold d e pos id he hid) (hold d' e' pos' id he' hid')
      hid hid'
  call := by
    intro d e he
    by_cases hd : d = c
    · subst hd
      have : HeldCall.mk ctx (fun pos => rl.getD pos []) (fun _ => none) .processing 1 [] = e := by
        simpa [Node.setCall] using he
      subst this
      refine ⟨?_, ?_, ?_⟩
      · intro pos id hid
        cases hid
      · intro _ pos id hid
        cases hid
      · intro pos _
        show Control.fresh (rl.getD pos []) = true
        rw [List.getD_eq_getElem?_getD]
        cases hpos : rl[pos]? with
        | none => rfl
        | some l => exact List.all_eq_true.mp hfresh l (List.mem_of_getElem? hpos)
    · exact h.call d e (by simpa [Node.setCall, hd] using he)

/-- What the loops do with an answer: they end, or go on with a later profile. -/
theorem react_moves (tr : CodesTranslator) (call : HeldCall) (r : Response) :
    (call.react tr r).resource_handler = call.resource_handler ∧
      (call.react tr r).rl = call.rl ∧
      call.ctx.current_profile ≤ (call.react tr r).ctx.current_profile ∧
      ((call.react tr r).phase ≠ .waiting →
        call.ctx.current_profile < (call.react tr r).ctx.current_profile) := by
  cases r with
  | RES_CTL_OK => exact ⟨rfl, rfl, le_rfl, fun h => absurd rfl h⟩
  | RES_CTL_REJECT => exact ⟨rfl, rfl, le_rfl, fun h => absurd rfl h⟩
  | RES_CTL_ERROR => exact ⟨rfl, rfl, le_rfl, fun h => absurd rfl h⟩
  | RES_CTL_NEXT =>
    have hle := le_getNextProfile tr call.ctx (decide (call.phase = .processing))
      !(decide (call.phase = .processing))
    show (call.failover tr).resource_handler = _ ∧ (call.failover tr).rl = _ ∧
      _ ≤ (call.failover tr).ctx.current_profile ∧
      ((call.failover tr).phase ≠ .waiting → _ < (call.failover tr).ctx.current_profile)
    unfold HeldCall.failover
    simp only
    cases hfound : (call.ctx.getNextProfile tr (decide (call.phase = .processing))
        !(decide (call.phase = .processing))).2 with
    | none => exact ⟨rfl, rfl, hle, fun h => absurd rfl h⟩
    | some profile =>
      have hlt := (getNextProfile_some hfound).1
      simp only
      split
      · exact ⟨rfl, rfl, hle, fun h => absurd rfl h⟩
      · exact ⟨rfl, rfl, hle, fun _ => hlt⟩

/-- The profiles after the current one are left alone by `rctl.get`. -/
theorem got_rl (call : HeldCall) (s : Control) (id : Nat) (check : Option (List Int)) {pos : Nat}
    (hpos : call.ctx.current_profile < pos) : (call.got s id check).rl pos = call.rl pos :=
  Function.update_of_ne hpos.ne' _ _

/-- A new id was never given out. -/
theorem Inv.bump (h : n.Inv) : ({ n with next_id := n.next_id + 1 } : Node).Inv where
  owned := h.owned
  below := fun id hid => Nat.lt_succ_of_lt (h.below id hid)
  distinct := h.distinct
  call := by
    intro c call hcall
    have hinv := h.call c call hcall
    exact ⟨fun pos id hid => Nat.lt_succ_of_lt (hinv.assigned pos id hid), hinv.released,
      hinv.fresh⟩

/-- A round of a loop that gets no handler. -/
theorem inv_attempt_unserved (h : n.Inv) (hcall : n.calls c = some call)
    (hphase : call.phase ≠ .waiting) {check : Option (List Int)}
    (hserved : served n.control call.resources check = false) :
    (n.attempt rc tr c call check).Inv := by
  have hinv := h.call c call hcall
  have hheld : (n.control.get n.next_id call.resources check).handlers.map Prod.fst = n.held := by
    rw [handlers_get, hserved]
    simp [held]
  let n' : Node :=
    { n with
      control := n.control.get n.next_id call.resources check, next_id := n.next_id + 1 }
  have hn' : n'.Inv := by
    have hshrink : ∀ id ∈ (n.control.get n.next_id call.resources check).handlers.map Prod.fst,
        id ∈ ({ n with next_id := n.next_id + 1 } : Node).held := by
      intro id hid
      rw [hheld] at hid
      exact hid
    exact h.bump.shrink hshrink
  have hgot : (call.got n.control n.next_id check).resource_handler = call.resource_handler := by
    simp [HeldCall.got, hserved]
  obtain ⟨hhandler, hrl, hle, hlt⟩ := react_moves tr
    (call.got n.control n.next_id check) (respond rc n.control call.resources check)
  show (n'.setCall c _).Inv
  refine hn'.setCall hcall (hhandler.trans hgot) (.inr ?_) ⟨?_, ?_, ?_⟩
  · intro id hid
    show id ∉ n'.held
    rw [show n'.held = n.held from hheld]
    exact hinv.released hphase _ id hid
  · intro pos id hid
    rw [hhandler, hgot] at hid
    exact Nat.lt_succ_of_lt (hinv.assigned pos id hid)
  · intro _ pos id hid
    rw [hhandler, hgot] at hid
    rw [show n'.held = n.held from hheld]
    exact hinv.released hphase pos id hid
  · intro pos hpos
    have hafter : call.ctx.current_profile < pos := by
      rcases hpos with hpos | ⟨hgoes, hpos⟩
      · exact Nat.lt_of_le_of_lt hle hpos
      · exact hpos ▸ hlt hgoes
    rw [hrl, got_rl _ _ _ _ hafter]
    exact hinv.fresh pos (.inl hafter)

/-- A round of a loop that gets a handler: the call owns it. -/
theorem inv_attempt_served (h : n.Inv) (hcall : n.calls c = some call)
    (hphase : call.phase ≠ .waiting) {check : Option (List Int)}
    (hserved : served n.control call.resources check = true) :
    (n.attempt rc tr c call check).Inv := by
  have hinv := h.call c call hcall
  have hret := respond_served n.control rc hserved
  have hhandler : (call.got n.control n.next_id check).resource_handler =
      Function.update call.resource_handler call.ctx.current_profile (some n.next_id) := by
    simp [HeldCall.got, hserved]
  have hcalls : (n.attempt rc tr c call check).calls = Function.update n.calls c
      (some (call.got n.control n.next_id check).updateCallProfile) := by
    unfold attempt
    rw [hret]
    rfl
  have hheld : (n.attempt rc tr c call check).held = n.held ++ [n.next_id] := by
    show (n.control.get n.next_id call.resources check).handlers.map Prod.fst = _
    rw [handlers_get, hserved]
    rfl
  -- what a call remembers afterwards: its old handlers, or the new one
  have hold : ∀ d e pos id, (n.attempt rc tr c call check).calls d = some e →
      e.resource_handler pos = some id →
      (d = c ∧ id = n.next_id) ∨
        ∃ e', n.calls d = some e' ∧ e'.resource_handler pos = some id ∧ id < n.next_id := by
    intro d e pos id he hid
    rw [hcalls] at he
    by_cases hd : d = c
    · subst hd
      cases Option.some.inj ((Function.update_self d _ n.calls).symm.trans he)
      change (call.got n.control n.next_id check).resource_handler pos = some id at hid
      rw [hhandler] at hid
      by_cases hpos : pos = call.ctx.current_profile
      · subst hpos
        rw [Function.update_self] at hid
        exact .inl ⟨rfl, (Option.some.inj hid).symm⟩
      · rw [Function.update_of_ne hpos] at hid
        exact .inr ⟨call, hcall, hid, hinv.assigned pos id hid⟩
    · rw [Function.update_of_ne hd] at he
      exact .inr ⟨e, he, hid, (h.call d e he).assigned pos id hid⟩
  refine ⟨?_, ?_, ?_, ?_⟩
  · intro id hid
    rw [hheld] at hid
    rw [hcalls]
    rcases List.mem_append.mp hid with hid | hid
    · obtain ⟨c', owner, howner, hown⟩ := h.owned id hid
      have hc : c' ≠ c := by
        rintro rfl
        cases Option.some.inj (howner.symm.trans hcall)
        exact hinv.released hphase _ id hown hid
      exact ⟨c', owner, by rw [Function.update_of_ne hc]; exact howner, hown⟩
    · cases List.mem_singleton.mp hid
      refine ⟨c, _, Function.update_self _ _ _, ?_⟩
      show (call.got n.control n.next_id check).resource_handler call.ctx.current_profile = _
      rw [hhandler, Function.update_self]
  · intro id hid
    rw [hheld] at hid
    show id < n.next_id + 1
    rcases List.mem_append.mp hid with hid | hid
    · exact Nat.lt_succ_of_lt (h.below id hid)
    · cases List.mem_singleton.mp hid
      exact Nat.lt_succ_self _
  · intro d d' e e' pos pos' id he he' hid hid'
    rcases hold d e pos id he hid with ⟨hd, rfl⟩ | ⟨f, hf, hfid, hlt⟩
    · rcases hold d' e' pos' _ he' hid' with ⟨hd', -⟩ | ⟨-, -, -, hlt'⟩
      · rw [hd, hd']
      · exact absurd hlt' (Nat.lt_irrefl _)
    · rcases hold d' e' pos' id he' hid' with ⟨-, rfl⟩ | ⟨f', hf', hfid', -⟩
      · exact absurd hlt (Nat.lt_irrefl _)
      · exact h.distinct d d' f f' pos pos' id hf hf' hfid hfid'
  · intro d e he
    have he' := he
    rw [hcalls] at he'
    rw [hheld]
    refine ⟨?_, ?_, ?_⟩
    · intro pos id hid
      show id < n.next_id + 1
      rcases hold d e pos id he hid with ⟨-, rfl⟩ | ⟨-, -, -, hlt⟩
      · exact Nat.lt_succ_self _
      · exact Nat.lt_succ_of_lt hlt
    · intro hgoes pos id hid
      have hd : d ≠ c := by
        rintro rfl
        cases Option.some.inj ((Function.update_self d _ n.calls).symm.trans he')
        exact hgoes rfl
      rw [Function.update_of_ne hd] at he'
      have hlt := (h.call d e he').assigned pos id hid
      have hnot := (h.call d e he').released hgoes pos id hid
      simp only [List.mem_append, List.mem_singleton, not_or]
      exact ⟨hnot, hlt.ne⟩
    · intro pos hpos
      by_cases hd : d = c
      · subst hd
        cases Option.some.inj ((Function.update_self d _ n.calls).symm.trans he')
        rcases hpos with hpos | ⟨hgoes, -⟩
        · have hafter : call.ctx.current_profile < pos := hpos
          show Control.fresh ((call.got n.control n.next_id check).rl pos) = true
          rw [got_rl _ _ _ _ hafter]
          exact hinv.fresh pos (.inl hafter)
        · exact absurd rfl hgoes
      · rw [Function.update_of_ne hd] at he'
        exact (h.call d e he').fresh pos hpos

/-- `onBLegRefused` goes on with the hunting. -/
theorem inv_refused (h : n.Inv) (hcall : n.calls c = some call) :
    ((n.put call.handler).setCall c (call.hunt tr)).Inv := by
  have hput := inv_put h call.handler
  have hcalls : (n.put call.handler).calls = n.calls := by
    unfold put
    split <;> rfl
  have hcall' : (n.put call.handler).calls c = some call := by rw [hcalls, hcall]
  have hinv := hput.call c call hcall'
  have hle := le_getNextProfile tr call.ctx false false
  -- the handler of the current profile was put, and the others were not in the map
  have hreleased : ∀ pos id, call.resource_handler pos = some id →
      id ∉ (n.put call.handler).held := by
    intro pos id hid hheld
    have hcurrent := h.handler_eq hcall hid (held_put_subset n _ id hheld)
    exact notMem_put n hcurrent hheld
  refine hput.setCall hcall' rfl (.inr fun id hid => hreleased _ id hid) ⟨hinv.assigned, ?_, ?_⟩
  · intro _ pos id hid
    exact hreleased pos id hid
  · intro pos hpos
    have hafter : call.ctx.current_profile < pos := by
      rcases hpos with hpos | ⟨hgoes, hpos⟩
      · exact Nat.lt_of_le_of_lt hle hpos
      · cases hfound : (call.ctx.getNextProfile tr false false).2 with
        | none =>
          exfalso
          apply hgoes
          simp [HeldCall.hunt, hfound]
        | some q => exact hpos ▸ (getNextProfile_some hfound).1
    exact hinv.fresh pos (.inl hafter)

/-- A leg that holds the context is destroyed; the last one takes the context with it. -/
theorem inv_destroyLeg (h : n.Inv) (hcall : n.calls c = some call) :
    (n.destroyLeg c call).Inv := by
  unfold destroyLeg
  split
  · have hput := inv_put h call.handler
    have hcalls : (n.put call.handler).calls = n.calls := by
      unfold put
      split <;> rfl
    have hold : ∀ d e, Function.update n.calls c none d = some e → d ≠ c ∧ n.calls d = some e := by
      intro d e he
      by_cases hd : d = c
      · subst hd
        rw [Function.update_self] at he
        cases he
      · rw [Function.update_of_ne hd] at he
        exact ⟨hd, he⟩
    refine ⟨?_, hput.below, ?_, ?_⟩
    · intro id hid
      have hmem : id ∈ (n.put call.handler).held := hid
      obtain ⟨c', owner, howner, hown⟩ := h.owned id (held_put_subset n _ id hmem)
      have hc : c' ≠ c := by
        rintro rfl
        cases Option.some.inj (howner.symm.trans hcall)
        exact notMem_put n hown hmem
      refine ⟨c', owner, ?_, hown⟩
      show Function.update n.calls c none c' = some owner
      rw [Function.update_of_ne hc]
      exact howner
    · intro d d' e e' pos pos' id he he' hid hid'
      exact h.distinct d d' e e' pos pos' id (hold d e he).2 (hold d' e' he').2 hid hid'
    · intro d e he
      exact hput.call d e (by rw [hcalls]; exact (hold d e he).2)
  · have hinv := h.call c call hcall
    exact h.setCall hcall rfl (.inl rfl) ⟨hinv.assigned, hinv.released, hinv.fresh⟩

/-! ### All steps -/

/-- The steps, with what each of them requires. -/
inductive Step (rc : ResourceControl) (tr : CodesTranslator) (n : Node) : Label → Node → Prop where
  | start (c : Nat) (ctx : CallCtx) (rl : List (List Resource)) (new : n.calls c = none)
      (fresh : rl.all Control.fresh = true) :
      Step rc tr n (.start c ctx rl) (n.setCall c { ctx := ctx, rl := fun pos => rl.getD pos [] })
  | attempt (c : Nat) (call : HeldCall) (check : Option (List Int)) (hcall : n.calls c = some call)
      (busy : call.phase ≠ .waiting) :
      Step rc tr n (.attempt c check) (n.attempt rc tr c call check)
  | refused (c : Nat) (call : HeldCall) (hcall : n.calls c = some call) :
      Step rc tr n (.refused c) ((n.put call.handler).setCall c (call.hunt tr))
  | putCopy (c handler : Nat) : Step rc tr n (.putCopy c handler) (n.put (some handler))
  | release (c : Nat) (call : HeldCall) : Step rc tr n (.release c) (n.put call.handler)
  | putHandler (handler : Nat) : Step rc tr n (.putHandler handler) (n.put (some handler))
  | count (c : Nat) (call : HeldCall) (references : Nat) (l : Label)
      (hl : l = .newLeg c ∨ l = .refer c) (hcall : n.calls c = some call) :
      Step rc tr n l (n.setCall c { call with references := references })
  | onBeforeDestroy (c : Nat) (call : HeldCall) (hcall : n.calls c = some call) :
      Step rc tr n (.onBeforeDestroy c) (n.destroyLeg c call)
  | control (l : Control.Label) (control : Control) (hnext : nextControl n.control l = some control) :
      Step rc tr n (.control l) { n with control := control }

theorem step_of_next {n' : Node} {l : Label} (h : next rc tr n l = some n') :
    n.control.conn.crashed = false ∧ n.Step rc tr l n' := by
  unfold next at h
  split at h
  · cases h
  next halive =>
  refine ⟨by simpa using halive, ?_⟩
  cases l with
  | start c ctx rl =>
    simp only at h
    split_ifs at h with hnew
    cases h
    simp only [Bool.and_eq_true, Option.isNone_iff_eq_none] at hnew
    exact .start c ctx rl hnew.1 hnew.2
  | putHandler handler =>
    cases h
    exact .putHandler handler
  | control l =>
    obtain ⟨control, hnext, rfl⟩ := Option.map_eq_some_iff.mp h
    exact .control l control hnext
  | attempt c check =>
    obtain ⟨call, hcall, h⟩ := Option.bind_eq_some_iff.mp h
    simp only [nextCall] at h
    split_ifs at h with hphase
    cases h
    exact .attempt c call check hcall hphase
  | refused c =>
    obtain ⟨call, hcall, h⟩ := Option.bind_eq_some_iff.mp h
    simp only [nextCall] at h
    split_ifs at h
    cases h
    exact .refused c call hcall
  | putCopy c handler =>
    obtain ⟨call, hcall, h⟩ := Option.bind_eq_some_iff.mp h
    simp only [nextCall] at h
    split_ifs at h
    cases h
    exact .putCopy c handler
  | release c =>
    obtain ⟨call, hcall, h⟩ := Option.bind_eq_some_iff.mp h
    cases h
    exact .release c call
  | newLeg c =>
    obtain ⟨call, hcall, h⟩ := Option.bind_eq_some_iff.mp h
    cases h
    exact .count c call _ _ (.inl rfl) hcall
  | refer c =>
    obtain ⟨call, hcall, h⟩ := Option.bind_eq_some_iff.mp h
    cases h
    exact .count c call _ _ (.inr rfl) hcall
  | onBeforeDestroy c =>
    obtain ⟨call, hcall, h⟩ := Option.bind_eq_some_iff.mp h
    cases h
    exact .onBeforeDestroy c call hcall

/-- Every step keeps the invariant. -/
theorem inv_next {n' : Node} (l : Label) (h : n.Inv) (hnext : next rc tr n l = some n') :
    n'.Inv := by
  cases (step_of_next hnext).2 with
  | start c ctx rl new fresh => exact inv_start h new ctx fresh
  | attempt c call check hcall busy =>
    cases hserved : served n.control call.resources check with
    | true => exact inv_attempt_served h hcall busy hserved
    | false => exact inv_attempt_unserved h hcall busy hserved
  | refused c call hcall => exact inv_refused h hcall
  | putCopy c handler => exact inv_put h (some handler)
  | release c call => exact inv_put h call.handler
  | putHandler handler => exact inv_put h (some handler)
  | count c call references l hl hcall =>
    have hinv := h.call c call hcall
    exact h.setCall hcall rfl (.inl rfl) ⟨hinv.assigned, hinv.released, hinv.fresh⟩
  | onBeforeDestroy c call hcall => exact inv_destroyLeg h hcall
  | control l control hcontrol =>
    refine h.shrink ?_
    intro id hid
    rw [(handlers_nextControl n.control hcontrol).1] at hid
    exact hid

/-- The calls start when nothing is held. -/
theorem inv_init (keys : List Key) : ({ control := Control.invalidated keys } : Node).Inv := by
  have hnone : ({ control := Control.invalidated keys } : Node).held = [] := rfl
  refine ⟨?_, ?_, ?_, ?_⟩
  · intro id hid
    rw [hnone] at hid
    cases hid
  · intro id hid
    rw [hnone] at hid
    cases hid
  · intro c c' call call' pos pos' id hcall
    cases hcall
  · intro c call hcall
    cases hcall

/-- **No leak**: along every run, with the calls of the node interleaved in any order,
    every entry of the handlers map is the handler of the current profile of exactly one
    call whose context still exists. -/
theorem existsUnique_owner (h : (system rc tr).Reachable n) {handler : Nat}
    (hheld : handler ∈ n.held) :
    ∃! c, ∃ call, n.calls c = some call ∧ call.handler = some handler := by
  have hinv : n.Inv := by
    refine System.invariant_under Inv ?_ (fun s l s' hs _ hnext => inv_next l hs hnext) h
    rintro _ ⟨keys, rfl⟩
    exact inv_init keys
  obtain ⟨c, call, hcall, hhandler⟩ := hinv.owned handler hheld
  refine ⟨c, ⟨call, hcall, hhandler⟩, ?_⟩
  rintro c' ⟨call', hcall', hhandler'⟩
  exact hinv.distinct c' c call' call _ _ handler hcall' hcall hhandler' hhandler

/-- A call with two profiles, each with `sample`. -/
def sampleStart (c : Nat) : Label :=
  .start c ⟨[{ ruri := "sip:a@a" }, { ruri := "sip:b@b" }], 0, {}, []⟩
    [[Control.sample], [Control.sample]]

/-- Two calls; the first B leg of one of them is refused, and it hunts on. -/
def sampleRun : List Label :=
  [sampleStart 0, sampleStart 1, .attempt 0 (some [0]), .attempt 1 (some [1]), .refused 0,
    .attempt 0 (some [2])]

/-- The handler of the second profile has its owner. -/
theorem existsUnique_owner_hunting :
    ∃ n : Node, (system ⟨.decimal, [], true⟩ ⟨[], [], false, 0⟩).Reachable n ∧ 2 ∈ n.held ∧
      ∃! c, ∃ call, n.calls c = some call ∧ call.handler = some 2 := by
  obtain ⟨n, hreach, htest⟩ :=
    (system ⟨.decimal, [], true⟩ ⟨[], [], false, 0⟩).exists_reachableUnder_of_any
      (fun _ _ => True) (fun n => decide (2 ∈ n.held)) { control := Control.invalidated [] }
      sampleRun ⟨[], rfl⟩ (by decide)
  have hheld := of_decide_eq_true htest
  exact ⟨n, hreach, hheld, existsUnique_owner hreach hheld⟩

/-! ### The counters -/

/-- The steps after which the counters still stand for what the handlers hold. -/
def Conserving (n : Node) : Label → Prop
  | .attempt c _ => ∀ call ∈ n.calls c, ∀ r ∈ call.resources, 0 ≤ r.takes
  | .control l => n.control.Conserving l
  | _ => True

instance (n : Node) : (l : Label) → Decidable (n.Conserving l)
  | .attempt c _ => inferInstanceAs (Decidable (∀ call ∈ n.calls c, ∀ r ∈ call.resources, _))
  | .control l => inferInstanceAs (Decidable (n.control.Conserving l))
  | .start _ _ _ => .isTrue trivial
  | .refused _ => .isTrue trivial
  | .putCopy _ _ => .isTrue trivial
  | .release _ => .isTrue trivial
  | .putHandler _ => .isTrue trivial
  | .newLeg _ => .isTrue trivial
  | .refer _ => .isTrue trivial
  | .onBeforeDestroy _ => .isTrue trivial

/-- A put is a step of the resource control, or nothing. -/
theorem steps_put (halive : n.control.conn.crashed = false) (handler : Option Nat) :
    Control.invalidatedSystem.StepsUnder Control.Conserving n.control (n.put handler).control := by
  cases handler with
  | none => exact .refl
  | some id =>
    refine .single (.put id) trivial ?_
    show n.control.next (.put id) = some (n.control.put id)
    simp [Control.next, halive]

/-- The next id is new to the handlers map. -/
theorem Inv.isNone_lookup (h : n.Inv) : (n.control.handlers.lookup n.next_id).isNone = true := by
  rw [Option.isNone_iff_eq_none, List.lookup_eq_none_iff]
  intro p hp
  have hlt := h.below p.1 (List.mem_map_of_mem hp)
  simpa using hlt.ne'

/-- A step of the node is at most one step of the resource control. -/
theorem steps_next {n' : Node} (l : Label) (h : n.Inv) (hok : n.Conserving l)
    (hnext : next rc tr n l = some n') :
    Control.invalidatedSystem.StepsUnder Control.Conserving n.control n'.control := by
  obtain ⟨halive, hstep⟩ := step_of_next hnext
  cases hstep with
  | start => exact .refl
  | attempt c call check hcall busy =>
    have hfresh := (h.call c call hcall).fresh _ (.inr ⟨busy, rfl⟩)
    refine .single (.get n.next_id call.resources check) (hok call hcall) ?_
    show n.control.next (.get n.next_id call.resources check) =
      some (n.control.get n.next_id call.resources check)
    have hget : (n.control.handlers.lookup n.next_id).isNone && Control.fresh call.resources :=
      Bool.and_eq_true_iff.mpr ⟨h.isNone_lookup, hfresh⟩
    simp only [Control.next, halive, Bool.false_eq_true, if_false, hget, if_true]
  | refused c call => exact steps_put halive call.handler
  | putCopy c handler => exact steps_put halive (some handler)
  | release c call => exact steps_put halive call.handler
  | putHandler handler => exact steps_put halive (some handler)
  | count => exact .refl
  | onBeforeDestroy c call =>
    unfold destroyLeg
    split
    · exact steps_put halive call.handler
    · exact .refl
  | control l control hcontrol =>
    exact .single l hok (handlers_nextControl n.control hcontrol).2

/-- Seen from the resource control, a run of the node is one of its own runs. -/
theorem control_reachable (h : (system rc tr).ReachableUnder Conserving n) :
    n.Inv ∧ Control.invalidatedSystem.ReachableUnder Control.Conserving n.control := by
  refine System.mapped_reachable Node.control Inv ?_ ?_ h
  · rintro _ ⟨keys, rfl⟩
    exact ⟨inv_init keys, keys, rfl⟩
  · intro s l s' hinv hok hnext
    exact ⟨inv_next l hinv hnext, steps_next l hinv hok hnext⟩

/-- A counter that is not zero has a handler that counts for it. -/
theorem exists_held {handlers : List (Nat × HandlersEntry)} {k : Key} (h : heldBy handlers k ≠ 0) :
    ∃ p ∈ handlers, p.2.valid = true ∧ ∃ r ∈ p.2.resources, r.taken = true ∧ get_key r = k := by
  by_contra hnone
  push Not at hnone
  apply h
  have hzero : ∀ p ∈ handlers, p.2.held k = 0 := by
    intro p hp
    unfold HandlersEntry.held
    split
    · next hvalid =>
      rw [Pi.list_sum_apply, List.map_map]
      refine List.sum_eq_zero ?_
      intro x hx
      obtain ⟨r, hr, rfl⟩ := List.mem_map.mp hx
      show r.held k = 0
      unfold Resource.held
      cases htaken : r.taken with
      | false => simp
      | true =>
        have hkey := hnone p hp hvalid r hr htaken
        exact Pi.single_eq_of_ne (Ne.symm hkey) _
    · rfl
  unfold heldBy
  rw [Pi.list_sum_apply, List.map_map]
  refine List.sum_eq_zero ?_
  intro x hx
  obtain ⟨p, hp, rfl⟩ := List.mem_map.mp hx
  exact hzero p hp

end Node

end Yeti.Call.Holding
