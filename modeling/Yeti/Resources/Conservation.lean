import Mathlib.Algebra.Order.Group.Int
import Mathlib.Algebra.Order.Pi
import Yeti.Resources.Replies

/-! # Conservation of the resource counters

    In a quiescent state this node's field of every key is what the valid
    handlers hold, provided that on the way

    * no `get` takes a negative number of units,
    * every invalidation finds a queue that adds nothing to any counter,
    * the connection is not lost while an operation is in flight, and
    * Redis executes the commands it answers.

    Without the second condition an operation queued before the invalidation
    outlives it; without the third the counters are reset although the handlers
    keep their resources.
-/

open LTS

namespace Yeti.Resources

open Connection

namespace Control

/-! ### Statement -/

/-- Nothing is in flight, queued or to be reset. -/
def Quiescent (s : Control) : Prop :=
  s.conn.resources_inited = true ∧ s.conn.write_async_is_busy = false ∧
    s.conn.resource_operations_queue = [] ∧ s.conn.outstanding = []

instance (s : Control) : Decidable s.Quiescent := inferInstanceAs (Decidable (_ ∧ _ ∧ _ ∧ _))

/-- The steps after which the counters still stand for what the handlers hold. -/
def Conserving (s : Control) : Label → Prop
  | .get _ rl _ => ∀ r ∈ rl, 0 ≤ r.takes
  | .invalidate =>
    ∀ o ∈ s.conn.resource_operations_queue,
      net s.conn.resource_operations_queue (get_key o.toResource) = 0
  | .disconnect _ => s.conn.write_async_is_busy = false
  | .reply a => a = .executed
  | _ => True

instance (s : Control) : (l : Label) → Decidable (s.Conserving l)
  | .get _ rl _ => inferInstanceAs (Decidable (∀ r ∈ rl, 0 ≤ r.takes))
  | .invalidate => inferInstanceAs (Decidable (∀ o ∈ _, _ = _))
  | .disconnect _ => inferInstanceAs (Decidable (_ = _))
  | .reply _ => inferInstanceAs (Decidable (_ = _))
  | .put _ => .isTrue trivial
  | .invalidateReturn => .isTrue trivial
  | .reconnect => .isTrue trivial
  | .connectFailed => .isTrue trivial
  | .connect => .isTrue trivial

/-! ### The invariant -/

/-- The connection accounts for what the handlers hold. -/
structure Inv (s : Control) : Prop where
  conn : ConnInv s.conn s.redis (heldBy s.handlers)
  keyed : s.redis.Keyed
  nodup : (s.handlers.map Prod.fst).Nodup
  nonneg : ∀ h ∈ s.handlers, ∀ r ∈ h.2.resources, 0 ≤ r.takes

theorem inv_invalidated (keys : List Key) : (invalidated keys).Inv where
  conn := ⟨rfl, rfl, by simp [invalidated, Nonneg], .idle ⟨rfl, rfl, rfl, rfl, rfl⟩⟩
  keyed := fun k hk => absurd rfl hk
  nodup := by simp [invalidated]
  nonneg := by simp [invalidated]

/-! ### Handlers -/

/-- What the handlers hold, split at one of them. -/
theorem heldBy_remove {handlers : List (Nat × HandlersEntry)} {handler : Nat}
    {e : HandlersEntry} (hnodup : (handlers.map Prod.fst).Nodup)
    (hlookup : handlers.lookup handler = some e) :
    heldBy (handlers.filter (·.1 ≠ handler)) = heldBy handlers - e.held := by
  induction handlers with
  | nil => simp at hlookup
  | cons h handlers ih =>
    obtain ⟨key, entry⟩ := h
    rw [List.map_cons, List.nodup_cons] at hnodup
    by_cases hkey : key = handler
    · subst hkey
      -- this is the entry; the keys of the others differ from it
      have he : entry = e := by simpa [List.lookup_cons] using hlookup
      have hrest : handlers.filter (·.1 ≠ key) = handlers := by
        rw [List.filter_eq_self]
        intro h hh
        simp only [ne_eq, decide_eq_true_eq]
        intro heq
        exact hnodup.1 (List.mem_map.mpr ⟨h, hh, heq⟩)
      rw [List.filter_cons_of_neg (by simp), hrest, ← he]
      simp [heldBy]
    · have hne : (handler == key) = false := by simpa using Ne.symm hkey
      have hlookup' : handlers.lookup handler = some e := by
        simpa [List.lookup_cons, hne] using hlookup
      have hih := ih hnodup.2 hlookup'
      rw [List.filter_cons_of_pos (by simpa using hkey)]
      show (HandlersEntry.held entry) + heldBy _ = HandlersEntry.held entry + heldBy handlers - _
      rw [hih, add_sub_assoc]

/-- The entry found for a handler is one of the list. -/
theorem mem_of_lookup {handlers : List (Nat × HandlersEntry)} {handler : Nat}
    {e : HandlersEntry} (h : handlers.lookup handler = some e) : (handler, e) ∈ handlers := by
  obtain ⟨l₁, l₂, rfl, -⟩ := List.lookup_eq_some_iff.mp h
  simp

/-- Invalid handlers hold nothing. -/
theorem heldBy_invalidated (handlers : List (Nat × HandlersEntry)) :
    heldBy (handlers.map fun h => (h.1, { h.2 with valid := false })) = 0 := by
  induction handlers with
  | nil => rfl
  | cons h handlers ih =>
    show (HandlersEntry.held { h.2 with valid := false }) + heldBy _ = 0
    rw [ih]
    simp [HandlersEntry.held]

/-! ### Steps -/

variable {s : Control}

theorem inv_get (h : s.Inv) {handler : Nat} {rl : List Resource} (check : Option (List Int))
    (hnew : (s.handlers.lookup handler).isNone = true) (hfresh : fresh rl = true)
    (hpos : ∀ r ∈ rl, 0 ≤ r.takes) : (s.get handler rl check).Inv := by
  unfold get
  split
  · exact h
  · cases check with
    | none => exact h
    | some result =>
      simp only
      split
      · -- checking leaves `taken` and `takes` alone
        have htaken : ∀ r ∈ (checkLoop .NORMAL rl result).rl, r.taken = false := by
          refine checkLoop_forall (fun r hr => hr) rl result .NORMAL ?_
          intro r hr
          have hr := List.all_eq_true.mp hfresh r hr
          simp only [Bool.and_eq_true, Bool.not_eq_true'] at hr
          exact hr.2
        have htakes : ∀ r ∈ (checkLoop .NORMAL rl result).rl, 0 ≤ r.takes :=
          checkLoop_forall (fun r hr => hr) rl result .NORMAL hpos
        have hnotin : handler ∉ s.handlers.map Prod.fst := by
          intro hin
          obtain ⟨p, hp, rfl⟩ := List.mem_map.mp hin
          have := List.lookup_eq_none_iff.mp (Option.isNone_iff_eq_none.mp hnew) p hp
          simp at this
        refine ⟨?_, h.keyed, ?_, ?_⟩
        · have hheld : heldBy (s.handlers ++ [(handler,
              { resources := (checkLoop .NORMAL rl result).rl.map (·.markTaken) })]) =
              heldBy s.handlers +
                (((checkLoop .NORMAL rl result).rl.map (·.markTaken)).map Resource.held).sum := by
            simp [heldBy, HandlersEntry.held]
          show ConnInv _ _ (heldBy (s.handlers ++ _))
          rw [hheld]
          exact connInv_get h.conn htakes htaken
        · show (List.map Prod.fst (s.handlers ++ _)).Nodup
          rw [List.map_append, List.nodup_append]
          refine ⟨h.nodup, by simp, ?_⟩
          intro a ha b hb
          simp only [List.map_cons, List.map_nil, List.mem_singleton] at hb
          rintro rfl
          exact hnotin (hb ▸ ha)
        · intro p hp r hr
          rcases List.mem_append.mp hp with hp | hp
          · exact h.nonneg p hp r hr
          · rw [List.mem_singleton.mp hp] at hr
            obtain ⟨r', hr', rfl⟩ := List.mem_map.mp hr
            rw [takes_markTaken]
            exact htakes r' hr'
      · exact h

theorem inv_put (h : s.Inv) (handler : Nat) : (s.put handler).Inv := by
  unfold put
  cases hl : s.handlers.lookup handler with
  | none => exact h
  | some e =>
    have hremove := heldBy_remove h.nodup hl
    have hnodup : ((s.handlers.filter (·.1 ≠ handler)).map Prod.fst).Nodup :=
      h.nodup.sublist (List.filter_sublist.map _)
    have hnonneg : ∀ p ∈ s.handlers.filter (·.1 ≠ handler), ∀ r ∈ p.2.resources, 0 ≤ r.takes :=
      fun p hp => h.nonneg p (List.mem_filter.mp hp).1
    simp only
    split
    · next hv =>
      refine ⟨?_, h.keyed, hnodup, hnonneg⟩
      show ConnInv (s.conn.put e.resources) s.redis (heldBy (s.handlers.filter (·.1 ≠ handler)))
      -- the operations of the put make up for what leaves the handlers
      rw [hremove, HandlersEntry.held, if_pos hv]
      exact connInv_put h.conn (h.nonneg _ (mem_of_lookup hl))
    · next hv =>
      refine ⟨?_, h.keyed, hnodup, hnonneg⟩
      show ConnInv s.conn s.redis (heldBy (s.handlers.filter (·.1 ≠ handler)))
      -- an invalid handler held nothing
      rw [hremove, HandlersEntry.held, if_neg hv, sub_zero]
      exact h.conn

theorem inv_invalidate_resources (h : s.Inv)
    (hqueue : ∀ o ∈ s.conn.resource_operations_queue,
      net s.conn.resource_operations_queue (get_key o.toResource) = 0) :
    s.invalidate_resources.Inv where
  conn := by
    show ConnInv s.conn.invalidate_resources s.redis
      (heldBy (s.handlers.map fun h => (h.1, { h.2 with valid := false })))
    rw [heldBy_invalidated]
    exact connInv_invalidate_resources h.conn (net_eq_zero hqueue)
  keyed := h.keyed
  nodup := by
    show (List.map Prod.fst (s.handlers.map _)).Nodup
    rw [List.map_map]
    exact h.nodup
  nonneg := by
    intro p hp r hr
    obtain ⟨p', hp', rfl⟩ := List.mem_map.mp hp
    exact h.nonneg p' hp' r hr

/-- The connection is replaced by one that accounts for the same total. -/
theorem Inv.withConn (h : s.Inv) {c : Connection} (hc : ConnInv c s.redis (heldBy s.handlers)) :
    { s with conn := c }.Inv :=
  ⟨hc, h.keyed, h.nodup, h.nonneg⟩

/-- No operation is in flight without a connection. -/
theorem Inv.free_of_disconnected (h : s.Inv) (hc : s.conn.connected = false) :
    s.conn.write_async_is_busy = false := by
  cases h.conn.phase with
  | idle hi => exact hi.free
  | opening uid ol hb multi out => simp [hb.connected] at hc
  | running uid ol queued rest hb split multi out => simp [hb.connected] at hc
  | reading lost hr connected state multi isLost out => exact hr.free
  | cleaning ks hr connected state count covers multi out => exact hr.free
  | cleaningBlock ks queued rest hr connected state count covers split multi out => exact hr.free
  | down hr disconnected multi isLost state => exact hr.free

theorem inv_disconnect (h : s.Inv) (n : Nat) (hb : s.conn.write_async_is_busy = false) :
    (s.disconnect n).Inv := by
  refine ⟨?_, Redis.keyed_execAll h.keyed _ _, h.nodup, h.nonneg⟩
  -- without outstanding commands Redis executes nothing
  refine connInv_dropContext h.conn hb fun hout => ?_
  show s.redis.execAll _ _ = s.redis
  rw [hout]
  simp [Redis.execAll]

theorem inv_deliver (h : s.Inv) {o : Outstanding} {rest : List Outstanding}
    (hout : s.conn.outstanding = o :: rest) : (s.deliver o rest .executed).Inv := by
  refine ⟨connInv_deliver h.conn h.keyed hout, ?_, h.nodup, h.nonneg⟩
  cases hf : o.fate with
  | some result =>
    rw [(deliver_lost rest .executed h.conn.steady hf).1]
    exact h.keyed
  | none =>
    rw [(deliver_executed rest h.conn.steady hf rfl).1]
    exact Redis.keyed_exec h.keyed _ _

/-- Every conserving step keeps the invariant. -/
theorem inv_next {s' : Control} (l : Label) (h : s.Inv) (hok : s.Conserving l)
    (hnext : next s l = some s') : s'.Inv := by
  cases step_of_next hnext with
  | get handler rl check new parsed => exact inv_get h check new parsed hok
  | put handler => exact inv_put h handler
  | invalidate => exact inv_invalidate_resources h hok
  | invalidateReturn => exact ⟨h.conn, h.keyed, h.nodup, h.nonneg⟩
  | reconnect disconnected free =>
    refine h.withConn ⟨h.conn.alive, h.conn.steady, h.conn.nonneg, ?_⟩
    exact h.conn.phase.frame _ _ _
  | connectFailed disconnected =>
    exact h.withConn (connInv_dropContext h.conn (h.free_of_disconnected disconnected) fun _ => rfl)
  | connect disconnected context => exact h.withConn (connInv_on_connect h.conn disconnected)
  | disconnect n connected => exact inv_disconnect h n hok
  | reply a o rest out =>
    cases hok
    exact inv_deliver h out

/-! ### Conservation -/

/-- What the handlers hold is never negative. -/
theorem heldBy_nonneg {handlers : List (Nat × HandlersEntry)}
    (h : ∀ p ∈ handlers, ∀ r ∈ p.2.resources, 0 ≤ r.takes) (k : Key) : 0 ≤ heldBy handlers k := by
  have hres : ∀ r : Resource, 0 ≤ r.takes → 0 ≤ r.held := by
    intro r hr
    unfold Resource.held
    rw [Pi.single_nonneg]
    split
    · exact hr
    · exact le_refl 0
  have hentry : ∀ p ∈ handlers, 0 ≤ p.2.held := by
    intro p hp
    unfold HandlersEntry.held
    split
    · refine List.sum_nonneg ?_
      intro a ha
      obtain ⟨r, hr, rfl⟩ := List.mem_map.mp ha
      exact hres r (h p hp r hr)
    · exact le_refl 0
  have hsum : 0 ≤ heldBy handlers := by
    refine List.sum_nonneg ?_
    intro a ha
    obtain ⟨p, hp, rfl⟩ := List.mem_map.mp ha
    exact hentry p hp
  exact hsum k

/-- In a quiescent state the fields are what the handlers hold. -/
theorem Inv.field_eq (h : s.Inv) (hq : s.Quiescent) : s.redis.field = heldBy s.handlers := by
  obtain ⟨hinited, hfree, hqueue, hout⟩ := hq
  have hphase := h.conn.phase
  rw [hqueue, net_nil, sub_zero] at hphase
  -- the flags of a quiescent state leave the idle phase only
  cases hphase with
  | idle hi => exact hi.field
  | opening uid ol hb multi out => simp [hb.busy] at hfree
  | running uid ol queued rest hb split multi out => simp [hb.busy] at hfree
  | reading lost hr connected state multi isLost out => simp [hr.notInited] at hinited
  | cleaning ks hr connected state count covers multi out => simp [hr.notInited] at hinited
  | cleaningBlock ks queued rest hr connected state count covers split multi out =>
    simp [hr.notInited] at hinited
  | down hr disconnected multi isLost state => simp [hr.notInited] at hinited

/-- **Conservation**: along every run of conserving steps, the field of every key
    in a quiescent state is the sum of what the valid handlers have taken. -/
theorem field_eq_heldBy_of_conserving {s : Control}
    (h : invalidatedSystem.ReachableUnder Conserving s) (hq : s.Quiescent) (k : Key) :
    s.redis.field k = heldBy s.handlers k ∧ 0 ≤ s.redis.field k := by
  have hinv : s.Inv := by
    refine System.invariant_under Inv ?_ (fun s l s' => inv_next l) h
    rintro _ ⟨keys, rfl⟩
    exact inv_invalidated keys
  have hfield : s.redis.field k = heldBy s.handlers k := by rw [hinv.field_eq hq]
  refine ⟨hfield, ?_⟩
  rw [hfield]
  exact heldBy_nonneg hinv.nonneg k

/-- A resource with one unit out of ten. -/
def sample : Resource := { id := 472, type := 1, takes := 1, limit := 10 }

/-- Two handlers take `sample`, one gives it back: the field is one. -/
theorem field_eq_heldBy_of_conserving_two_gets :
    ∃ s, invalidatedSystem.ReachableUnder Conserving s ∧ s.Quiescent ∧
      heldBy s.handlers ⟨1, 472⟩ = 1 ∧ s.redis.field ⟨1, 472⟩ = 1 := by
  obtain ⟨s, hreach, htest⟩ := invalidatedSystem.exists_reachableUnder_of_any
    Conserving (fun s => decide (s.Quiescent ∧ heldBy s.handlers ⟨1, 472⟩ = 1))
    (invalidated [])
    [.get 0 [sample] (some [0]), .get 1 [sample] (some [0]), .put 0,
      .reply .executed, .reply .executed, .reply .executed, .reply .executed,
      .reply .executed, .reply .executed, .reply .executed]
    ⟨[], rfl⟩ (by decide)
  obtain ⟨hq, hheld⟩ := of_decide_eq_true htest
  have hfield := (field_eq_heldBy_of_conserving hreach hq ⟨1, 472⟩).1
  exact ⟨s, hreach, hq, hheld, hfield.trans hheld⟩

/-- A put that is queued when the handlers are invalidated outlives the reset of
    the counters, which ends up below zero. -/
theorem not_conserved_queued_put :
    ¬ ∀ s, invalidatedSystem.Reachable s → s.Quiescent →
      ∀ k, s.redis.field k = heldBy s.handlers k ∧ 0 ≤ s.redis.field k := by
  intro hall
  obtain ⟨s, hreach, htest⟩ := invalidatedSystem.exists_reachableUnder_of_any
    (fun _ _ => True)
    (fun s => decide (s.Quiescent ∧ s.redis.field ⟨1, 472⟩ = -1))
    (invalidated [])
    [.get 0 [sample] (some [0]), .reply .executed, .reply .executed, .reply .executed,
      .get 1 [sample] (some [1]), .put 0, .invalidate,
      .reply .executed, .reply .executed, .reply .executed,
      .reply .executed, .reply .executed, .reply .executed, .reply .executed,
      .invalidateReturn, .reply .executed, .reply .executed, .reply .executed]
    ⟨[], rfl⟩ (by decide)
  obtain ⟨hq, hfield⟩ := of_decide_eq_true htest
  have hnonneg := (hall s hreach hq ⟨1, 472⟩).2
  omega

end Control

end Yeti.Resources
