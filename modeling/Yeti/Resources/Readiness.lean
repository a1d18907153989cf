import Yeti.Resources.Control

/-! # Readiness of the container

    `container_ready` is raised by `resources_initialized_cb`, which is called only
    when the invalidation finishes while it is still marked as initial.  The flag
    is therefore up in every state after the first invalidation, as long as

    * nobody calls `invalidate_resources` once that mark is gone, and
    * the connection is not established anew while the initial invalidation is
      under way, since `on_connect` then drops the mark with `cleanup`.
-/

open LTS

namespace Yeti.Resources

namespace InvalidateResources

variable {q q' : InvalidateResources} {reply : Reply} {cmds : List Command}

@[simp] theorem perform_initial (q : InvalidateResources) : q.perform.1.initial = q.initial := by
  unfold perform
  split <;> rfl

/-- A reply does not change the mark. -/
theorem processRedisReply_initial (h : q.processRedisReply reply = some (q', cmds)) :
    q'.initial = q.initial := by
  unfold processRedisReply at h
  cases hs : q.state with
  | INITIAL =>
    simp only [hs, Option.some.injEq, Prod.mk.injEq] at h
    rw [← h.1]
    rfl
  | GET_KEYS =>
    simp only [hs] at h
    split_ifs at h
    · cases h
      rfl
    · split at h
      · cases h
        rfl
      · split at h
        · cases h
          rfl
        · cases h
      · cases h
        rfl
  | CLEAN_RES =>
    simp only [hs] at h
    split_ifs at h <;> cases h <;> rfl
  | FINISH =>
    simp only [hs, Option.some.injEq, Prod.mk.injEq] at h
    rw [← h.1]

end InvalidateResources

namespace Connection

variable {c : Connection}

/-! ### What leaves the mark alone -/

@[simp] theorem post_inv_seq (owner : Owner) (cmds : List Command) :
    (c.post owner cmds).inv_seq = c.inv_seq := by
  unfold post
  split_ifs <;> rfl

@[simp] theorem post_ops (owner : Owner) (cmds : List Command) :
    (c.post owner cmds).ops = c.ops := by
  unfold post
  split_ifs <;> rfl

@[simp] theorem post_resources_inited (owner : Owner) (cmds : List Command) :
    (c.post owner cmds).resources_inited = c.resources_inited := by
  unfold post
  split_ifs <;> rfl

@[simp] theorem performInv_initial : c.performInv.inv_seq.initial = c.inv_seq.initial := by
  simp [performInv]

@[simp] theorem performInv_ops : c.performInv.ops = c.ops := by
  simp [performInv]

@[simp] theorem performInv_resources_inited :
    c.performInv.resources_inited = c.resources_inited := by
  simp [performInv]

@[simp] theorem performOp_inv_seq (rol : List ResourceOperation) :
    (c.performOp rol).inv_seq = c.inv_seq := by
  unfold performOp
  split
  · simp
  · rfl

@[simp] theorem process_operations_queue_inv_seq :
    c.process_operations_queue.inv_seq = c.inv_seq := by
  unfold process_operations_queue
  split_ifs
  · rfl
  · rfl
  · simp

@[simp] theorem process_operations_list_inv_seq (rol : List ResourceOperation) :
    (c.process_operations_list rol).inv_seq = c.inv_seq := by
  unfold process_operations_list
  split_ifs
  · simp
  · rfl

@[simp] theorem put_inv_seq (rl : List Resource) : (c.put rl).inv_seq = c.inv_seq := by
  unfold Connection.put
  split_ifs
  · rfl
  · simp

@[simp] theorem get_inv_seq (rl : List Resource) : (c.get rl).inv_seq = c.inv_seq := by
  unfold Connection.get
  split_ifs
  · rfl
  · simp

@[simp] theorem dropContext_inv_seq : c.dropContext.inv_seq = c.inv_seq := by
  unfold dropContext on_disconnect
  split_ifs
  · simp only
    split_ifs <;> rfl
  · rfl

@[simp] theorem redisAsyncDisconnect_inv_seq :
    c.redisAsyncDisconnect.inv_seq = c.inv_seq := by
  unfold redisAsyncDisconnect
  split_ifs
  · rfl
  · rfl
  · simp

/-! ### Once the mark is gone -/

/-- The mark never comes back. -/
theorem on_connect_unmarked (h : c.inv_seq.initial = false) :
    c.on_connect.inv_seq.initial = false := by
  unfold on_connect
  split_ifs
  · simp [InvalidateResources.cleanup]
  · simpa using h
  · simpa using h

theorem finishOp_unmarked (h : c.inv_seq.initial = false) (iserror : Bool) :
    (c.finishOp iserror).inv_seq.initial = false := by
  unfold finishOp
  simp only
  split_ifs
  · rfl
  · simp [InvalidateResources.cleanup]
  · simpa using h

theorem process_reply_event_unmarked (h : c.inv_seq.initial = false) (owner : Owner)
    (reply : Reply) : (c.process_reply_event owner reply).1.inv_seq.initial = false := by
  cases owner with
  | inv =>
    show (c.processInvReply reply).1.inv_seq.initial = false
    unfold processInvReply
    split
    · exact h
    · next q cmds hreply =>
      have hq : q.initial = false :=
        (InvalidateResources.processRedisReply_initial hreply).trans h
      simp only
      split_ifs
      · simp
      · simpa using hq
  | op uid =>
    show (c.processOpReply uid reply).inv_seq.initial = false
    unfold processOpReply
    split
    · exact h
    · simp only
      split_ifs
      · exact finishOp_unmarked (c := { c with ops := Function.update c.ops uid none }) h _
      · simpa using h

/-! ### While the mark is there -/

/-- The initial invalidation has not finished yet: no operation was started. -/
structure Starting (c : Connection) : Prop where
  initial : c.inv_seq.initial = true
  notInited : c.resources_inited = false
  noOps : ∀ uid, c.ops uid = none

theorem starting_process_operations_list (h : c.Starting) (rol : List ResourceOperation) :
    (c.process_operations_list rol).Starting := by
  have hready : ¬ (c.is_ready && !c.write_async_is_busy) = true := by
    simp [is_ready, h.notInited]
  -- the operations are queued until the invalidation is over
  unfold process_operations_list
  rw [if_neg hready]
  exact ⟨h.initial, h.notInited, h.noOps⟩

theorem starting_put (h : c.Starting) (rl : List Resource) : (c.put rl).Starting := by
  unfold Connection.put
  split_ifs
  · exact h
  · exact starting_process_operations_list h _

theorem starting_get (h : c.Starting) (rl : List Resource) : (c.get rl).Starting := by
  unfold Connection.get
  split_ifs
  · exact h
  · exact starting_process_operations_list h _

theorem starting_invalidate_resources (h : c.Starting) : c.invalidate_resources.Starting := by
  unfold invalidate_resources
  split_ifs with hc hi
  · exact ⟨h.initial, rfl, h.noOps⟩
  · exact ⟨h.initial, rfl, h.noOps⟩
  · simp [h.notInited] at hi
  · simp [h.notInited] at hi

theorem starting_on_connect (h : c.Starting) (hs : c.inv_seq.state = .INITIAL) :
    c.on_connect.Starting := by
  unfold on_connect
  rw [if_pos (by simp [h.notInited]), if_neg (by simp [hs])]
  exact ⟨by simpa using h.initial, by simpa using h.notInited, by simpa using h.noOps⟩

theorem starting_dropContext (h : c.Starting) : c.dropContext.Starting := by
  refine ⟨by simpa using h.initial, ?_, ?_⟩
  · unfold dropContext on_disconnect
    split_ifs
    · simp only
      split_ifs
      · rfl
      · exact h.notInited
    · exact h.notInited
  · unfold dropContext on_disconnect
    split_ifs
    · simp only
      split_ifs <;> exact h.noOps
    · exact h.noOps

/-- A reply either leaves the initial invalidation under way, or finishes it and
    reports that to the container. -/
theorem process_reply_event_starting (h : c.Starting) (owner : Owner) (reply : Reply) :
    (c.process_reply_event owner reply).1.Starting ∨
      (c.process_reply_event owner reply).1.inv_seq.initial = false ∧
        (c.process_reply_event owner reply).2 = true := by
  cases owner with
  | inv =>
    show (c.processInvReply reply).1.Starting ∨
      (c.processInvReply reply).1.inv_seq.initial = false ∧ (c.processInvReply reply).2 = true
    unfold processInvReply
    split
    · exact .inl ⟨h.initial, h.notInited, h.noOps⟩
    · next q cmds hreply =>
      have hq : q.initial = true :=
        (InvalidateResources.processRedisReply_initial hreply).trans h.initial
      simp only
      split_ifs
      · -- finished while marked: the callback is called
        exact .inr ⟨by simp, by simpa using hq⟩
      · refine .inl ⟨by simpa using hq, by simpa using h.notInited, by simpa using h.noOps⟩
  | op uid =>
    refine .inl ?_
    show (c.processOpReply uid reply).Starting
    unfold processOpReply
    -- no batch was started, so nobody waits for this reply
    rw [h.noOps uid]
    exact h

end Connection

namespace Control

open Connection

/-! ### Steps -/

/-- The steps after which readiness is still restored. -/
def Restoring (s : Control) : Label → Prop
  | .invalidate => s.conn.inv_seq.initial = true
  | .connect => s.conn.inv_seq.initial = true → s.conn.inv_seq.state = .INITIAL
  | _ => True

instance (s : Control) : (l : Label) → Decidable (s.Restoring l)
  | .invalidate => inferInstanceAs (Decidable (_ = _))
  | .connect => inferInstanceAs (Decidable (_ = _ → _ = _))
  | .get _ _ _ => .isTrue trivial
  | .put _ => .isTrue trivial
  | .invalidateReturn => .isTrue trivial
  | .reconnect => .isTrue trivial
  | .connectFailed => .isTrue trivial
  | .disconnect _ => .isTrue trivial
  | .reply _ => .isTrue trivial

/-- Either the initial invalidation is still to finish, or the container is ready. -/
def ReadyInv (s : Control) : Prop :=
  s.conn.Starting ∨ s.conn.inv_seq.initial = false ∧ s.container_ready = true

variable {s : Control}

/-- A step of the connection alone. -/
theorem ReadyInv.withConn (h : s.ReadyInv) {s' : Control}
    (hready : s'.container_ready = s.container_ready)
    (hstart : s.conn.Starting → s'.conn.Starting)
    (hmark : s.conn.inv_seq.initial = false → s'.conn.inv_seq.initial = false) :
    s'.ReadyInv := by
  rcases h with h | ⟨hinitial, hr⟩
  · exact .inl (hstart h)
  · exact .inr ⟨hmark hinitial, hready.trans hr⟩

theorem readyInv_get (h : s.ReadyInv) (handler : Nat) (rl : List Resource)
    (check : Option (List Int)) : (s.get handler rl check).ReadyInv := by
  unfold Control.get
  split_ifs
  · exact h
  · cases check with
    | none => exact h
    | some result =>
      simp only
      split_ifs
      · exact h.withConn rfl (fun hc => starting_get hc _) (fun hi => by simpa using hi)
      · exact h

theorem readyInv_put (h : s.ReadyInv) (handler : Nat) : (s.put handler).ReadyInv := by
  unfold Control.put
  split
  · exact h
  · simp only
    split_ifs
    · exact h.withConn rfl (fun hc => starting_put hc _) (fun hi => by simpa using hi)
    · exact h.withConn rfl id id

theorem readyInv_deliver (h : s.ReadyInv) (o : Outstanding) (rest : List Outstanding)
    (a : Answer) : (s.deliver o rest a).ReadyInv := by
  -- the connection that gets the event differs from the old one in its context only
  obtain ⟨conn, reply, hconn, hready, hstart, hmark⟩ : ∃ (conn : Connection) (reply : Reply),
      (s.deliver o rest a).conn = (conn.process_reply_event o.owner reply).1 ∧
      (s.deliver o rest a).container_ready =
        (s.container_ready || (conn.process_reply_event o.owner reply).2) ∧
      (s.conn.Starting → conn.Starting) ∧
      (s.conn.inv_seq.initial = false → conn.inv_seq.initial = false) := by
    obtain ⟨hstart, hmark⟩ : (s.conn.Starting → (s.answerNext o a).1.Starting) ∧
        (s.conn.inv_seq.initial = false → (s.answerNext o a).1.inv_seq.initial = false) := by
      unfold answerNext
      split
      · exact ⟨id, id⟩
      · exact ⟨id, id⟩
      · exact ⟨fun hc => ⟨hc.initial, hc.notInited, hc.noOps⟩, id⟩
    refine ⟨_, _, rfl, rfl, fun hc => ?_, fun hi => ?_⟩
    · have hc' := hstart hc
      have hrest : { (s.answerNext o a).1 with outstanding := rest }.Starting :=
        ⟨hc'.initial, hc'.notInited, hc'.noOps⟩
      split_ifs
      · exact starting_dropContext hrest
      · exact hrest
    · have hi' := hmark hi
      split_ifs
      · rw [dropContext_inv_seq]
        exact hi'
      · exact hi'
  rcases h with h | ⟨hinitial, hr⟩
  · rcases process_reply_event_starting (hstart h) o.owner reply with hs | ⟨hi, hcb⟩
    · exact .inl (hconn ▸ hs)
    · exact .inr ⟨hconn ▸ hi, by rw [hready, hcb, Bool.or_true]⟩
  · refine .inr ⟨hconn ▸ process_reply_event_unmarked (hmark hinitial) _ _, ?_⟩
    rw [hready, hr, Bool.true_or]

/-- Every restoring step keeps the invariant. -/
theorem readyInv_next {s' : Control} (l : Label) (h : s.ReadyInv) (hok : s.Restoring l)
    (hnext : next s l = some s') : s'.ReadyInv := by
  cases step_of_next hnext with
  | get handler rl check new parsed => exact readyInv_get h handler rl check
  | put handler => exact readyInv_put h handler
  | invalidate =>
    rcases h with h | ⟨hinitial, -⟩
    · exact .inl (starting_invalidate_resources h)
    · -- excluded by the condition on the step
      have hinit : s.conn.inv_seq.initial = true := hok
      simp [hinitial] at hinit
  | invalidateReturn => exact h.withConn rfl id id
  | reconnect disconnected free =>
    exact h.withConn rfl (fun hc => ⟨hc.initial, hc.notInited, hc.noOps⟩) id
  | connectFailed disconnected =>
    exact h.withConn rfl starting_dropContext (fun hi => by simpa using hi)
  | connect disconnected context =>
    refine h.withConn rfl (fun hc => ?_) (fun hi => on_connect_unmarked hi)
    exact starting_on_connect ⟨hc.initial, hc.notInited, hc.noOps⟩ (hok hc.initial)
  | disconnect n connected =>
    exact h.withConn rfl starting_dropContext (fun hi => by simpa [disconnect] using hi)
  | reply a o rest out => exact readyInv_deliver h o rest a

/-! ### Readiness -/

/-- What is to hold of the two flags in every state. -/
def Restored (s : Control) : Prop :=
  s.initedOnce = true → s.conn.resources_inited = true → s.invalidating = 0 →
    s.container_ready = true

instance (s : Control) : Decidable s.Restored := inferInstanceAs (Decidable (_ → _ → _ → _))

/-- **Readiness**: along every run of restoring steps, the container is ready
    whenever the resources are initialised and nobody waits for it. -/
theorem restored_of_restoring {s : Control} (h : system.ReachableUnder Restoring s) :
    s.Restored := by
  have hinv : s.ReadyInv := by
    refine System.invariant_under ReadyInv ?_ (fun s l s' => readyInv_next l) h
    rintro _ ⟨redis, rfl⟩
    exact .inl ⟨rfl, rfl, fun _ => rfl⟩
  intro _ hinited _
  rcases hinv with hc | ⟨-, hready⟩
  · simp [hc.notInited] at hinited
  · exact hready

/-- The initial invalidation of an empty Redis runs to its end. -/
theorem restored_of_restoring_first_connect :
    ∃ s, system.ReachableUnder Restoring s ∧ s.initedOnce = true ∧
      s.conn.resources_inited = true ∧ s.invalidating = 0 ∧ s.container_ready = true := by
  obtain ⟨s, hreach, htest⟩ := system.exists_reachableUnder_of_any
    Restoring
    (fun s => decide (s.initedOnce = true ∧ s.conn.resources_inited = true ∧
      s.invalidating = 0))
    (started { field := fun _ => 0, keys := [] })
    [.connect, .reply .executed, .reply .executed, .reply .executed]
    ⟨_, rfl⟩ (by decide)
  obtain ⟨honce, hinited, hnobody⟩ := of_decide_eq_true htest
  have hready := restored_of_restoring hreach honce hinited hnobody
  exact ⟨s, hreach, honce, hinited, hnobody, hready⟩

/-- After `invalidate_resources` the container is never ready again. -/
theorem not_restored_invalidate : ¬ ∀ s, system.Reachable s → s.Restored := by
  intro hall
  obtain ⟨s, hreach, htest⟩ := system.exists_reachableUnder_of_any
    (fun _ _ => True) (fun s => decide (¬ s.Restored))
    (started { field := fun _ => 0, keys := [] })
    [.connect, .reply .executed, .reply .executed, .reply .executed,
      .invalidate, .reply .executed, .reply .executed, .reply .executed, .invalidateReturn]
    ⟨_, rfl⟩ (by decide)
  exact of_decide_eq_true htest (hall s hreach)

end Control

end Yeti.Resources
