import Yeti.Resources.Readiness
import Yeti.Resources.Replies

/-! # What a step does to the connection

    `ConnStep` lists what one step of the resource control system can do to the
    connection, with what the step requires of it; `Started` and `Finished` do the
    same for the functions that may start a batch of operations and for the end of a
    batch.  Invariants of the connection are proved along these cases.
-/

open LTS

namespace Yeti.Resources

namespace Connection

variable {c : Connection}

/-! ### Losing the connection -/

/-- A command whose reply is lost with the connection. -/
def lose (o : Outstanding) : Outstanding := { o with fate := o.fate.or (some .IOError) }

/-- Everything that dropping the context changes. -/
theorem dropContext_eq (c : Connection) :
    c.dropContext =
      { c with
        outstanding := c.outstanding.map lose
        multi := none
        connected := false
        async_context := none
        disconnecting := false
        resources_inited := c.resources_inited && !(c.connected && c.write_async_is_busy)
        write_async_is_busy := c.write_async_is_busy && !c.connected } := by
  unfold dropContext on_disconnect
  cases hc : c.connected with
  | false => simp [lose]
  | true =>
    cases hb : c.write_async_is_busy with
    | false => simp [lose]
    | true => simp [lose]

/-- Unless it fails, `redisAsyncDisconnect` waits for pending replies or drops the context. -/
theorem redisAsyncDisconnect_of_alive (halive : c.redisAsyncDisconnect.crashed = false) :
    (c.outstanding.any (·.fate.isNone) = true ∧
        c.redisAsyncDisconnect = { c with disconnecting := true }) ∨
      c.redisAsyncDisconnect = c.dropContext := by
  unfold redisAsyncDisconnect at halive ⊢
  split_ifs at halive ⊢ with hcontext hpending
  · exact .inl ⟨hpending, rfl⟩
  · exact .inr rfl

/-! ### Posting -/

/-- The fate of a command that is posted now. -/
def newFate (c : Connection) : Option ResultType :=
  if c.connected then none else some .NotConnected

/-- Commands are posted behind the others, unless hiredis refuses them. -/
theorem post_of_alive {owner : Owner} {cmds : List Command}
    (halive : (c.post owner cmds).crashed = false) :
    (cmds ≠ [] → c.connected = true → c.disconnecting = false) ∧
      c.post owner cmds = { c with
        outstanding := c.outstanding ++ cmds.map fun cmd => ⟨cmd, owner, c.newFate⟩ } := by
  unfold post at halive ⊢
  by_cases hempty : cmds = []
  · rw [if_pos hempty]
    refine ⟨fun hne => absurd hempty hne, ?_⟩
    rw [hempty, List.map_nil, List.append_nil]
  · rw [if_neg hempty] at halive ⊢
    by_cases hrefused : (c.connected && c.disconnecting) = true
    · rw [if_pos hrefused] at halive
      cases halive
    · rw [if_neg hrefused]
      refine ⟨fun _ hc => ?_, rfl⟩
      simpa [hc] using hrefused

/-! ### Starting operations -/

/-- A batch is started; `queue` is what is left in the queue. -/
def startOp (c : Connection) (ol queue : List ResourceOperation) : Connection :=
  { c with
    write_async_is_busy := true
    ops := Function.update c.ops c.next_uid (some { state := .MULTI_START, res_list := ol })
    next_uid := c.next_uid + 1
    outstanding := c.outstanding ++ [⟨.MULTI, .op c.next_uid, none⟩]
    resource_operations_queue := queue }

/-- Operations are queued or dropped, or a batch of them is started. -/
inductive Started (c : Connection) : Connection → Prop where
  | queued (queue : List ResourceOperation) :
      Started c { c with resource_operations_queue := queue }
  | crashed {c' : Connection} (h : c'.crashed = true) : Started c c'
  | started (ol queue : List ResourceOperation)
      (effective : ∀ r ∈ ol, r.effective = true) (connected : c.connected = true)
      (inited : c.resources_inited = true) (free : c.write_async_is_busy = false)
      (steady : c.disconnecting = false) : Started c (c.startOp ol queue)

theorem started_performOp (hc : c.connected = true) (hi : c.resources_inited = true)
    (hb : c.write_async_is_busy = false) (rol queue : List ResourceOperation) :
    Started c { c.performOp rol with resource_operations_queue := queue } := by
  by_cases hol : rol.filter (·.effective) = []
  · rw [performOp_nothing hol]
    exact .queued queue
  · cases hd : c.disconnecting with
    | true =>
      have hfull : (rol.filter (·.effective)).isEmpty = false := by simpa using hol
      refine .crashed ?_
      simp [performOp, OperationResources.perform, hfull, post, hc, hd]
    | false =>
      have heffective : ∀ r ∈ rol.filter (·.effective), r.effective = true :=
        fun r hr => (List.mem_filter.mp hr).2
      rw [performOp_connected hc hd hol]
      exact .started _ queue heffective hc hi hb hd

theorem started_process_operations_queue (c : Connection) : Started c c.process_operations_queue := by
  unfold process_operations_queue is_ready
  split_ifs with hwait hempty
  · exact .queued c.resource_operations_queue
  · exact .queued c.resource_operations_queue
  · simp only [Bool.or_eq_true, Bool.not_eq_true', not_or, Bool.not_eq_false,
      Bool.and_eq_true] at hwait
    exact started_performOp hwait.1.1 hwait.1.2 (by simpa using hwait.2) _ []

theorem started_process_operations_list (c : Connection) (rol : List ResourceOperation) :
    Started c (c.process_operations_list rol) := by
  have hsame := performOp_queue c rol c.resource_operations_queue
  unfold process_operations_list is_ready
  split_ifs with hready
  · simp only [Bool.and_eq_true, Bool.not_eq_true'] at hready
    rw [← hsame]
    exact started_performOp hready.1.1 hready.1.2 hready.2 rol _
  · exact .queued _

/-! ### Starting the invalidation -/

/-- The invalidation is started with a sequence in its initial state. -/
theorem performInv_of_alive (hs : c.inv_seq.state = .INITIAL)
    (halive : c.performInv.crashed = false) :
    (c.connected = true → c.disconnecting = false) ∧
      c.performInv = { c with
        inv_seq := { c.inv_seq with state := .GET_KEYS }
        outstanding := c.outstanding ++ [⟨.KEYS, .inv, c.newFate⟩] } := by
  have hperform : c.inv_seq.perform = ({ c.inv_seq with state := .GET_KEYS }, [.KEYS]) := by
    unfold InvalidateResources.perform
    rw [if_pos hs]
  unfold performInv at halive ⊢
  rw [hperform] at halive ⊢
  obtain ⟨hsteady, heq⟩ := post_of_alive halive
  exact ⟨hsteady (by simp), heq⟩

/-! ### Replies -/

/-- The connection when a reply arrives: a disconnect that waits for pending replies
    happens after the last of them. -/
def arrived (c : Connection) (rest : List Outstanding) : Connection :=
  if c.disconnecting && !rest.any (·.fate.isNone) then { c with outstanding := rest }.dropContext
  else { c with outstanding := rest }

/-- The reply that ends the invalidation posts nothing. -/
theorem processRedisReply_finished {q q' : InvalidateResources} {reply : Reply}
    {cmds : List Command} (h : q.processRedisReply reply = some (q', cmds))
    (hs : q'.state = .FINISH) : cmds = [] := by
  unfold InvalidateResources.processRedisReply at h
  split at h
  · cases h
    rfl
  · split_ifs at h
    · cases h
      rfl
    · split at h
      · cases h
        rfl
      · split at h
        · cases h
          cases hs
        · cases h
      · cases h
        rfl
  · dsimp only at h
    split_ifs at h <;> cases h <;> rfl
  · cases h
    rfl

/-- What a reply to the invalidation does: the sequence has finished and the queue is taken
    up, or the sequence goes on. -/
theorem processInvReply_of_alive {reply : Reply}
    (halive : (c.processInvReply reply).1.crashed = false) :
    ∃ q cmds, c.inv_seq.processRedisReply reply = some (q, cmds) ∧
      ((q.state = .FINISH ∧
          Started { c with
            resources_inited := true
            inv_seq := { q with initial := false } } (c.processInvReply reply).1) ∨
        (q.state ≠ .FINISH ∧
          (c.processInvReply reply).1 = { c with
            inv_seq := q
            outstanding := c.outstanding ++ cmds.map fun cmd => ⟨cmd, .inv, c.newFate⟩ })) := by
  cases hreply : c.inv_seq.processRedisReply reply with
  | none =>
    unfold processInvReply at halive
    rw [hreply] at halive
    cases halive
  | some r =>
    obtain ⟨q, cmds⟩ := r
    refine ⟨q, cmds, rfl, ?_⟩
    by_cases hfinish : q.state = .FINISH
    · obtain rfl := processRedisReply_finished hreply hfinish
      rw [processInvReply_finish hreply hfinish]
      exact .inl ⟨hfinish, started_process_operations_queue _⟩
    · rw [processInvReply_continue hreply hfinish] at halive ⊢
      exact .inr ⟨hfinish, (post_of_alive halive).2⟩

/-- What follows when an operation has finished. -/
inductive Finished (c : Connection) : Connection → Prop where
  /-- After an error; hiredis waits for pending replies. -/
  | leaving (pending : c.outstanding.any (·.fate.isNone) = true) :
      Finished c { c with
        write_async_is_busy := false
        disconnecting := true
        resources_inited := false
        inv_seq := c.inv_seq.cleanup }
  /-- After an error; the connection is closed. -/
  | dropped :
      Finished c { { c with write_async_is_busy := false }.dropContext with
        resources_inited := false
        inv_seq := c.inv_seq.cleanup }
  /-- The invalidation has waited for the operation. -/
  | invalidated (steady : c.connected = true → c.disconnecting = false) :
      Finished c { c with
        write_async_is_busy := false
        inv_seq := { c.inv_seq.cleanup with state := .GET_KEYS }
        outstanding := c.outstanding ++ [⟨.KEYS, .inv, c.newFate⟩] }
  | next {c' : Connection} (inited : c.resources_inited = true)
      (start : Started { c with write_async_is_busy := false } c') : Finished c c'

theorem finishOp_of_alive {iserror : Bool} (halive : (c.finishOp iserror).crashed = false) :
    Finished c (c.finishOp iserror) := by
  unfold finishOp at halive ⊢
  dsimp only at halive ⊢
  split_ifs at halive ⊢ with herror hinited
  · have halive' : { c with write_async_is_busy := false }.redisAsyncDisconnect.crashed = false :=
      halive
    rcases redisAsyncDisconnect_of_alive halive' with ⟨hpending, heq⟩ | heq
    · rw [heq]
      exact .leaving hpending
    · rw [heq, dropContext_inv_seq]
      exact .dropped
  · obtain ⟨hsteady, heq⟩ := performInv_of_alive rfl halive
    rw [heq]
    exact .invalidated hsteady
  · exact .next (by simpa using hinited) (started_process_operations_queue _)

/-- What a reply to an operation does. -/
theorem processOpReply_cases (c : Connection) (uid : Nat) (reply : Reply) :
    (c.ops uid = none ∧ c.processOpReply uid reply = c) ∨
      ∃ op, c.ops uid = some op ∧
        (((op.processRedisReply reply).1.state = .FINISH ∧
            c.processOpReply uid reply =
              { c with ops := Function.update c.ops uid none }.finishOp
                (op.processRedisReply reply).1.iserror) ∨
          ((op.processRedisReply reply).1.state ≠ .FINISH ∧
            c.processOpReply uid reply =
              { c with ops := Function.update c.ops uid (some (op.processRedisReply reply).1) }.post
                (.op uid) (op.processRedisReply reply).2)) := by
  cases hop : c.ops uid with
  | none =>
    left
    unfold processOpReply
    rw [hop]
    exact ⟨rfl, rfl⟩
  | some op =>
    right
    refine ⟨op, rfl, ?_⟩
    by_cases hs : (op.processRedisReply reply).1.state = .FINISH
    · exact .inl ⟨hs, processOpReply_finish hop rfl hs⟩
    · exact .inr ⟨hs, processOpReply_continue hop rfl hs⟩

end Connection

/-! ### Steps -/

namespace Control

open Connection

variable {s s' : Control}

/-- What a step does to the connection. -/
inductive ConnStep (s : Control) : Label → Connection → Prop where
  | same (l : Label) : ConnStep s l s.conn
  | operations (l : Label) (rol : List ResourceOperation) :
      ConnStep s l (s.conn.process_operations_list rol)
  | invalidate : ConnStep s .invalidate s.conn.invalidate_resources
  | reconnect (disconnected : s.conn.connected = false) (free : s.conn.async_context = none) :
      ConnStep s .reconnect { s.conn with
        async_context := some s.conn.next_context
        next_context := s.conn.next_context + 1 }
  | connectFailed (disconnected : s.conn.connected = false) :
      ConnStep s .connectFailed s.conn.dropContext
  | connect (disconnected : s.conn.connected = false) (context : s.conn.async_context ≠ none) :
      ConnStep s .connect { s.conn with connected := true }.on_connect
  | disconnect (n : Nat) (connected : s.conn.connected = true) :
      ConnStep s (.disconnect n) s.conn.dropContext
  | reply (a : Answer) (o : Outstanding) (rest : List Outstanding)
      (out : s.conn.outstanding = o :: rest) :
      ConnStep s (.reply a)
        (((s.answerNext o a).1.arrived rest).process_reply_event o.owner (s.answerNext o a).2.2).1

/-- The answer does not touch the connection, but for the open transaction. -/
theorem answerNext_conn (s : Control) (o : Outstanding) (a : Answer) :
    ∃ multi, (s.answerNext o a).1 = { s.conn with multi := multi } := by
  unfold answerNext
  split
  · exact ⟨_, rfl⟩
  · exact ⟨_, rfl⟩
  · exact ⟨_, rfl⟩

theorem deliver_conn (s : Control) (o : Outstanding) (rest : List Outstanding) (a : Answer) :
    (s.deliver o rest a).conn =
      (((s.answerNext o a).1.arrived rest).process_reply_event o.owner (s.answerNext o a).2.2).1 := by
  unfold deliver arrived
  rfl

theorem connStep_of_next {l : Label} (h : s.next l = some s') : s.ConnStep l s'.conn := by
  cases step_of_next h with
  | get handler rl check new parsed =>
    unfold Control.get
    split_ifs
    · exact .same _
    · split
      · exact .same _
      · dsimp only
        split_ifs
        · unfold Connection.get
          split_ifs
          · exact .same _
          · exact .operations _ _
        · exact .same _
  | put handler =>
    unfold Control.put
    split
    · exact .same _
    · dsimp only
      split_ifs
      · unfold Connection.put
        split_ifs
        · exact .same _
        · exact .operations _ _
      · exact .same _
  | invalidate => exact .invalidate
  | invalidateReturn => exact .same _
  | reconnect disconnected free => exact .reconnect disconnected free
  | connectFailed disconnected => exact .connectFailed disconnected
  | connect disconnected context => exact .connect disconnected context
  | disconnect n connected => exact .disconnect n connected
  | reply a o rest out =>
    rw [deliver_conn]
    exact .reply a o rest out

end Control

end Yeti.Resources
