import Yeti.Resources.Phases

/-! # Delivery of a reply

    One lemma for each phase: what `process_reply_event` does to the connection
    when the first outstanding command of that phase is answered.  They are put
    together in `connInv_deliver`.
-/

namespace Yeti.Resources

open Connection

variable {c : Connection} {r : Redis} {t : Key → Int}

/-! ### The event -/

namespace Control

variable {s : Control} {o : Outstanding}

/-- Delivery of the reply to a command whose connection was lost. -/
theorem deliver_lost (rest : List Outstanding) (a : Answer) {result : ResultType}
    (hd : s.conn.disconnecting = false) (hf : o.fate = some result) :
    (s.deliver o rest a).redis = s.redis ∧
      (s.deliver o rest a).conn =
        ({ s.conn with outstanding := rest }.process_reply_event o.owner ⟨result, .undef⟩).1 := by
  simp [deliver, answerNext, hf, hd]

/-- Delivery of the reply to a command that Redis executes. -/
theorem deliver_executed (rest : List Outstanding) {multi : Option (List Command)}
    {redis : Redis} {reply : Reply}
    (hd : s.conn.disconnecting = false) (hf : o.fate = none)
    (hexec : s.redis.exec s.conn.multi o.cmd = (multi, redis, reply)) :
    (s.deliver o rest .executed).redis = redis ∧
      (s.deliver o rest .executed).conn =
        ({ s.conn with multi := multi, outstanding := rest }.process_reply_event o.owner
          reply).1 := by
  simp [deliver, answerNext, hf, hexec, hd]

end Control

/-- A reply after which the batch goes on. -/
theorem processOpReply_continue {uid : Nat} {op op' : OperationResources} {cmds : List Command}
    {reply : Reply} (hop : c.ops uid = some op)
    (hreply : op.processRedisReply reply = (op', cmds)) (hs : op'.state ≠ .FINISH) :
    c.processOpReply uid reply =
      { c with ops := Function.update c.ops uid (some op') }.post (.op uid) cmds := by
  unfold processOpReply
  rw [hop]
  simp only [hreply]
  exact if_neg hs

/-- The reply that ends the batch. -/
theorem processOpReply_finish {uid : Nat} {op op' : OperationResources} {cmds : List Command}
    {reply : Reply} (hop : c.ops uid = some op)
    (hreply : op.processRedisReply reply = (op', cmds)) (hs : op'.state = .FINISH) :
    c.processOpReply uid reply =
      { c with ops := Function.update c.ops uid none }.finishOp op'.iserror := by
  unfold processOpReply
  rw [hop]
  simp only [hreply]
  exact if_pos hs

/-- A finished batch starts the invalidation that waits for it. -/
theorem finishOp_pending (hi : c.resources_inited = false) :
    c.finishOp false =
      { c with write_async_is_busy := false, inv_seq := c.inv_seq.cleanup }.performInv := by
  simp [finishOp, hi]

/-- Otherwise it starts the next batch. -/
theorem finishOp_inited (hi : c.resources_inited = true) :
    c.finishOp false = { c with write_async_is_busy := false }.process_operations_queue := by
  simp [finishOp, hi]

/-- A reply after which the invalidation goes on. -/
theorem processInvReply_continue {q : InvalidateResources} {cmds : List Command} {reply : Reply}
    (hreply : c.inv_seq.processRedisReply reply = some (q, cmds)) (hs : q.state ≠ .FINISH) :
    c.processInvReply reply = ({ c with inv_seq := q }.post .inv cmds, false) := by
  have hq : ({ c with inv_seq := q }.post .inv cmds).inv_seq = q := by
    unfold post
    split_ifs <;> rfl
  unfold processInvReply
  rw [hreply]
  simp only [hq]
  exact if_neg hs

/-- The reply that ends the invalidation. -/
theorem processInvReply_finish {q : InvalidateResources} {reply : Reply}
    (hreply : c.inv_seq.processRedisReply reply = some (q, [])) (hs : q.state = .FINISH) :
    c.processInvReply reply =
      ({ c with
          resources_inited := true
          inv_seq := { q with initial := false } }.process_operations_queue, q.initial) := by
  unfold processInvReply
  rw [hreply]
  exact if_pos hs

/-! ### Replies to a batch -/

/-- Every command of a batch is an `HINCRBY`, which Redis queues. -/
theorem exec_hincrby (r : Redis) (ol : List ResourceOperation) (cmd : Command)
    (queued : List Command)
    (h : cmd ∈ ol.filterMap OperationResources.hincrby) :
    r.exec (some queued) cmd = (some (queued ++ [cmd]), r, ⟨.StatusReply, .other⟩) := by
  obtain ⟨o, -, ho⟩ := List.mem_filterMap.mp h
  unfold OperationResources.hincrby at ho
  split_ifs at ho
  · cases ho
    rfl
  · cases ho
    rfl

/-- An effective batch issues one command per operation. -/
theorem length_hincrby {ol : List ResourceOperation} (h : ∀ o ∈ ol, o.effective = true) :
    (ol.filterMap OperationResources.hincrby).length = ol.length := by
  rw [List.length_filterMap_eq_countP, List.countP_eq_length]
  intro o ho
  have heff := h o ho
  unfold ResourceOperation.effective at heff
  cases hop : o.op <;> simp_all [OperationResources.hincrby]

/-- The reply to `MULTI` makes the batch post the rest of its block. -/
theorem connInv_reply_opening (h : ConnInv c r t) {uid : Nat} {ol : List ResourceOperation}
    {reply : Reply}
    (hb : Batch c r (t - net c.resource_operations_queue) uid ol .MULTI_START 0) :
    ConnInv ({ c with multi := some [], outstanding := [] }.processOpReply uid reply) r t := by
  -- whatever the reply is, the block is posted
  have hstep : (⟨.MULTI_START, ol, false, 0⟩ : OperationResources).processRedisReply reply =
      (⟨.OP_RES, ol, false, ol.length + 1⟩,
        ol.filterMap OperationResources.hincrby ++ [.EXEC]) := rfl
  rw [processOpReply_continue (c := { c with multi := some [], outstanding := [] }) hb.op hstep
    (by simp), post_connected]
  case hc => exact hb.connected
  case hd => exact h.steady
  refine ⟨h.alive, h.steady, h.nonneg, ?_⟩
  refine .running uid ol [] (ol.filterMap OperationResources.hincrby) ?_ rfl rfl rfl
  refine ⟨hb.connected, hb.busy, ?_, hb.effective, hb.nonneg, hb.field, hb.reset⟩
  simp [length_hincrby hb.effective]

/-- A queued command of a batch. -/
theorem connInv_reply_running (h : ConnInv c r t) {uid : Nat} {ol : List ResourceOperation}
    {cmd : Command} {queued rest : List Command} {reply : Reply}
    (hreply : reply.result = .StatusReply)
    (hb : Batch c r (t - net c.resource_operations_queue) uid ol .OP_RES
      ((cmd :: rest).length + 1))
    (hsplit : ol.filterMap OperationResources.hincrby = queued ++ cmd :: rest) :
    ConnInv ({ c with
      multi := some (queued ++ [cmd])
      outstanding := awaiting (.op uid) (rest ++ [Command.EXEC]) }.processOpReply uid reply)
      r t := by
  have hcount : ((cmd :: rest).length + 1 : Int) ≠ 1 := by
    simp only [List.length_cons]
    omega
  have hstep := OperationResources.processRedisReply_queued
    (q := ⟨.OP_RES, ol, false, (cmd :: rest).length + 1⟩) rfl hcount hreply
  rw [processOpReply_continue
    (c := { c with
      multi := some (queued ++ [cmd])
      outstanding := awaiting (.op uid) (rest ++ [Command.EXEC]) }) hb.op hstep (by simp), post_nil]
  refine ⟨h.alive, h.steady, h.nonneg, ?_⟩
  refine .running uid ol (queued ++ [cmd]) rest ?_ (by simp [hsplit]) rfl rfl
  exact ⟨hb.connected, hb.busy, by simp, hb.effective, hb.nonneg, hb.field, hb.reset⟩

/-- `EXEC` applies the batch; then a pending invalidation starts, or the next batch. -/
theorem connInv_reply_exec (h : ConnInv c r t) {uid : Nat} {ol : List ResourceOperation}
    {reply : Reply} (hreply : reply.result = .SuccessReply)
    (hb : Batch c r (t - net c.resource_operations_queue) uid ol .OP_RES 1) :
    ConnInv ({ c with multi := none, outstanding := [] }.processOpReply uid reply)
      ((ol.filterMap OperationResources.hincrby).foldl Redis.apply r) t := by
  have hstep := OperationResources.processRedisReply_exec
    (q := ⟨.OP_RES, ol, false, 1⟩) rfl rfl hreply
  rw [processOpReply_finish (c := { c with multi := none, outstanding := [] }) hb.op hstep rfl]
  cases hi : c.resources_inited with
  | false =>
    -- an invalidation was called for meanwhile
    rw [finishOp_pending]
    · rw [performInv_connected]
      case hc => exact hb.connected
      case hd => exact h.steady
      case hs => rfl
      refine ⟨h.alive, h.steady, h.nonneg, ?_⟩
      exact .reading [] ⟨rfl, rfl, hb.reset hi⟩ hb.connected rfl rfl (by simp) rfl
    · rfl
  | true =>
    -- the fields have what the batch adds, and nothing is in flight
    rw [finishOp_inited]
    · have hfield := Redis.field_operations ol r hb.effective hb.nonneg
      rw [hb.field hi] at hfield
      exact connInv_process_operations_queue ⟨rfl, rfl, rfl, rfl, hfield⟩ h.alive h.steady h.nonneg
    · rfl

/-! ### Replies to the invalidation -/

/-- A lost reply leaves the invalidation where it is. -/
theorem processInvReply_lost (c : Connection) (reply : Reply)
    (hres : reply.result = .IOError ∨ reply.result = .NotConnected)
    (hs : c.inv_seq.state ≠ .FINISH) :
    ∃ q : InvalidateResources, q.state = c.inv_seq.state ∧
      c.processInvReply reply = ({ c with inv_seq := q }, false) := by
  have hsucc : reply.result ≠ .SuccessReply := by rcases hres with h | h <;> simp [h]
  have hstat : reply.result ≠ .StatusReply := by rcases hres with h | h <;> simp [h]
  obtain ⟨q, hq, -, heq⟩ := InvalidateResources.processRedisReply_failed hs hsucc hstat
  exact ⟨q, hq, processInvReply_continue heq (hq ▸ hs)⟩

/-- The reply to `KEYS` makes the invalidation post its block. -/
theorem connInv_reply_keys (h : ConnInv c r t) (hk : r.Keyed)
    (hr : Resetting c (t - net c.resource_operations_queue)) (hc : c.connected = true)
    (hs : c.inv_seq.state = .GET_KEYS) :
    ConnInv ({ c with multi := none, outstanding := [] }.processInvReply
      ⟨.SuccessReply, .array (r.keys.map some)⟩).1 r t := by
  rw [processInvReply_continue (c := { c with multi := none, outstanding := [] })
    (InvalidateResources.processRedisReply_keys hs r.keys) (by simp), post_connected]
  case hc => exact hc
  case hd => exact h.steady
  refine ⟨h.alive, h.steady, h.nonneg, ?_⟩
  exact .cleaning r.keys ⟨hr.notInited, hr.free, hr.balance⟩ hc rfl rfl hk rfl rfl

/-- A queued command of the invalidation, `MULTI` included. -/
theorem connInv_reply_cleaning (h : ConnInv c r t) {ks : List Key} {queued rest : List Command}
    {reply : Reply} (hreply : reply.result = .StatusReply)
    (hr : Resetting c (t - net c.resource_operations_queue)) (hc : c.connected = true)
    (hs : c.inv_seq.state = .CLEAN_RES) (hcount : c.inv_seq.commands_count = rest.length + 2)
    (hcovers : ∀ k, r.field k ≠ 0 → k ∈ ks) (hsplit : ks.map Command.HSET = queued ++ rest) :
    ConnInv ({ c with
      multi := some queued
      outstanding := awaiting .inv (rest ++ [Command.EXEC]) }.processInvReply reply).1 r t := by
  have hne : c.inv_seq.commands_count ≠ 1 := by omega
  have hstep := InvalidateResources.processRedisReply_queued hs hne hreply
  rw [processInvReply_continue
    (c := { c with
      multi := some queued
      outstanding := awaiting .inv (rest ++ [Command.EXEC]) }) hstep (by simp [hs]), post_nil]
  refine ⟨h.alive, h.steady, h.nonneg, ?_⟩
  refine .cleaningBlock ks queued rest ⟨hr.notInited, hr.free, hr.balance⟩ hc hs ?_ hcovers
    hsplit rfl rfl
  show c.inv_seq.commands_count - 1 = rest.length + 1
  omega

/-- The end of the invalidation: all fields are zero, and the queue is taken up. -/
theorem connInv_reply_finish (h : ConnInv c r t) {ks : List Key} {reply : Reply}
    (hreply : reply.result = .SuccessReply)
    (hr : Resetting c (t - net c.resource_operations_queue))
    (hs : c.inv_seq.state = .CLEAN_RES) (hcount : c.inv_seq.commands_count = 1)
    (hcovers : ∀ k, r.field k ≠ 0 → k ∈ ks) :
    ConnInv ({ c with multi := none, outstanding := [] }.processInvReply reply).1
      ((ks.map Command.HSET).foldl Redis.apply r) t := by
  have hstep := InvalidateResources.processRedisReply_exec hs hcount hreply
  rw [processInvReply_finish (c := { c with multi := none, outstanding := [] }) hstep rfl]
  -- the block has reset every key that had a field
  have hfield := Redis.field_clean ks r hcovers
  rw [← hr.balance] at hfield
  exact connInv_process_operations_queue ⟨rfl, hr.free, rfl, rfl, hfield⟩ h.alive h.steady
    h.nonneg

/-! ### Every reply -/

/-- Delivery of a reply to the invalidation that was lost with its connection. -/
theorem connInv_deliver_lost {s : Control} {o : Outstanding} {rest : List Outstanding}
    {a : Control.Answer} (h : ConnInv s.conn s.redis t) (hlost : o.Lost)
    (hs : s.conn.inv_seq.state ≠ .FINISH)
    (hphase : ∀ q : InvalidateResources, q.state = s.conn.inv_seq.state →
      Phase { s.conn with outstanding := rest, inv_seq := q } s.redis
        (t - net s.conn.resource_operations_queue)) :
    ConnInv (s.deliver o rest a).conn (s.deliver o rest a).redis t := by
  obtain ⟨howner, hfate⟩ := hlost
  obtain ⟨result, hf, hres⟩ : ∃ result, o.fate = some result ∧
      (result = .IOError ∨ result = .NotConnected) := by
    rcases hfate with hf | hf
    · exact ⟨_, hf, .inl rfl⟩
    · exact ⟨_, hf, .inr rfl⟩
  obtain ⟨hredis, hconn⟩ := Control.deliver_lost rest a h.steady hf
  obtain ⟨q, hq, hreply⟩ := processInvReply_lost
    { s.conn with outstanding := rest } ⟨result, .undef⟩ hres hs
  rw [hredis, hconn, howner]
  show ConnInv (processInvReply _ _).1 _ _
  rw [hreply]
  exact ⟨h.alive, h.steady, h.nonneg, hphase q hq⟩

/-- Delivery of a reply to a command that Redis executes is the event with that reply. -/
theorem connInv_deliver_executed {s : Control} {o : Outstanding} {rest : List Outstanding}
    {multi : Option (List Command)} {redis : Redis} {reply : Reply}
    (hd : s.conn.disconnecting = false) (hf : o.fate = none)
    (hexec : s.redis.exec s.conn.multi o.cmd = (multi, redis, reply))
    (hafter : ConnInv ({ s.conn with multi := multi, outstanding := rest }.process_reply_event
      o.owner reply).1 redis t) :
    ConnInv (s.deliver o rest .executed).conn (s.deliver o rest .executed).redis t := by
  obtain ⟨hredis, hconn⟩ := Control.deliver_executed rest hd hf hexec
  rw [hredis, hconn]
  exact hafter

/-- The next reply keeps the invariant and the total, when Redis executes the
    command it answers. -/
theorem connInv_deliver {s : Control} {o : Outstanding} {rest : List Outstanding}
    (h : ConnInv s.conn s.redis t) (hk : s.redis.Keyed)
    (hout : s.conn.outstanding = o :: rest) :
    ConnInv (s.deliver o rest .executed).conn (s.deliver o rest .executed).redis t := by
  -- the phase says which command is the first outstanding one
  cases h.phase with
  | idle hi => simp [hi.quiet] at hout
  | opening uid ol hb multi out =>
    rw [out, awaiting_cons, awaiting_nil] at hout
    cases hout
    refine connInv_deliver_executed h.steady rfl (by rw [multi]) ?_
    exact connInv_reply_opening h hb
  | running uid ol queued cmds hb split multi out =>
    cases cmds with
    | nil =>
      rw [out, List.nil_append, awaiting_cons, awaiting_nil] at hout
      cases hout
      rw [List.append_nil] at split
      refine connInv_deliver_executed h.steady rfl (by rw [multi]) ?_
      rw [← split]
      exact connInv_reply_exec h rfl hb
    | cons cmd cmds =>
      rw [out, List.cons_append, awaiting_cons] at hout
      cases hout
      have hexec := exec_hincrby s.redis ol cmd queued (by simp [split])
      refine connInv_deliver_executed h.steady rfl (by rw [multi, hexec]) ?_
      exact connInv_reply_running h rfl hb split
  | reading lost hr connected state multi isLost out =>
    cases lost with
    | nil =>
      rw [out, List.nil_append, awaiting_cons, awaiting_nil] at hout
      cases hout
      refine connInv_deliver_executed h.steady rfl (by rw [multi]) ?_
      exact connInv_reply_keys h hk hr connected state
    | cons l lost =>
      rw [out, List.cons_append] at hout
      cases hout
      refine connInv_deliver_lost h (isLost o (by simp)) (by simp [state]) fun q hq => ?_
      exact .reading lost ⟨hr.notInited, hr.free, hr.balance⟩ connected (hq.trans state) multi
        (fun l hl => isLost l (by simp [hl])) rfl
  | cleaning ks hr connected state count covers multi out =>
    rw [out, InvalidateResources.cleanCommands, List.cons_append, awaiting_cons] at hout
    cases hout
    refine connInv_deliver_executed h.steady rfl (by rw [multi]) ?_
    exact connInv_reply_cleaning h rfl hr connected state (by simp [count]) covers rfl
  | cleaningBlock ks queued cmds hr connected state count covers split multi out =>
    cases cmds with
    | nil =>
      rw [out, List.nil_append, awaiting_cons, awaiting_nil] at hout
      cases hout
      rw [List.append_nil] at split
      refine connInv_deliver_executed h.steady rfl (by rw [multi]) ?_
      rw [← split]
      exact connInv_reply_finish h rfl hr state count covers
    | cons cmd cmds =>
      rw [out, List.cons_append, awaiting_cons] at hout
      cases hout
      obtain ⟨k, -, rfl⟩ : ∃ k ∈ ks, Command.HSET k = cmd := by
        rw [← List.mem_map, split]
        simp
      refine connInv_deliver_executed h.steady rfl (by rw [multi]) ?_
      exact connInv_reply_cleaning h rfl hr connected state (by rw [count]; rfl) covers
        (by simp [split])
  | down hr disconnected multi isLost state =>
    have hs : s.conn.inv_seq.state ≠ .FINISH := state.resolve_left (by simp [hout])
    refine connInv_deliver_lost h (isLost o (by simp [hout])) hs fun q hq => ?_
    refine .down ⟨hr.notInited, hr.free, hr.balance⟩ disconnected multi ?_ (.inr (hq ▸ hs))
    intro l hl
    exact isLost l (by simp [hout, show l ∈ rest from hl])

end Yeti.Resources
