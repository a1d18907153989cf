import Yeti.Resources.Replies

/-! # Operations are issued once, one block at a time

    Runs of a connection that stays connected and whose commands succeed, from the
    start of the initial invalidation: operations are handed to
    `process_operations_list` at any time, also while a block waits for its replies.

    `posted` is everything the connection has sent to Redis.  After the commands of
    the invalidation it consists of whole blocks, one for each batch, and the batches
    are the operations that were handed over, in this order.
-/

open LTS

namespace Yeti.Resources

open Connection

/-! ### Runs -/

/-- The connection, with what was handed to it and the commands that were answered. -/
structure SerialRun where
  conn : Connection
  handed : List ResourceOperation := []
  answered : List Outstanding := []

namespace SerialRun

/-- What has been posted, in order. -/
def posted (s : SerialRun) : List (Owner × Command) :=
  (s.answered ++ s.conn.outstanding).map fun o => (o.owner, o.cmd)

/-- The reply of a command that succeeds: keys, or nothing, for `KEYS`, `OK` or `QUEUED`
    for the commands of a block, and a success for its `EXEC`. -/
def succeeds (cmd : Command) (reply : Reply) : Bool :=
  match cmd with
  | .KEYS =>
    reply.result = .SuccessReply &&
      match reply.data with
      | .undef => true
      | .array elems => elems.all (·.isSome)
      | .other => false
  | .EXEC => reply.result = .SuccessReply
  | _ => reply.result = .StatusReply

inductive Label where
  /-- `put` or `get` calls `process_operations_list`. -/
  | operations (rol : List ResourceOperation)
  /-- The next reply is delivered. -/
  | reply (reply : Reply)
  deriving DecidableEq, Repr

def next (s : SerialRun) : Label → Option SerialRun
  | .operations rol =>
    if rol.all (0 < ·.takes) then
      some { s with
        conn := s.conn.process_operations_list rol
        handed := s.handed ++ rol }
    else none
  | .reply reply =>
    match s.conn.outstanding with
    | [] => none
    | o :: rest =>
      if succeeds o.cmd reply then
        some { s with
          conn := ({ s.conn with outstanding := rest }.process_reply_event o.owner reply).1
          answered := s.answered ++ [o] }
      else none

/-- The write connection is established for the first time; `queue` has been waiting. -/
def connected (queue : List ResourceOperation) : SerialRun where
  conn :=
    { connected := true
      async_context := some 0
      next_context := 1
      resource_operations_queue := queue : Connection }.on_connect
  handed := queue

def system : System SerialRun Label where
  init s := ∃ queue : List ResourceOperation, (∀ r ∈ queue, 0 < r.takes) ∧ s = connected queue
  next := next

/-! ### What is claimed -/

/-- The argument of the `HINCRBY` for an operation. -/
def incrArg (r : ResourceOperation) : IncrArg :=
  if r.op = .RES_GET then .plain r.takes else .negated r.takes

/-- The command for an operation. -/
def incr (r : ResourceOperation) : Command := .HINCRBY (get_key r.toResource) (incrArg r)

/-- The block of one batch. -/
def block (uid : Nat) (ol : List ResourceOperation) : List (Owner × Command) :=
  (Command.MULTI :: ol.map incr ++ [Command.EXEC]).map fun cmd => (.op uid, cmd)

/-- The blocks of the batches, one after the other. -/
def blocks (batches : List (List ResourceOperation)) : List (Owner × Command) :=
  batches.zipIdx.flatMap fun b => block b.2 b.1

/-- The invalidation has posted `initial`, then the blocks of `batches` were posted, and
    then the `MULTI` of the operations `waiting`, if there are any.  These, and those in
    the queue, are all operations that were handed over and need a command. -/
structure Issued (s : SerialRun) (initial : List Command) (batches : List (List ResourceOperation))
    (waiting : List ResourceOperation) : Prop where
  posted : s.posted = initial.map (fun cmd => (.inv, cmd)) ++ blocks batches ++
    if waiting = [] then [] else [(.op batches.length, .MULTI)]
  handed : s.handed.filter (·.effective) =
    batches.flatten ++ waiting ++ s.conn.resource_operations_queue.filter (·.effective)

/-- `t` comes from `s` with the next reply. -/
def Answers (t s : SerialRun) : Prop := ∃ reply, s.next (.reply reply) = some t

structure Serialized (s : SerialRun) : Prop where
  issued : ∃ initial batches waiting, s.Issued initial batches waiting
  amounts : ∀ r ∈ s.handed, r.effective = true →
    (incrArg r).value = some (if r.op = .RES_GET then r.takes else -r.takes)
  /-- One `OperationResources` is in flight at most, and only while the flag is up. -/
  inFlight : ∀ u v, (s.conn.ops u).isSome = true → (s.conn.ops v).isSome = true →
    u = v ∧ s.conn.write_async_is_busy = true
  /-- When all is done, nothing has been lost. -/
  settled : s.conn.write_async_is_busy = false → s.conn.outstanding = [] →
    s.conn.resource_operations_queue = [] ∧ ∃ initial batches, s.Issued initial batches []
  /-- And all gets done: the replies come to an end, and then nothing is in flight. -/
  ends : Acc Answers s
  free : s.conn.outstanding = [] → s.conn.write_async_is_busy = false

/-! ### Phases -/

variable {s t : SerialRun} {initial : List Command} {batches : List (List ResourceOperation)}

/-- How many replies the operations in the queue will take at most. -/
def backlog (s : SerialRun) : Nat :=
  if s.conn.resource_operations_queue = [] then 0
  else s.conn.resource_operations_queue.length + 2

/-- The initial invalidation is under way. -/
structure Starting (s : SerialRun) (initial : List Command) : Prop where
  connected : s.conn.connected = true
  steady : s.conn.disconnecting = false
  notInited : s.conn.resources_inited = false
  free : s.conn.write_async_is_busy = false
  ops : s.conn.ops = fun _ => none
  uid : s.conn.next_uid = 0
  issued : s.Issued initial [] []

/-- The batch `ol` is in flight, after others that are done. -/
structure Flying (s : SerialRun) (uid : Nat) (op : OperationResources) : Prop where
  connected : s.conn.connected = true
  steady : s.conn.disconnecting = false
  inited : s.conn.resources_inited = true
  busy : s.conn.write_async_is_busy = true
  ops : s.conn.ops = Function.update (fun _ => none) uid (some op)
  uid : s.conn.next_uid = uid + 1
  effective : ∀ r ∈ op.res_list, r.effective = true

/-- Nothing is in flight. -/
structure Resting (s : SerialRun) (uid : Nat) : Prop where
  connected : s.conn.connected = true
  steady : s.conn.disconnecting = false
  inited : s.conn.resources_inited = true
  free : s.conn.write_async_is_busy = false
  ops : s.conn.ops = fun _ => none
  uid : s.conn.next_uid = uid
  quiet : s.conn.outstanding = []

/-- The phases of a run.  The two numbers count down with every reply: the first one
    falls when the keys are known, the second one bounds the replies that follow. -/
inductive Phase (s : SerialRun) : Nat → Nat → Prop where
  | reading (initial : List Command) (h : s.Starting initial)
      (state : s.conn.inv_seq.state = .GET_KEYS)
      (out : s.conn.outstanding = awaiting .inv [.KEYS]) : Phase s 1 0
  | cleaning (initial cmds : List Command) (h : s.Starting initial)
      (state : s.conn.inv_seq.state = .CLEAN_RES)
      (count : s.conn.inv_seq.commands_count = cmds.length + 1)
      (queued : ∀ cmd ∈ cmds, cmd ≠ .KEYS ∧ cmd ≠ .EXEC)
      (out : s.conn.outstanding = awaiting .inv (cmds ++ [.EXEC])) :
      Phase s 0 (cmds.length + 1 + s.backlog)
  | resting (initial : List Command) (batches : List (List ResourceOperation))
      (h : s.Resting batches.length) (queue : s.conn.resource_operations_queue = [])
      (issued : s.Issued initial batches []) : Phase s 0 0
  | opening (initial : List Command) (batches : List (List ResourceOperation))
      (ol : List ResourceOperation) (nonempty : ol ≠ [])
      (h : s.Flying batches.length { state := .MULTI_START, res_list := ol })
      (issued : s.Issued initial batches ol)
      (out : s.conn.outstanding = awaiting (.op batches.length) [.MULTI]) :
      Phase s 0 (ol.length + 2 + s.backlog)
  | running (initial : List Command) (batches : List (List ResourceOperation))
      (ol rest : List ResourceOperation)
      (h : s.Flying batches.length
        { state := .OP_RES, res_list := ol, commands_count := rest.length + 1 })
      (issued : s.Issued initial (batches ++ [ol]) [])
      (out : s.conn.outstanding =
        awaiting (.op batches.length) (rest.map incr ++ [Command.EXEC])) :
      Phase s 0 (rest.length + 1 + s.backlog)

/-! ### Blocks -/

theorem blocks_append (batches : List (List ResourceOperation)) (ol : List ResourceOperation) :
    blocks (batches ++ [ol]) = blocks batches ++ block batches.length ol := by
  unfold blocks
  rw [List.zipIdx_append, List.flatMap_append]
  simp

/-- A batch of operations that need a command issues one for each. -/
theorem filterMap_hincrby {ol : List ResourceOperation} (h : ∀ r ∈ ol, r.effective = true) :
    ol.filterMap OperationResources.hincrby = ol.map incr := by
  have hone (r : ResourceOperation) (hr : r.effective = true) :
      OperationResources.hincrby r = some (incr r) := by
    unfold ResourceOperation.effective at hr
    unfold OperationResources.hincrby incr incrArg
    cases hop : r.op with
    | RES_PUT => simp_all
    | RES_GET => simp_all
    | RES_NONE => simp [hop] at hr
  induction ol with
  | nil => rfl
  | cons r ol ih =>
    have hol : ∀ r ∈ ol, r.effective = true := fun r hr => h r (List.mem_cons_of_mem _ hr)
    rw [List.filterMap_cons, hone r (h r List.mem_cons_self), ih hol, List.map_cons]

/-- What is posted with an operation list. -/
theorem posted_operations (s : SerialRun) (owner : Owner) (cmds : List Command)
    (hans : t.answered = s.answered)
    (hout : t.conn.outstanding = s.conn.outstanding ++ awaiting owner cmds) :
    t.posted = s.posted ++ cmds.map fun cmd => (owner, cmd) := by
  unfold posted
  rw [hans, hout, ← List.append_assoc, List.map_append]
  simp [awaiting]

/-- What is posted with a reply. -/
theorem posted_reply (s : SerialRun) {o : Outstanding} {rest : List Outstanding} (owner : Owner)
    (cmds : List Command) (hs : s.conn.outstanding = o :: rest)
    (hans : t.answered = s.answered ++ [o])
    (hout : t.conn.outstanding = rest ++ awaiting owner cmds) :
    t.posted = s.posted ++ cmds.map fun cmd => (owner, cmd) := by
  unfold posted
  rw [hans, hout, hs]
  simp [awaiting]

/-! ### Starting a batch -/

/-- Operations are started when nothing is in flight. -/
theorem phase_performOp (h : s.Resting batches.length)
    (hqueue : s.conn.resource_operations_queue = [])
    (hposted : s.posted = initial.map (fun cmd => (.inv, cmd)) ++ blocks batches)
    {rol : List ResourceOperation}
    (hhanded : s.handed.filter (·.effective) = batches.flatten ++ rol.filter (·.effective)) :
    ∃ w ≤ rol.length + 2, Phase { s with conn := s.conn.performOp rol } 0 w := by
  by_cases hol : rol.filter (·.effective) = []
  · rw [performOp_nothing hol]
    refine ⟨0, by omega, .resting initial batches h hqueue ⟨?_, ?_⟩⟩
    · simpa using hposted
    · simpa [hqueue, hol] using hhanded
  · rw [performOp_connected h.connected h.steady hol]
    refine ⟨_, ?_, .opening initial batches _ hol
      ⟨h.connected, h.steady, h.inited, rfl, ?_, ?_, ?_⟩ ⟨?_, ?_⟩ ?_⟩
    · have hle := List.length_filter_le (·.effective) rol
      simp only [backlog, hqueue, if_true]
      omega
    · show Function.update s.conn.ops s.conn.next_uid _ = _
      rw [h.ops, h.uid]
    · show s.conn.next_uid + 1 = _
      rw [h.uid]
    · intro r hr
      exact (List.mem_filter.mp hr).2
    · rw [posted_operations s (.op s.conn.next_uid) [.MULTI]]
      · rw [hposted, if_neg hol, h.uid]
        rfl
      · rfl
      · rfl
    · simpa [hqueue] using hhanded
    · show s.conn.outstanding ++ _ = _
      rw [h.quiet, h.uid, List.nil_append]

variable (initial batches) in
/-- The queue is taken up when nothing is in flight. -/
theorem phase_process_operations_queue (h : s.Resting batches.length)
    (issued : s.Issued initial batches []) :
    ∃ w ≤ s.backlog, Phase { s with conn := s.conn.process_operations_queue } 0 w := by
  have hready : s.conn.is_ready = true := by simp [is_ready, h.connected, h.inited]
  unfold process_operations_queue
  rw [hready, h.free]
  by_cases hqueue : s.conn.resource_operations_queue = []
  · refine ⟨0, Nat.zero_le _, ?_⟩
    simp only [hqueue, List.isEmpty_nil, if_true, Bool.not_true, Bool.or_self, Bool.false_eq_true,
      if_false]
    exact .resting initial batches h hqueue issued
  · have hfull : s.conn.resource_operations_queue.isEmpty = false := by simpa using hqueue
    simp only [hfull, Bool.not_true, Bool.or_self, Bool.false_eq_true, if_false]
    rw [performOp_queue]
    have hposted : s.posted = initial.map (fun cmd => (.inv, cmd)) ++ blocks batches := by
      simpa using issued.posted
    -- the queue is empty from now on
    have hstart := phase_performOp
      (s := { s with conn := { s.conn with resource_operations_queue := [] } })
      ⟨h.connected, h.steady, h.inited, h.free, h.ops, h.uid, h.quiet⟩ rfl hposted
      (by simpa using issued.handed)
    obtain ⟨w, hw, hphase⟩ := hstart
    refine ⟨w, ?_, hphase⟩
    unfold backlog
    rw [if_neg hqueue]
    exact hw

/-! ### Steps -/

/-- The operations wait in the queue. -/
theorem Issued.enqueue {waiting : List ResourceOperation} (h : s.Issued initial batches waiting)
    (rol : List ResourceOperation) :
    Issued { s with
      conn := { s.conn with
        resource_operations_queue := s.conn.resource_operations_queue ++ rol }
      handed := s.handed ++ rol } initial batches waiting := by
  refine ⟨h.posted, ?_⟩
  show (s.handed ++ rol).filter _ = _ ++ (s.conn.resource_operations_queue ++ rol).filter _
  rw [List.filter_append, List.filter_append, h.handed, List.append_assoc _ _ (rol.filter _)]

theorem phase_operations {r w : Nat} (h : Phase s r w)
    (rol : List ResourceOperation) :
    ∃ r' w', Phase { s with
      conn := s.conn.process_operations_list rol
      handed := s.handed ++ rol } r' w' := by
  unfold process_operations_list is_ready
  cases h with
  | reading initial h state out =>
    rw [if_neg (by simp [h.notInited])]
    exact ⟨_, _, .reading initial
      ⟨h.connected, h.steady, h.notInited, h.free, h.ops, h.uid, h.issued.enqueue rol⟩ state out⟩
  | cleaning initial cmds h state count queued out =>
    rw [if_neg (by simp [h.notInited])]
    exact ⟨_, _, .cleaning initial cmds
      ⟨h.connected, h.steady, h.notInited, h.free, h.ops, h.uid, h.issued.enqueue rol⟩
      state count queued out⟩
  | resting initial batches h queue issued =>
    rw [if_pos (by simp [h.connected, h.inited, h.free])]
    have hposted : s.posted = initial.map (fun cmd => (.inv, cmd)) ++ blocks batches := by
      simpa using issued.posted
    have hhanded : (s.handed ++ rol).filter (·.effective) =
        batches.flatten ++ rol.filter (·.effective) := by
      rw [List.filter_append, issued.handed, queue]
      simp
    obtain ⟨w, -, hphase⟩ := phase_performOp (s := { s with handed := s.handed ++ rol })
      ⟨h.connected, h.steady, h.inited, h.free, h.ops, h.uid, h.quiet⟩ queue hposted hhanded
    exact ⟨0, w, hphase⟩
  | opening initial batches ol nonempty h issued out =>
    rw [if_neg (by simp [h.busy])]
    exact ⟨_, _, .opening initial batches ol nonempty
      ⟨h.connected, h.steady, h.inited, h.busy, h.ops, h.uid, h.effective⟩ (issued.enqueue rol) out⟩
  | running initial batches ol rest h issued out =>
    rw [if_neg (by simp [h.busy])]
    exact ⟨_, _, .running initial batches ol rest
      ⟨h.connected, h.steady, h.inited, h.busy, h.ops, h.uid, h.effective⟩ (issued.enqueue rol) out⟩

/-! ### Replies -/

/-- The state after the reply to the first outstanding command `o`. -/
def after (s : SerialRun) (o : Outstanding) (rest : List Outstanding) (reply : Reply) : SerialRun :=
  { s with
    conn := ({ s.conn with outstanding := rest }.process_reply_event o.owner reply).1
    answered := s.answered ++ [o] }

/-- The last outstanding command is answered. -/
theorem posted_last {o : Outstanding} (hout : s.conn.outstanding = [o]) :
    posted { s with
      conn := { s.conn with outstanding := [] }
      answered := s.answered ++ [o] } = s.posted := by
  unfold posted
  rw [hout, List.append_nil]

/-- Keys in a reply that succeeds. -/
theorem exists_keys {elems : List (Option Key)} (h : elems.all (·.isSome) = true) :
    ∃ ks : List Key, elems = ks.map some := by
  induction elems with
  | nil => exact ⟨[], rfl⟩
  | cons e elems ih =>
    rw [List.all_cons, Bool.and_eq_true] at h
    obtain ⟨k, rfl⟩ := Option.isSome_iff_exists.mp h.1
    obtain ⟨ks, rfl⟩ := ih h.2
    exact ⟨k :: ks, rfl⟩

/-- The invalidation finishes: the queue is taken up. -/
theorem phase_reply_finish (h : s.Starting initial) {o : Outstanding}
    (hout : s.conn.outstanding = [o]) (howner : o.owner = .inv) {reply : Reply}
    {q : InvalidateResources} (hreply : s.conn.inv_seq.processRedisReply reply = some (q, []))
    (hs : q.state = .FINISH) : ∃ w ≤ s.backlog, Phase (s.after o [] reply) 0 w := by
  have hfinish := processInvReply_finish (c := { s.conn with outstanding := [] }) hreply hs
  unfold after process_reply_event
  rw [howner]
  dsimp only
  rw [hfinish]
  have hposted := posted_last hout
  exact phase_process_operations_queue initial []
    (s := { s with
      conn := { s.conn with
        outstanding := []
        resources_inited := true
        inv_seq := { q with initial := false } }
      answered := s.answered ++ [o] })
    ⟨h.connected, h.steady, rfl, h.free, h.ops, h.uid, rfl⟩
    ⟨hposted.trans h.issued.posted, h.issued.handed⟩

/-- The keys to reset are known, or there are none. -/
theorem phase_reply_reading (h : s.Starting initial)
    (hstate : s.conn.inv_seq.state = .GET_KEYS)
    (hout : s.conn.outstanding = awaiting .inv [.KEYS]) {reply : Reply}
    (hreply : succeeds .KEYS reply = true) :
    ∃ w, Phase (s.after ⟨.KEYS, .inv, none⟩ [] reply) 0 w := by
  obtain ⟨result, data⟩ := reply
  simp only [succeeds, Bool.and_eq_true, decide_eq_true_eq] at hreply
  obtain ⟨rfl, hdata⟩ := hreply
  cases data with
  | undef =>
    have hstep : s.conn.inv_seq.processRedisReply ⟨.SuccessReply, .undef⟩ =
        some ({ s.conn.inv_seq with state := .FINISH }, []) := by
      simp [InvalidateResources.processRedisReply, hstate]
    obtain ⟨w, -, hphase⟩ := phase_reply_finish h hout rfl hstep rfl
    exact ⟨w, hphase⟩
  | array elems =>
    obtain ⟨ks, rfl⟩ := exists_keys hdata
    have hstep := InvalidateResources.processRedisReply_keys hstate ks
    unfold after process_reply_event
    dsimp only
    rw [processInvReply_continue (c := { s.conn with outstanding := [] }) hstep (by simp),
      post_connected]
    case hc => exact h.connected
    case hd => exact h.steady
    refine ⟨_, .cleaning (initial ++ InvalidateResources.cleanCommands ks) (.MULTI :: ks.map .HSET)
      ⟨h.connected, h.steady, h.notInited, h.free, h.ops, h.uid, ⟨?_, h.issued.handed⟩⟩ rfl ?_ ?_ rfl⟩
    · rw [posted_reply s .inv (InvalidateResources.cleanCommands ks) hout rfl]
      · rw [h.issued.posted]
        simp [blocks]
      · rfl
    · show (ks.length + 2 : Int) = _
      simp only [List.length_cons, List.length_map]
      omega
    · intro cmd hcmd
      rcases List.mem_cons.mp hcmd with rfl | hcmd
      · exact ⟨by simp, by simp⟩
      · obtain ⟨k, -, rfl⟩ := List.mem_map.mp hcmd
        exact ⟨by simp, by simp⟩
  | other => cases hdata

/-- A command of the invalidation is queued, or its block is executed. -/
theorem phase_reply_cleaning (h : s.Starting initial) {cmds : List Command}
    (hstate : s.conn.inv_seq.state = .CLEAN_RES)
    (hcount : s.conn.inv_seq.commands_count = cmds.length + 1)
    (hqueued : ∀ cmd ∈ cmds, cmd ≠ .KEYS ∧ cmd ≠ .EXEC)
    (hcmds : s.conn.outstanding = awaiting .inv (cmds ++ [.EXEC])) {o : Outstanding}
    {rest : List Outstanding} (hout : s.conn.outstanding = o :: rest) {reply : Reply}
    (hreply : succeeds o.cmd reply = true) :
    ∃ w < cmds.length + 1 + s.backlog, Phase (s.after o rest reply) 0 w := by
  cases cmds with
  | nil =>
    rw [hcmds, List.nil_append, awaiting_cons, awaiting_nil] at hout
    obtain ⟨rfl, rfl⟩ := List.cons.inj hout
    have hresult : reply.result = .SuccessReply := by simpa [succeeds] using hreply
    have hstep := InvalidateResources.processRedisReply_exec hstate (by simpa using hcount) hresult
    obtain ⟨w, hw, hphase⟩ := phase_reply_finish h hcmds rfl hstep rfl
    exact ⟨w, by simp; omega, hphase⟩
  | cons cmd cmds =>
    have hout' := hout
    rw [hcmds, List.cons_append, awaiting_cons] at hout
    obtain ⟨rfl, rfl⟩ := List.cons.inj hout
    have hcmd := hqueued cmd List.mem_cons_self
    have hresult : reply.result = .StatusReply := by
      cases cmd with
      | KEYS => exact absurd rfl hcmd.1
      | EXEC => exact absurd rfl hcmd.2
      | MULTI => exact of_decide_eq_true hreply
      | HSET key => exact of_decide_eq_true hreply
      | HINCRBY key arg => exact of_decide_eq_true hreply
    have hone : s.conn.inv_seq.commands_count ≠ 1 := by
      rw [hcount, List.length_cons]
      omega
    have hstep := InvalidateResources.processRedisReply_queued hstate hone hresult
    unfold after process_reply_event
    dsimp only
    rw [processInvReply_continue
      (c := { s.conn with outstanding := awaiting .inv (cmds ++ [Command.EXEC]) }) hstep
      (by simp [hstate]), post_nil]
    refine ⟨_, ?_, .cleaning initial cmds
      ⟨h.connected, h.steady, h.notInited, h.free, h.ops, h.uid, ⟨?_, h.issued.handed⟩⟩
      hstate ?_ ?_ rfl⟩
    · show cmds.length + 1 + s.backlog < _
      rw [List.length_cons]
      omega
    · rw [posted_reply s .inv [] hout' rfl, h.issued.posted]
      · simp
      · simp
    · show s.conn.inv_seq.commands_count - 1 = _
      rw [hcount, List.length_cons]
      omega
    · intro cmd' hcmd'
      exact hqueued cmd' (List.mem_cons_of_mem _ hcmd')

/-- `MULTI` is answered: the rest of the block is posted. -/
theorem phase_reply_opening {ol : List ResourceOperation}
    (h : s.Flying batches.length { state := .MULTI_START, res_list := ol }) (hne : ol ≠ [])
    (issued : s.Issued initial batches ol)
    (hout : s.conn.outstanding = awaiting (.op batches.length) [.MULTI]) (reply : Reply) :
    ∃ w < ol.length + 2 + s.backlog,
      Phase (s.after ⟨.MULTI, .op batches.length, none⟩ [] reply) 0 w := by
  have hstep : (⟨.MULTI_START, ol, false, 0⟩ : OperationResources).processRedisReply reply =
      (⟨.OP_RES, ol, false, ol.length + 1⟩,
        ol.filterMap OperationResources.hincrby ++ [.EXEC]) := rfl
  rw [filterMap_hincrby h.effective] at hstep
  have hop : s.conn.ops batches.length = some { state := .MULTI_START, res_list := ol } := by
    simp [h.ops]
  unfold after process_reply_event
  dsimp only
  rw [processOpReply_continue (c := { s.conn with outstanding := [] }) hop hstep (by simp),
    post_connected]
  case hc => exact h.connected
  case hd => exact h.steady
  refine ⟨_, ?_, .running initial batches ol ol
    ⟨h.connected, h.steady, h.inited, h.busy, ?_, h.uid, h.effective⟩ ⟨?_, ?_⟩ rfl⟩
  · show ol.length + 1 + s.backlog < _
    omega
  · show Function.update s.conn.ops _ _ = _
    rw [h.ops, Function.update_idem]
  · rw [posted_reply s (.op batches.length) (ol.map incr ++ [Command.EXEC]) hout rfl rfl,
      issued.posted, if_neg hne, blocks_append]
    simp [block]
  · rw [issued.handed]
    simp

/-- The block of the batch is executed, and the queue is taken up. -/
theorem phase_reply_exec {ol : List ResourceOperation}
    (h : s.Flying batches.length { state := .OP_RES, res_list := ol, commands_count := 1 })
    (issued : s.Issued initial (batches ++ [ol]) [])
    (hcmds : s.conn.outstanding = awaiting (.op batches.length) [.EXEC])
    {reply : Reply} (hresult : reply.result = .SuccessReply) :
    ∃ w ≤ s.backlog, Phase (s.after ⟨.EXEC, .op batches.length, none⟩ [] reply) 0 w := by
  have hop : s.conn.ops batches.length =
      some { state := .OP_RES, res_list := ol, commands_count := 1 } := by
    simp [h.ops]
  have hstep := OperationResources.processRedisReply_exec
    (q := ⟨.OP_RES, ol, false, 1⟩) rfl rfl hresult
  unfold after process_reply_event
  dsimp only
  rw [processOpReply_finish (c := { s.conn with outstanding := [] }) hop hstep rfl,
    finishOp_inited]
  swap
  · exact h.inited
  have hposted := posted_last (s := s) (o := ⟨.EXEC, .op batches.length, none⟩) hcmds
  exact phase_process_operations_queue initial (batches ++ [ol])
    (s := { s with
      conn := { s.conn with
        outstanding := []
        write_async_is_busy := false
        ops := Function.update s.conn.ops batches.length none }
      answered := s.answered ++ [⟨.EXEC, .op batches.length, none⟩] })
    ⟨h.connected, h.steady, h.inited, rfl, by simp [h.ops], by simp [h.uid], rfl⟩
    ⟨hposted.trans issued.posted, issued.handed⟩

/-- A command of the batch is queued, or its block is executed and the queue taken up. -/
theorem phase_reply_running {ol ops : List ResourceOperation}
    (h : s.Flying batches.length
      { state := .OP_RES, res_list := ol, commands_count := ops.length + 1 })
    (issued : s.Issued initial (batches ++ [ol]) [])
    (hcmds : s.conn.outstanding = awaiting (.op batches.length) (ops.map incr ++ [Command.EXEC]))
    {o : Outstanding} {rest : List Outstanding} (hout : s.conn.outstanding = o :: rest)
    {reply : Reply} (hreply : succeeds o.cmd reply = true) :
    ∃ w < ops.length + 1 + s.backlog, Phase (s.after o rest reply) 0 w := by
  cases ops with
  | nil =>
    rw [hcmds, List.map_nil, List.nil_append, awaiting_cons, awaiting_nil] at hout
    obtain ⟨rfl, rfl⟩ := List.cons.inj hout
    have hresult : reply.result = .SuccessReply := by simpa [succeeds] using hreply
    obtain ⟨w, hw, hphase⟩ := phase_reply_exec h issued hcmds hresult
    refine ⟨w, ?_, hphase⟩
    rw [List.length_nil]
    omega
  | cons r ops =>
    have hout' := hout
    rw [hcmds, List.map_cons, List.cons_append, awaiting_cons] at hout
    obtain ⟨rfl, rfl⟩ := List.cons.inj hout
    have hresult : reply.result = .StatusReply := by simpa [succeeds, incr] using hreply
    have hop : s.conn.ops batches.length =
        some { state := .OP_RES, res_list := ol, commands_count := (r :: ops).length + 1 } := by
      simp [h.ops]
    have hone : ((r :: ops).length + 1 : Int) ≠ 1 := by
      simp only [List.length_cons]
      omega
    have hstep := OperationResources.processRedisReply_queued
      (q := ⟨.OP_RES, ol, false, (r :: ops).length + 1⟩) rfl hone hresult
    unfold after process_reply_event
    dsimp only
    rw [processOpReply_continue
      (c := { s.conn with
        outstanding := awaiting (.op batches.length) (ops.map incr ++ [Command.EXEC]) })
      hop hstep (by simp), post_nil]
    refine ⟨_, ?_, .running initial batches ol ops
      ⟨h.connected, h.steady, h.inited, h.busy, ?_, h.uid, h.effective⟩ ⟨?_, issued.handed⟩ rfl⟩
    · show ops.length + 1 + s.backlog < _
      rw [List.length_cons]
      omega
    · show Function.update s.conn.ops _ _ = _
      rw [h.ops, Function.update_idem]
      simp
    · rw [posted_reply s (.op batches.length) [] hout' rfl, issued.posted]
      · simp
      · simp

/-- A reply leads on: either the keys are known from now on, or fewer replies are left. -/
theorem phase_reply {r w : Nat} (h : Phase s r w) {o : Outstanding}
    {rest : List Outstanding} (hout : s.conn.outstanding = o :: rest) {reply : Reply}
    (hreply : succeeds o.cmd reply = true) :
    ∃ r' w', Phase (s.after o rest reply) r' w' ∧ (r' < r ∨ r' = r ∧ w' < w) := by
  cases h with
  | reading initial h state out =>
    have hcmd := hout
    rw [out, awaiting_cons, awaiting_nil] at hcmd
    obtain ⟨rfl, rfl⟩ := List.cons.inj hcmd
    obtain ⟨w, hphase⟩ := phase_reply_reading h state out hreply
    exact ⟨0, w, hphase, .inl Nat.one_pos⟩
  | cleaning initial cmds h state count queued out =>
    obtain ⟨w, hw, hphase⟩ := phase_reply_cleaning h state count queued out hout hreply
    exact ⟨0, w, hphase, .inr ⟨rfl, hw⟩⟩
  | resting initial batches h queue issued =>
    rw [h.quiet] at hout
    cases hout
  | opening initial batches ol nonempty h issued out =>
    have hcmd := hout
    rw [out, awaiting_cons, awaiting_nil] at hcmd
    obtain ⟨rfl, rfl⟩ := List.cons.inj hcmd
    obtain ⟨w, hw, hphase⟩ := phase_reply_opening h nonempty issued out reply
    exact ⟨0, w, hphase, .inr ⟨rfl, hw⟩⟩
  | running initial batches ol ops h issued out =>
    obtain ⟨w, hw, hphase⟩ := phase_reply_running h issued out hout hreply
    exact ⟨0, w, hphase, .inr ⟨rfl, hw⟩⟩

/-! ### Runs -/

/-- The invariant of the runs. -/
def Inv (s : SerialRun) : Prop := (∀ r ∈ s.handed, 0 < r.takes) ∧ ∃ r w, Phase s r w

/-- The reply step, as a case of the next-state function. -/
theorem next_reply {reply : Reply} (h : s.next (.reply reply) = some t) :
    ∃ o rest, s.conn.outstanding = o :: rest ∧ succeeds o.cmd reply = true ∧
      t = s.after o rest reply := by
  unfold next at h
  cases hout : s.conn.outstanding with
  | nil => simp [hout] at h
  | cons o rest =>
    simp only [hout] at h
    split_ifs at h with hreply
    exact ⟨o, rest, rfl, hreply, (Option.some_inj.mp h).symm⟩

theorem inv_connected (queue : List ResourceOperation) (hpos : ∀ r ∈ queue, 0 < r.takes) :
    (connected queue).Inv := by
  refine ⟨hpos, 1, 0, .reading [.KEYS] ⟨rfl, rfl, rfl, rfl, rfl, rfl, ⟨rfl, ?_⟩⟩ rfl rfl⟩
  show queue.filter _ = [].flatten ++ [] ++ queue.filter _
  simp

theorem inv_next {l : Label} (h : s.Inv) (hnext : s.next l = some t) : t.Inv := by
  obtain ⟨hpos, r, w, hphase⟩ := h
  cases l with
  | operations rol =>
    unfold next at hnext
    dsimp only at hnext
    split_ifs at hnext with hrol
    obtain rfl := Option.some_inj.mp hnext
    refine ⟨?_, phase_operations hphase rol⟩
    intro r hr
    rcases List.mem_append.mp hr with hr | hr
    · exact hpos r hr
    · exact of_decide_eq_true (List.all_eq_true.mp hrol r hr)
  | reply reply =>
    obtain ⟨o, rest, hout, hreply, rfl⟩ := next_reply hnext
    obtain ⟨r', w', hphase', -⟩ := phase_reply hphase hout hreply
    exact ⟨hpos, r', w', hphase'⟩

/-- The replies come to an end: by induction on the two numbers of the phase. -/
theorem acc_of_phase {r w : Nat} (h : Phase s r w) : Acc Answers s := by
  induction r using Nat.strong_induction_on generalizing s w with
  | _ r ihr =>
    induction w using Nat.strong_induction_on generalizing s with
    | _ w ihw =>
      refine ⟨s, ?_⟩
      intro t ⟨reply, hnext⟩
      obtain ⟨o, rest, hout, hreply, rfl⟩ := next_reply hnext
      obtain ⟨r', w', hphase, hlt | ⟨rfl, hlt⟩⟩ := phase_reply h hout hreply
      · exact ihr r' hlt hphase
      · exact ihw w' hlt hphase

theorem Phase.serialized {r w : Nat} (h : Phase s r w) (hpos : ∀ r ∈ s.handed, 0 < r.takes) :
    s.Serialized := by
  have hamounts : ∀ r ∈ s.handed, r.effective = true →
      (incrArg r).value = some (if r.op = .RES_GET then r.takes else -r.takes) := by
    intro r hr _
    have htakes := hpos r hr
    unfold incrArg
    split_ifs
    · rfl
    · exact if_pos htakes
  have hends := acc_of_phase h
  -- with one sequence on the heap there are no two
  have hone {uid : Nat} {op : OperationResources} (h : s.Flying uid op) (u v : Nat)
      (hu : (s.conn.ops u).isSome = true) (hv : (s.conn.ops v).isSome = true) :
      u = v ∧ s.conn.write_async_is_busy = true := by
    have hlast (u : Nat) (hu : (s.conn.ops u).isSome = true) : u = uid := by
      by_contra hne
      rw [h.ops, Function.update_of_ne hne] at hu
      cases hu
    exact ⟨(hlast u hu).trans (hlast v hv).symm, h.busy⟩
  have hzero (hops : s.conn.ops = fun _ => none) (u v : Nat)
      (hu : (s.conn.ops u).isSome = true) (_ : (s.conn.ops v).isSome = true) :
      u = v ∧ s.conn.write_async_is_busy = true := by
    rw [hops] at hu
    cases hu
  cases h with
  | reading initial h state out =>
    refine ⟨⟨_, _, _, h.issued⟩, hamounts, hzero h.ops, ?_, hends, fun _ => h.free⟩
    intro _ hquiet
    rw [out] at hquiet
    cases hquiet
  | cleaning initial cmds h state count queued out =>
    refine ⟨⟨_, _, _, h.issued⟩, hamounts, hzero h.ops, ?_, hends, fun _ => h.free⟩
    intro _ hquiet
    simp [out, awaiting] at hquiet
  | resting initial batches h queue issued =>
    exact ⟨⟨_, _, _, issued⟩, hamounts, hzero h.ops, fun _ _ => ⟨queue, _, _, issued⟩, hends,
      fun _ => h.free⟩
  | opening initial batches ol nonempty h issued out =>
    refine ⟨⟨_, _, _, issued⟩, hamounts, hone h, ?_, hends, ?_⟩
    · intro hfree
      rw [h.busy] at hfree
      cases hfree
    · intro hquiet
      rw [out] at hquiet
      cases hquiet
  | running initial batches ol rest h issued out =>
    refine ⟨⟨_, _, _, issued⟩, hamounts, hone h, ?_, hends, ?_⟩
    · intro hfree
      rw [h.busy] at hfree
      cases hfree
    · intro hquiet
      simp [out, awaiting] at hquiet

/-- On a connection that stays up and whose commands succeed, operations are issued once
    and one block at a time. -/
theorem serialized_of_reachable (s : SerialRun) (h : system.Reachable s) : s.Serialized := by
  have hinv : s.Inv := by
    refine System.invariant_under Inv ?_ ?_ h
    · intro s hinit
      obtain ⟨queue, hpos, rfl⟩ := hinit
      exact inv_connected queue hpos
    · intro s l t hinv _ hnext
      exact inv_next hinv hnext
  obtain ⟨hpos, r, w, hphase⟩ := hinv
  exact hphase.serialized hpos

/-- A resource is taken, and given back while the block that takes it is under way. -/
theorem serialized_of_reachable_two_batches :
    ∃ s, system.Reachable s ∧
      s.posted = [(.inv, .KEYS), (.op 0, .MULTI), (.op 0, .HINCRBY ⟨1, 7⟩ (.plain 2)),
        (.op 0, .EXEC), (.op 1, .MULTI), (.op 1, .HINCRBY ⟨1, 7⟩ (.negated 2)), (.op 1, .EXEC)] ∧
      s.Serialized := by
  obtain ⟨s, hs, hposted⟩ := System.exists_reachableUnder_of_any system (fun _ _ => True)
    (fun s => decide (s.posted = [(.inv, .KEYS), (.op 0, .MULTI),
      (.op 0, .HINCRBY ⟨1, 7⟩ (.plain 2)), (.op 0, .EXEC), (.op 1, .MULTI),
      (.op 1, .HINCRBY ⟨1, 7⟩ (.negated 2)), (.op 1, .EXEC)]))
    (connected [])
    [.operations [⟨⟨7, 1, 2, 10, true, true, false⟩, .RES_GET⟩],
      .reply ⟨.SuccessReply, .undef⟩,
      .operations [⟨⟨7, 1, 2, 10, true, true, false⟩, .RES_PUT⟩],
      .reply ⟨.StatusReply, .other⟩, .reply ⟨.StatusReply, .other⟩,
      .reply ⟨.SuccessReply, .other⟩, .reply ⟨.StatusReply, .other⟩]
    ⟨[], nofun, rfl⟩ (by decide)
  exact ⟨s, hs, of_decide_eq_true hposted, serialized_of_reachable s hs⟩

end SerialRun

end Yeti.Resources
