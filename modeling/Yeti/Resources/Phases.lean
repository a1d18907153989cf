import Yeti.Resources.Accounting

/-! # The phases of the resource connection

    As long as no operation is in flight when the connection is lost, the
    connection is always in one of the following phases, and in each of them the
    fields, the operations in flight and the queue account for what the handlers
    hold:

    * `idle`: nothing is outstanding;
    * `opening`, `running`: a batch waits for the reply to its `MULTI`, or for
      the replies to the rest of its block;
    * `reading`, `cleaning`, `cleaningBlock`: the invalidation waits for the
      reply to `KEYS`, to its `MULTI`, or to the rest of its block;
    * `down`: the invalidation waits for a connection.

    `ConnInv c r t` carries the phase together with the total `t` that the
    handlers hold; the lemmas below follow `t` through every function of the
    connection.
-/

namespace Yeti.Resources

open Connection

/-! ### Definitions -/

/-- Commands that Redis may still answer. -/
def awaiting (owner : Owner) (cmds : List Command) : List Outstanding :=
  cmds.map fun cmd => ⟨cmd, owner, none⟩

@[simp] theorem awaiting_nil (owner : Owner) : awaiting owner [] = [] := rfl

@[simp] theorem awaiting_cons (owner : Owner) (cmd : Command) (cmds : List Command) :
    awaiting owner (cmd :: cmds) = ⟨cmd, owner, none⟩ :: awaiting owner cmds := rfl

/-- A command of the invalidation whose reply was lost with its connection. -/
def Outstanding.Lost (o : Outstanding) : Prop :=
  o.owner = .inv ∧ (o.fate = some .IOError ∨ o.fate = some .NotConnected)

/-- Nothing is outstanding and the fields are `b`. -/
structure Idle (c : Connection) (r : Redis) (b : Key → Int) : Prop where
  inited : c.resources_inited = true
  free : c.write_async_is_busy = false
  quiet : c.outstanding = []
  noBlock : c.multi = none
  field : r.field = b

/-- The batch `ol` is in flight.  Its amount is still missing from the fields,
    unless they are going to be reset anyway. -/
structure Batch (c : Connection) (r : Redis) (b : Key → Int) (uid : Nat)
    (ol : List ResourceOperation) (state : OpState) (count : Int) : Prop where
  connected : c.connected = true
  busy : c.write_async_is_busy = true
  op : c.ops uid = some { state := state, res_list := ol, commands_count := count }
  effective : ∀ o ∈ ol, o.effective = true
  nonneg : Nonneg ol
  field : c.resources_inited = true → r.field + net ol = b
  reset : c.resources_inited = false → b = 0

/-- The fields are going to be reset, and nothing but the queue is to be added. -/
structure Resetting (c : Connection) (b : Key → Int) : Prop where
  notInited : c.resources_inited = false
  free : c.write_async_is_busy = false
  balance : b = 0

/-- The phases; `b` is what the fields will be once nothing is in flight. -/
inductive Phase (c : Connection) (r : Redis) (b : Key → Int) : Prop where
  | idle (h : Idle c r b)
  | opening (uid : Nat) (ol : List ResourceOperation)
      (h : Batch c r b uid ol .MULTI_START 0)
      (multi : c.multi = none)
      (out : c.outstanding = awaiting (.op uid) [.MULTI])
  | running (uid : Nat) (ol : List ResourceOperation) (queued rest : List Command)
      (h : Batch c r b uid ol .OP_RES (rest.length + 1))
      (split : ol.filterMap OperationResources.hincrby = queued ++ rest)
      (multi : c.multi = some queued)
      (out : c.outstanding = awaiting (.op uid) (rest ++ [.EXEC]))
  | reading (lost : List Outstanding)
      (h : Resetting c b) (connected : c.connected = true)
      (state : c.inv_seq.state = .GET_KEYS)
      (multi : c.multi = none)
      (isLost : ∀ o ∈ lost, o.Lost)
      (out : c.outstanding = lost ++ awaiting .inv [.KEYS])
  | cleaning (ks : List Key)
      (h : Resetting c b) (connected : c.connected = true)
      (state : c.inv_seq.state = .CLEAN_RES)
      (count : c.inv_seq.commands_count = ks.length + 2)
      (covers : ∀ k, r.field k ≠ 0 → k ∈ ks)
      (multi : c.multi = none)
      (out : c.outstanding = awaiting .inv (InvalidateResources.cleanCommands ks))
  | cleaningBlock (ks : List Key) (queued rest : List Command)
      (h : Resetting c b) (connected : c.connected = true)
      (state : c.inv_seq.state = .CLEAN_RES)
      (count : c.inv_seq.commands_count = rest.length + 1)
      (covers : ∀ k, r.field k ≠ 0 → k ∈ ks)
      (split : ks.map Command.HSET = queued ++ rest)
      (multi : c.multi = some queued)
      (out : c.outstanding = awaiting .inv (rest ++ [.EXEC]))
  | down (h : Resetting c b) (disconnected : c.connected = false)
      (multi : c.multi = none)
      (isLost : ∀ o ∈ c.outstanding, o.Lost)
      (state : c.outstanding = [] ∨ c.inv_seq.state ≠ .FINISH)

/-- The invariant of the connection; `t` is what the handlers hold. -/
structure ConnInv (c : Connection) (r : Redis) (t : Key → Int) : Prop where
  alive : c.crashed = false
  steady : c.disconnecting = false
  nonneg : Nonneg c.resource_operations_queue
  phase : Phase c r (t - net c.resource_operations_queue)

variable {c : Connection} {r : Redis} {b t : Key → Int}

/-- The phases do not look at the queue or at the context. -/
theorem Phase.frame (h : Phase c r b) (q : List ResourceOperation) (a : Option Nat) (n : Nat) :
    Phase { c with resource_operations_queue := q, async_context := a, next_context := n } r b := by
  cases h with
  | idle h => exact .idle ⟨h.inited, h.free, h.quiet, h.noBlock, h.field⟩
  | opening uid ol h multi out =>
    exact .opening uid ol ⟨h.connected, h.busy, h.op, h.effective, h.nonneg, h.field, h.reset⟩
      multi out
  | running uid ol queued rest h split multi out =>
    exact .running uid ol queued rest
      ⟨h.connected, h.busy, h.op, h.effective, h.nonneg, h.field, h.reset⟩ split multi out
  | reading lost h connected state multi isLost out =>
    exact .reading lost ⟨h.notInited, h.free, h.balance⟩ connected state multi isLost out
  | cleaning ks h connected state count covers multi out =>
    exact .cleaning ks ⟨h.notInited, h.free, h.balance⟩ connected state count covers multi out
  | cleaningBlock ks queued rest h connected state count covers split multi out =>
    exact .cleaningBlock ks queued rest ⟨h.notInited, h.free, h.balance⟩ connected state count
      covers split multi out
  | down h disconnected multi isLost state =>
    exact .down ⟨h.notInited, h.free, h.balance⟩ disconnected multi isLost state

/-! ### Posting -/

theorem post_connected (owner : Owner) (cmds : List Command)
    (hc : c.connected = true) (hd : c.disconnecting = false) :
    c.post owner cmds = { c with outstanding := c.outstanding ++ awaiting owner cmds } := by
  unfold post
  split
  · next h => simp [h]
  · simp [hc, hd, awaiting]

@[simp] theorem post_nil (owner : Owner) : c.post owner [] = c := rfl

/-- The invalidation is started on a live connection. -/
theorem performInv_connected (hc : c.connected = true) (hd : c.disconnecting = false)
    (hs : c.inv_seq.state = .INITIAL) :
    c.performInv =
      { c with
        inv_seq := { c.inv_seq with state := .GET_KEYS }
        outstanding := c.outstanding ++ awaiting .inv [.KEYS] } := by
  simp only [performInv, InvalidateResources.perform, hs, if_true]
  exact post_connected _ _ hc hd

/-! ### Operations -/

/-- Without anything to issue, the sequence is dropped. -/
theorem performOp_nothing {rol : List ResourceOperation} (hol : rol.filter (·.effective) = []) :
    c.performOp rol = c := by
  simp [performOp, OperationResources.perform, hol]

/-- A batch is started on a live connection. -/
theorem performOp_connected (hc : c.connected = true) (hd : c.disconnecting = false)
    {rol : List ResourceOperation} (hne : rol.filter (·.effective) ≠ []) :
    c.performOp rol =
      { c with
        write_async_is_busy := true
        ops := Function.update c.ops c.next_uid
          (some { state := .MULTI_START, res_list := rol.filter (·.effective) })
        next_uid := c.next_uid + 1
        outstanding := c.outstanding ++ awaiting (.op c.next_uid) [.MULTI] } := by
  have hfull : (rol.filter (·.effective)).isEmpty = false := by simpa using hne
  simp only [performOp, OperationResources.perform, hfull, if_true, Bool.false_eq_true, if_false]
  exact post_connected _ _ hc hd

/-- Starting a batch does not look at the queue. -/
theorem performOp_queue (c : Connection) (rol q : List ResourceOperation) :
    { c.performOp rol with resource_operations_queue := q } =
      { c with resource_operations_queue := q }.performOp rol := by
  unfold performOp post
  split
  · split_ifs <;> rfl
  · rfl

/-- Starting a batch from an idle connection. -/
theorem performOp_idle (h : Idle c r b) (hc : c.connected = true)
    (hd : c.disconnecting = false) (rol : List ResourceOperation) (hpos : Nonneg rol) :
    Phase (c.performOp rol) r (b + net rol) ∧
      (c.performOp rol).crashed = c.crashed ∧
      (c.performOp rol).disconnecting = c.disconnecting ∧
      (c.performOp rol).resource_operations_queue = c.resource_operations_queue := by
  by_cases hol : rol.filter (·.effective) = []
  · have hnet : net rol = 0 := by rw [← net_filter_effective, hol, net_nil]
    rw [performOp_nothing hol, hnet, add_zero]
    exact ⟨.idle h, rfl, rfl, rfl⟩
  · -- the batch starts, and what it adds is in flight from now on
    rw [performOp_connected hc hd hol]
    refine ⟨?_, rfl, rfl, rfl⟩
    refine .opening c.next_uid (rol.filter (·.effective)) ?_ h.noBlock (by simp [h.quiet])
    exact
      { connected := hc
        busy := rfl
        op := by simp
        effective := fun o ho => (List.mem_filter.mp ho).2
        nonneg := fun o ho => hpos o (List.mem_filter.mp ho).1
        field := fun _ => by rw [net_filter_effective, h.field]
        reset := fun hi => by simp [h.inited] at hi }

/-- `process_operations_queue` on a connection with nothing in flight. -/
theorem connInv_process_operations_queue (h : Idle c r (t - net c.resource_operations_queue))
    (halive : c.crashed = false) (hd : c.disconnecting = false)
    (hpos : Nonneg c.resource_operations_queue) :
    ConnInv c.process_operations_queue r t := by
  unfold process_operations_queue is_ready
  cases hc : c.connected with
  | false =>
    -- without a connection the queue waits
    simp only [Bool.false_and, Bool.not_false, Bool.true_or, if_true]
    exact ⟨halive, hd, hpos, .idle h⟩
  | true =>
    simp only [h.inited, h.free, Bool.and_self, Bool.not_true, Bool.or_self, Bool.false_eq_true,
      if_false]
    split
    · exact ⟨halive, hd, hpos, .idle h⟩
    · -- the whole queue becomes one batch
      obtain ⟨hphase, ha, hdc, -⟩ := performOp_idle h hc hd _ hpos
      refine ⟨ha.trans halive, hdc.trans hd, by simp [Nonneg], ?_⟩
      rw [sub_add_cancel] at hphase
      simpa using hphase.frame [] _ _

/-- `process_operations_list` adds the operations to the total. -/
theorem connInv_process_operations_list (h : ConnInv c r t) {rol : List ResourceOperation}
    (hpos : Nonneg rol) : ConnInv (c.process_operations_list rol) r (t + net rol) := by
  -- unless the batch can start at once, it waits in the queue
  have hqueued : ConnInv
      { c with resource_operations_queue := c.resource_operations_queue ++ rol } r
      (t + net rol) := by
    refine ⟨h.alive, h.steady, ?_, ?_⟩
    · intro o ho
      exact (List.mem_append.mp ho).elim (h.nonneg o) (hpos o)
    · rw [net_append, show t + net rol - (net c.resource_operations_queue + net rol) =
        t - net c.resource_operations_queue by abel]
      exact h.phase.frame _ _ _
  unfold process_operations_list is_ready
  split
  · next hready =>
    simp only [Bool.and_eq_true, Bool.not_eq_true'] at hready
    obtain ⟨⟨hc, hi⟩, hb⟩ := hready
    -- ready and not busy: every other phase is excluded by one of the flags
    cases h.phase with
    | idle hidle =>
      obtain ⟨hphase, ha, hd, hq⟩ := performOp_idle hidle hc h.steady rol hpos
      refine ⟨ha.trans h.alive, hd.trans h.steady, hq ▸ h.nonneg, ?_⟩
      rw [hq, show t + net rol - net c.resource_operations_queue =
        t - net c.resource_operations_queue + net rol by abel]
      exact hphase
    | opening uid ol h multi out => simp [h.busy] at hb
    | running uid ol queued rest h split multi out => simp [h.busy] at hb
    | reading lost h connected state multi isLost out => simp [h.notInited] at hi
    | cleaning ks h connected state count covers multi out => simp [h.notInited] at hi
    | cleaningBlock ks queued rest h connected state count covers split multi out =>
      simp [h.notInited] at hi
    | down h disconnected multi isLost state => simp [h.notInited] at hi
  · exact hqueued

/-- `put` takes what the resources count for out of the total. -/
theorem connInv_put (h : ConnInv c r t) {rl : List Resource} (hpos : ∀ r ∈ rl, 0 ≤ r.takes) :
    ConnInv (c.put rl) r (t - (rl.map Resource.held).sum) := by
  rw [sub_eq_add_neg, ← net_putOperations]
  unfold Connection.put
  split
  · next hempty =>
    rw [List.isEmpty_iff.mp hempty, net_nil, add_zero]
    exact h
  · exact connInv_process_operations_list h (nonneg_putOperations hpos)

/-- `get` adds what the resources then count for to the total. -/
theorem connInv_get (h : ConnInv c r t) {rl : List Resource} (hpos : ∀ r ∈ rl, 0 ≤ r.takes)
    (hfresh : ∀ r ∈ rl, r.taken = false) :
    ConnInv (c.get rl) r (t + ((rl.map (·.markTaken)).map Resource.held).sum) := by
  rw [← net_getOperations rl hfresh]
  unfold Connection.get
  split
  · next hempty =>
    rw [List.isEmpty_iff.mp hempty, net_nil, add_zero]
    exact h
  · exact connInv_process_operations_list h (nonneg_getOperations hpos)

/-! ### Invalidation -/

/-- `invalidate_resources` only clears the flag, unless it can start at once. -/
theorem invalidate_resources_deferred
    (h : c.connected = false ∨ c.resources_inited = false ∨ c.write_async_is_busy = true) :
    c.invalidate_resources = { c with resources_inited := false } := by
  unfold invalidate_resources
  split_ifs with hc hi hb
  · rfl
  · rfl
  · rfl
  · exfalso
    simp only [Bool.not_eq_true', Bool.not_eq_false] at hc hi
    simp [hc, hi, hb] at h

/-- `invalidate_resources` starts the sequence on a ready connection. -/
theorem invalidate_resources_started (hc : c.connected = true) (hd : c.disconnecting = false)
    (hi : c.resources_inited = true) (hb : c.write_async_is_busy = false) :
    c.invalidate_resources =
      { c with
        inv_seq := { c.inv_seq.cleanup with state := .GET_KEYS }
        outstanding := c.outstanding ++ awaiting .inv [.KEYS]
        resources_inited := false } := by
  unfold invalidate_resources
  rw [performInv_connected (c := { c with inv_seq := c.inv_seq.cleanup }) hc hd rfl,
    if_neg (by simp [hc]), if_neg (by simp [hi]), if_neg (by simp [hb])]

/-- `invalidate_resources`, called when the handlers hold nothing any more and
    the queue adds nothing. -/
theorem connInv_invalidate_resources (h : ConnInv c r t)
    (hqueue : net c.resource_operations_queue = 0) : ConnInv c.invalidate_resources r 0 := by
  have hzero : (0 : Key → Int) - net c.resource_operations_queue = 0 := by rw [hqueue, sub_zero]
  -- in all phases but one the flag is cleared and the phase goes on;
  -- the amount that is still to be added does not matter any more
  have hdeferred (hdef : c.connected = false ∨ c.resources_inited = false ∨
        c.write_async_is_busy = true)
      (hphase : Phase { c with resources_inited := false } r 0) :
      ConnInv c.invalidate_resources r 0 := by
    rw [invalidate_resources_deferred hdef]
    refine ⟨h.alive, h.steady, h.nonneg, ?_⟩
    rw [show (0 : Key → Int) - net _ = 0 from hzero]
    exact hphase
  cases h.phase with
  | idle hi =>
    cases hc : c.connected with
    | false =>
      exact hdeferred (.inl hc) (.down ⟨rfl, hi.free, rfl⟩ hc hi.noBlock
        (by simp [hi.quiet]) (.inl hi.quiet))
    | true =>
      -- nothing is in flight: the sequence starts at once
      rw [invalidate_resources_started hc h.steady hi.inited hi.free]
      refine ⟨h.alive, h.steady, h.nonneg, ?_⟩
      exact .reading [] ⟨rfl, hi.free, hzero⟩ hc rfl hi.noBlock (by simp) (by simp [hi.quiet])
  | opening uid ol hb multi out =>
    exact hdeferred (.inr (.inr hb.busy)) (.opening uid ol
      ⟨hb.connected, hb.busy, hb.op, hb.effective, hb.nonneg, by simp, fun _ => rfl⟩ multi out)
  | running uid ol queued rest hb split multi out =>
    exact hdeferred (.inr (.inr hb.busy)) (.running uid ol queued rest
      ⟨hb.connected, hb.busy, hb.op, hb.effective, hb.nonneg, by simp, fun _ => rfl⟩
      split multi out)
  | reading lost hr connected state multi isLost out =>
    exact hdeferred (.inr (.inl hr.notInited))
      (.reading lost ⟨rfl, hr.free, rfl⟩ connected state multi isLost out)
  | cleaning ks hr connected state count covers multi out =>
    exact hdeferred (.inr (.inl hr.notInited))
      (.cleaning ks ⟨rfl, hr.free, rfl⟩ connected state count covers multi out)
  | cleaningBlock ks queued rest hr connected state count covers split multi out =>
    exact hdeferred (.inr (.inl hr.notInited))
      (.cleaningBlock ks queued rest ⟨rfl, hr.free, rfl⟩ connected state count covers split
        multi out)
  | down hr disconnected multi isLost state =>
    exact hdeferred (.inr (.inl hr.notInited))
      (.down ⟨rfl, hr.free, rfl⟩ disconnected multi isLost state)

/-! ### Connection events -/

/-- The connection is established. -/
theorem connInv_on_connect (h : ConnInv c r t) (hc : c.connected = false) :
    ConnInv { c with connected := true }.on_connect r t := by
  unfold on_connect
  cases h.phase with
  | idle hi =>
    rw [if_neg (by simp [hi.inited])]
    exact connInv_process_operations_queue ⟨hi.inited, hi.free, hi.quiet, hi.noBlock, hi.field⟩
      h.alive h.steady h.nonneg
  | opening uid ol hb multi out => simp [hb.connected] at hc
  | running uid ol queued rest hb split multi out => simp [hb.connected] at hc
  | reading lost hr connected state multi isLost out => simp [connected] at hc
  | cleaning ks hr connected state count covers multi out => simp [connected] at hc
  | cleaningBlock ks queued rest hr connected state count covers split multi out =>
    simp [connected] at hc
  | down hr disconnected multi isLost state =>
    rw [if_pos (by simp [hr.notInited])]
    -- the sequence is reset unless it is in its initial state already
    have hperform : ∀ q : InvalidateResources, q.state = .INITIAL →
        ConnInv { c with connected := true, inv_seq := q }.performInv r t := by
      intro q hq
      rw [performInv_connected (c := { c with connected := true, inv_seq := q }) rfl h.steady hq]
      refine ⟨h.alive, h.steady, h.nonneg, ?_⟩
      exact .reading c.outstanding ⟨hr.notInited, hr.free, hr.balance⟩ rfl rfl multi isLost rfl
    split
    · exact hperform c.inv_seq.cleanup rfl
    · next hs => exact hperform c.inv_seq (not_not.mp hs)

/-- Dropping the context while no operation is in flight. -/
theorem dropContext_free (hb : c.write_async_is_busy = false) :
    c.dropContext =
      { c with
        outstanding := c.outstanding.map fun o => { o with fate := o.fate.or (some .IOError) }
        multi := none
        connected := false
        async_context := none
        disconnecting := false } := by
  unfold dropContext on_disconnect
  split_ifs
  · exact if_neg (by simp [hb])
  · rfl

/-- Commands of the invalidation are lost when the context is dropped. -/
theorem dropContext_lost {out : List Outstanding}
    (h : ∀ o ∈ out, o.owner = .inv ∧ o.fate = none ∨ o.Lost) :
    ∀ o ∈ out.map fun o => { o with fate := o.fate.or (some .IOError) }, o.Lost := by
  intro o ho
  obtain ⟨o', ho', rfl⟩ := List.mem_map.mp ho
  rcases h o' ho' with ⟨howner, hn⟩ | ⟨howner, hl | hl⟩
  · exact ⟨howner, .inl (by simp [hn])⟩
  · exact ⟨howner, .inl (by simp [hl])⟩
  · exact ⟨howner, .inr (by simp [hl])⟩

theorem mem_awaiting {owner : Owner} {cmds : List Command} {o : Outstanding}
    (h : o ∈ awaiting owner cmds) : o.owner = owner ∧ o.fate = none := by
  obtain ⟨cmd, -, rfl⟩ := List.mem_map.mp h
  exact ⟨rfl, rfl⟩

/-- The context is dropped while no operation is in flight.  Redis may have
    executed some of the commands of the invalidation. -/
theorem connInv_dropContext {r' : Redis} (h : ConnInv c r t) (hb : c.write_async_is_busy = false)
    (hr : c.outstanding = [] → r' = r) : ConnInv c.dropContext r' t := by
  rw [dropContext_free hb]
  refine ⟨h.alive, rfl, h.nonneg, ?_⟩
  -- a running invalidation has lost its replies and waits for a connection
  have hdown (hreset : Resetting c (t - net c.resource_operations_queue))
      (hout : ∀ o ∈ c.outstanding, o.owner = .inv ∧ o.fate = none ∨ o.Lost)
      (hs : c.outstanding = [] ∨ c.inv_seq.state ≠ .FINISH) :
      Phase
        { c with
          outstanding := c.outstanding.map fun o => { o with fate := o.fate.or (some .IOError) }
          multi := none
          connected := false
          async_context := none
          disconnecting := false } r' (t - net c.resource_operations_queue) := by
    refine .down ⟨hreset.notInited, hreset.free, hreset.balance⟩ rfl rfl
      (dropContext_lost hout) ?_
    rcases hs with hs | hs
    · exact .inl (by simp [hs])
    · exact .inr hs
  cases h.phase with
  | idle hi =>
    -- nothing was sent, so Redis has not changed
    rw [hr hi.quiet]
    exact .idle ⟨hi.inited, hi.free, by simp [hi.quiet], rfl, hi.field⟩
  | opening uid ol hbatch multi out => simp [hbatch.busy] at hb
  | running uid ol queued rest hbatch split multi out => simp [hbatch.busy] at hb
  | reading lost hreset connected state multi isLost out =>
    refine hdown hreset ?_ (.inr (by simp [state]))
    intro o ho
    rw [out] at ho
    rcases List.mem_append.mp ho with ho | ho
    · exact .inr (isLost o ho)
    · exact .inl (mem_awaiting ho)
  | cleaning ks hreset connected state count covers multi out =>
    refine hdown hreset ?_ (.inr (by simp [state]))
    intro o ho
    exact .inl (mem_awaiting (out ▸ ho))
  | cleaningBlock ks queued rest hreset connected state count covers split multi out =>
    refine hdown hreset ?_ (.inr (by simp [state]))
    intro o ho
    exact .inl (mem_awaiting (out ▸ ho))
  | down hreset disconnected multi isLost state =>
    exact hdown hreset (fun o ho => .inr (isLost o ho)) state

end Yeti.Resources
