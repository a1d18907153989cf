import Yeti.Resources.Steps

/-! # Progress of the resource connection

    While `resources_inited` is down on an established connection, only a reply can
    raise it again, so some command has to be awaited.  The running operations keep
    account of their replies: `due` is how many of them an operation still waits for.
    The invalidation does not: a reply it cannot use leaves it where it is, and when
    nothing else is awaited the connection is stuck.
-/

open LTS

namespace Yeti.Resources

/-! ### What the invalidation waits for -/

namespace InvalidateResources

variable {q q' : InvalidateResources} {reply : Reply} {cmds : List Command}

/-- The reply is one that takes the sequence further or ends it. -/
def accepts (q : InvalidateResources) (reply : Reply) : Bool :=
  match q.state with
  | .INITIAL => false
  | .GET_KEYS => reply.result = .SuccessReply && reply.data ≠ .other
  | .CLEAN_RES => q.commands_count = 1 && reply.result = .SuccessReply
  | .FINISH => true

/-- An accepted reply finishes the sequence, or makes it post commands. -/
theorem moves_of_accepts (haccepts : q.accepts reply = true)
    (h : q.processRedisReply reply = some (q', cmds)) : q'.state = .FINISH ∨ cmds ≠ [] := by
  unfold accepts at haccepts
  unfold processRedisReply at h
  cases hs : q.state with
  | INITIAL =>
    rw [hs] at haccepts
    cases haccepts
  | GET_KEYS =>
    simp only [hs, Bool.and_eq_true, decide_eq_true_eq] at haccepts
    simp only [hs, haccepts.1, ne_eq, not_true_eq_false, if_false] at h
    split at h
    · cases h
      exact .inl rfl
    · split at h
      · cases h
        exact .inr (List.cons_ne_nil _ _)
      · cases h
    next hother => exact absurd hother haccepts.2
  | CLEAN_RES =>
    simp only [hs, Bool.and_eq_true, decide_eq_true_eq] at haccepts
    have hexec := processRedisReply_exec hs haccepts.1 haccepts.2
    unfold processRedisReply at hexec
    rw [hexec] at h
    cases h
    exact .inl rfl
  | FINISH =>
    simp only [hs] at h
    cases h
    exact .inl hs

/-- Any other reply leaves the sequence unfinished, and nothing is posted. -/
theorem stays_of_not_accepts (haccepts : q.accepts reply = false)
    (h : q.processRedisReply reply = some (q', cmds)) : q'.state ≠ .FINISH ∧ cmds = [] := by
  unfold accepts at haccepts
  unfold processRedisReply at h
  cases hs : q.state with
  | INITIAL =>
    simp only [hs] at h
    cases h
    exact ⟨by simp [on_error, hs], rfl⟩
  | GET_KEYS =>
    simp only [hs] at h haccepts
    split_ifs at h with hresult
    · cases h
      exact ⟨by simp [on_error, hs], rfl⟩
    · have hother : reply.data = .other := by simpa [not_not.mp hresult] using haccepts
      rw [hother] at h
      cases h
      exact ⟨by simp [on_error, hs], rfl⟩
  | CLEAN_RES =>
    simp only [hs] at h haccepts
    split_ifs at h with herror hlast
    · cases h
      exact ⟨by simp [on_error], rfl⟩
    · have hcount : q.commands_count = 1 := by omega
      simp [hcount, hlast.2] at haccepts
    · cases h
      exact ⟨by simp, rfl⟩
  | FINISH =>
    simp only [hs] at haccepts
    cases haccepts

end InvalidateResources

/-! ### What the operations wait for -/

namespace OperationResources

variable {op : OperationResources}

/-- How many replies a running operation waits for. -/
def due (op : OperationResources) : Int :=
  match op.state with
  | .MULTI_START => 1
  | _ => op.commands_count

/-- The operation is under way. -/
inductive Running (op : OperationResources) : Prop where
  | multiStart (state : op.state = .MULTI_START) (effective : ∀ r ∈ op.res_list, r.effective = true)
  | opRes (state : op.state = .OP_RES) (count : 0 < op.commands_count)

theorem Running.due_pos (h : op.Running) : 0 < op.due := by
  unfold due
  cases h with
  | multiStart state effective => simp [state]
  | opRes state count => simpa [state] using count

/-- The reply to a command of the block. -/
theorem processRedisReply_opRes (hs : op.state = .OP_RES) (reply : Reply) :
    ∃ iserror, op.processRedisReply reply =
      ({ op with
          state := if op.commands_count = 1 then .FINISH else .OP_RES
          iserror := iserror
          commands_count := op.commands_count - 1 }, []) := by
  have hlast : op.commands_count - 1 = 0 ↔ op.commands_count = 1 := by omega
  unfold processRedisReply
  simp only [hs, ne_eq, hlast]
  by_cases herror : ¬op.commands_count = 1 ∧ ¬reply.result = .StatusReply ∨
      op.commands_count = 1 ∧ ¬reply.result = .SuccessReply
  · refine ⟨true, ?_⟩
    rw [if_pos herror]
    by_cases hone : op.commands_count = 1
    · simp [hone, on_error]
    · simp [hone, hlast, on_error]
  · refine ⟨op.iserror, ?_⟩
    rw [if_neg herror]
    by_cases hone : op.commands_count = 1
    · simp [hone]
    · simp [hone, hlast]

/-- A reply to a running operation is taken off its account; what it posts is added. -/
theorem due_processRedisReply (h : op.Running) (reply : Reply)
    (hs : (op.processRedisReply reply).1.state ≠ .FINISH) :
    (op.processRedisReply reply).1.Running ∧
      (op.processRedisReply reply).1.due =
        op.due - 1 + (op.processRedisReply reply).2.length := by
  cases h with
  | multiStart state effective =>
    have hreply : op.processRedisReply reply =
        ({ op with state := .OP_RES, commands_count := op.res_list.length + 1 },
          op.res_list.filterMap hincrby ++ [.EXEC]) := by
      simp [processRedisReply, state]
    rw [hreply]
    constructor
    · refine .opRes rfl ?_
      show (0 : Int) < op.res_list.length + 1
      omega
    · have hlength := length_hincrby effective
      simp [due, state, hlength]
  | opRes state count =>
    obtain ⟨iserror, hreply⟩ := processRedisReply_opRes state reply
    rw [hreply] at hs ⊢
    by_cases hone : op.commands_count = 1
    · simp [hone] at hs
    · constructor
      · refine .opRes (by simp [hone]) ?_
        show 0 < op.commands_count - 1
        omega
      · simp [due, state, hone]

/-- The last reply finishes the operation. -/
theorem due_of_finish (h : op.Running) (reply : Reply)
    (hs : (op.processRedisReply reply).1.state = .FINISH) : op.due = 1 := by
  cases h with
  | multiStart state effective => simp [due, state]
  | opRes state count =>
    obtain ⟨iserror, hreply⟩ := processRedisReply_opRes state reply
    rw [hreply] at hs
    by_cases hone : op.commands_count = 1
    · simp [due, state, hone]
    · simp [hone] at hs

end OperationResources

/-! ### The account of the connection -/

namespace Connection

variable {c c' : Connection}

/-- How many replies to the operation `uid` are in the list. -/
def awaited (uid : Nat) (outs : List Outstanding) : Nat := outs.countP (·.owner = .op uid)

theorem awaited_append (uid : Nat) (outs outs' : List Outstanding) :
    awaited uid (outs ++ outs') = awaited uid outs + awaited uid outs' := List.countP_append

/-- Losing the connection does not change who waits for a reply. -/
theorem awaited_lose (uid : Nat) (outs : List Outstanding) :
    awaited uid (outs.map lose) = awaited uid outs := by
  unfold awaited
  rw [List.countP_map]
  rfl

theorem awaited_posted_self (uid : Nat) (cmds : List Command) (fate : Option ResultType) :
    awaited uid (cmds.map fun cmd => ⟨cmd, .op uid, fate⟩) = cmds.length := by
  unfold awaited
  rw [List.countP_map, List.countP_eq_length.mpr]
  intro cmd _
  simp

theorem awaited_posted_of_ne {uid : Nat} {owner : Owner} (hne : owner ≠ .op uid)
    (cmds : List Command) (fate : Option ResultType) :
    awaited uid (cmds.map fun cmd => ⟨cmd, owner, fate⟩) = 0 := by
  unfold awaited
  rw [List.countP_map, List.countP_eq_zero]
  intro cmd _
  simpa using hne

theorem ne_nil_of_awaited {uid : Nat} {outs : List Outstanding} (h : 0 < awaited uid outs) :
    outs ≠ [] := by
  intro hnil
  rw [hnil] at h
  exact Nat.lt_irrefl 0 h

/-- How many replies the connection owes to the operation. -/
def owed (op : Option OperationResources) : Int := (op.map (·.due)).getD 0

/-- The invariant of the connection: the replies in `outs` are the ones the operations
    wait for. -/
structure Accounted (c : Connection) (outs : List Outstanding) : Prop where
  account : ∀ uid, (awaited uid outs : Int) = owed (c.ops uid)
  running : ∀ uid op, c.ops uid = some op → op.Running
  fresh : ∀ uid, c.next_uid ≤ uid → c.ops uid = none
  busy : c.write_async_is_busy = true → ∃ uid, c.ops uid ≠ none
  /-- hiredis waits for a reply. -/
  leaving : c.disconnecting = true → c.outstanding.any (·.fate.isNone) = true

variable {outs : List Outstanding}

/-- A running operation waits for some reply. -/
theorem Accounted.awaited_pos (h : Accounted c outs) {uid : Nat} (hlive : c.ops uid ≠ none) :
    0 < awaited uid outs := by
  obtain ⟨op, hop⟩ := Option.ne_none_iff_exists'.mp hlive
  have hpos := (h.running uid op hop).due_pos
  have haccount := h.account uid
  rw [hop] at haccount
  simp only [owed, Option.map_some, Option.getD_some] at haccount
  omega

theorem Accounted.awaiting_of_busy (h : Accounted c outs) (hb : c.write_async_is_busy = true) :
    outs ≠ [] := by
  obtain ⟨uid, hlive⟩ := h.busy hb
  exact ne_nil_of_awaited (h.awaited_pos hlive)

/-- A reply to an operation that is gone is not awaited. -/
theorem Accounted.live_of_mem (h : Accounted c outs) {o : Outstanding} (ho : o ∈ outs) {uid : Nat}
    (howner : o.owner = .op uid) : c.ops uid ≠ none := by
  intro hnone
  have haccount := h.account uid
  rw [hnone] at haccount
  have hpos : 0 < awaited uid outs := List.countP_pos_iff.mpr ⟨o, ho, by simpa using howner⟩
  simp only [owed, Option.map_none, Option.getD_none] at haccount
  omega

/-- A step that leaves the operations and their replies alone. -/
theorem Accounted.of_same (h : Accounted c outs) {outs' : List Outstanding}
    (hops : c'.ops = c.ops) (huid : c'.next_uid = c.next_uid)
    (hawaited : ∀ uid, awaited uid outs' = awaited uid outs)
    (hbusy : c'.write_async_is_busy = true → c.write_async_is_busy = true)
    (hleaving : c'.disconnecting = true → c'.outstanding.any (·.fate.isNone) = true) :
    Accounted c' outs' where
  account uid := by
    rw [hawaited, hops]
    exact h.account uid
  running uid op hop := h.running uid op (hops ▸ hop)
  fresh uid hle := by
    rw [hops]
    exact h.fresh uid (huid ▸ hle)
  busy hb := by
    rw [hops]
    exact h.busy (hbusy hb)
  leaving := hleaving

/-- Commands of the invalidation are not accounted for. -/
theorem awaited_append_inv (uid : Nat) (outs : List Outstanding) (cmds : List Command)
    (fate : Option ResultType) :
    awaited uid (outs ++ cmds.map fun cmd => ⟨cmd, .inv, fate⟩) = awaited uid outs := by
  have hne : Owner.inv ≠ .op uid := by
    intro h
    cases h
  rw [awaited_append, awaited_posted_of_ne hne, Nat.add_zero]

/-- The invalidation posts commands. -/
theorem Accounted.post_inv (h : Accounted c c.outstanding) {q : InvalidateResources}
    (cmds : List Command) {fate : Option ResultType} :
    Accounted { c with
      inv_seq := q
      outstanding := c.outstanding ++ cmds.map fun cmd => ⟨cmd, .inv, fate⟩ }
      (c.outstanding ++ cmds.map fun cmd => ⟨cmd, .inv, fate⟩) := by
  refine h.of_same rfl rfl ?_ id ?_
  · intro uid
    exact awaited_append_inv uid c.outstanding cmds fate
  · intro hd
    show (c.outstanding ++ _).any _ = true
    rw [List.any_append, h.leaving hd, Bool.true_or]

/-! ### Functions of the connection -/

theorem accounted_started (h : Accounted c c.outstanding) (hstart : Started c c')
    (halive : c'.crashed = false) : Accounted c' c'.outstanding := by
  cases hstart with
  | queued queue => exact ⟨h.account, h.running, h.fresh, h.busy, h.leaving⟩
  | crashed hcrashed =>
    rw [halive] at hcrashed
    cases hcrashed
  | started ol queue effective connected inited free steady =>
    have hnew := h.fresh c.next_uid (Nat.le_refl _)
    refine ⟨?_, ?_, ?_, ?_, ?_⟩
    · intro uid
      show ((awaited uid (c.outstanding ++ [⟨.MULTI, .op c.next_uid, none⟩]) : Nat) : Int) =
        owed (Function.update c.ops c.next_uid _ uid)
      have haccount := h.account uid
      rw [awaited_append]
      by_cases huid : uid = c.next_uid
      · rw [huid, hnew] at haccount
        rw [huid, Function.update_self]
        simp only [owed, Option.map_none, Option.getD_none] at haccount
        simp [owed, awaited, OperationResources.due] at haccount ⊢
        exact haccount
      · have hne : Owner.op c.next_uid ≠ .op uid := by
          simpa using Ne.symm huid
        rw [Function.update_of_ne huid, ← haccount]
        simp [awaited, hne]
    · intro uid op hop
      have hop' : Function.update c.ops c.next_uid
          (some { state := .MULTI_START, res_list := ol }) uid = some op := hop
      by_cases huid : uid = c.next_uid
      · rw [huid, Function.update_self] at hop'
        cases hop'
        exact .multiStart rfl effective
      · rw [Function.update_of_ne huid] at hop'
        exact h.running uid op hop'
    · intro uid hle
      have hle' : c.next_uid + 1 ≤ uid := hle
      show Function.update c.ops c.next_uid _ uid = none
      rw [Function.update_of_ne (by omega)]
      exact h.fresh uid (by omega)
    · intro _
      refine ⟨c.next_uid, ?_⟩
      show Function.update c.ops c.next_uid _ c.next_uid ≠ none
      rw [Function.update_self]
      exact Option.some_ne_none _
    · intro hd
      rw [show (c.startOp ol queue).disconnecting = c.disconnecting from rfl, steady] at hd
      cases hd

theorem accounted_performInv (h : Accounted c c.outstanding) (hs : c.inv_seq.state = .INITIAL)
    (halive : c.performInv.crashed = false) :
    Accounted c.performInv c.performInv.outstanding := by
  rw [(performInv_of_alive hs halive).2]
  exact h.post_inv [.KEYS]

theorem accounted_dropContext (h : Accounted c outs) : Accounted c.dropContext (outs.map lose) := by
  rw [dropContext_eq]
  refine h.of_same rfl rfl ?_ ?_ ?_
  · intro uid
    exact awaited_lose uid outs
  · intro hb
    exact (Bool.and_eq_true _ _ ▸ hb : _ ∧ _).1
  · intro hd
    cases hd

theorem dropContext_outstanding (c : Connection) :
    c.dropContext.outstanding = c.outstanding.map lose := by
  rw [dropContext_eq]

theorem accounted_invalidate_resources (h : Accounted c c.outstanding)
    (halive : c.invalidate_resources.crashed = false) :
    Accounted c.invalidate_resources c.invalidate_resources.outstanding := by
  have hdeferred : Accounted { c with resources_inited := false } c.outstanding :=
    h.of_same rfl rfl (fun _ => rfl) id h.leaving
  unfold invalidate_resources at halive ⊢
  split_ifs at halive ⊢
  · exact hdeferred
  · exact hdeferred
  · exact hdeferred
  · have hcleanup : Accounted { c with inv_seq := c.inv_seq.cleanup } c.outstanding :=
      h.of_same rfl rfl (fun _ => rfl) id h.leaving
    have hperform := accounted_performInv hcleanup rfl halive
    exact hperform.of_same rfl rfl (fun _ => rfl) id hperform.leaving

theorem accounted_on_connect (h : Accounted c c.outstanding)
    (halive : c.on_connect.crashed = false) : Accounted c.on_connect c.on_connect.outstanding := by
  unfold on_connect at halive ⊢
  split_ifs at halive ⊢ with hi hs
  · have hcleanup : Accounted { c with inv_seq := c.inv_seq.cleanup } c.outstanding :=
      h.of_same rfl rfl (fun _ => rfl) id h.leaving
    exact accounted_performInv hcleanup rfl halive
  · exact accounted_performInv h (not_not.mp hs) halive
  · exact accounted_started h (started_process_operations_queue c) halive

/-! ### Replies -/

theorem awaited_cons_self {uid : Nat} {o : Outstanding} (h : o.owner = .op uid)
    (outs : List Outstanding) : awaited uid (o :: outs) = awaited uid outs + 1 :=
  List.countP_cons_of_pos (by simpa using h)

theorem awaited_cons_of_ne {uid : Nat} {o : Outstanding} (h : o.owner ≠ .op uid)
    (outs : List Outstanding) : awaited uid (o :: outs) = awaited uid outs :=
  List.countP_cons_of_neg (by simpa using h)

/-- While the reply to `o` is processed, it is still on the account. -/
theorem accounted_arrived {o : Outstanding} {rest : List Outstanding}
    (h : Accounted c (o :: rest)) :
    Accounted (c.arrived rest) (o :: (c.arrived rest).outstanding) := by
  unfold arrived
  split_ifs with hlast
  · rw [dropContext_eq]
    refine h.of_same rfl rfl ?_ ?_ ?_
    · intro uid
      show awaited uid ([o] ++ rest.map lose) = awaited uid ([o] ++ rest)
      rw [awaited_append, awaited_append, awaited_lose]
    · intro hb
      exact (Bool.and_eq_true _ _ ▸ hb : _ ∧ _).1
    · intro hd
      cases hd
  · refine h.of_same rfl rfl (fun _ => rfl) id ?_
    intro hd
    have hd' : c.disconnecting = true := hd
    rw [hd', Bool.true_and] at hlast
    simpa using hlast

/-- A reply to the invalidation. -/
theorem accounted_processInvReply (h : Accounted c c.outstanding) (reply : Reply)
    (halive : (c.processInvReply reply).1.crashed = false) :
    Accounted (c.processInvReply reply).1 (c.processInvReply reply).1.outstanding := by
  obtain ⟨q, cmds, -, ⟨-, hstart⟩ | ⟨-, heq⟩⟩ := processInvReply_of_alive halive
  · have hdone : Accounted { c with
        resources_inited := true
        inv_seq := { q with initial := false } } c.outstanding :=
      h.of_same rfl rfl (fun _ => rfl) id h.leaving
    exact accounted_started hdone hstart halive
  · rw [heq]
    exact h.post_inv cmds

/-- An operation has finished. -/
theorem accounted_finishOp (h : Accounted { c with write_async_is_busy := false } c.outstanding)
    (iserror : Bool) (halive : (c.finishOp iserror).crashed = false) :
    Accounted (c.finishOp iserror) (c.finishOp iserror).outstanding := by
  have hfinished := finishOp_of_alive halive
  generalize c.finishOp iserror = c' at hfinished halive ⊢
  cases hfinished with
  | leaving pending => exact h.of_same rfl rfl (fun _ => rfl) id fun _ => pending
  | dropped =>
    rw [dropContext_outstanding]
    have hdrop := accounted_dropContext h
    exact hdrop.of_same rfl rfl (fun _ => rfl) id hdrop.leaving
  | invalidated steady => exact h.post_inv [.KEYS]
  | next inited start => exact accounted_started h start halive

/-- The reply `o` to the running operation `uid` is off the account, and the operation is
    now `v`. -/
theorem Accounted.settle {o : Outstanding} {uid : Nat} {v : Option OperationResources}
    (h : Accounted c (o :: c.outstanding)) (howner : o.owner = .op uid) (hlive : c.ops uid ≠ none)
    (hops : c'.ops = Function.update c.ops uid v) (huid : c'.next_uid = c.next_uid)
    (hrunning : ∀ op, v = some op → op.Running) (hself : (awaited uid outs : Int) = owed v)
    (hother : ∀ uid', uid' ≠ uid → awaited uid' outs = awaited uid' c.outstanding)
    (hbusy : c'.write_async_is_busy = true → v ≠ none)
    (hleaving : c'.disconnecting = true → c'.outstanding.any (·.fate.isNone) = true) :
    Accounted c' outs := by
  refine ⟨?_, ?_, ?_, ?_, hleaving⟩
  · intro uid'
    rw [hops]
    by_cases heq : uid' = uid
    · rw [heq, Function.update_self]
      exact hself
    · have hne : o.owner ≠ .op uid' := by
        rw [howner]
        simpa using Ne.symm heq
      have haccount := h.account uid'
      rw [awaited_cons_of_ne hne] at haccount
      rw [Function.update_of_ne heq, hother uid' heq]
      exact haccount
  · intro uid' op hop
    rw [hops] at hop
    by_cases heq : uid' = uid
    · rw [heq, Function.update_self] at hop
      exact hrunning op hop
    · rw [Function.update_of_ne heq] at hop
      exact h.running uid' op hop
  · intro uid' hle
    have hfresh := h.fresh uid' (huid ▸ hle)
    have hne : uid' ≠ uid := by
      intro heq
      exact hlive (heq ▸ hfresh)
    rw [hops, Function.update_of_ne hne]
    exact hfresh
  · intro hb
    refine ⟨uid, ?_⟩
    rw [hops, Function.update_self]
    exact hbusy hb

/-- A reply to an operation. -/
theorem accounted_processOpReply {o : Outstanding} {uid : Nat}
    (h : Accounted c (o :: c.outstanding)) (howner : o.owner = .op uid) (reply : Reply)
    (halive : (c.processOpReply uid reply).crashed = false) :
    Accounted (c.processOpReply uid reply) (c.processOpReply uid reply).outstanding := by
  have hlive := h.live_of_mem (List.mem_cons_self ..) howner
  rcases processOpReply_cases c uid reply with ⟨hnone, -⟩ | ⟨op, hop, hcases⟩
  · exact absurd hnone hlive
  have haccount := h.account uid
  rw [awaited_cons_self howner, hop] at haccount
  simp only [owed, Option.map_some, Option.getD_some] at haccount
  have hrun := h.running uid op hop
  rcases hcases with ⟨hfinish, heq⟩ | ⟨hs, heq⟩
  · -- the operation is deleted, and nothing more is awaited for it
    have hdue := OperationResources.due_of_finish hrun reply hfinish
    rw [heq] at halive ⊢
    refine accounted_finishOp ?_ _ halive
    refine h.settle howner hlive rfl rfl ?_ ?_ (fun _ _ => rfl) ?_ h.leaving
    · intro op' hop'
      cases hop'
    · simp only [owed, Option.map_none, Option.getD_none]
      omega
    · intro hb
      cases hb
  · -- the operation goes on
    obtain ⟨hrunning, hdue⟩ := OperationResources.due_processRedisReply hrun reply hs
    rw [heq] at halive ⊢
    generalize op.processRedisReply reply = r at halive hrunning hdue ⊢
    rw [(post_of_alive halive).2]
    refine h.settle howner hlive rfl rfl ?_ ?_ ?_ ?_ ?_
    · intro op' hop'
      cases hop'
      exact hrunning
    · rw [awaited_append, awaited_posted_self]
      simp only [owed, Option.map_some, Option.getD_some]
      omega
    · intro uid' hne
      rw [awaited_append, awaited_posted_of_ne (by simpa using Ne.symm hne), Nat.add_zero]
    · intro _
      exact Option.some_ne_none _
    · intro hd
      show (c.outstanding ++ _).any _ = true
      rw [List.any_append, h.leaving hd, Bool.true_or]

/-- A reply, to whichever sequence. -/
theorem accounted_process_reply_event {o : Outstanding} (h : Accounted c (o :: c.outstanding))
    (reply : Reply) (halive : (c.process_reply_event o.owner reply).1.crashed = false) :
    Accounted (c.process_reply_event o.owner reply).1
      (c.process_reply_event o.owner reply).1.outstanding := by
  cases howner : o.owner with
  | inv =>
    rw [howner] at halive
    refine accounted_processInvReply ?_ reply halive
    refine h.of_same rfl rfl ?_ id h.leaving
    intro uid
    exact (awaited_cons_of_ne (by rw [howner]; intro heq; cases heq) _).symm
  | op uid =>
    rw [howner] at halive
    exact accounted_processOpReply h howner reply halive

/-! ### Awaiting some reply -/

/-- While the resources are not initialised on an established connection, some reply is
    awaited. -/
def Awaiting (c : Connection) : Prop :=
  c.connected = true → c.resources_inited = false → c.outstanding ≠ []

theorem awaiting_of_inited (h : c.resources_inited = true) : Awaiting c := by
  intro _ hi
  rw [h] at hi
  cases hi

theorem awaiting_of_disconnected (h : c.connected = false) : Awaiting c := by
  intro hc
  rw [h] at hc
  cases hc

theorem awaiting_started (h : Awaiting c) (hstart : Started c c') (halive : c'.crashed = false) :
    Awaiting c' := by
  cases hstart with
  | queued queue => exact h
  | crashed hcrashed =>
    rw [halive] at hcrashed
    cases hcrashed
  | started ol queue effective connected inited free steady => exact awaiting_of_inited inited

/-- `KEYS` is awaited. -/
theorem awaiting_performInv (hs : c.inv_seq.state = .INITIAL)
    (halive : c.performInv.crashed = false) : c.performInv.outstanding ≠ [] := by
  rw [(performInv_of_alive hs halive).2]
  simp

/-- The invalidation is started, or the operation that delays it awaits a reply. -/
theorem awaiting_invalidate_resources (h : Awaiting c) (haccounted : Accounted c c.outstanding)
    (halive : c.invalidate_resources.crashed = false) : Awaiting c.invalidate_resources := by
  unfold invalidate_resources at halive ⊢
  split_ifs at halive ⊢ with hc hi hb
  · exact awaiting_of_disconnected (by simpa using hc)
  · intro hconnected _
    exact h hconnected (by simpa using hi)
  · intro _ _
    exact haccounted.awaiting_of_busy hb
  · intro _ _
    exact awaiting_performInv rfl halive

theorem awaiting_on_connect (halive : c.on_connect.crashed = false) : Awaiting c.on_connect := by
  unfold on_connect at halive ⊢
  split_ifs at halive ⊢ with hi hs
  · intro _ _
    exact awaiting_performInv rfl halive
  · intro _ _
    exact awaiting_performInv (not_not.mp hs) halive
  · have hinited : Awaiting c := awaiting_of_inited (by simpa using hi)
    exact awaiting_started hinited (started_process_operations_queue c) halive

/-- After an error the connection is gone, or hiredis waits for a reply. -/
theorem awaiting_finishOp (iserror : Bool) (halive : (c.finishOp iserror).crashed = false) :
    Awaiting (c.finishOp iserror) := by
  have hfinished := finishOp_of_alive halive
  generalize c.finishOp iserror = c' at hfinished halive ⊢
  cases hfinished with
  | leaving pending =>
    intro _ _ hnil
    rw [show c.outstanding = [] from hnil] at pending
    cases pending
  | dropped =>
    rw [dropContext_eq]
    exact awaiting_of_disconnected rfl
  | invalidated steady =>
    intro _ _
    simp
  | next inited start =>
    have hdone : Awaiting { c with write_async_is_busy := false } := awaiting_of_inited inited
    exact awaiting_started hdone start halive

/-- The operation posts commands, waits for more replies, or has finished. -/
theorem awaiting_processOpReply {o : Outstanding} {uid : Nat}
    (h : Accounted c (o :: c.outstanding)) (howner : o.owner = .op uid) (reply : Reply)
    (halive : (c.processOpReply uid reply).crashed = false) :
    Awaiting (c.processOpReply uid reply) := by
  have haccounted := accounted_processOpReply h howner reply halive
  rcases processOpReply_cases c uid reply with ⟨hnone, -⟩ | ⟨op, hop, ⟨-, heq⟩ | ⟨-, heq⟩⟩
  · exact absurd hnone (h.live_of_mem (List.mem_cons_self ..) howner)
  · rw [heq] at halive ⊢
    exact awaiting_finishOp _ halive
  · intro _ _
    have hlive : (c.processOpReply uid reply).ops uid ≠ none := by
      rw [heq, post_ops]
      show Function.update c.ops uid _ uid ≠ none
      rw [Function.update_self]
      exact Option.some_ne_none _
    exact ne_nil_of_awaited (haccounted.awaited_pos hlive)

/-- A reply to the invalidation; the last one has to be one it can use. -/
theorem awaiting_processInvReply (reply : Reply)
    (hlast : c.outstanding = [] → c.connected = true → c.resources_inited = false →
      c.inv_seq.accepts reply = true)
    (halive : (c.processInvReply reply).1.crashed = false) :
    Awaiting (c.processInvReply reply).1 := by
  obtain ⟨q, cmds, hreply, ⟨-, hstart⟩ | ⟨hfinish, heq⟩⟩ := processInvReply_of_alive halive
  · have hdone : Awaiting { c with
        resources_inited := true
        inv_seq := { q with initial := false } } := awaiting_of_inited rfl
    exact awaiting_started hdone hstart halive
  · rw [heq]
    intro hconnected hinited hnil
    have hboth : c.outstanding = [] ∧ cmds = [] := by
      simpa using (show c.outstanding ++ cmds.map _ = [] from hnil)
    have haccepts := hlast hboth.1 hconnected hinited
    rcases InvalidateResources.moves_of_accepts haccepts hreply with hdone | hposted
    · exact hfinish hdone
    · exact hposted hboth.2

/-- A reply it cannot use changes nothing but the sequence. -/
theorem processInvReply_of_not_accepts {reply : Reply} (h : c.inv_seq.accepts reply = false)
    (halive : (c.processInvReply reply).1.crashed = false) :
    ∃ q, (c.processInvReply reply).1 = { c with inv_seq := q } := by
  obtain ⟨q, cmds, hreply, hcases⟩ := processInvReply_of_alive halive
  obtain ⟨hs, rfl⟩ := InvalidateResources.stays_of_not_accepts h hreply
  rcases hcases with ⟨hfinish, -⟩ | ⟨-, heq⟩
  · exact absurd hfinish hs
  · refine ⟨q, ?_⟩
    rw [heq, List.map_nil, List.append_nil]

end Connection

/-! ### Runs -/

namespace Control

open Connection

variable {s s' : Control}

/-- What is claimed: once the initial invalidation has finished, an established connection
    whose resources are not initialised awaits some reply. -/
def Unstuck (s : Control) : Prop :=
  s.conn.crashed = false → s.conn.connected = true → s.initedOnce = true →
    s.conn.resources_inited = false → s.conn.outstanding ≠ []

/-- Only the reply to `o` is awaited: one to the invalidation, on a connection that is not
    being closed. -/
structure Lone (s : Control) (o : Outstanding) : Prop where
  only : s.conn.outstanding = [o]
  owner : o.owner = .inv
  connected : s.conn.connected = true
  steady : s.conn.disconnecting = false
  initedOnce : s.initedOnce = true
  notInited : s.conn.resources_inited = false

instance (s : Control) (o : Outstanding) : Decidable (s.Lone o) :=
  decidable_of_iff
    (s.conn.outstanding = [o] ∧ o.owner = .inv ∧ s.conn.connected = true ∧
      s.conn.disconnecting = false ∧ s.initedOnce = true ∧ s.conn.resources_inited = false)
    ⟨fun h => ⟨h.1, h.2.1, h.2.2.1, h.2.2.2.1, h.2.2.2.2.1, h.2.2.2.2.2⟩,
      fun h => ⟨h.only, h.owner, h.connected, h.steady, h.initedOnce, h.notInited⟩⟩

/-- The condition on the steps: a lone reply is one that the invalidation can use. -/
def Careful (s : Control) : Label → Prop
  | .reply a =>
    ∀ o ∈ s.conn.outstanding, s.Lone o → s.conn.inv_seq.accepts (s.answerNext o a).2.2 = true
  | _ => True

instance (s : Control) : (l : Label) → Decidable (s.Careful l)
  | .reply _ => inferInstanceAs (Decidable (∀ o ∈ s.conn.outstanding, _))
  | .get _ _ _ => .isTrue trivial
  | .put _ => .isTrue trivial
  | .invalidate => .isTrue trivial
  | .invalidateReturn => .isTrue trivial
  | .reconnect => .isTrue trivial
  | .connectFailed => .isTrue trivial
  | .connect => .isTrue trivial
  | .disconnect _ => .isTrue trivial

/-! ### The invariant over runs -/

theorem accounted_initial (redis : Redis) :
    Accounted (started redis).conn (started redis).conn.outstanding := by
  refine ⟨fun _ => rfl, ?_, fun _ _ => rfl, ?_, ?_⟩
  · intro uid op hop
    cases hop
  · intro hb
    cases hb
  · intro hd
    cases hd

theorem accounted_answerNext {o : Outstanding} {rest : List Outstanding}
    (h : Accounted s.conn s.conn.outstanding) (hout : s.conn.outstanding = o :: rest) (a : Answer) :
    Accounted ((s.answerNext o a).1.arrived rest)
      (o :: ((s.answerNext o a).1.arrived rest).outstanding) := by
  obtain ⟨multi, heq⟩ := s.answerNext_conn o a
  rw [heq]
  apply accounted_arrived
  rw [← hout]
  exact h.of_same rfl rfl (fun _ => rfl) id h.leaving

theorem accounted_preserved {l : Label} {c' : Connection}
    (h : Accounted s.conn s.conn.outstanding) (hstep : s.ConnStep l c')
    (halive : c'.crashed = false) : Accounted c' c'.outstanding := by
  cases hstep with
  | same => exact h
  | operations l rol => exact accounted_started h (started_process_operations_list _ rol) halive
  | invalidate => exact accounted_invalidate_resources h halive
  | reconnect disconnected free => exact h.of_same rfl rfl (fun _ => rfl) id h.leaving
  | connectFailed disconnected =>
    rw [dropContext_outstanding]
    exact accounted_dropContext h
  | connect disconnected context =>
    have hup : Accounted { s.conn with connected := true } s.conn.outstanding :=
      h.of_same rfl rfl (fun _ => rfl) id h.leaving
    exact accounted_on_connect hup halive
  | disconnect n connected =>
    rw [dropContext_outstanding]
    exact accounted_dropContext h
  | reply a o rest out =>
    have harrived := accounted_answerNext h out a
    exact accounted_process_reply_event harrived _ halive

/-- The mark of the first invalidation is set together with `resources_inited`. -/
theorem initedOnce_of_next {l : Label} (h : s.next l = some s') (hs' : s'.initedOnce = true) :
    s.initedOnce = true ∨ s'.conn.resources_inited = true := by
  cases step_of_next h with
  | get handler rl check new parsed =>
    left
    unfold Control.get at hs'
    split_ifs at hs'
    · exact hs'
    · split at hs'
      · exact hs'
      · dsimp only at hs'
        split_ifs at hs' <;> exact hs'
  | put handler =>
    left
    unfold Control.put at hs'
    split at hs'
    · exact hs'
    · dsimp only at hs'
      split_ifs at hs' <;> exact hs'
  | reply a o rest out => exact (Bool.or_eq_true _ _ ▸ hs' : _ ∨ _)
  | invalidate => exact .inl hs'
  | invalidateReturn => exact .inl hs'
  | reconnect disconnected free => exact .inl hs'
  | connectFailed disconnected => exact .inl hs'
  | connect disconnected context => exact .inl hs'
  | disconnect n connected => exact .inl hs'

/-- On a connection that is still there, nothing but the reply has gone. -/
theorem arrived_of_connected {c : Connection} {rest : List Outstanding}
    (h : (c.arrived rest).connected = true) :
    c.arrived rest = { c with outstanding := rest } ∧ (rest = [] → c.disconnecting = false) := by
  unfold arrived at h ⊢
  split_ifs at h ⊢ with hlast
  · rw [dropContext_eq] at h
    cases h
  · refine ⟨rfl, ?_⟩
    intro hrest
    simpa [hrest] using hlast

/-- The reply to the invalidation that is processed is one it can use, if it is the last. -/
theorem accepts_of_careful {o : Outstanding} {rest : List Outstanding} {a : Answer}
    (hcareful : s.Careful (.reply a)) (hout : s.conn.outstanding = o :: rest)
    (howner : o.owner = .inv) (honce : s.initedOnce = true)
    (hempty : ((s.answerNext o a).1.arrived rest).outstanding = [])
    (hconnected : ((s.answerNext o a).1.arrived rest).connected = true)
    (hinited : ((s.answerNext o a).1.arrived rest).resources_inited = false) :
    ((s.answerNext o a).1.arrived rest).inv_seq.accepts (s.answerNext o a).2.2 = true := by
  obtain ⟨heq, hsteady⟩ := arrived_of_connected hconnected
  obtain ⟨multi, hconn⟩ := s.answerNext_conn o a
  rw [heq] at hempty hconnected hinited ⊢
  rw [hconn] at hconnected hinited hsteady ⊢
  have hrest : rest = [] := hempty
  have hlone : s.Lone o :=
    { only := by rw [hout, hrest]
      owner := howner
      connected := hconnected
      steady := hsteady hrest
      initedOnce := honce
      notInited := hinited }
  exact hcareful o (by rw [hout]; exact List.mem_cons_self ..) hlone

theorem awaiting_preserved {l : Label} {c' : Connection} (honce : s.initedOnce = true)
    (haccounted : Accounted s.conn s.conn.outstanding) (h : Awaiting s.conn)
    (hcareful : s.Careful l) (hstep : s.ConnStep l c') (halive : c'.crashed = false) :
    Awaiting c' := by
  cases hstep with
  | same => exact h
  | operations l rol => exact awaiting_started h (started_process_operations_list _ rol) halive
  | invalidate => exact awaiting_invalidate_resources h haccounted halive
  | reconnect disconnected free => exact awaiting_of_disconnected disconnected
  | connectFailed disconnected =>
    rw [dropContext_eq]
    exact awaiting_of_disconnected rfl
  | connect disconnected context => exact awaiting_on_connect halive
  | disconnect n connected =>
    rw [dropContext_eq]
    exact awaiting_of_disconnected rfl
  | reply a o rest out =>
    have harrived := accounted_answerNext haccounted out a
    cases howner : o.owner with
    | inv =>
      rw [howner] at halive
      exact awaiting_processInvReply _ (accepts_of_careful hcareful out howner honce) halive
    | op uid =>
      rw [howner] at halive
      exact awaiting_processOpReply harrived howner _ halive

/-- The invariant. -/
structure Progressing (s : Control) : Prop where
  accounted : Accounted s.conn s.conn.outstanding
  awaiting : s.initedOnce = true → Awaiting s.conn

theorem progressing_of_reachable {s : Control} (h : system.ReachableUnder Careful s) :
    s.conn.crashed = false → s.Progressing := by
  refine System.invariant_under (fun s => s.conn.crashed = false → s.Progressing) ?_ ?_ h
  · rintro s ⟨redis, rfl⟩ -
    exact ⟨accounted_initial redis, fun _ => awaiting_of_disconnected rfl⟩
  · intro s l s' ih hcareful hnext halive
    have hs := ih (alive_of_next hnext)
    have hstep := connStep_of_next hnext
    refine ⟨accounted_preserved hs.accounted hstep halive, ?_⟩
    intro honce
    rcases initedOnce_of_next hnext honce with hbefore | hinited
    · exact awaiting_preserved hbefore hs.accounted (hs.awaiting hbefore) hcareful hstep halive
    · exact awaiting_of_inited hinited

/-! ### Main result -/

/-- As long as a lone reply is always one that the invalidation can use, the connection is
    never stuck. -/
theorem unstuck_of_careful {s : Control} (h : system.ReachableUnder Careful s) : s.Unstuck := by
  intro halive hconnected honce hinited
  have hprogress := progressing_of_reachable h halive
  exact hprogress.awaiting honce hconnected hinited

/-- After the initial invalidation a second one is under way; only the reply to `EXEC` is
    awaited. -/
theorem unstuck_of_careful_lone_exec :
    ∃ s, system.ReachableUnder Careful s ∧
      (s.conn.connected = true ∧ s.initedOnce = true ∧ s.conn.resources_inited = false ∧
        s.conn.outstanding = [⟨.EXEC, .inv, none⟩]) ∧ s.Unstuck := by
  obtain ⟨s, hs, hstate⟩ := System.exists_reachableUnder_of_any system Careful
    (fun s => decide (s.conn.connected = true ∧ s.initedOnce = true ∧
      s.conn.resources_inited = false ∧ s.conn.outstanding = [⟨.EXEC, .inv, none⟩]))
    (started ⟨fun _ => 0, []⟩)
    [.connect, .reply (.refused ⟨.SuccessReply, .undef⟩), .invalidate, .reply .executed,
      .reply .executed]
    ⟨_, rfl⟩ (by decide)
  exact ⟨s, hs, of_decide_eq_true hstate, unstuck_of_careful hs⟩

/-- The second `KEYS` is answered with an error. -/
theorem not_unstuck_keys_refused : ¬ ∀ s, system.Reachable s → s.Unstuck := by
  intro hall
  obtain ⟨s, hs, hstate⟩ := System.exists_reachableUnder_of_any system (fun _ _ => True)
    (fun s => decide (s.conn.crashed = false ∧ s.conn.connected = true ∧ s.initedOnce = true ∧
      s.conn.resources_inited = false ∧ s.conn.outstanding = []))
    (started ⟨fun _ => 0, []⟩)
    [.connect, .reply (.refused ⟨.SuccessReply, .undef⟩), .invalidate,
      .reply (.refused ⟨.ErrorReply, .other⟩)]
    ⟨_, rfl⟩ (by decide)
  obtain ⟨halive, hconnected, honce, hinited, hnil⟩ := of_decide_eq_true hstate
  exact hall s hs halive hconnected honce hinited hnil

/-- The condition is exact: a step that does not meet it makes the connection stuck. -/
theorem stuck_of_not_careful {l : Label} (hcareful : ¬ s.Careful l) (hnext : s.next l = some s')
    (halive : s'.conn.crashed = false) : ¬ s'.Unstuck := by
  cases l with
  | reply a =>
    unfold Careful at hcareful
    push Not at hcareful
    obtain ⟨o, -, hlone, haccepts⟩ := hcareful
    have hs' : s' = s.deliver o [] a := by
      cases step_of_next hnext with
      | reply a o' rest out =>
        rw [hlone.only] at out
        obtain ⟨rfl, rfl⟩ := List.cons.inj out
        rfl
    obtain ⟨multi, hconn⟩ := s.answerNext_conn o a
    have harrived : (s.answerNext o a).1.arrived [] =
        { s.conn with multi := multi, outstanding := [] } := by
      simp [arrived, hconn, hlone.steady]
    have hdelivered := s.deliver_conn o [] a
    rw [harrived, hlone.owner, ← hs'] at hdelivered
    -- only the sequence has changed
    obtain ⟨q, hstays⟩ := processInvReply_of_not_accepts
      (c := { s.conn with multi := multi, outstanding := [] }) (by simpa using haccepts)
      (hdelivered ▸ halive)
    have heq := hdelivered.trans hstays
    intro hunstuck
    refine hunstuck halive ?_ ?_ ?_ ?_
    · rw [heq]
      exact hlone.connected
    · rw [hs']
      show (s.initedOnce || _) = true
      rw [hlone.initedOnce, Bool.true_or]
    · rw [heq]
      exact hlone.notInited
    · rw [heq]
  | _ => exact absurd trivial hcareful

end Control

end Yeti.Resources
