import Yeti.Resources.Steps

/-! # The connection that the error path closes

    When an operation has finished with an error, `process_reply_event` closes the
    context that the write connection has at this moment.  It should be the one on
    which the operation was started; `born` records it.  That is so as long as the
    connection is never lost while an operation is in flight.
-/

open LTS

namespace Yeti.Resources

open Connection

/-! ### Runs -/

/-- The resource control, with the contexts on which the operations were started. -/
structure Traced where
  control : Control
  born : Nat → Option Nat := fun _ => none

namespace Traced

/-- The contexts after a step that leads from `next_uid = n` to `c`. -/
def trace (n : Nat) (c : Connection) (born : Nat → Option Nat) : Nat → Option Nat :=
  fun uid => if n ≤ uid ∧ uid < c.next_uid then c.async_context else born uid

def next (t : Traced) (l : Control.Label) : Option Traced :=
  (t.control.next l).map fun s =>
    { control := s, born := trace t.control.conn.next_uid s.conn t.born }

def system : System Traced Control.Label where
  init t := ∃ redis, t = { control := Control.started redis }
  next := next

/-! ### What is claimed -/

/-- The reply finishes the operation `uid` with an error. -/
def ErrorBranch (c : Connection) (owner : Owner) (reply : Reply) (uid : Nat) : Prop :=
  owner = .op uid ∧ ∃ op, c.ops uid = some op ∧
    (op.processRedisReply reply).1.state = .FINISH ∧
    (op.processRedisReply reply).1.iserror = true

/-- In this branch the context of the connection is closed. -/
theorem process_reply_event_errorBranch {c : Connection} {owner : Owner} {reply : Reply} {uid : Nat}
    (h : ErrorBranch c owner reply uid) :
    ∃ c' : Connection, c'.async_context = c.async_context ∧
      (c.process_reply_event owner reply).1 =
        { c'.redisAsyncDisconnect with
          resources_inited := false
          inv_seq := c.inv_seq.cleanup } := by
  obtain ⟨rfl, op, hop, hfinish, herror⟩ := h
  refine ⟨{ c with
    ops := Function.update c.ops uid none
    write_async_is_busy := false }, rfl, ?_⟩
  show c.processOpReply uid reply = _
  have hpair : op.processRedisReply reply =
      ((op.processRedisReply reply).1, (op.processRedisReply reply).2) := rfl
  rw [processOpReply_finish hop hpair hfinish, herror]
  unfold finishOp
  simp

/-- Whatever the next reply is: if the error branch is taken, the connection is up and its
    context is the one on which the operation was started. -/
def Sound (t : Traced) : Prop :=
  t.control.conn.crashed = false →
    ∀ (o : Outstanding) (rest : List Outstanding) (a : Control.Answer) (uid : Nat),
      t.control.conn.outstanding = o :: rest →
      ErrorBranch ((t.control.answerNext o a).1.arrived rest) o.owner
        (t.control.answerNext o a).2.2 uid →
      ((t.control.answerNext o a).1.arrived rest).connected = true ∧
        ∃ n, ((t.control.answerNext o a).1.arrived rest).async_context = some n ∧
          t.born uid = some n

/-- The condition on the steps: the connection is not lost while an operation is in flight. -/
def Steady (t : Traced) : Control.Label → Prop
  | .disconnect _ => t.control.conn.write_async_is_busy = false
  | _ => True

instance (t : Traced) : (l : Control.Label) → Decidable (t.Steady l)
  | .disconnect _ => inferInstanceAs (Decidable (_ = _))
  | .get _ _ _ => .isTrue trivial
  | .put _ => .isTrue trivial
  | .invalidate => .isTrue trivial
  | .invalidateReturn => .isTrue trivial
  | .reconnect => .isTrue trivial
  | .connectFailed => .isTrue trivial
  | .connect => .isTrue trivial
  | .reply _ => .isTrue trivial

/-! ### The invariant -/

/-- The operation `uid` is the last one that was started, on the connection that is up. -/
structure Alive (c : Connection) (born : Nat → Option Nat) (uid : Nat) : Prop where
  busy : c.write_async_is_busy = true
  last : c.next_uid = uid + 1
  connected : c.connected = true
  steady : c.disconnecting = false
  context : c.async_context = born uid

/-- The invariant of the connection. -/
structure Owned (c : Connection) (born : Nat → Option Nat) : Prop where
  alive : ∀ uid, c.ops uid ≠ none → Alive c born uid
  /-- While hiredis waits for pending replies, the invalidation is not started again. -/
  leaving : c.disconnecting = true →
    c.connected = true ∧ c.resources_inited = false ∧ c.inv_seq.state = .INITIAL
  context : c.connected = true → c.async_context ≠ none

variable {c c' : Connection} {born : Nat → Option Nat}

/-- No operation is in flight. -/
def NoOps (c : Connection) : Prop := ∀ uid, c.ops uid = none

theorem Owned.noOps (h : Owned c born) (hbusy : c.write_async_is_busy = false) : NoOps c := by
  intro uid
  by_contra hlive
  have halive := (h.alive uid hlive).busy
  rw [hbusy] at halive
  cases halive

theorem Owned.noOps_of_disconnected (h : Owned c born) (hc : c.connected = false) : NoOps c := by
  intro uid
  by_contra hlive
  have halive := (h.alive uid hlive).connected
  rw [hc] at halive
  cases halive

theorem Owned.noOps_of_leaving (h : Owned c born) (hd : c.disconnecting = true) : NoOps c := by
  intro uid
  by_contra hlive
  have halive := (h.alive uid hlive).steady
  rw [hd] at halive
  cases halive

theorem Owned.steady_of_inited (h : Owned c born) (hi : c.resources_inited = true) :
    c.disconnecting = false := by
  by_contra hd
  have hleaving := (h.leaving (by simpa using hd)).2.1
  rw [hi] at hleaving
  cases hleaving

variable (born) in
/-- A step that starts no operation. -/
theorem trace_same {n : Nat} (h : c'.next_uid = n) : trace n c' born = born := by
  funext uid
  unfold trace
  rw [if_neg]
  omega

/-- A step that leaves the operations and the context alone. -/
theorem Owned.of_same (h : Owned c born) (hops : c'.ops = c.ops)
    (hbusy : c'.write_async_is_busy = c.write_async_is_busy) (huid : c'.next_uid = c.next_uid)
    (hconnected : c'.connected = c.connected) (hsteady : c'.disconnecting = c.disconnecting)
    (hcontext : c'.async_context = c.async_context)
    (hleaving : c.disconnecting = true → c'.resources_inited = false ∧ c'.inv_seq.state = .INITIAL) :
    Owned c' born where
  alive uid hlive := by
    have halive := h.alive uid (hops ▸ hlive)
    exact ⟨hbusy.trans halive.busy, huid.trans halive.last, hconnected.trans halive.connected,
      hsteady.trans halive.steady, hcontext.trans halive.context⟩
  leaving hd := by
    have hd' := hsteady ▸ hd
    exact ⟨hconnected.trans (h.leaving hd').1, hleaving hd'⟩
  context hc := hcontext ▸ h.context (hconnected ▸ hc)

/-- Without operations in flight, only the connection itself matters. -/
theorem Owned.of_noOps (hops : NoOps c) (hleaving : c.disconnecting = true →
      c.connected = true ∧ c.resources_inited = false ∧ c.inv_seq.state = .INITIAL)
    (hcontext : c.connected = true → c.async_context ≠ none) : Owned c born where
  alive uid hlive := absurd (hops uid) hlive
  leaving := hleaving
  context := hcontext

/-- The connection is not being closed. -/
theorem Owned.of_steady (hops : NoOps c) (hsteady : c.disconnecting = false)
    (hcontext : c.connected = true → c.async_context ≠ none) : Owned c born := by
  refine Owned.of_noOps hops ?_ hcontext
  intro hd
  rw [hsteady] at hd
  cases hd

/-! ### Functions of the connection -/

/-- Starting operations: a new one is started only when none is in flight. -/
theorem owned_started (h : Owned c born) (hstart : Started c c') (halive : c'.crashed = false) :
    Owned c' (trace c.next_uid c' born) := by
  cases hstart with
  | queued queue =>
    rw [trace_same born]
    · exact h.of_same rfl rfl rfl rfl rfl rfl fun hd => (h.leaving hd).2
    · rfl
  | crashed hcrashed =>
    rw [halive] at hcrashed
    cases hcrashed
  | started ol queue effective connected inited free steady =>
    have hnone := h.noOps free
    refine ⟨?_, ?_, h.context⟩
    · intro uid hlive
      have huid : uid = c.next_uid := by
        by_contra hne
        apply hlive
        show Function.update c.ops c.next_uid _ uid = none
        rw [Function.update_of_ne hne]
        exact hnone uid
      refine ⟨rfl, by rw [huid]; rfl, connected, steady, ?_⟩
      show c.async_context = trace c.next_uid (c.startOp ol queue) born uid
      unfold trace
      rw [if_pos]
      · rfl
      · show c.next_uid ≤ uid ∧ uid < c.next_uid + 1
        omega
    · intro hd
      rw [show (c.startOp ol queue).disconnecting = c.disconnecting from rfl, steady] at hd
      cases hd

/-- Starting the invalidation when no operation is in flight. -/
theorem owned_performInv (hops : NoOps c) (hs : c.inv_seq.state = .INITIAL)
    (hconnected : c.connected = true) (hcontext : c.async_context ≠ none)
    (halive : c.performInv.crashed = false) : Owned c.performInv born := by
  obtain ⟨hsteady, heq⟩ := performInv_of_alive hs halive
  rw [heq]
  exact Owned.of_steady hops (hsteady hconnected) fun _ => hcontext

/-- The context is dropped when no operation is in flight. -/
theorem owned_dropContext (hops : NoOps c) : Owned c.dropContext born := by
  rw [dropContext_eq]
  exact Owned.of_noOps hops nofun nofun

theorem owned_invalidate_resources (h : Owned c born) :
    Owned c.invalidate_resources (trace c.next_uid c.invalidate_resources born) := by
  have hdeferred : Owned { c with resources_inited := false } born :=
    h.of_same rfl rfl rfl rfl rfl rfl fun hd => ⟨rfl, (h.leaving hd).2.2⟩
  by_cases hready : c.connected = true ∧ c.resources_inited = true ∧ c.write_async_is_busy = false
  · -- the sequence starts at once
    have hsteady := h.steady_of_inited hready.2.1
    rw [invalidate_resources_started hready.1 hsteady hready.2.1 hready.2.2, trace_same born]
    · exact Owned.of_steady (h.noOps hready.2.2) hsteady h.context
    · rfl
  · rw [invalidate_resources_deferred, trace_same born]
    · exact hdeferred
    · rfl
    · by_contra hnot
      simp only [not_or, Bool.not_eq_false, Bool.not_eq_true] at hnot
      exact hready hnot

theorem owned_on_connect (h : Owned c born) (hdisconnected : c.connected = false)
    (hcontext : c.async_context ≠ none)
    (halive : { c with connected := true }.on_connect.crashed = false) :
    Owned { c with connected := true }.on_connect
      (trace c.next_uid { c with connected := true }.on_connect born) := by
  have hnone := h.noOps_of_disconnected hdisconnected
  have hsteady : c.disconnecting = false := by
    by_contra hd
    have hc := (h.leaving (by simpa using hd)).1
    rw [hdisconnected] at hc
    cases hc
  have hup : Owned { c with connected := true } born :=
    Owned.of_steady hnone hsteady fun _ => hcontext
  unfold on_connect at halive ⊢
  split_ifs at halive ⊢ with hi hs
  · exact owned_performInv hnone rfl rfl hcontext halive
  · exact owned_performInv hnone (not_not.mp hs) rfl hcontext halive
  · have hstarted := owned_started hup (started_process_operations_queue _) halive
    exact hstarted

/-! ### Replies -/

theorem owned_arrived (h : Owned c born) (rest : List Outstanding) : Owned (c.arrived rest) born := by
  unfold arrived
  split_ifs with hlast
  · rw [Bool.and_eq_true] at hlast
    exact owned_dropContext (h.noOps_of_leaving hlast.1)
  · exact h.of_same rfl rfl rfl rfl rfl rfl fun hd => (h.leaving hd).2

/-- While hiredis waits for pending replies, the sequence stays in its initial state. -/
theorem initial_of_leaving (h : Owned c born) (hd : c.disconnecting = true) {reply : Reply}
    {q : InvalidateResources} {cmds : List Command}
    (hreply : c.inv_seq.processRedisReply reply = some (q, cmds)) : q.state = .INITIAL := by
  have hs := (h.leaving hd).2.2
  unfold InvalidateResources.processRedisReply at hreply
  rw [hs] at hreply
  cases hreply
  exact hs

/-- A reply to the invalidation. -/
theorem owned_processInvReply (h : Owned c born) (reply : Reply)
    (halive : (c.processInvReply reply).1.crashed = false) :
    Owned (c.processInvReply reply).1 (trace c.next_uid (c.processInvReply reply).1 born) := by
  obtain ⟨q, cmds, hreply, ⟨hfinish, hstart⟩ | ⟨-, heq⟩⟩ := processInvReply_of_alive halive
  · -- the sequence was under way, so the connection is not being closed
    have hsteady : c.disconnecting = false := by
      by_contra hd
      have hinitial := initial_of_leaving h (by simpa using hd) hreply
      rw [hinitial] at hfinish
      cases hfinish
    have hdone : Owned { c with
        resources_inited := true
        inv_seq := { q with initial := false } } born := by
      refine h.of_same rfl rfl rfl rfl rfl rfl ?_
      intro hd
      rw [hd] at hsteady
      cases hsteady
    have howned := owned_started hdone hstart halive
    exact howned
  · rw [heq, trace_same born]
    · refine h.of_same rfl rfl rfl rfl rfl rfl ?_
      intro hd
      exact ⟨(h.leaving hd).2.1, initial_of_leaving h hd hreply⟩
    · rfl

/-- The last operation in flight has finished. -/
theorem owned_finishOp (hops : NoOps c) (hconnected : c.connected = true)
    (hsteady : c.disconnecting = false) (hcontext : c.async_context ≠ none) (iserror : Bool)
    (halive : (c.finishOp iserror).crashed = false) :
    Owned (c.finishOp iserror) (trace c.next_uid (c.finishOp iserror) born) := by
  have hfinished := finishOp_of_alive halive
  generalize c.finishOp iserror = c' at hfinished halive ⊢
  cases hfinished with
  | leaving pending => exact Owned.of_noOps hops (fun _ => ⟨hconnected, rfl, rfl⟩) fun _ => hcontext
  | dropped =>
    rw [dropContext_eq]
    exact Owned.of_noOps hops nofun nofun
  | invalidated steady => exact Owned.of_steady hops hsteady fun _ => hcontext
  | next inited start =>
    have hdone : Owned { c with write_async_is_busy := false } born :=
      Owned.of_steady hops hsteady fun _ => hcontext
    have howned := owned_started hdone start halive
    exact howned

/-- A reply to an operation. -/
theorem owned_processOpReply (h : Owned c born) (uid : Nat) (reply : Reply)
    (halive : (c.processOpReply uid reply).crashed = false) :
    Owned (c.processOpReply uid reply) (trace c.next_uid (c.processOpReply uid reply) born) := by
  rcases processOpReply_cases c uid reply with ⟨-, heq⟩ | ⟨op, hop, ⟨-, heq⟩ | ⟨-, heq⟩⟩
  · rw [heq, trace_same born rfl]
    exact h
  · have huid := h.alive uid (by simp [hop])
    -- no other operation is in flight
    have hnone : NoOps { c with ops := Function.update c.ops uid none } := by
      intro uid'
      show Function.update c.ops uid none uid' = none
      by_cases hne : uid' = uid
      · rw [hne, Function.update_self]
      · rw [Function.update_of_ne hne]
        by_contra hlive
        have hlast := (h.alive uid' hlive).last
        have hlast' := huid.last
        omega
    rw [heq] at halive ⊢
    exact owned_finishOp hnone huid.connected huid.steady (h.context huid.connected) _ halive
  · have huid := h.alive uid (by simp [hop])
    rw [heq] at halive ⊢
    rw [(post_of_alive halive).2, trace_same born]
    · refine ⟨?_, h.leaving, h.context⟩
      intro uid' hlive
      have hlive' : c.ops uid' ≠ none := by
        by_cases hne : uid' = uid
        · rw [hne, hop]
          exact Option.some_ne_none op
        · have hsame : Function.update c.ops uid (some (op.processRedisReply reply).1) uid' =
              c.ops uid' := Function.update_of_ne hne _ _
          rw [← hsame]
          exact hlive
      have huid' := h.alive uid' hlive'
      exact ⟨huid'.busy, huid'.last, huid'.connected, huid'.steady, huid'.context⟩
    · rfl

/-- A reply, to whichever sequence. -/
theorem owned_process_reply_event (h : Owned c born) (owner : Owner) (reply : Reply)
    (halive : (c.process_reply_event owner reply).1.crashed = false) :
    Owned (c.process_reply_event owner reply).1
      (trace c.next_uid (c.process_reply_event owner reply).1 born) := by
  cases owner with
  | inv => exact owned_processInvReply h reply halive
  | op uid => exact owned_processOpReply h uid reply halive

/-! ### The invariant over runs -/

theorem owned_initial (redis : Redis) : Owned (Control.started redis).conn born := by
  refine Owned.of_noOps (fun _ => rfl) ?_ ?_
  · intro hd
    cases hd
  · intro hc
    cases hc

theorem arrived_next_uid (c : Connection) (rest : List Outstanding) :
    (c.arrived rest).next_uid = c.next_uid := by
  unfold arrived
  split_ifs
  · rw [dropContext_eq]
  · rfl

/-- The answer of Redis to the next command. -/
theorem owned_answerNext {s : Control} (h : Owned s.conn born) (o : Outstanding)
    (rest : List Outstanding) (a : Control.Answer) :
    Owned ((s.answerNext o a).1.arrived rest) born := by
  obtain ⟨multi, heq⟩ := s.answerNext_conn o a
  rw [heq]
  apply owned_arrived
  exact h.of_same rfl rfl rfl rfl rfl rfl fun hd => (h.leaving hd).2

theorem owned_preserved {t t' : Traced} {l : Control.Label} (h : Owned t.control.conn t.born)
    (hsteady : t.Steady l) (hnext : t.next l = some t') (halive : t'.control.conn.crashed = false) :
    Owned t'.control.conn t'.born := by
  obtain ⟨s', hs', rfl⟩ := Option.map_eq_some_iff.mp hnext
  have hconn := Control.connStep_of_next hs'
  dsimp only at halive ⊢
  generalize s'.conn = c' at hconn halive ⊢
  cases hconn with
  | same =>
    rw [trace_same t.born rfl]
    exact h
  | operations l rol => exact owned_started h (started_process_operations_list _ rol) halive
  | invalidate => exact owned_invalidate_resources h
  | reconnect disconnected free =>
    have hnone := h.noOps_of_disconnected disconnected
    rw [trace_same t.born]
    · exact Owned.of_noOps hnone h.leaving fun _ => Option.some_ne_none _
    · rfl
  | connectFailed disconnected =>
    have hnone := h.noOps_of_disconnected disconnected
    exact owned_dropContext hnone
  | connect disconnected context => exact owned_on_connect h disconnected context halive
  | disconnect n connected =>
    -- no operation is in flight: this is the condition on the step
    have hnone := h.noOps hsteady
    exact owned_dropContext hnone
  | reply a o rest out =>
    have harrived := owned_answerNext h o rest a
    have huid : ((t.control.answerNext o a).1.arrived rest).next_uid = t.control.conn.next_uid := by
      obtain ⟨multi, heq⟩ := t.control.answerNext_conn o a
      rw [arrived_next_uid, heq]
    rw [← huid]
    exact owned_process_reply_event harrived o.owner _ halive

theorem owned_of_reachable {t : Traced} (h : system.ReachableUnder Steady t) :
    t.control.conn.crashed = false → Owned t.control.conn t.born := by
  refine System.invariant_under
    (fun t => t.control.conn.crashed = false → Owned t.control.conn t.born) ?_ ?_ h
  · rintro t ⟨redis, rfl⟩ -
    exact owned_initial redis
  · intro t l t' ih hsteady hnext halive
    have hbefore : t.control.conn.crashed = false := by
      obtain ⟨s', hs', -⟩ := Option.map_eq_some_iff.mp hnext
      exact Control.alive_of_next hs'
    exact owned_preserved (ih hbefore) hsteady hnext halive

/-! ### Main result -/

theorem Owned.sound {t : Traced} (h : Owned t.control.conn t.born) : t.Sound := by
  intro _ o rest a uid _ hbranch
  have harrived := owned_answerNext h o rest a
  obtain ⟨-, op, hop, -⟩ := hbranch
  have halive := harrived.alive uid (by simp [hop])
  refine ⟨halive.connected, ?_⟩
  have hcontext := harrived.context halive.connected
  obtain ⟨n, hn⟩ := Option.ne_none_iff_exists'.mp hcontext
  exact ⟨n, hn, by rw [← halive.context, hn]⟩

/-- As long as the connection is never lost while an operation is in flight, the error path
    closes the connection on which the failed operation was started. -/
theorem sound_of_steady {t : Traced} (h : system.ReachableUnder Steady t) : t.Sound := by
  intro halive
  have howned := owned_of_reachable h halive
  exact howned.sound halive

/-- The last reply of the operation is awaited, and the operation has failed. -/
def failing (t : Traced) (uid : Nat) (fate : Option ResultType) : Bool :=
  decide (t.control.conn.outstanding = [⟨.EXEC, .op uid, fate⟩]) &&
    (t.control.conn.ops uid).any fun op =>
      decide (op.state = .OP_RES ∧ op.commands_count = 1 ∧ op.iserror = true)

/-- `HINCRBY` is answered with an error on a connection that stays. -/
theorem sound_of_steady_refused :
    ∃ t, system.ReachableUnder Steady t ∧ t.failing 0 none = true ∧ t.Sound := by
  obtain ⟨t, ht, hfailing⟩ := System.exists_reachableUnder_of_any system Steady
    (fun t => t.failing 0 none)
    { control := Control.started ⟨fun _ => 0, []⟩ }
    [.connect, .reply (.refused ⟨.SuccessReply, .undef⟩),
      .get 1 [{ id := 7, type := 1, takes := 2, limit := 10 }] (some [0]),
      .reply .executed, .reply (.refused ⟨.ErrorReply, .other⟩)]
    ⟨_, rfl⟩ (by decide)
  exact ⟨t, ht, hfailing, sound_of_steady ht⟩

/-- An operation that ends without a connection is not closed soundly. -/
theorem not_sound_of_failing {t : Traced} {uid : Nat} {fate : ResultType}
    (hfailing : t.failing uid (some fate) = true) (halive : t.control.conn.crashed = false)
    (hdisconnected : t.control.conn.connected = false)
    (hsteady : t.control.conn.disconnecting = false) : ¬ t.Sound := by
  unfold failing at hfailing
  rw [Bool.and_eq_true, decide_eq_true_eq, Option.any_eq_true] at hfailing
  obtain ⟨hout, op, hop, hdue⟩ := hfailing
  obtain ⟨hs, hcount, herror⟩ := of_decide_eq_true hdue
  intro hsound
  have harrived : (t.control.answerNext ⟨.EXEC, .op uid, some fate⟩ .executed).1.arrived [] =
      { t.control.conn with outstanding := [] } := by
    simp [Control.answerNext, arrived, hsteady]
  have hbranch : ErrorBranch { t.control.conn with outstanding := [] } (.op uid)
      ⟨fate, .undef⟩ uid := by
    refine ⟨rfl, op, hop, ?_⟩
    unfold OperationResources.processRedisReply
    rw [hs]
    by_cases hfate : fate = .SuccessReply
    · simp [hcount, hfate, herror]
    · simp [hcount, hfate, OperationResources.on_error]
  have hup := (hsound halive _ [] .executed uid hout (harrived ▸ hbranch)).1
  rw [harrived] at hup
  rw [show t.control.conn.connected = true from hup] at hdisconnected
  cases hdisconnected

/-- The connection is lost behind `MULTI`; the rest of the block fails without a connection,
    and a null context is to be closed. -/
theorem not_sound_lost_block : ¬ ∀ t, system.Reachable t → t.Sound := by
  intro hall
  obtain ⟨t, ht, hstate⟩ := System.exists_reachableUnder_of_any system (fun _ _ => True)
    (fun t => t.failing 0 (some .NotConnected) && !t.control.conn.crashed &&
      !t.control.conn.connected && !t.control.conn.disconnecting)
    { control := Control.started ⟨fun _ => 0, []⟩ }
    [.connect, .reply (.refused ⟨.SuccessReply, .undef⟩),
      .get 1 [{ id := 7, type := 1, takes := 2, limit := 10 }] (some [0]),
      .disconnect 0, .reply .executed, .reply .executed]
    ⟨_, rfl⟩ (by decide)
  simp only [Bool.and_eq_true, Bool.not_eq_true'] at hstate
  exact not_sound_of_failing hstate.1.1.1 hstate.1.1.2 hstate.1.2 hstate.2 (hall t ht)

end Traced

end Yeti.Resources
