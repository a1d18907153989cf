import Yeti.Framework.Lists
import Yeti.Redis.Pool

/-! # Every request gets its answer

    A request is answered once: at once when the command is not sent, else when
    hiredis calls the callback.  The reply brings back the object of the request,
    unless hiredis has refused the command: by then the object is owned by the
    context, which is deleted.
-/

open LTS

namespace Yeti.Redis

open Yeti.Resources (ResultType)

variable {Data : Type}

/-! ### What is claimed of a request -/

/-- hiredis has refused the command. -/
def Request.refused (r : Request) : Prop := r.connected = true ∧ r.accepted = false

/-- A request that wants one reply. -/
structure Request.Plain (r : Request) : Prop where
  src_id : r.event.src_id ≠ ""
  persistent_ctx : r.event.persistent_ctx = false

namespace World

/-- The replies to a request. -/
def replies (w : World Data) (request : Nat) : List (String × RedisReplyEvent Data) :=
  w.pool.posted.filter (·.2.request = request)

/-- The contexts of a request that hiredis has. -/
def awaiting (w : World Data) (request : Nat) : List RedisReplyCtx :=
  w.pool.pending.filter (·.request = request)

/-- The request has exactly one reply, which was posted to its `src_id` and brings back
    its object, still alive. -/
def Answered (w : World Data) (request : Nat) (r : Request) : Prop :=
  ∃ reply, w.replies request = [(r.event.src_id, reply)] ∧
    reply.user_type_id = r.event.user_type_id ∧ reply.user_data = r.event.user_data ∧
    ∀ o ∈ r.event.user_data, o ∉ w.pool.destroyed

end World

/-! ### One request -/

section Processing

variable (p : Pool Data) (n : Nat) (event : RedisRequestEvent) (accepted : Bool)

/-- The context of an accepted command. -/
def ctxOf (n : Nat) (event : RedisRequestEvent) : RedisReplyCtx :=
  ⟨n, event.c, event.persistent_ctx, event.src_id,
    if event.persistent_ctx then none else event.user_data, event.user_type_id⟩

theorem pending_process_request_event :
    (p.process_request_event n event accepted).pending = p.pending ++
      if p.is_connected event.c ∧ event.src_id ≠ "" ∧ accepted then [ctxOf n event] else [] := by
  unfold Pool.process_request_event ctxOf
  by_cases hconn : p.is_connected event.c <;> by_cases hsrc : event.src_id = "" <;>
    cases accepted <;> cases hpersistent : event.persistent_ctx <;>
    simp [hconn, hsrc, hpersistent, Pool.destroy, Pool.postEvent, RedisReplyCtx.ofRequest]

theorem posted_process_request_event :
    (p.process_request_event n event accepted).posted = p.posted ++
      if event.src_id = "" then []
      else if p.is_connected event.c = false then
        [(event.src_id, ⟨n, .NotConnected, none, event.user_data, event.user_type_id⟩)]
      else if accepted then []
      else [(event.src_id, ⟨n, .FailedToSend, none, none, event.user_type_id⟩)] := by
  unfold Pool.process_request_event
  by_cases hconn : p.is_connected event.c <;> by_cases hsrc : event.src_id = "" <;>
    cases accepted <;> cases hpersistent : event.persistent_ctx <;>
    simp [hconn, hsrc, hpersistent, Pool.destroy, Pool.postEvent, RedisReplyCtx.ofRequest,
      RedisReplyEvent.ofRequest]

/-- A context that waits was there before, or is that of the request. -/
theorem request_of_mem_pending {ctx : RedisReplyCtx}
    (hctx : ctx ∈ (p.process_request_event n event accepted).pending) :
    ctx ∈ p.pending ∨ ctx.request = n := by
  rw [pending_process_request_event] at hctx
  rcases List.mem_append.mp hctx with hctx | hctx
  · exact .inl hctx
  · split_ifs at hctx
    · rw [List.mem_singleton.mp hctx]
      exact .inr rfl
    · cases hctx

/-- A reply was posted before, or answers the request. -/
theorem request_of_mem_posted {reply : String × RedisReplyEvent Data}
    (hreply : reply ∈ (p.process_request_event n event accepted).posted) :
    reply ∈ p.posted ∨ reply.2.request = n := by
  rw [posted_process_request_event] at hreply
  rcases List.mem_append.mp hreply with hreply | hreply
  · exact .inl hreply
  · split_ifs at hreply
    · cases hreply
    · rw [List.mem_singleton.mp hreply]
      exact .inr rfl
    · cases hreply
    · rw [List.mem_singleton.mp hreply]
      exact .inr rfl

/-- The object of a request is destroyed if no reply is wanted, for a persistent context
    and when the command is refused. -/
theorem destroyed_process_request_event {o : Nat}
    (ho : o ∈ (p.process_request_event n event accepted).destroyed) :
    o ∈ p.destroyed ∨ event.user_data = some o ∧ (event.src_id = "" ∨
      event.persistent_ctx = true ∨ p.is_connected event.c = true ∧ accepted = false) := by
  unfold Pool.process_request_event at ho
  by_cases hconn : p.is_connected event.c <;> by_cases hsrc : event.src_id = "" <;>
    cases accepted <;> cases hpersistent : event.persistent_ctx <;>
    simp [hconn, hsrc, hpersistent, Pool.destroy, Pool.postEvent, RedisReplyCtx.ofRequest,
      RedisReplyEvent.ofRequest] at ho ⊢ <;> first | exact ho | exact .inl ho

end Processing

/-! ### Callbacks -/

section Callbacks

variable (p : Pool Data) (reply : Option (HiredisReply Data)) (ctx : RedisReplyCtx)

theorem redis_request_cb_static_eq :
    p.redis_request_cb_static reply ctx =
      p.postEvent ctx.src_id (RedisReplyEvent.ofReply reply ctx).1 := by
  unfold Pool.redis_request_cb_static Pool.destroy
  cases hpersistent : ctx.persistent_ctx <;> simp [RedisReplyEvent.ofReply, hpersistent]

end Callbacks

/-! ### The invariant -/

/-- How far a request that wants one reply has come. -/
inductive Progress (w : World Data) (n : Nat) (r : Request) : Prop
  | waiting (hsent : ¬ r.refused) (hawaiting : w.awaiting n = [ctxOf n r.event])
      (hreplies : w.replies n = [])
  | answered (reply : RedisReplyEvent Data) (hawaiting : w.awaiting n = [])
      (hreplies : w.replies n = [(r.event.src_id, reply)])
      (htype : reply.user_type_id = r.event.user_type_id)
      (hrefused : r.refused → reply.user_data = none)
      (hdata : ¬ r.refused → reply.user_data = r.event.user_data)

/-- The invariant of the pool. -/
structure Inv (w : World Data) : Prop where
  progress : ∀ (n : Nat) (r : Request), w.requests[n]? = some r → r.Plain → Progress w n r
  pending : ∀ ctx ∈ w.pool.pending, ctx.request < w.requests.length
  posted : ∀ reply ∈ w.pool.posted, reply.2.request < w.requests.length
  /-- Only objects of requests that do not get them back are destroyed. -/
  destroyed : ∀ o ∈ w.pool.destroyed, ∃ (n : Nat) (r : Request), w.requests[n]? = some r ∧
    r.event.user_data = some o ∧ ¬ (r.Plain ∧ ¬ r.refused)
  /-- An object belongs to one request. -/
  distinct : ∀ (n n' : Nat) (r r' : Request) (o : Nat),
    w.requests[n]? = some r → w.requests[n']? = some r' →
    r.event.user_data = some o → r'.event.user_data = some o → n = n'

theorem inv_init : Inv ({} : World Data) where
  progress := by simp
  pending := by simp
  posted := by simp
  destroyed := by simp
  distinct := by simp

/-- An answered request has its answer exactly if it was not refused with an object. -/
theorem Inv.answered_iff {w : World Data} (h : Inv w) {n : Nat} {r : Request}
    (hr : w.requests[n]? = some r) (hplain : r.Plain) (hdone : w.awaiting n = []) :
    w.Answered n r ↔ ¬ (r.refused ∧ r.event.user_data ≠ none) := by
  cases h.progress n r hr hplain with
  | waiting hsent hawaiting hreplies =>
    rw [hdone] at hawaiting
    cases hawaiting
  | answered reply hawaiting hreplies htype hrefused hdata =>
    constructor
    · rintro ⟨reply', hreplies', -, hdata', -⟩ ⟨href, hsome⟩
      rw [hreplies] at hreplies'
      obtain rfl : reply = reply' := by simpa using hreplies'
      exact hsome (hdata'.symm.trans (hrefused href))
    · intro hgood
      by_cases href : r.refused
      · have hnone : r.event.user_data = none := by
          by_contra hsome
          exact hgood ⟨href, hsome⟩
        refine ⟨reply, hreplies, htype, ?_, ?_⟩
        · rw [hrefused href, hnone]
        · rw [hnone]
          intro o ho
          cases ho
      · refine ⟨reply, hreplies, htype, hdata href, ?_⟩
        intro o ho hdestroyed
        obtain ⟨n', r', hr', ho', hbad⟩ := h.destroyed o hdestroyed
        have hn : n = n' := h.distinct n n' r r' o hr hr' ho ho'
        rw [← hn, hr] at hr'
        obtain rfl : r = r' := Option.some.inj hr'
        exact hbad ⟨hplain, href⟩

/-! ### Steps -/

section Steps

variable {w w' : World Data} {n : Nat} {r : Request}

/-- Steps that concern other requests. -/
theorem Progress.of_eq (h : Progress w n r) (hawaiting : w'.awaiting n = w.awaiting n)
    (hreplies : w'.replies n = w.replies n) : Progress w' n r := by
  cases h with
  | waiting hsent hctx hnone => exact .waiting hsent (hawaiting.trans hctx) (hreplies.trans hnone)
  | answered reply hnone hone htype hrefused hdata =>
    exact .answered reply (hawaiting.trans hnone) (hreplies.trans hone) htype hrefused hdata

/-- What the new request adds. -/
theorem progress_request (h : Inv w) (event : RedisRequestEvent) (accepted : Bool)
    (hplain : Request.Plain ⟨event, w.pool.is_connected event.c, accepted⟩) :
    Progress { pool := w.pool.process_request_event w.requests.length event accepted
               requests := w.requests ++ [⟨event, w.pool.is_connected event.c, accepted⟩] }
      w.requests.length ⟨event, w.pool.is_connected event.c, accepted⟩ := by
  have hpending : w.pool.pending.filter (·.request = w.requests.length) = [] := by
    apply List.filter_eq_nil_iff.mpr
    intro ctx hctx
    have hlt := h.pending ctx hctx
    simp only [decide_eq_true_eq]
    omega
  have hposted : w.pool.posted.filter (·.2.request = w.requests.length) = [] := by
    apply List.filter_eq_nil_iff.mpr
    intro reply hreply
    have hlt := h.posted reply hreply
    simp only [decide_eq_true_eq]
    omega
  have hsrc : event.src_id ≠ "" := hplain.src_id
  have hawaiting' := pending_process_request_event w.pool w.requests.length event accepted
  have hreplies' := posted_process_request_event w.pool w.requests.length event accepted
  cases hconn : w.pool.is_connected event.c with
  | false =>
    refine .answered ⟨w.requests.length, .NotConnected, none, event.user_data,
      event.user_type_id⟩ ?_ ?_ rfl ?_ fun _ => rfl
    · simp [World.awaiting, hawaiting', hconn, hpending]
    · simp [World.replies, hreplies', hconn, hposted, hsrc]
    · rintro ⟨hconnected, -⟩
      cases hconnected
  | true =>
    cases accepted with
    | true =>
      refine .waiting ?_ ?_ ?_
      · rintro ⟨-, haccepted⟩
        cases haccepted
      · simp [World.awaiting, hawaiting', hconn, hpending, hsrc, ctxOf]
      · simp [World.replies, hreplies', hconn, hposted, hsrc]
    | false =>
      refine .answered ⟨w.requests.length, .FailedToSend, none, none, event.user_type_id⟩
        ?_ ?_ rfl (fun _ => rfl) ?_
      · simp [World.awaiting, hawaiting', hpending]
      · simp [World.replies, hreplies', hconn, hposted, hsrc]
      · intro hsent
        exact absurd ⟨rfl, rfl⟩ hsent

theorem inv_request (h : Inv w) (event : RedisRequestEvent) (accepted : Bool)
    (hfresh : ∀ o ∈ event.user_data, ∀ r ∈ w.requests, r.event.user_data ≠ some o) :
    Inv { pool := w.pool.process_request_event w.requests.length event accepted
          requests := w.requests ++ [⟨event, w.pool.is_connected event.c, accepted⟩] } := by
  have hpending := pending_process_request_event w.pool w.requests.length event accepted
  have hposted := posted_process_request_event w.pool w.requests.length event accepted
  constructor
  · intro n r hr hplain
    rcases List.getElem?_concat_eq_some hr with hr | ⟨rfl, rfl⟩
    · have hlt := (List.getElem?_eq_some_iff.mp hr).1
      have hne : w.requests.length ≠ n := by omega
      -- everything that is added is for the new request
      apply (h.progress n r hr hplain).of_eq
      · show List.filter _ (w.pool.process_request_event _ _ _).pending = _
        rw [hpending, List.filter_append]
        split_ifs <;> simp [World.awaiting, ctxOf, hne]
      · show List.filter _ (w.pool.process_request_event _ _ _).posted = _
        rw [hposted, List.filter_append]
        split_ifs <;> simp [World.replies, hne]
    · exact progress_request h event accepted hplain
  · intro ctx hctx
    show ctx.request < (w.requests ++ [_]).length
    rw [List.length_append, List.length_singleton]
    rcases request_of_mem_pending _ _ _ _ hctx with hctx | hnew
    · have hlt := h.pending ctx hctx
      omega
    · omega
  · intro reply hreply
    show reply.2.request < (w.requests ++ [_]).length
    rw [List.length_append, List.length_singleton]
    rcases request_of_mem_posted _ _ _ _ hreply with hreply | hnew
    · have hlt := h.posted reply hreply
      omega
    · omega
  · intro o ho
    rcases destroyed_process_request_event _ _ _ _ ho with ho | ⟨ho, hbad⟩
    · obtain ⟨n, r, hr, hdata, hlost⟩ := h.destroyed o ho
      have hlt := (List.getElem?_eq_some_iff.mp hr).1
      exact ⟨n, r, by rw [List.getElem?_append_left hlt]; exact hr, hdata, hlost⟩
    · refine ⟨w.requests.length, _, List.getElem?_concat_length, ho, ?_⟩
      intro ⟨hplain, hsent⟩
      rcases hbad with hsrc | hpersistent | hrefused
      · exact hplain.src_id hsrc
      · exact Bool.false_ne_true (hplain.persistent_ctx.symm.trans hpersistent)
      · exact hsent hrefused
  · intro n n' r r' o hr hr' ho ho'
    rcases List.getElem?_concat_eq_some hr with hr | ⟨rfl, rfl⟩ <;>
      rcases List.getElem?_concat_eq_some hr' with hr' | ⟨rfl, rfl⟩
    · exact h.distinct n n' r r' o hr hr' ho ho'
    · exact absurd ho (hfresh o ho' r (List.mem_of_getElem? hr))
    · exact absurd ho' (hfresh o ho r' (List.mem_of_getElem? hr'))
    · rfl

/-- The callback of a request that waits for its reply answers it. -/
theorem progress_callback {ctx : RedisReplyCtx} {pending : List RedisReplyCtx}
    (h : Progress w n r) (hplain : r.Plain) (hctx : ctx ∈ w.awaiting n)
    (reply : Option (HiredisReply Data))
    (hpending : pending = w.pool.pending ∧ ctx.persistent_ctx = true ∨
      pending = w.pool.pending.filter (·.request ≠ n)) :
    Progress
      { w with pool := { w.pool.redis_request_cb_static reply ctx with pending := pending } } n r := by
  rw [redis_request_cb_static_eq]
  cases h with
  | waiting hsent hone hreplies =>
    rw [hone] at hctx
    have hown : ctx = ctxOf n r.event := List.mem_singleton.mp hctx
    have hplainctx : ctx.persistent_ctx = false := by
      rw [hown]
      exact hplain.persistent_ctx
    have hrest : pending = w.pool.pending.filter (·.request ≠ n) := by
      rcases hpending with ⟨-, hpersistent⟩ | hrest
      · rw [hplainctx] at hpersistent
        cases hpersistent
      · exact hrest
    refine .answered (RedisReplyEvent.ofReply reply ctx).1 ?_ ?_ ?_ ?_ ?_
    · simp [World.awaiting, hrest]
    · show List.filter _ (w.pool.posted ++ [(ctx.src_id, _)]) = _
      rw [List.filter_append]
      have hnone : w.pool.posted.filter (·.2.request = n) = [] := hreplies
      rw [hnone, hown]
      simp [RedisReplyEvent.ofReply, ctxOf]
    · rw [hown]
      rfl
    · exact fun hrefused => absurd hrefused hsent
    · intro _
      rw [hown]
      simp [RedisReplyEvent.ofReply, ctxOf, hplain.persistent_ctx]
  | answered reply' hnone _ _ _ _ =>
    rw [hnone] at hctx
    cases hctx

/-- The callback leaves the other requests alone. -/
theorem inv_callback {request : Nat} {ctx : RedisReplyCtx} {pending : List RedisReplyCtx}
    (h : Inv w) (reply : Option (HiredisReply Data))
    (hctx : w.pool.pending.find? (·.request = request) = some ctx)
    (hpending : pending = w.pool.pending ∧ ctx.persistent_ctx = true ∨
      pending = w.pool.pending.filter (·.request ≠ request)) :
    Inv { w with pool := { w.pool.redis_request_cb_static reply ctx with pending := pending } } := by
  have hmem : ctx ∈ w.pool.pending := List.mem_of_find?_eq_some hctx
  have hrequest : ctx.request = request := by simpa using List.find?_some hctx
  have hsub : ∀ c ∈ pending, c ∈ w.pool.pending := by
    intro c hc
    rcases hpending with ⟨rfl, -⟩ | rfl
    · exact hc
    · exact (List.mem_filter.mp hc).1
  rw [redis_request_cb_static_eq]
  constructor
  · intro n r hr hplain
    by_cases hn : n = request
    · have hawaiting : ctx ∈ w.awaiting n :=
        List.mem_filter.mpr ⟨hmem, by simp [hrequest, hn]⟩
      rw [← hn] at hpending
      have hanswered := progress_callback (h.progress n r hr hplain) hplain hawaiting reply hpending
      rw [redis_request_cb_static_eq] at hanswered
      exact hanswered
    · apply (h.progress n r hr hplain).of_eq
      · rcases hpending with ⟨rfl, -⟩ | rfl
        · rfl
        · show List.filter _ (List.filter _ _) = _
          rw [List.filter_filter]
          apply List.filter_congr
          intro c _
          by_cases hc : c.request = n <;> simp [hc, hn]
      · show List.filter _ (w.pool.posted ++ [(ctx.src_id, _)]) = _
        have hne : request ≠ n := fun heq => hn heq.symm
        simp [World.replies, List.filter_append, RedisReplyEvent.ofReply, hrequest, hne]
  · intro c hc
    exact h.pending c (hsub c hc)
  · intro reply' hreply'
    rcases List.mem_append.mp hreply' with hreply' | hreply'
    · exact h.posted reply' hreply'
    · rw [List.mem_singleton.mp hreply']
      exact h.pending ctx hmem
  · exact h.destroyed
  · exact h.distinct

theorem inv_is_connected (h : Inv w) (is_connected : Nat → Bool) :
    Inv { w with pool := { w.pool with is_connected := is_connected } } where
  progress n r hr hplain := (h.progress n r hr hplain).of_eq rfl rfl
  pending := h.pending
  posted := h.posted
  destroyed := h.destroyed
  distinct := h.distinct

theorem inv_next {l : Label Data} (h : Inv w) (hnext : next w l = some w') : Inv w' := by
  cases l with
  | request event accepted =>
    simp only [next, Option.ite_none_right_eq_some, Option.some.injEq] at hnext
    obtain ⟨hfresh, rfl⟩ := hnext
    exact inv_request h event accepted hfresh
  | callback request reply =>
    simp only [next] at hnext
    split at hnext
    · cases hnext
    next ctx hctx =>
      split_ifs at hnext with hkeep
      · cases hnext
        rw [Bool.and_eq_true] at hkeep
        have hinv := inv_callback h reply hctx (.inl ⟨rfl, hkeep.1⟩)
        rw [redis_request_cb_static_eq] at hinv ⊢
        exact hinv
      · cases hnext
        have hinv := inv_callback h reply hctx (.inr rfl)
        rw [redis_request_cb_static_eq] at hinv ⊢
        exact hinv
  | connect c =>
    cases hnext
    exact inv_is_connected h _
  | disconnect c =>
    simp only [next, Option.ite_none_left_eq_some, Option.some.injEq] at hnext
    obtain ⟨-, rfl⟩ := hnext
    exact inv_is_connected h _

end Steps

end Yeti.Redis
