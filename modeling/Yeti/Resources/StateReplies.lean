import Mathlib.Data.List.ReduceOption
import Mathlib.Data.List.Zip
import Yeti.Resources.StateQuery

/-! # Replies of Redis to the query of the resource state

    One reply to `HGETALL` counts the outstanding ones down and is either taken for an
    error or stored (`Advanced`).  The first error is posted at once and the success
    with the last reply, so the flag `iserror` says which of the two it will be
    (`OneError`), and `serve_data` follows all replies of a query down to the last one.
-/

namespace Yeti.Resources

/-! ### One reply -/

/-- The reply to `HGETALL` is taken for an error. -/
def fails (u : AmUtils) (api : AmArgApi) (reply : CounterReply) : Bool :=
  match reply.result, reply.data with
  | .SuccessReply, .undef => true
  | .SuccessReply, .array items => (readPairs u api items).any Option.isNone
  | .SuccessReply, _ => false
  | _, _ => true

variable {u : AmUtils} {api : AmArgApi} {q : GetAllResources}

/-- No reply has been posted but that to the first error. -/
def OneError (q : GetAllResources) : Prop :=
  if q.iserror then ∃ code message, q.posted = [.error code message] else q.posted = []

namespace GetAllResources

variable (code : Nat) (message : String)

@[simp] theorem on_error_state : (q.on_error code message).state = q.state := by
  unfold on_error
  split <;> rfl

@[simp] theorem on_error_keys : (q.on_error code message).keys = q.keys := by
  unfold on_error
  split <;> rfl

@[simp] theorem on_error_commands_count :
    (q.on_error code message).commands_count = q.commands_count := by
  unfold on_error
  split <;> rfl

@[simp] theorem on_error_iserror : (q.on_error code message).iserror = true := by
  unfold on_error
  split
  · assumption
  · rfl

theorem on_error_on_error (code' : Nat) (message' : String) :
    (q.on_error code message).on_error code' message' = q.on_error code message := by
  show (if (q.on_error code message).iserror then _ else _) = _
  rw [on_error_iserror, if_pos rfl]

/-- The first error is posted, the later ones are not. -/
theorem oneError_on_error (h : OneError q) : OneError (q.on_error code message) := by
  unfold OneError at h ⊢
  rw [on_error_iserror, if_pos rfl]
  unfold on_error
  by_cases hiserror : q.iserror = true
  · rw [if_pos hiserror] at h ⊢
    exact h
  · rw [if_neg hiserror] at h
    rw [if_neg hiserror]
    exact ⟨code, message, by rw [h]; rfl⟩

end GetAllResources

/-- The nodes of a reply, filled pair by pair. -/
def pushNodes (nodes : Nodes) (pairs : List (Int × Int)) : Nodes :=
  pairs.foldl (fun nodes p => some (Assoc.set (nodes.getD []) (nodeText p.1) p.2)) nodes

theorem getD_pushNodes (nodes : Nodes) (pairs : List (Int × Int)) :
    (pushNodes nodes pairs).getD [] =
      Listing.assign (nodes.getD []) (pairs.map fun p => (nodeText p.1, p.2)) := by
  induction pairs generalizing nodes with
  | nil => rfl
  | cons p pairs ih => exact ih _

/-- The loop over pairs that are all read pushes them. -/
theorem foldl_pushPair_some (nodes : Nodes) (pairs : List (Int × Int)) :
    (pairs.map some).foldl GetAllResources.pushPair (q, nodes) = (q, pushNodes nodes pairs) := by
  induction pairs generalizing nodes with
  | nil => rfl
  | cons p pairs ih => exact ih _

/-- The loop reports an error if some pair is not read. -/
theorem foldl_pushPair_fst (nodes : Nodes) (pairs : List (Option (Int × Int))) :
    (pairs.foldl GetAllResources.pushPair (q, nodes)).1 =
      if pairs.any Option.isNone then q.on_error 500 "can't parse response" else q := by
  induction pairs generalizing q nodes with
  | nil => rfl
  | cons p pairs ih =>
    cases p with
    | some p => exact ih _
    | none =>
      have herror : ((none :: pairs).foldl GetAllResources.pushPair (q, nodes)).1 =
          (pairs.foldl GetAllResources.pushPair
            (q.on_error 500 "can't parse response", nodes)).1 := rfl
      rw [herror, ih, GetAllResources.on_error_on_error]
      simp

/-- All pairs of a reply are read. -/
theorem map_some_reduceOption {pairs : List (Option (Int × Int))}
    (h : pairs.any Option.isNone = false) : pairs.reduceOption.map some = pairs := by
  induction pairs with
  | nil => rfl
  | cons p pairs ih =>
    rw [List.any_cons, Bool.or_eq_false_iff] at h
    cases p with
    | none => exact absurd h.1 (by decide)
    | some p => rw [List.reduceOption_cons_of_some, List.map_cons, ih h.2]

/-- The result after a reply to `HGETALL` that is no error. -/
def store (u : AmUtils) (api : AmArgApi) (result : List (String × Nodes))
    (a : String × CounterReply) : List (String × Nodes) :=
  match a.2.data with
  | .array items => Assoc.set result a.1 (pushNodes none (readPairs u api items).reduceOption)
  | _ => result

/-- What one reply to the `HGETALL` of `key` changes. -/
structure Advanced (u : AmUtils) (api : AmArgApi) (q q' : GetAllResources) (key : String)
    (reply : CounterReply) : Prop where
  state : q'.state = q.state
  keys : q'.keys = q.keys
  count : q'.commands_count = q.commands_count - 1
  oneError : OneError q → OneError q'
  iserror : q'.iserror = (q.iserror || fails u api reply)
  result : fails u api reply = false → q'.result = store u api q.result (key, reply)

theorem Advanced.of_error {key : String} {reply : CounterReply} (hfails : fails u api reply = true)
    (code : Nat) (message : String) :
    Advanced u api q
      ({ q with commands_count := q.commands_count - 1 }.on_error code message) key reply where
  state := GetAllResources.on_error_state code message
  keys := GetAllResources.on_error_keys code message
  count := GetAllResources.on_error_commands_count code message
  oneError h := GetAllResources.oneError_on_error code message h
  iserror := by rw [GetAllResources.on_error_iserror, hfails, Bool.or_true]
  result hno := absurd (hfails.symm.trans hno) (by decide)

/-- What is stored of a reply with an error does not matter. -/
theorem Advanced.set_result {q' : GetAllResources} {key : String} {reply : CounterReply}
    (h : Advanced u api q q' key reply) (hfails : fails u api reply = true)
    (result : List (String × Nodes)) :
    Advanced u api q { q' with result } key reply where
  state := h.state
  keys := h.keys
  count := h.count
  oneError := h.oneError
  iserror := h.iserror
  result hno := absurd (hfails.symm.trans hno) (by decide)

theorem Advanced.of_success {key : String} {reply : CounterReply}
    (hfails : fails u api reply = false) {result : List (String × Nodes)}
    (hresult : result = store u api q.result (key, reply)) :
    Advanced u api q { q with commands_count := q.commands_count - 1, result } key reply where
  state := rfl
  keys := rfl
  count := rfl
  oneError h := h
  iserror := by rw [hfails, Bool.or_false]
  result _ := hresult

/-- The countdown leads to the key before those whose replies are still to come. -/
theorem key_of_countdown {done keys : List String} {key : String}
    (hkeys : q.keys = done ++ key :: keys) (hcount : q.commands_count = keys.length + 1) :
    q.keys.getD (q.keys.length - (q.commands_count - 1) - 1).toNat "" = key := by
  have hindex : (q.keys.length - (q.commands_count - 1) - 1 : Int).toNat = done.length := by
    rw [hkeys, hcount, List.length_append, List.length_cons]
    omega
  rw [hindex, hkeys, List.getD_eq_getElem?_getD, List.getElem?_append_right le_rfl,
    Nat.sub_self]
  rfl

/-- **A reply to `HGETALL` is stored under its own key.** -/
theorem getData_advanced {done keys : List String} {key : String} {reply : CounterReply}
    (hkeys : q.keys = done ++ key :: keys) (hcount : q.commands_count = keys.length + 1) :
    Advanced u api q (q.getData u api reply) key reply := by
  have hkey := key_of_countdown hkeys hcount
  unfold GetAllResources.getData
  by_cases hsuccess : reply.result = .SuccessReply
  · rw [if_neg (not_not.mpr hsuccess)]
    cases hdata : reply.data with
    | undef => exact .of_error (by simp [fails, hsuccess, hdata]) _ _
    | array items =>
      have hfails : fails u api reply = (readPairs u api items).any Option.isNone := by
        simp only [fails, hsuccess, hdata]
      have hfst := foldl_pushPair_fst (q := { q with commands_count := q.commands_count - 1 })
        none (readPairs u api items)
      by_cases hnone : (readPairs u api items).any Option.isNone = true
      · -- the nodes read so far are stored as well, but only the error counts
        rw [if_pos hnone] at hfst
        simp only [hfst]
        exact (Advanced.of_error (hfails.trans hnone) _ _).set_result (hfails.trans hnone) _
      · rw [Bool.not_eq_true] at hnone
        have hfold := foldl_pushPair_some (q := { q with commands_count := q.commands_count - 1 })
          none (readPairs u api items).reduceOption
        rw [map_some_reduceOption hnone] at hfold
        simp only [hfold, hkey]
        exact .of_success (hfails.trans hnone) (by simp only [store, hdata])
    | number _ | cstr _ | other =>
      -- passed over: neither an error nor stored
      exact .of_success (by simp only [fails, hsuccess, hdata]) (by simp only [store, hdata])
  · rw [if_pos hsuccess]
    have hfails : fails u api reply = true := by
      cases hresult : reply.result <;> simp_all [fails]
    exact .of_error hfails _ _

/-! ### All replies to `HGETALL` -/

namespace GetAllResources

/-- More replies are to come. -/
theorem finishData_more (h : q.commands_count ≠ 0) : q.finishData = q := if_neg h

theorem finishData_last (h : q.commands_count = 0) :
    q.finishData =
      { q with
        state := .FINISH
        posted := if q.iserror then q.posted else q.posted ++ [.success q.result] } := if_pos h

theorem processRedisReply_data (hstate : q.state = .GET_DATA) (reply : CounterReply) :
    q.processRedisReply u api reply =
      some ((q.getData u api reply).finishData, [],
        (q.getData u api reply).finishData.state == .FINISH) := by
  unfold processRedisReply
  rw [hstate]
  rfl

end GetAllResources

/-- What holds at the end of the replies to the `HGETALL` of `keys`. -/
structure ServedData (u : AmUtils) (api : AmArgApi) (q : GetAllResources) (keys : List String)
    (replies : List CounterReply) (out : Served) : Prop where
  length : keys.length = replies.length
  log : out.log = (keys.map ReadCommand.HGETALL).zip replies
  failed : (q.iserror = true ∨ ∃ reply ∈ replies, fails u api reply = true) →
    ∃ code message, out.posted = [.error code message]
  succeeded : q.iserror = false → (∀ reply ∈ replies, fails u api reply = false) →
    out.posted = [.success ((keys.zip replies).foldl (store u api) q.result)]

/-- The last reply finishes the sequence. -/
theorem servedData_last {q' : GetAllResources} {key : String} {reply : CounterReply}
    (hq : OneError q) (h : Advanced u api q q' key reply) (hcount : q'.commands_count = 0) :
    ServedData u api q [key] [reply]
      { posted := q'.finishData.posted, log := [(.HGETALL key, reply)] } := by
  have hposted : q'.finishData.posted =
      if q'.iserror then q'.posted else q'.posted ++ [.success q'.result] := by
    rw [GetAllResources.finishData_last hcount]
  have hone : OneError q' := h.oneError hq
  unfold OneError at hone
  refine ⟨rfl, rfl, ?_, ?_⟩
  · intro hfailed
    have hiserror : q'.iserror = true := by
      rw [h.iserror, Bool.or_eq_true]
      exact hfailed.imp_right fun ⟨r, hr, hfails⟩ => List.mem_singleton.mp hr ▸ hfails
    rw [if_pos hiserror] at hone
    rw [hposted, if_pos hiserror]
    exact hone
  · intro hiserror hclean
    have hfails : fails u api reply = false := hclean reply (List.mem_singleton_self _)
    have hno : q'.iserror = false := by rw [h.iserror, hiserror, hfails, Bool.or_false]
    rw [hno] at hone
    rw [hposted, hno, show q'.posted = [] from hone, h.result hfails]
    rfl

/-- A reply that is not the last one. -/
theorem ServedData.cons {q' : GetAllResources} {key : String} {keys : List String}
    {reply : CounterReply} {replies : List CounterReply} {out : Served}
    (h : Advanced u api q q' key reply) (hrest : ServedData u api q' keys replies out) :
    ServedData u api q (key :: keys) (reply :: replies)
      { out with log := (.HGETALL key, reply) :: out.log } := by
  refine ⟨congrArg (· + 1) hrest.length, ?_, ?_, ?_⟩
  · rw [hrest.log]
    rfl
  · intro hfailed
    apply hrest.failed
    rw [h.iserror, Bool.or_eq_true, or_assoc]
    exact hfailed.imp_right fun hexists => by simpa using hexists
  · intro hiserror hclean
    obtain ⟨hfails, hclean⟩ := List.forall_mem_cons.mp hclean
    have hno : q'.iserror = false := by rw [h.iserror, hiserror, hfails, Bool.or_false]
    have hposted := hrest.succeeded hno hclean
    rw [h.result hfails] at hposted
    exact hposted

theorem serve_data {done keys : List String} {replies : List CounterReply} {out : Served}
    (hstate : q.state = .GET_DATA) (hq : OneError q) (hkeys : q.keys = done ++ keys)
    (hcount : q.commands_count = keys.length) (hne : keys ≠ [])
    (hserve : serve u api q (keys.map .HGETALL) replies = some out) :
    ServedData u api q keys replies out := by
  -- on the keys whose replies are still to come
  induction keys generalizing q done replies out with
  | nil => exact absurd rfl hne
  | cons key keys ih =>
    cases replies with
    | nil => simp [serve] at hserve
    | cons reply replies =>
      have hadv : Advanced u api q (q.getData u api reply) key reply :=
        getData_advanced hkeys (by rw [hcount, List.length_cons]; rfl)
      have hprocess : q.processRedisReply u api reply = _ :=
        GetAllResources.processRedisReply_data hstate reply
      have hleft : (q.getData u api reply).commands_count = keys.length := by
        rw [hadv.count, hcount, List.length_cons]
        omega
      obtain ⟨rest, hrest, rfl⟩ := Option.map_eq_some_iff.mp hserve
      rw [hprocess] at hrest
      cases keys with
      | nil =>
        have hfinish : (q.getData u api reply).finishData.state = .FINISH := by
          rw [GetAllResources.finishData_last hleft]
        rw [hfinish] at hrest
        have hgone : unserved (q.getData u api reply).finishData.posted [] replies = some rest :=
          hrest
        obtain ⟨hlength, hout⟩ := Option.ite_none_right_eq_some.mp hgone
        have hnone : replies = [] := List.eq_nil_of_length_eq_zero hlength.symm
        rw [← Option.some.inj hout, hnone]
        exact servedData_last hq hadv hleft
      | cons key' keys =>
        have hmore : (q.getData u api reply).commands_count ≠ 0 := by
          rw [hleft, List.length_cons]
          omega
        rw [GetAllResources.finishData_more hmore, hadv.state, hstate] at hrest
        have hserve' : serve u api (q.getData u api reply)
            ((key' :: keys).map .HGETALL ++ []) replies = some rest := hrest
        rw [List.append_nil] at hserve'
        have hkeys' : (q.getData u api reply).keys = (done ++ [key]) ++ key' :: keys := by
          rw [hadv.keys, hkeys, List.append_assoc]
          rfl
        exact .cons hadv (ih (hadv.state.trans hstate) (hadv.oneError hq) hkeys' hleft
          (List.cons_ne_nil _ _) hserve')

end Yeti.Resources
