import Mathlib.Data.List.Forall2
import Yeti.Resources.Parsing
import Yeti.Resources.Sequences

/-! # Failover between the resources of a group

    Model of `CheckResources` and of `ResourceRedisConnection::get` with an iterator:
    the counters of all resources of a list are read, and the checking loop of
    `Yeti.Resources.Resource` decides which ones are taken.

    The loop goes over the flat list.  On a group (`IsGroup`) it takes the first free
    resource and skips the rest (`checkLoop_group`), and on a list of groups it does so
    for each of them, up to the first one without a free resource (`checkLoop_groups`).
-/

namespace Yeti.Resources

/-! ### Reading the counters -/

/-- The data of a reply to `HVALS`, as far as `Reply2Int` tells it apart. -/
inductive CounterData where
  /-- An integer or a floating point number. -/
  | number (n : Int)
  | undef
  | cstr (s : List Char)
  | array (items : List CounterData)
  /-- An error, or a value of another type. -/
  | other

mutual

/-- `Reply2Int`; `none` is the exception it throws. -/
def Reply2Int (u : AmUtils) : CounterData → Option Int
  | .number n => some n
  -- a key that does not exist
  | .undef => some 0
  | .cstr s => u.str2long s
  | .array items => sumReplies u items
  | .other => none

/-- The sum over an array. -/
def sumReplies (u : AmUtils) : List CounterData → Option Int
  | [] => some 0
  | r :: rs =>
    match Reply2Int u r, sumReplies u rs with
    | some v, some sum => some (v + sum)
    | _, _ => none

end

/-- A `RedisReplyEvent` on the read connection. -/
structure CounterReply where
  result : ResultType
  data : CounterData

/-- The states of `CheckResources`. -/
inductive CheckSeqState where
  | INITIAL
  | GET_VALS
  | FINISH
  deriving DecidableEq, Repr

/-- `class CheckResources`. -/
structure CheckResources where
  state : CheckSeqState := .INITIAL
  resources : List Resource
  commands_count : Int := 0
  finished : Bool := false
  iserror : Bool := false
  result : List Int := []

namespace CheckResources

/-- `CheckResources::on_error`. -/
def on_error (q : CheckResources) : CheckResources := { q with iserror := true }

/-- `CheckResources::perform`: the sequence, the keys it posts `HVALS` for, and what it
    returns. -/
def perform (q : CheckResources) : CheckResources × List Key × Bool :=
  if q.state = .INITIAL then
    ({ q with state := .GET_VALS, commands_count := q.resources.length },
      q.resources.map get_key, true)
  else (q.on_error, [], false)

/-- `CheckResources::processRedisReply`. -/
def processRedisReply (u : AmUtils) (q : CheckResources) (reply : CounterReply) :
    CheckResources :=
  let q :=
    match q.state with
    | .INITIAL => q.on_error
    | .GET_VALS =>
      let q := { q with commands_count := q.commands_count - 1 }
      if reply.result ≠ .SuccessReply then q.on_error
      else
        match Reply2Int u reply.data with
        | some now => { q with result := q.result ++ [now] }
        | none => q.on_error
    | .FINISH => q
  if q.commands_count = 0 then { q with state := .FINISH, finished := true } else q

end CheckResources

/-- `ResourceResponse`. -/
inductive ResourceResponse where
  | RES_SUCC
  | RES_BUSY
  | RES_ERR
  deriving DecidableEq, Repr

/-- What `ResourceRedisConnection::get` leaves behind: its result, the list, how far the
    iterator has moved, and the operations handed to `process_operations_list`. -/
structure GetResult where
  ret : ResourceResponse
  rl : List Resource
  resource : Nat
  operations : List ResourceOperation
  deriving DecidableEq, Repr

/-- `ResourceRedisConnection::get(ResourceList&, iterator&)`; `replies` are those that
    arrive within the timeout. -/
def redisGet (u : AmUtils) (rl : List Resource) (replies : List CounterReply) : GetResult :=
  let cr_seq : CheckResources := { resources := rl }
  let (cr_seq, _, performed) := cr_seq.perform
  if !performed then ⟨.RES_ERR, rl, 0, []⟩
  else
    let cr_seq := replies.foldl (CheckResources.processRedisReply u) cr_seq
    -- `wait_finish`
    if !cr_seq.finished then ⟨.RES_ERR, rl, 0, []⟩
    else if cr_seq.iserror then ⟨.RES_ERR, rl, 0, []⟩
    else
      let o := checkLoop .NORMAL rl cr_seq.result
      if o.resources_available then
        ⟨.RES_SUCC, o.rl.map (·.markTaken), o.resource, getOperations o.rl⟩
      else ⟨.RES_BUSY, o.rl, o.resource, []⟩

/-- Redis answers every counter. -/
def Answered (u : AmUtils) : List CounterReply → List Int → Prop :=
  List.Forall₂ fun reply value =>
    reply.result = .SuccessReply ∧ Reply2Int u reply.data = some value

variable {u : AmUtils}

/-- The replies collected so far. -/
theorem foldl_processRedisReply {replies : List CounterReply} {values : List Int}
    (h : Answered u replies values) {q : CheckResources} (hstate : q.state = .GET_VALS)
    (hcount : q.commands_count = replies.length) (hreplies : replies ≠ []) :
    replies.foldl (CheckResources.processRedisReply u) q =
      { q with state := .FINISH, finished := true, commands_count := 0,
               result := q.result ++ values } := by
  induction h generalizing q with
  | nil => exact absurd rfl hreplies
  | @cons reply value replies values hreply hrest ih =>
    obtain ⟨hsuccess, hvalue⟩ := hreply
    rw [List.length_cons] at hcount
    rw [List.foldl_cons]
    cases hrest with
    | nil =>
      -- the last reply finishes the sequence
      have hzero : q.commands_count - 1 = 0 := by
        rw [hcount]
        simp
      simp [CheckResources.processRedisReply, hstate, hsuccess, hvalue, hzero]
    | @cons reply' value' replies values hreply' hrest =>
      have hmore : q.commands_count - 1 = (reply' :: replies).length := by
        rw [hcount]
        push_cast
        omega
      have hne : q.commands_count - 1 ≠ 0 := by
        rw [hmore, List.length_cons]
        omega
      have hstep : CheckResources.processRedisReply u q reply =
          { q with commands_count := q.commands_count - 1, result := q.result ++ [value] } := by
        simp [CheckResources.processRedisReply, hstate, hsuccess, hvalue, hne]
      have hrest := ih (q := { q with commands_count := q.commands_count - 1,
                                      result := q.result ++ [value] }) hstate hmore (by simp)
      rw [hstep, hrest]
      simp

/-- With all counters answered, `get` is the checking loop over them. -/
theorem redisGet_eq {rl : List Resource} {replies : List CounterReply} {values : List Int}
    (hne : rl ≠ []) (hlen : values.length = rl.length) (h : Answered u replies values) :
    redisGet u rl replies =
      if (checkLoop .NORMAL rl values).resources_available then
        ⟨.RES_SUCC, (checkLoop .NORMAL rl values).rl.map (·.markTaken),
          (checkLoop .NORMAL rl values).resource,
          getOperations (checkLoop .NORMAL rl values).rl⟩
      else ⟨.RES_BUSY, (checkLoop .NORMAL rl values).rl,
        (checkLoop .NORMAL rl values).resource, []⟩ := by
  have hcount : replies.length = rl.length := h.length_eq.trans hlen
  have hreplies : replies ≠ [] := by
    rintro rfl
    exact hne (List.length_eq_zero_iff.mp hcount.symm)
  have hfold := foldl_processRedisReply h
    (q := { state := .GET_VALS, resources := rl, commands_count := rl.length }) rfl
    (by simp [hcount]) hreplies
  simp only [redisGet, CheckResources.perform, if_true, hfold, Bool.not_true,
    Bool.false_eq_true, if_false, List.nil_append]

/-! ### Groups with their counters -/

/-- The groups with the values answered for their resources, in order. -/
def answered : List (List Resource) → List Int → List (List (Resource × Int))
  | [], _ => []
  | g :: gs, values => g.zip (values.take g.length) :: answered gs (values.drop g.length)

/-- The group has a resource below its limit. -/
def HasFree (g : List (Resource × Int)) : Prop := ∃ x ∈ g, x.2 < x.1.limit

/-- The resources of a group, with the first free one changed. -/
def mapFirstFree (f : Resource → Resource) : List (Resource × Int) → List Resource
  | [] => []
  | (res, used) :: g =>
    if used < res.limit then f res :: g.map Prod.fst else res :: mapFirstFree f g

/-- The resource is to be taken. -/
def Resource.activate (r : Resource) : Resource := { r with active := true }

/-- The resource is active and taken. -/
def Resource.take (r : Resource) : Resource := { r with active := true, taken := true }

theorem map_fst_answered (gs : List (List Resource)) {values : List Int}
    (hlen : values.length = gs.flatten.length) :
    (answered gs values).map (·.map Prod.fst) = gs := by
  induction gs generalizing values with
  | nil => rfl
  | cons g gs ih =>
    rw [List.flatten_cons, List.length_append] at hlen
    have hrest : (values.drop g.length).length = gs.flatten.length := by
      rw [List.length_drop]
      omega
    have hhead : g.length ≤ (values.take g.length).length := by
      rw [List.length_take]
      omega
    rw [answered, List.map_cons, ih hrest, List.map_fst_zip hhead]

theorem map_snd_answered (gs : List (List Resource)) {values : List Int}
    (hlen : values.length = gs.flatten.length) :
    (answered gs values).flatten.map Prod.snd = values := by
  induction gs generalizing values with
  | nil =>
    have hnil : values = [] := List.length_eq_zero_iff.mp (by simpa using hlen)
    rw [hnil]
    rfl
  | cons g gs ih =>
    rw [List.flatten_cons, List.length_append] at hlen
    have hrest : (values.drop g.length).length = gs.flatten.length := by
      rw [List.length_drop]
      omega
    have hhead : (values.take g.length).length ≤ g.length := by
      rw [List.length_take]
      omega
    rw [answered, List.flatten_cons, List.map_append, ih hrest, List.map_snd_zip hhead,
      List.take_append_drop]

/-! ### The checking loop, group by group -/

/-- The loop has gone past the resources. -/
def CheckOutcome.pastAll (passed : List Resource) (o : CheckOutcome) : CheckOutcome :=
  { o with rl := passed ++ o.rl, resource := passed.length + o.resource }

theorem CheckOutcome.past_pastAll (r : Resource) (passed : List Resource) (o : CheckOutcome) :
    (o.pastAll passed).past r = o.pastAll (r :: passed) := by
  simp only [CheckOutcome.past, CheckOutcome.pastAll, List.cons_append, List.length_cons,
    CheckOutcome.mk.injEq, true_and]
  omega

theorem CheckOutcome.pastAll_pastAll (passed passed' : List Resource) (o : CheckOutcome) :
    (o.pastAll passed').pastAll passed = o.pastAll (passed ++ passed') := by
  simp only [CheckOutcome.pastAll, List.append_assoc, List.length_append,
    CheckOutcome.mk.injEq, true_and]
  omega

/-- The rest of a group whose first free resource has been found. -/
theorem checkLoop_skip {g : List (Resource × Int)} (hg : IsGroup (g.map Prod.fst))
    (rl : List Resource) (values : List Int) :
    checkLoop .SKIP (g.map Prod.fst ++ rl) (g.map Prod.snd ++ values) =
      (checkLoop .NORMAL rl values).pastAll (g.map Prod.fst) := by
  induction g with
  | nil => cases hg
  | cons x g ih =>
    rw [List.map_cons, isGroup_cons, List.map_eq_nil_iff] at hg
    simp only [List.map_cons, List.cons_append, checkLoop, if_true]
    rcases hg with ⟨rfl, hlast⟩ | ⟨hnext, hg⟩
    · -- the flag of the last resource ends the group
      simp [hlast, CheckOutcome.past, CheckOutcome.pastAll, Nat.add_comm]
    · rw [if_pos hnext, ih hg, CheckOutcome.past_pastAll]

/-- A group without a free resource ends the loop at its last resource. -/
theorem checkLoop_busy {g : List (Resource × Int)} (hg : IsGroup (g.map Prod.fst))
    (hbusy : ¬ HasFree g) (rl : List Resource) (values : List Int) {st : CheckState}
    (hst : st ≠ .SKIP) :
    checkLoop st (g.map Prod.fst ++ rl) (g.map Prod.snd ++ values) =
      { resources_available := false, rl := g.map Prod.fst ++ rl, resource := g.length - 1 } := by
  induction g generalizing st with
  | nil => cases hg
  | cons x g ih =>
    rw [List.map_cons, isGroup_cons, List.map_eq_nil_iff] at hg
    have hx : x.2 ≥ x.1.limit := by
      by_contra hlt
      exact hbusy ⟨x, by simp, by omega⟩
    have hrest : ¬ HasFree g := fun ⟨y, hy, hfree⟩ => hbusy ⟨y, by simp [hy], hfree⟩
    simp only [List.map_cons, List.cons_append, checkLoop, if_neg hst, if_pos hx]
    rcases hg with ⟨rfl, hlast⟩ | ⟨hnext, hg⟩
    · simp [hlast]
    · have hpos : 0 < g.length := by
        cases g with
        | nil => cases hg
        | cons y g => simp
      rw [if_pos hnext, ih hg hrest (by simp)]
      simp only [CheckOutcome.past, List.length_cons, CheckOutcome.mk.injEq, true_and]
      omega

/-- In a group with a free resource, the first one becomes active. -/
theorem checkLoop_free {g : List (Resource × Int)} (hg : IsGroup (g.map Prod.fst))
    (hfree : HasFree g) (rl : List Resource) (values : List Int) {st : CheckState}
    (hst : st ≠ .SKIP) :
    checkLoop st (g.map Prod.fst ++ rl) (g.map Prod.snd ++ values) =
      (checkLoop .NORMAL rl values).pastAll (mapFirstFree Resource.activate g) := by
  induction g generalizing st with
  | nil => cases hg
  | cons x g ih =>
    obtain ⟨res, used⟩ := x
    rw [List.map_cons, isGroup_cons, List.map_eq_nil_iff] at hg
    simp only [List.map_cons, List.cons_append, checkLoop, if_neg hst, mapFirstFree]
    by_cases hx : used < res.limit
    · rw [if_neg (by omega), if_pos hx]
      rcases hg with ⟨rfl, hlast⟩ | ⟨hnext, hg⟩
      · have hlast : res.failover_to_next = false := hlast
        simp [hlast, CheckOutcome.past, CheckOutcome.pastAll, Resource.activate, Nat.add_comm]
      · -- the rest of the group was intended for failover
        rw [if_pos hnext, checkLoop_skip hg, CheckOutcome.past_pastAll]
        rfl
    · rw [if_pos (by omega), if_neg hx]
      rcases hg with ⟨rfl, hlast⟩ | ⟨hnext, hg⟩
      · obtain ⟨y, hy, hlt⟩ := hfree
        rw [List.mem_singleton.mp hy] at hlt
        exact absurd hlt hx
      · have hrest : HasFree g := by
          obtain ⟨y, hy, hlt⟩ := hfree
          rcases List.mem_cons.mp hy with rfl | hy
          · exact absurd hlt hx
          · exact ⟨y, hy, hlt⟩
        rw [if_pos hnext, ih hg hrest (by simp), CheckOutcome.past_pastAll]

/-- Groups with a free resource are gone past, whatever follows them. -/
theorem checkLoop_groups {gs : List (List (Resource × Int))}
    (hgs : ∀ g ∈ gs, IsGroup (g.map Prod.fst)) (hfree : ∀ g ∈ gs, HasFree g)
    (rl : List Resource) (values : List Int) :
    checkLoop .NORMAL (gs.flatten.map Prod.fst ++ rl) (gs.flatten.map Prod.snd ++ values) =
      (checkLoop .NORMAL rl values).pastAll
        (gs.map (mapFirstFree Resource.activate)).flatten := by
  induction gs with
  | nil => simp [CheckOutcome.pastAll]
  | cons g gs ih =>
    have htail := ih (fun g hg => hgs g (by simp [hg])) (fun g hg => hfree g (by simp [hg]))
    rw [List.flatten_cons, List.map_append, List.map_append, List.append_assoc,
      List.append_assoc, checkLoop_free (hgs g (by simp)) (hfree g (by simp)) _ _ (by simp),
      htail, CheckOutcome.pastAll_pastAll, List.map_cons, List.flatten_cons]

/-- The first group without a free resource. -/
theorem exists_first_busy {gs : List (List (Resource × Int))} (h : ¬ ∀ g ∈ gs, HasFree g) :
    ∃ before g after, gs = before ++ g :: after ∧ (∀ g ∈ before, HasFree g) ∧ ¬ HasFree g := by
  induction gs with
  | nil => exact absurd (by simp) h
  | cons g gs ih =>
    by_cases hg : HasFree g
    · have hrest : ¬ ∀ g ∈ gs, HasFree g := fun hall => h (by simpa [hg] using hall)
      obtain ⟨before, busy, after, rfl, hbefore, hbusy⟩ := ih hrest
      exact ⟨g :: before, busy, after, rfl, by simpa [hg] using hbefore, hbusy⟩
    · exact ⟨[], g, gs, rfl, by simp, hg⟩

/-! ### What is taken -/

theorem length_mapFirstFree (f : Resource → Resource) (g : List (Resource × Int)) :
    (mapFirstFree f g).length = g.length := by
  induction g with
  | nil => rfl
  | cons x g ih =>
    unfold mapFirstFree
    split_ifs <;> simp [ih]

/-- Of fresh resources, exactly the activated one is taken. -/
theorem markTaken_mapFirstFree {g : List (Resource × Int)} (h : ∀ x ∈ g, Fresh x.1) :
    (mapFirstFree Resource.activate g).map (·.markTaken) = mapFirstFree Resource.take g := by
  have hidle : ∀ r, Fresh r → r.markTaken = r := by
    intro r hr
    simp [Resource.markTaken, hr.active]
  induction g with
  | nil => rfl
  | cons x g ih =>
    obtain ⟨res, used⟩ := x
    have hres : Fresh res := h (res, used) (by simp)
    have hg : ∀ y ∈ g, Fresh y.1 := fun y hy => h y (by simp [hy])
    simp only [mapFirstFree]
    split_ifs
    · have hrest : (g.map Prod.fst).map (·.markTaken) = g.map Prod.fst := by
        rw [List.map_map]
        exact List.map_congr_left fun y hy => hidle y.1 (hg y hy)
      rw [List.map_cons, hrest]
      simp [Resource.activate, Resource.markTaken, Resource.take, hres.taken]
    · rw [List.map_cons, hidle res hres, ih hg]

/-! ### Selection -/

/-- What `get` does with a list of groups and their counters: it succeeds when every
    group has a free resource, and takes the first one of each.  Else it takes nothing,
    and the iterator is at the last resource of the first group without a free one. -/
structure Selected (gs : List (List (Resource × Int))) (g : GetResult) : Prop where
  succ_iff : g.ret = .RES_SUCC ↔ ∀ grp ∈ gs, HasFree grp
  succ : g.ret = .RES_SUCC →
    g.rl = (gs.map (mapFirstFree Resource.take)).flatten
  busy : g.ret ≠ .RES_SUCC →
    g.ret = .RES_BUSY ∧ (∀ r ∈ g.rl, r.taken = false) ∧ g.operations = [] ∧
      ∃ before grp after, gs = before ++ grp :: after ∧ (∀ b ∈ before, HasFree b) ∧
        ¬ HasFree grp ∧ g.resource = before.flatten.length + (grp.length - 1)

theorem length_flatten_activated (gs : List (List (Resource × Int))) :
    ((gs.map (mapFirstFree Resource.activate)).flatten).length = gs.flatten.length := by
  rw [List.length_flatten, List.length_flatten, List.map_map]
  congr 1
  exact List.map_congr_left fun g _ => length_mapFirstFree _ g

/-- Of groups of fresh resources, the activated ones are taken. -/
theorem markTaken_activated {gs : List (List (Resource × Int))}
    (hfresh : ∀ g ∈ gs, ∀ x ∈ g, Fresh x.1) :
    ((gs.map (mapFirstFree Resource.activate)).flatten).map (·.markTaken) =
      (gs.map (mapFirstFree Resource.take)).flatten := by
  rw [List.map_flatten, List.map_map]
  congr 1
  exact List.map_congr_left fun g hg => markTaken_mapFirstFree (hfresh g hg)

/-- The loop raises `active` flags only. -/
theorem checkLoop_taken {gs : List (List (Resource × Int))}
    (hfresh : ∀ g ∈ gs, ∀ x ∈ g, Fresh x.1) (result : List Int) :
    ∀ r ∈ (checkLoop .NORMAL (gs.flatten.map Prod.fst) result).rl, r.taken = false := by
  refine checkLoop_forall (fun r hr => hr) _ _ _ ?_
  intro r hr
  obtain ⟨x, hx, rfl⟩ := List.mem_map.mp hr
  obtain ⟨g, hg, hxg⟩ := List.mem_flatten.mp hx
  exact (hfresh g hg x hxg).taken

/-- `get` on groups of fresh resources. -/
theorem redisGet_selected {gs : List (List (Resource × Int))}
    (hgs : ∀ g ∈ gs, IsGroup (g.map Prod.fst)) (hfresh : ∀ g ∈ gs, ∀ x ∈ g, Fresh x.1)
    (hne : gs ≠ []) {replies : List CounterReply}
    (h : Answered u replies (gs.flatten.map Prod.snd)) :
    Selected gs (redisGet u (gs.flatten.map Prod.fst) replies) := by
  have hlist : gs.flatten.map Prod.fst ≠ [] := by
    obtain ⟨g, gs, rfl⟩ := List.exists_cons_of_ne_nil hne
    have hg : g ≠ [] := by
      rintro rfl
      exact absurd (hgs [] (by simp)) (by rintro ⟨⟩)
    simp [hg]
  rw [redisGet_eq hlist (by rw [List.length_map, List.length_map]) h]
  by_cases hall : ∀ g ∈ gs, HasFree g
  · have hloop := checkLoop_groups hgs hall [] []
    rw [List.append_nil, List.append_nil] at hloop
    rw [hloop]
    simp only [checkLoop, CheckOutcome.pastAll, if_true, List.append_nil]
    exact ⟨iff_of_true rfl hall, fun _ => markTaken_activated hfresh, fun hret => absurd rfl hret⟩
  · -- the loop passes the groups in front of the busy one, and stops there
    obtain ⟨before, grp, after, rfl, hbefore, hbusy⟩ := exists_first_busy hall
    have hgroup := hgs grp (by simp)
    have hloop := checkLoop_groups (fun g hg => hgs g (by simp [hg])) hbefore
      (grp.map Prod.fst ++ after.flatten.map Prod.fst)
      (grp.map Prod.snd ++ after.flatten.map Prod.snd)
    rw [checkLoop_busy hgroup hbusy _ _ (by simp)] at hloop
    have hfst : ((before ++ grp :: after).flatten).map Prod.fst =
        before.flatten.map Prod.fst ++ (grp.map Prod.fst ++ after.flatten.map Prod.fst) := by
      simp
    have hsnd : ((before ++ grp :: after).flatten).map Prod.snd =
        before.flatten.map Prod.snd ++ (grp.map Prod.snd ++ after.flatten.map Prod.snd) := by
      simp
    have htaken := checkLoop_taken hfresh (((before ++ grp :: after).flatten).map Prod.snd)
    have hlength := length_flatten_activated before
    rw [hfst, hsnd, hloop] at htaken ⊢
    simp only [CheckOutcome.pastAll, Bool.false_eq_true, if_false]
    refine ⟨iff_of_false (by simp) hall, fun hret => by simp at hret, fun _ => ?_⟩
    exact ⟨rfl, htaken, rfl, before, grp, after, rfl, hbefore, hbusy, by simp only [hlength]⟩

/-- **Failover selection.**  For a resource string that retains a resource, `get` takes
    the first free resource of every group, or nothing. -/
theorem get_takes_first_free_of_groups (u : AmUtils) (rs : List Char) (rl : List Resource)
    (hparse : ResList.parse u rs = .ok rl) (hne : rl ≠ []) (values : List Int)
    (hlen : values.length = rl.length) (replies : List CounterReply)
    (h : Answered u replies values) :
    Selected (answered (groups u rs) values) (redisGet u rl replies) := by
  obtain rfl := parse_eq hparse
  have hfst := map_fst_answered (groups u rs) hlen
  have hsnd := map_snd_answered (groups u rs) hlen
  generalize answered (groups u rs) values = gs at hfst hsnd ⊢
  have hspec : ∀ g ∈ gs, IsGroup (g.map Prod.fst) ∧ ∀ r ∈ g.map Prod.fst, Fresh r := by
    intro g hg
    exact groups_spec (hfst ▸ List.mem_map_of_mem hg)
  have hflat : gs.flatten.map Prod.fst = (groups u rs).flatten := by
    rw [List.map_flatten, hfst]
  have hgs : gs ≠ [] := by
    rintro rfl
    exact hne (by rw [← hfst]; rfl)
  rw [← hflat]
  refine redisGet_selected (fun g hg => (hspec g hg).1) ?_ hgs (hsnd ▸ h)
  intro g hg x hx
  exact (hspec g hg).2 x.1 (List.mem_map_of_mem hx)

/-- The second option of the first group stands in for the first one. -/
theorem get_takes_first_free_of_groups_failover :
    Selected (answered (groups .decimal "1:4:2:3|2:4:2:3;3:4:9:1".toList) [2, 0, 5])
      (redisGet .decimal
        [⟨4, 1, 3, 2, false, false, true⟩, ⟨4, 2, 3, 2, false, false, false⟩,
          ⟨4, 3, 1, 9, false, false, false⟩]
        [⟨.SuccessReply, .number 2⟩, ⟨.SuccessReply, .undef⟩,
          ⟨.SuccessReply, .array [.cstr "5".toList]⟩]) := by
  refine get_takes_first_free_of_groups .decimal "1:4:2:3|2:4:2:3;3:4:9:1".toList _ ?_ (by simp)
    [2, 0, 5] rfl _ ?_
  · rfl
  · exact .cons ⟨rfl, rfl⟩ (.cons ⟨rfl, rfl⟩ (.cons ⟨rfl, rfl⟩ .nil))

/-- Without a retained resource there is no counter to wait for: `get` runs into its
    timeout. -/
theorem not_get_takes_first_free_of_no_groups :
    ¬ ∀ (u : AmUtils) (rs : List Char) (rl : List Resource), ResList.parse u rs = .ok rl →
      ∀ values : List Int, values.length = rl.length →
        ∀ replies : List CounterReply, Answered u replies values →
          Selected (answered (groups u rs) values) (redisGet u rl replies) := by
  intro hall
  have hselected := hall .decimal "1:4:2:0".toList [] rfl [] rfl [] .nil
  have hret := hselected.succ_iff.mpr (by
    intro g hg
    have hnone : groups .decimal "1:4:2:0".toList = [] := rfl
    rw [hnone] at hg
    simp [answered] at hg)
  simp [redisGet, CheckResources.perform] at hret

end Yeti.Resources
