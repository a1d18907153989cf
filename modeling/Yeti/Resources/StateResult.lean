import Mathlib.Algebra.Group.Nat.Even
import Yeti.Framework.Lists
import Yeti.Resources.StateReplies

/-! # Reply to the query of the resource state

    A request is to be answered once: with an error when a reply of Redis cannot be
    used, and otherwise with the pairs of every key that was queried.

    The replies to `HGETALL` are compared with the result in `maps_iff`.  It is not what
    it should be for data that are no array, which are passed over without an error, for
    arrays of odd length, and for nodes that do not fit the number they are printed as.
-/

namespace Yeti.Resources

open Decimal

/-! ### What is expected -/

/-- The elements of an array. -/
def CounterData.items : CounterData → List CounterData
  | .array items => items
  | _ => []

/-- The node/value pairs of the data of a reply. -/
def pairsOf (u : AmUtils) : List CounterData → List (Int × Int)
  | node :: value :: items => (readPair u node value).toList ++ pairsOf u items
  | _ => []

/-- A success that can be read: the keys of `KEYS`, or the pairs of `HGETALL`. -/
def Parsable (u : AmUtils) (api : AmArgApi) : ReadCommand × CounterReply → Prop
  | (.KEYS _, reply) =>
    reply.result = .SuccessReply ∧
      ∃ items keys, reply.data = .array items ∧ items.mapM api.asCStr = some keys
  | (.HGETALL _, reply) =>
    reply.result = .SuccessReply ∧
      ∃ items, reply.data = .array items ∧ Even items.length ∧
        ∀ item ∈ items, Reply2Int u item ≠ none

/-- The nodes are those of the pairs, with their values. -/
def Exact (u : AmUtils) (reply : CounterReply) (nodes : Nodes) : Prop :=
  ∀ node value, (nodes.getD []).lookup node = some value ↔
    ∃ n, (n, value) ∈ pairsOf u reply.data.items ∧ node = int2str n

/-- The result has the keys that were queried, each with the pairs of its own reply. -/
structure Maps (u : AmUtils) (result : List (String × Nodes))
    (answers : List (String × CounterReply)) : Prop where
  own : ∀ a ∈ answers, ∃ nodes, result.lookup a.1 = some nodes ∧ Exact u a.2 nodes
  only : ∀ key nodes, result.lookup key = some nodes → key ∈ answers.map Prod.fst

/-- The keys that were queried, with the replies to their `HGETALL`. -/
def answersOf (log : List (ReadCommand × CounterReply)) : List (String × CounterReply) :=
  log.filterMap fun e =>
    match e.1 with
    | .KEYS _ => none
    | .HGETALL key => some (key, e.2)

/-- Exactly one reply is posted; a success says that every reply of Redis was a parsable
    success, and gives the pairs of each key. -/
def RepliesOnce (u : AmUtils) (api : AmArgApi) (out : Served) : Prop :=
  ∃ r, out.posted = [r] ∧
    ∀ result, r = .success result →
      (∀ e ∈ out.log, Parsable u api e) ∧ Maps u result (answersOf out.log)

/-! ### When it is met -/

/-- An array of pairs, whose nodes are unsigned numbers with one value each. -/
structure Clean (u : AmUtils) (reply : CounterReply) : Prop where
  array : ∃ items, reply.data = .array items ∧ Even items.length
  range : ∀ n v, (n, v) ∈ pairsOf u reply.data.items → 0 ≤ n ∧ n < 2 ^ 32
  single : ∀ n v w, (n, v) ∈ pairsOf u reply.data.items →
    (n, w) ∈ pairsOf u reply.data.items → w = v

/-- The replies for a key that was queried twice have the same pairs. -/
def Agree (u : AmUtils) (answers : List (String × CounterReply)) : Prop :=
  ∀ a ∈ answers, ∀ b ∈ answers, a.1 = b.1 →
    ∀ e, e ∈ pairsOf u a.2.data.items → e ∈ pairsOf u b.2.data.items

/-- Some reply is taken for an error, or all are clean and agree. -/
def DataMeets (u : AmUtils) (api : AmArgApi) (answers : List (String × CounterReply)) : Prop :=
  (∃ a ∈ answers, fails u api a.2 = true) ∨ (∀ a ∈ answers, Clean u a.2) ∧ Agree u answers

variable {u : AmUtils} {api : AmArgApi}

/-! ### Pairs that are read -/

theorem readPair_eq_none_iff {node value : CounterData} :
    readPair u node value = none ↔ Reply2Int u node = none ∨ Reply2Int u value = none := by
  unfold readPair
  cases Reply2Int u node <;> simp

/-- Of an array of even length, all pairs are read exactly when all elements are. -/
theorem any_isNone_readPairs {items : List CounterData} (heven : Even items.length) :
    (readPairs u api items).any Option.isNone = false ↔
      ∀ item ∈ items, Reply2Int u item ≠ none := by
  induction items using readPairs.induct with
  | case1 => simp [readPairs]
  | case2 node => exact absurd heven (by simp)
  | case3 node value items ih =>
    have hrest : Even items.length := by
      simpa [Nat.even_add_one] using heven
    rw [readPairs, List.any_cons, Bool.or_eq_false_iff, ih hrest, List.forall_mem_cons,
      List.forall_mem_cons, ← and_assoc, Option.isNone_eq_false_iff, ← not_or,
      ← readPair_eq_none_iff, Option.isSome_iff_ne_none]

theorem reduceOption_readPairs {items : List CounterData} (heven : Even items.length) :
    (readPairs u api items).reduceOption = pairsOf u items := by
  induction items using readPairs.induct with
  | case1 => rfl
  | case2 node => exact absurd heven (by simp)
  | case3 node value items ih =>
    have hrest : Even items.length := by
      simpa [Nat.even_add_one] using heven
    rw [readPairs, pairsOf, ← ih hrest]
    cases readPair u node value <;> rfl

theorem success_of_not_fails {reply : CounterReply} (h : fails u api reply = false) :
    reply.result = .SuccessReply := by
  cases hresult : reply.result <;> simp_all [fails]

theorem readPairs_of_not_fails {reply : CounterReply} {items : List CounterData}
    (h : fails u api reply = false) (hdata : reply.data = .array items) :
    (readPairs u api items).any Option.isNone = false := by
  have hsuccess := success_of_not_fails h
  simpa only [fails, hsuccess, hdata] using h

/-- A reply that is no error is parsable when it is an array of even length. -/
theorem parsable_iff {key : String} {reply : CounterReply} (h : fails u api reply = false) :
    Parsable u api (.HGETALL key, reply) ↔
      ∃ items, reply.data = .array items ∧ Even items.length := by
  constructor
  · intro ⟨_, items, hdata, heven, _⟩
    exact ⟨items, hdata, heven⟩
  · intro ⟨items, hdata, heven⟩
    have hread := (any_isNone_readPairs heven).mp (readPairs_of_not_fails h hdata)
    exact ⟨success_of_not_fails h, items, hdata, heven, hread⟩

/-! ### Nodes that are stored -/

/-- The nodes stored for a reply. -/
def storedNodes (u : AmUtils) (api : AmArgApi) (reply : CounterReply) : Nodes :=
  pushNodes none (readPairs u api reply.data.items).reduceOption

theorem int2str_injective : Function.Injective int2str := fun _ _ h =>
  formatInt_injective (String.ofList_injective h)

theorem lookup_storedNodes (reply : CounterReply) (node : String) :
    ((storedNodes u api reply).getD []).lookup node =
      Listing.last ((readPairs u api reply.data.items).reduceOption.map
        fun p => (nodeText p.1, p.2)) node := by
  unfold storedNodes
  rw [getD_pushNodes, Listing.lookup_assign]
  exact Option.or_none

/-- Every node that is stored under the text of a number fits an unsigned one. -/
theorem range_of_lookup {reply : CounterReply} {n v : Int}
    (h : ((storedNodes u api reply).getD []).lookup (int2str n) = some v) :
    0 ≤ n ∧ n < 2 ^ 32 := by
  rw [lookup_storedNodes] at h
  obtain ⟨p, -, hp⟩ := List.mem_map.mp (Listing.mem_of_last h)
  have htext : int2str (p.1 % 2 ^ 32) = int2str n := congrArg Prod.fst hp
  rw [← int2str_injective htext]
  exact ⟨Int.emod_nonneg _ (by decide), Int.emod_lt_of_pos _ (by decide)⟩

/-- **The nodes of a clean reply are stored as they are.** -/
theorem Clean.exact {reply : CounterReply} (h : Clean u reply) :
    Exact u reply (storedNodes u api reply) := by
  obtain ⟨items, hdata, heven⟩ := h.array
  have hitems : reply.data.items = items := by rw [hdata]; rfl
  have hread : (readPairs u api reply.data.items).reduceOption =
      pairsOf u reply.data.items := reduceOption_readPairs (by rw [hitems]; exact heven)
  have htext : ∀ n v, (n, v) ∈ pairsOf u reply.data.items → nodeText n = int2str n := by
    intro n v hmem
    obtain ⟨hlow, hhigh⟩ := h.range n v hmem
    rw [nodeText, Int.emod_eq_of_lt hlow hhigh]
  have hmem : ∀ node value, (node, value) ∈ (pairsOf u reply.data.items).map
      (fun p => (nodeText p.1, p.2)) ↔
        ∃ n, (n, value) ∈ pairsOf u reply.data.items ∧ node = int2str n := by
    intro node value
    rw [List.mem_map]
    constructor
    · intro ⟨p, hp, heq⟩
      obtain ⟨hnode, hvalue⟩ := Prod.mk.inj heq
      have hpair : (p.1, value) ∈ pairsOf u reply.data.items := hvalue ▸ hp
      exact ⟨p.1, hpair, hnode.symm.trans (htext p.1 value hpair)⟩
    · intro ⟨n, hpair, hnode⟩
      exact ⟨(n, value), hpair, Prod.ext ((htext n value hpair).trans hnode.symm) rfl⟩
  intro node value
  rw [lookup_storedNodes, hread, Listing.last_eq_some_iff, hmem]
  -- two values of one node come from two pairs of one number
  intro w hvalue hw
  obtain ⟨n, hn, hnode⟩ := (hmem node value).mp hvalue
  obtain ⟨n', hn', hnode'⟩ := (hmem node w).mp hw
  have hsame : n' = n := int2str_injective (hnode'.symm.trans hnode)
  exact h.single n value w hn (hsame ▸ hn')

/-! ### The whole result -/

theorem Exact.mem_iff {reply : CounterReply} {nodes : Nodes} (h : Exact u reply nodes)
    {n v : Int} :
    (n, v) ∈ pairsOf u reply.data.items ↔ (nodes.getD []).lookup (int2str n) = some v := by
  rw [h]
  constructor
  · intro hmem
    exact ⟨n, hmem, rfl⟩
  · intro ⟨n', hmem, htext⟩
    rw [int2str_injective htext]
    exact hmem

/-- The replies are stored as assignments to their keys. -/
theorem foldl_store {answers : List (String × CounterReply)}
    (harray : ∀ a ∈ answers, ∃ items, a.2.data = .array items)
    (result : List (String × Nodes)) :
    answers.foldl (store u api) result =
      Listing.assign result (answers.map fun a => (a.1, storedNodes u api a.2)) := by
  induction answers generalizing result with
  | nil => rfl
  | cons a answers ih =>
    obtain ⟨⟨items, hdata⟩, hrest⟩ := List.forall_mem_cons.mp harray
    have hstore : store u api result a = Assoc.set result a.1 (storedNodes u api a.2) := by
      unfold store storedNodes
      rw [hdata]
      rfl
    rw [List.foldl_cons, hstore, ih hrest]
    rfl

/-- What the result holds for a key is stored for a reply to that key. -/
theorem lookup_stored {answers : List (String × CounterReply)} {key : String} {nodes : Nodes}
    (harray : ∀ a ∈ answers, ∃ items, a.2.data = .array items)
    (h : (answers.foldl (store u api) []).lookup key = some nodes) :
    ∃ a ∈ answers, a.1 = key ∧ storedNodes u api a.2 = nodes := by
  rw [foldl_store harray, Listing.lookup_assign, List.lookup_nil, Option.or_none] at h
  obtain ⟨a, ha, heq⟩ := List.mem_map.mp (Listing.mem_of_last h)
  obtain ⟨hkey, hnodes⟩ := Prod.mk.inj heq
  exact ⟨a, ha, hkey, hnodes⟩

/-- The result holds something for each key. -/
theorem exists_lookup_stored {answers : List (String × CounterReply)}
    (harray : ∀ a ∈ answers, ∃ items, a.2.data = .array items)
    {a : String × CounterReply} (ha : a ∈ answers) :
    ∃ nodes, (answers.foldl (store u api) []).lookup a.1 = some nodes := by
  rw [foldl_store harray, Listing.lookup_assign, List.lookup_nil, Option.or_none,
    ← Option.ne_none_iff_exists']
  intro hnone
  rw [Listing.last_eq_none_iff, List.map_map] at hnone
  exact hnone (List.mem_map_of_mem ha)

/-- A result with the pairs of every reply comes from clean replies. -/
theorem clean_of_maps {answers : List (String × CounterReply)}
    (heven : ∀ a ∈ answers, ∃ items, a.2.data = .array items ∧ Even items.length)
    (hmaps : Maps u (answers.foldl (store u api) []) answers) :
    (∀ a ∈ answers, Clean u a.2) ∧ Agree u answers := by
  have harray : ∀ a ∈ answers, ∃ items, a.2.data = .array items := fun a ha =>
    (heven a ha).imp fun _ => And.left
  constructor
  · intro a ha
    obtain ⟨nodes, hnodes, hexact⟩ := hmaps.own a ha
    obtain ⟨b, -, -, hstored⟩ := lookup_stored harray hnodes
    refine ⟨heven a ha, ?_, ?_⟩
    · intro n v hmem
      rw [hexact.mem_iff, ← hstored] at hmem
      exact range_of_lookup hmem
    · intro n v w hv hw
      rw [hexact.mem_iff] at hv hw
      exact Option.some.inj (hw.symm.trans hv)
  · intro a ha b hb hkey e hmem
    obtain ⟨nodes, hnodes, hexact⟩ := hmaps.own a ha
    obtain ⟨nodes', hnodes', hexact'⟩ := hmaps.own b hb
    have hsame : nodes = nodes' := by
      rw [hkey] at hnodes
      exact Option.some.inj (hnodes.symm.trans hnodes')
    rw [← hsame] at hexact'
    exact hexact'.mem_iff.mpr (hexact.mem_iff.mp hmem)

variable (api) in
/-- Clean replies that agree are stored with their pairs. -/
theorem maps_of_clean {answers : List (String × CounterReply)}
    (hclean : ∀ a ∈ answers, Clean u a.2) (hagree : Agree u answers) :
    Maps u (answers.foldl (store u api) []) answers := by
  have harray : ∀ a ∈ answers, ∃ items, a.2.data = .array items := fun a ha =>
    (hclean a ha).array.imp fun _ => And.left
  constructor
  · intro a ha
    obtain ⟨nodes, hnodes⟩ : ∃ nodes,
        (answers.foldl (store u api) []).lookup a.1 = some nodes :=
      exists_lookup_stored harray ha
    obtain ⟨b, hb, hkey, hstored⟩ := lookup_stored harray hnodes
    have hexact : Exact u b.2 nodes := hstored ▸ (hclean b hb).exact
    refine ⟨nodes, hnodes, fun node value => (hexact node value).trans ?_⟩
    -- the reply to the last `HGETALL` of the key agrees with this one
    constructor
    · intro ⟨n, hmem, hnode⟩
      exact ⟨n, hagree b hb a ha hkey _ hmem, hnode⟩
    · intro ⟨n, hmem, hnode⟩
      exact ⟨n, hagree a ha b hb hkey.symm _ hmem, hnode⟩
  · intro key nodes hnodes
    obtain ⟨a, ha, hkey, -⟩ := lookup_stored harray hnodes
    exact hkey ▸ List.mem_map_of_mem ha

/-- **Without an error the result is right exactly when all replies are clean and
    agree.** -/
theorem maps_iff {answers : List (String × CounterReply)}
    (hfails : ∀ a ∈ answers, fails u api a.2 = false) :
    (∀ a ∈ answers, Parsable u api (.HGETALL a.1, a.2)) ∧
        Maps u (answers.foldl (store u api) []) answers ↔
      (∀ a ∈ answers, Clean u a.2) ∧ Agree u answers := by
  constructor
  · intro ⟨hparsable, hmaps⟩
    have heven : ∀ a ∈ answers, ∃ items, a.2.data = .array items ∧ Even items.length :=
      fun a ha => (parsable_iff (hfails a ha)).mp (hparsable a ha)
    exact clean_of_maps heven hmaps
  · intro ⟨hclean, hagree⟩
    have hparsable : ∀ a ∈ answers, Parsable u api (.HGETALL a.1, a.2) := fun a ha =>
      (parsable_iff (hfails a ha)).mpr (hclean a ha).array
    exact ⟨hparsable, maps_of_clean api hclean hagree⟩

/-! ### Requests -/

/-- When the first reply names keys, all of them are read, and the other replies meet
    `DataMeets`. -/
def KeysMeet (u : AmUtils) (api : AmArgApi) : List CounterReply → Prop
  | [] => True
  | reply :: rest =>
    ∀ items, reply.result = .SuccessReply → reply.data = .array items → items ≠ [] →
      ∃ keys, items.mapM api.asCStr = some keys ∧ DataMeets u api (keys.zip rest)

/-- What the replies of Redis to a request have to meet. -/
def Meets (u : AmUtils) (api : AmArgApi) (type id : Int) (ok : Bool)
    (replies : List CounterReply) : Prop :=
  ok = true →
    if type ≠ ANY_VALUE ∧ id ≠ ANY_VALUE then
      DataMeets u api ([(GetAllResources.create type id).res_key].zip replies)
    else KeysMeet u api replies

theorem answersOf_append (log log' : List (ReadCommand × CounterReply)) :
    answersOf (log ++ log') = answersOf log ++ answersOf log' := List.filterMap_append

theorem answersOf_zip (keys : List String) (replies : List CounterReply) :
    answersOf ((keys.map ReadCommand.HGETALL).zip replies) = keys.zip replies := by
  unfold answersOf
  rw [List.zip_map_left, List.filterMap_map]
  exact List.filterMap_some

/-- Nothing is expected of an error. -/
theorem repliesOnce_of_error {out : Served} {code : Nat} {message : String}
    (h : out.posted = [.error code message]) : RepliesOnce u api out :=
  ⟨.error code message, h, fun _ hsuccess => RpcReply.noConfusion hsuccess⟩

theorem repliesOnce_of_success {out : Served} {result : List (String × Nodes)}
    (h : out.posted = [.success result]) :
    RepliesOnce u api out ↔
      (∀ e ∈ out.log, Parsable u api e) ∧ Maps u result (answersOf out.log) := by
  constructor
  · intro ⟨r, hr, hsuccess⟩
    rw [h] at hr
    exact hsuccess result (List.cons.inj hr).1.symm
  · intro hright
    refine ⟨_, h, fun result' hsame => ?_⟩
    rw [← RpcReply.success.inj hsame]
    exact hright

/-- The replies to `HGETALL`, after some that are parsable and not to `HGETALL`. -/
theorem repliesOnce_data_iff {q : GetAllResources} {keys : List String}
    {replies : List CounterReply} {out : Served} {log : List (ReadCommand × CounterReply)}
    (h : ServedData u api q keys replies out) (hiserror : q.iserror = false)
    (hresult : q.result = []) (hanswers : answersOf log = [])
    (hlog : ∀ e ∈ log, Parsable u api e) :
    RepliesOnce u api { out with log := log ++ out.log } ↔
      DataMeets u api (keys.zip replies) := by
  have hsnd : (keys.zip replies).map Prod.snd = replies := List.map_snd_zip h.length.ge
  by_cases hfail : ∃ a ∈ keys.zip replies, fails u api a.2 = true
  · obtain ⟨a, ha, hfails⟩ := hfail
    have hmem : a.2 ∈ replies := hsnd ▸ List.mem_map_of_mem ha
    obtain ⟨code, message, hposted⟩ := h.failed (.inr ⟨a.2, hmem, hfails⟩)
    exact iff_of_true (repliesOnce_of_error hposted) (.inl ⟨a, ha, hfails⟩)
  · have hfails : ∀ a ∈ keys.zip replies, fails u api a.2 = false := fun a ha =>
      Bool.not_eq_true _ ▸ fun htrue => hfail ⟨a, ha, htrue⟩
    have hclean : ∀ reply ∈ replies, fails u api reply = false := by
      rw [← hsnd]
      exact List.forall_mem_map.mpr hfails
    have hposted := h.succeeded hiserror hclean
    rw [hresult] at hposted
    have hlogs : (∀ e ∈ log ++ out.log, Parsable u api e) ↔
        ∀ a ∈ keys.zip replies, Parsable u api (.HGETALL a.1, a.2) := by
      rw [h.log, List.zip_map_left, List.forall_mem_append, List.forall_mem_map]
      exact and_iff_right hlog
    have hall : answersOf (log ++ out.log) = keys.zip replies := by
      rw [answersOf_append, hanswers, h.log, answersOf_zip, List.nil_append]
    have hdata : DataMeets u api (keys.zip replies) ↔
        (∀ a ∈ keys.zip replies, Clean u a.2) ∧ Agree u (keys.zip replies) :=
      or_iff_right hfail
    have honce : RepliesOnce u api { out with log := log ++ out.log } ↔
        (∀ e ∈ log ++ out.log, Parsable u api e) ∧
          Maps u ((keys.zip replies).foldl (store u api) []) (answersOf (log ++ out.log)) :=
      repliesOnce_of_success hposted
    rw [honce, hlogs, hall, hdata]
    exact maps_iff hfails

/-! ### The two kinds of requests -/

theorem repliesOnce_single_iff {type id : Int} {replies : List CounterReply} {out : Served}
    (hsingle : type ≠ ANY_VALUE ∧ id ≠ ANY_VALUE)
    (h : get_resource_state u api type id true replies = some out) :
    RepliesOnce u api out ↔
      DataMeets u api ([(GetAllResources.create type id).res_key].zip replies) := by
  have hstart : GetAllResources.create type id =
      { res_key := (GetAllResources.create type id).res_key, state := .GET_SINGLE_KEY } := by
    unfold GetAllResources.create
    rw [if_pos hsingle]
  generalize (GetAllResources.create type id).res_key = key at hstart ⊢
  unfold get_resource_state at h
  rw [hstart] at h
  have hserved : ServedData u api
      { res_key := key, state := .GET_DATA, keys := [key], commands_count := 1 }
      [key] replies out :=
    serve_data rfl rfl (List.nil_append _).symm rfl (List.cons_ne_nil _ _) h
  have hnone : ∀ e ∈ ([] : List (ReadCommand × CounterReply)), Parsable u api e :=
    fun e he => absurd he List.not_mem_nil
  exact repliesOnce_data_iff hserved rfl rfl rfl hnone


/-- A reply to `KEYS` that is no array with elements ends the query with an error. -/
theorem getKeys_error {q : GetAllResources} {reply : CounterReply}
    (h : ¬ (reply.result = .SuccessReply ∧
      ∃ items, reply.data = .array items ∧ items ≠ [])) :
    ∃ code message,
      q.getKeys api reply = some ({ q.on_error code message with state := .FINISH }, []) := by
  unfold GetAllResources.getKeys
  by_cases hsuccess : reply.result = .SuccessReply
  · rw [if_neg (not_not.mpr hsuccess)]
    cases hdata : reply.data with
    | array items =>
      cases items with
      | nil => exact ⟨404, "no resources matched", rfl⟩
      | cons item items => exact absurd ⟨hsuccess, _, hdata, List.cons_ne_nil _ _⟩ h
    | undef => exact ⟨404, "no resources matched", rfl⟩
    | number _ | cstr _ | other => exact ⟨500, "unexpected type of the result data", rfl⟩
  · exact ⟨500, "no reply from storage", if_pos hsuccess⟩

/-- The keys that were found are queried; with one that is no string, the query ends
    without any reply. -/
theorem getKeys_array {q : GetAllResources} {reply : CounterReply} {items : List CounterData}
    (hsuccess : reply.result = .SuccessReply) (hdata : reply.data = .array items)
    (hne : items ≠ []) :
    q.getKeys api reply = (items.mapM api.asCStr).map fun keys =>
      ({ q with
          state := .GET_DATA, commands_count := items.length, keys := q.keys ++ keys },
        (q.keys ++ keys).map .HGETALL) := by
  unfold GetAllResources.getKeys
  rw [if_neg (not_not.mpr hsuccess), hdata]
  cases items with
  | nil => exact absurd rfl hne
  | cons item items => rfl

theorem posted_of_unserved {posted : List RpcReply} {pending : List ReadCommand}
    {replies : List CounterReply} {out : Served}
    (h : unserved posted pending replies = some out) : out.posted = posted := by
  obtain ⟨-, hout⟩ := Option.ite_none_right_eq_some.mp h
  rw [← Option.some.inj hout]

/-- The sequence that has posted `KEYS`. -/
def asked (pattern : String) : GetAllResources := { res_key := pattern, state := .GET_KEYS }

/-- What the reply to `KEYS` makes of the query. -/
theorem serve_asked {pattern : String} {reply : CounterReply} {rest : List CounterReply}
    {out : Served}
    (h : serve u api (asked pattern) [.KEYS pattern] (reply :: rest) = some out) :
    ∃ out', out = { out' with log := (.KEYS pattern, reply) :: out'.log } ∧
      (match (asked pattern).getKeys api reply with
        | some r =>
          if r.1.state = .FINISH then unserved r.1.posted r.2 rest
          else serve u api r.1 r.2 rest
        | none => unserved [] [] rest) = some out' := by
  obtain ⟨out', hrest, rfl⟩ := Option.map_eq_some_iff.mp h
  refine ⟨out', rfl, ?_⟩
  have hprocess : (asked pattern).processRedisReply u api reply =
      ((asked pattern).getKeys api reply).map fun r => (r.1, r.2, r.1.state == .FINISH) := rfl
  rw [hprocess] at hrest
  cases hkeys : (asked pattern).getKeys api reply with
  | none =>
    rw [hkeys] at hrest
    exact hrest
  | some r =>
    rw [hkeys, Option.map_some] at hrest
    by_cases hfinish : r.1.state = .FINISH
    · rw [beq_iff_eq.mpr hfinish] at hrest
      show (if r.1.state = .FINISH then _ else _) = _
      rw [if_pos hfinish]
      exact hrest
    · rw [beq_eq_false_iff_ne.mpr hfinish] at hrest
      show (if r.1.state = .FINISH then _ else _) = _
      rw [if_neg hfinish]
      exact hrest

/-- The keys were found and their values come. -/
theorem repliesOnce_found_iff {pattern : String} {reply : CounterReply}
    {rest : List CounterReply} {out : Served} {items : List CounterData} {keys : List String}
    (hsuccess : reply.result = .SuccessReply) (hdata : reply.data = .array items)
    (hne : items ≠ []) (hmap : items.mapM api.asCStr = some keys)
    (h : serve u api
      { asked pattern with state := .GET_DATA, commands_count := items.length, keys }
      (keys.map .HGETALL) rest = some out) :
    RepliesOnce u api { out with log := (.KEYS pattern, reply) :: out.log } ↔
      DataMeets u api (keys.zip rest) := by
  have hlength : keys.length = items.length := List.length_of_mapM hmap
  have hkeys : keys ≠ [] := fun hnil => by simp [hnil, eq_comm, hne] at hlength
  have hserved : ServedData u api
      { asked pattern with state := .GET_DATA, commands_count := items.length, keys }
      keys rest out :=
    serve_data rfl rfl (List.nil_append _).symm (congrArg Int.ofNat hlength.symm) hkeys h
  have hparsable : ∀ e ∈ [(ReadCommand.KEYS pattern, reply)], Parsable u api e := by
    intro e he
    rw [List.mem_singleton.mp he]
    exact ⟨hsuccess, items, keys, hdata, hmap⟩
  exact repliesOnce_data_iff hserved rfl rfl rfl hparsable

theorem repliesOnce_keys_iff {type id : Int} {replies : List CounterReply} {out : Served}
    (hany : ¬ (type ≠ ANY_VALUE ∧ id ≠ ANY_VALUE))
    (h : get_resource_state u api type id true replies = some out) :
    RepliesOnce u api out ↔ KeysMeet u api replies := by
  have hstart : GetAllResources.create type id =
      { res_key := (GetAllResources.create type id).res_key, state := .INITIAL } := by
    unfold GetAllResources.create
    rw [if_neg hany]
  generalize (GetAllResources.create type id).res_key = pattern at hstart
  unfold get_resource_state at h
  rw [hstart] at h
  cases replies with
  | nil => contradiction
  | cons reply rest =>
    have hserve : serve u api (asked pattern) [.KEYS pattern] (reply :: rest) = some out := h
    obtain ⟨out, rfl, hrest⟩ := serve_asked hserve
    by_cases hfound : reply.result = .SuccessReply ∧
        ∃ items, reply.data = .array items ∧ items ≠ []
    · obtain ⟨hsuccess, items, hdata, hne⟩ := hfound
      rw [getKeys_array hsuccess hdata hne] at hrest
      have hmeets : KeysMeet u api (reply :: rest) ↔
          ∃ keys, items.mapM api.asCStr = some keys ∧ DataMeets u api (keys.zip rest) := by
        constructor
        · intro h
          exact h items hsuccess hdata hne
        · intro h items' _ hdata' _
          rw [← CounterData.array.inj (hdata.symm.trans hdata')]
          exact h
      rw [hmeets]
      cases hmap : items.mapM api.asCStr with
      | none =>
        -- the exception leaves no reply at all
        rw [hmap] at hrest
        have hposted : out.posted = [] := posted_of_unserved hrest
        refine iff_of_false ?_ ?_
        · intro ⟨r, hr, _⟩
          exact List.cons_ne_nil r [] (hr.symm.trans hposted)
        · intro ⟨keys, hkeys, _⟩
          contradiction
      | some keys =>
        rw [hmap] at hrest
        rw [repliesOnce_found_iff hsuccess hdata hne hmap hrest]
        simp only [Option.some.injEq, exists_eq_left']
    · obtain ⟨code, message, herror⟩ : ∃ code message,
          (asked pattern).getKeys api reply = some
            ({ (asked pattern).on_error code message with state := .FINISH }, []) :=
        getKeys_error hfound
      rw [herror] at hrest
      have hposted : out.posted = [.error code message] := posted_of_unserved hrest
      refine iff_of_true (repliesOnce_of_error hposted) ?_
      intro items hsuccess hdata hne
      exact absurd ⟨hsuccess, items, hdata, hne⟩ hfound

/-- A request whose first command cannot be posted is answered at once. -/
theorem posted_of_not_ok {type id : Int} {replies : List CounterReply} {out : Served}
    (h : get_resource_state u api type id false replies = some out) :
    out.posted = [.error 500 "failed to post redis request"] := by
  have hserve : ∀ q : GetAllResources, serve u api q [] replies = some out →
      out.posted = q.posted := by
    intro q hq
    cases replies with
    | nil => rw [← Option.some.inj hq]
    | cons reply rest => contradiction
  unfold get_resource_state GetAllResources.create at h
  by_cases hsingle : type ≠ ANY_VALUE ∧ id ≠ ANY_VALUE
  · rw [if_pos hsingle] at h
    exact hserve _ h
  · rw [if_neg hsingle] at h
    exact hserve _ h

/-- **A query is answered as it should be exactly when the replies of Redis meet
    `Meets`**, whatever they are. -/
theorem get_resource_state_once_iff {type id : Int} {ok : Bool} {replies : List CounterReply}
    {out : Served} (h : get_resource_state u api type id ok replies = some out) :
    RepliesOnce u api out ↔ Meets u api type id ok replies := by
  unfold Meets
  cases ok with
  | false =>
    refine iff_of_true (repliesOnce_of_error (posted_of_not_ok h)) ?_
    intro hok
    contradiction
  | true =>
    rw [forall_prop_of_true rfl]
    by_cases hsingle : type ≠ ANY_VALUE ∧ id ≠ ANY_VALUE
    · rw [if_pos hsingle]
      exact repliesOnce_single_iff hsingle h
    · rw [if_neg hsingle]
      exact repliesOnce_keys_iff hsingle h

/-- A value of another type is refused. -/
def CounterData.text : CounterData → Option String
  | .cstr s => some (String.ofList s)
  | _ => none

/-- `asCStr` with a check, and an index that extends the array by an undefined element. -/
def AmArgApi.checked : AmArgApi where
  asCStr := CounterData.text
  past_end := some .undef
  asCStr_cstr _ := rfl

/-- Two keys are found, and each has its own value for the node 1. -/
theorem get_resource_state_once_iff_two_keys :
    ∃ out, get_resource_state AmUtils.decimal .checked 0 (-1) true
        [⟨.SuccessReply, .array [.cstr ['a'], .cstr ['b']]⟩,
          ⟨.SuccessReply, .array [.cstr ['1'], .cstr ['5']]⟩,
          ⟨.SuccessReply, .array [.number 1, .array [.number 3, .undef]]⟩] = some out ∧
      (RepliesOnce AmUtils.decimal .checked out ↔
        Meets AmUtils.decimal .checked 0 (-1) true
          [⟨.SuccessReply, .array [.cstr ['a'], .cstr ['b']]⟩,
            ⟨.SuccessReply, .array [.cstr ['1'], .cstr ['5']]⟩,
            ⟨.SuccessReply, .array [.number 1, .array [.number 3, .undef]]⟩]) :=
  ⟨_, rfl, get_resource_state_once_iff rfl⟩

/-- An integer as the reply to `HGETALL` is passed over, and the query succeeds without
    the key. -/
theorem get_resource_state_no_array :
    ∃ out, get_resource_state AmUtils.decimal .checked 0 472 true
        [⟨.SuccessReply, .number 3⟩] = some out ∧
      ¬ RepliesOnce AmUtils.decimal .checked out := by
  refine ⟨_, rfl, ?_⟩
  intro ⟨r, hr, hsuccess⟩
  have hposted : r = .success [] := (List.cons.inj hr).1.symm
  obtain ⟨hparsable, -⟩ := hsuccess [] hposted
  obtain ⟨-, items, hdata, -⟩ := hparsable _ (List.mem_singleton_self _)
  contradiction

end Yeti.Resources
