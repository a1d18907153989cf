import Yeti.Registrar.KeepAlive

/-! # Contexts and bindings

    When nothing is on the way and the subscription is active, the contexts should be
    those of this node's bindings.  The messages of the two connections are not ordered,
    and neither the replies nor the notifications say when they were made, so this only
    holds for orderly runs: no binding goes away while a reply that lists it is on the
    way or while the snapshot is not yet followed by a subscription, and so on (`Orderly`).
    In such runs the contexts are the bindings up to what is on the way (`Mirrors`).
-/

open LTS

namespace Yeti.Registrar

variable (node_id : String) (parse_uri : String → Bool)

/-! ### What is claimed -/

/-- The key is that of a binding of this node. -/
def Mine (db : Db) (key : String) : Prop := ∃ h ∈ db.hashes key, h.node_id = node_id

namespace Node

/-- Nothing is on the way, and Redis sends notifications. -/
def Quiescent (s : Node) : Prop := s.replies = [] ∧ s.subscription = .active []

/-- The contexts are those of this node's bindings. -/
def ContextsExact (s : Node) : Prop :=
  ∀ key, (s.keepalive_contexts key).isSome = true ↔ Mine node_id s.db key

/-! ### Orderly runs -/

/-- The keys that a reply makes contexts for. -/
def keysOf (r : Reply) : List String := (usedEntries parse_uri r).map Entry.contact_key

/-- A reply on the way lists the key. -/
def Listed (s : Node) (key : String) : Prop := ∃ r ∈ s.replies, key ∈ keysOf parse_uri r

/-- The snapshot was taken. -/
def Loaded (s : Node) : Prop :=
  match s.subscription with
  | .down => False
  | .connected => False
  | _ => True

/-- The snapshot was taken and Redis does not send notifications yet. -/
def Window (s : Node) : Prop :=
  match s.subscription with
  | .loaded _ => True
  | .subscribing => True
  | _ => False

/-- There will be a context for the key once the messages of the subscription connection are
    processed. -/
def Expected (s : Node) (key : String) : Prop :=
  match s.subscription with
  | .loaded rows => ∃ d ∈ rows, d.node_id = node_id ∧ d.key = key
  | .subscribing => (s.keepalive_contexts key).isSome = true
  | .active notifications =>
    (s.keepalive_contexts key).isSome = true ∧ key ∉ notifications
  | _ => False

/-- The key may be deleted: it is not one of this node's bindings, or no reply on the way lists
    it and the deletion will be notified or the snapshot is still to be taken. -/
def MayGo (s : Node) (key : String) : Prop :=
  Mine node_id s.db key → ¬ Listed parse_uri s key ∧ ¬ Window s

/-- A reply that lists the key may be processed: no notification for it is on the way and no
    snapshot without it. -/
def MayUpdate (s : Node) (key : String) : Prop :=
  match s.subscription with
  | .loaded rows => ∃ d ∈ rows, d.node_id = node_id ∧ d.key = key
  | .active notifications => key ∉ notifications
  | _ => True

/-- Only bindings of this node are returned, and their contacts can be used. -/
def Usable (r : Reply) (db : Db) : Prop :=
  match r with
  | .bindings l => ∀ d ∈ l, Mine node_id db d.contact_key ∧ d ∈ usedEntries parse_uri r
  | _ => True

/-- The condition on steps. -/
def Orderly (s : Node) : NodeLabel → Prop
  | .registerHere id argv =>
    let argv := { argv with node_id := node_id }
    let r := register id argv s.db
    Usable node_id parse_uri r.1 r.2 ∧
    ∀ key ∈ delEvents id argv s.db, MayGo node_id parse_uri s key
  | .registerElsewhere id argv =>
    (∀ key ∈ delEvents id argv s.db, MayGo node_id parse_uri s key) ∧
    -- no other node takes over a binding of this node
    ∀ key ∈ boundKey id argv s.db, Mine node_id s.db key →
      ¬ Listed parse_uri s key ∧ ¬ Loaded s
  | .expired key => MayGo node_id parse_uri s key
  | .replyProcessed => ∀ r ∈ s.replies.head?, ∀ key ∈ keysOf parse_uri r, MayUpdate node_id s key
  | .replyLost => ∀ r ∈ s.replies.head?, ∀ key ∈ keysOf parse_uri r,
      Loaded s → Expected node_id s key
  | _ => True

/-! ### The invariant -/

/-- What holds between any two steps of an orderly run. -/
structure Mirrors (s : Node) : Prop where
  inv : Inv s.db
  scanned : ∀ key, (s.db.hashes key).isSome = true → key ∈ s.keyspace
  format : ∀ key ∈ s.keyspace, ∃ id c, key = contactKey id c
  listed : ∀ key, Listed parse_uri s key → Mine node_id s.db key
  known : Loaded s → ∀ key, Mine node_id s.db key → Listed parse_uri s key ∨ Expected node_id s key
  expected : ∀ key, Expected node_id s key → Mine node_id s.db key

end Node

/-! ### The store under an invocation -/

variable {node_id parse_uri}
variable {id : AuthId} {argv : Argv} {db : Db}

theorem mine_congr {db db' : Db} {key : String} (h : db'.hashes key = db.hashes key) :
    Mine node_id db' key ↔ Mine node_id db key := by
  unfold Mine
  rw [h]

theorem not_mine_of_none {db : Db} {key : String} (h : db.hashes key = none) :
    ¬ Mine node_id db key := by
  rintro ⟨hash, hhash, -⟩
  rw [h] at hhash
  cases hhash

/-- What an invocation does to a key: it is deleted, bound anew or left as it was. -/
def Changed (id : AuthId) (argv : Argv) (db : Db) (key : String) : Prop :=
  (key ∈ delEvents id argv db ∧ (register id argv db).2.hashes key = none) ∨
  (key ∉ delEvents id argv db ∧ boundKey id argv db = some key ∧
    ∃ expires, (register id argv db).2.hashes key = some (newHash argv expires)) ∨
  (key ∉ delEvents id argv db ∧ boundKey id argv db ≠ some key ∧
    (register id argv db).2.hashes key = db.hashes key)

/-- A key that is among those to delete is deleted if there is one; the others are left. -/
theorem changed_of_deleted {keys : List String} {key : String}
    (hevents : key ∈ delEvents id argv db ↔ key ∈ keys ∧ (db.hashes key).isSome = true)
    (hbound : boundKey id argv db ≠ some key)
    (hhashes : (register id argv db).2.hashes key = if key ∈ keys then none else db.hashes key) :
    Changed id argv db key := by
  unfold Changed
  rw [hevents, hhashes]
  by_cases hmem : key ∈ keys
  · cases hhash : db.hashes key with
    | none => simp [hmem, hbound]
    | some hash => simp [hmem]
  · simp [hmem, hbound]

theorem changed_unregisterAll (hexpires : argv.expires = .number 0) (hcontact : argv.contact = none)
    (key : String) : Changed id argv db key := by
  have hregister : (register id argv db).2 = unbindAll id db := by
    simp [register, hexpires, hcontact]
  refine @changed_of_deleted id argv db ((db.sets (authKey id)).map (contactKey id)) key ?_ ?_ ?_
  · simp only [delEvents, hexpires, hcontact, if_true, List.mem_filter]
  · simp [boundKey, hexpires, hcontact]
  · rw [hregister, hashes_unbindAll]

theorem changed_unregister (h : Inv db) {contact : String} (hexpires : argv.expires = .number 0)
    (hcontact : argv.contact = some contact) (key : String) : Changed id argv db key := by
  have heffect : Effect id argv db (register id argv db).1 (register id argv db).2 := by
    apply effect_of_not_bind h id
    intro n c hn _
    rw [hexpires] at hn
    cases hn
    rfl
  have hhashes : (register id argv db).2.hashes =
      Function.update db.hashes (contactKey id contact) none := by
    simpa [Effect, hexpires, hcontact] using heffect
  refine @changed_of_deleted id argv db [contactKey id contact] key ?_ ?_ ?_
  · simp [delEvents, hexpires, hcontact]
  · simp [boundKey, hexpires, hcontact]
  · rw [hhashes, Function.update_apply]
    simp only [List.mem_singleton]

theorem changed_bind (h : Inv db) {contact : String} {expires : Int}
    (hexpires : argv.expires = .number expires) (hcontact : argv.contact = some contact)
    (hzero : expires ≠ 0) (key : String) : Changed id argv db key := by
  have hregister := register_bind h id hcontact hexpires hzero
  by_cases hroom : (liveContacts db id).length < 10
  · rw [if_pos hroom] at hregister
    unfold Changed
    rw [hregister.2]
    by_cases hkey : key = contactKey id contact
    · rw [hkey, Function.update_self]
      by_cases hneg : expires < 0
      · left
        refine ⟨by simp [delEvents, hexpires, hcontact, hzero, hneg, hroom], ?_⟩
        rw [if_pos (by omega)]
      · right; left
        refine ⟨by simp [delEvents, hexpires, hcontact, hzero, hneg], ?_, expires, ?_⟩
        · have hpos : 0 < expires := by omega
          simp [boundKey, hexpires, hcontact, hpos, hroom]
        · rw [if_neg (by omega)]
    · right; right
      rw [Function.update_of_ne hkey]
      refine ⟨?_, ?_, rfl⟩
      · by_cases hneg : expires < 0
        · simp [delEvents, hexpires, hcontact, hzero, hneg, hroom, hkey]
        · simp [delEvents, hexpires, hcontact, hzero, hneg]
      · have hne : contactKey id contact ≠ key := fun heq => hkey heq.symm
        simp [boundKey, hexpires, hcontact, hne]
  · rw [if_neg hroom] at hregister
    right; right
    rw [hregister.2]
    exact ⟨by simp [delEvents, hexpires, hcontact, hzero, hroom],
      by simp [boundKey, hexpires, hcontact, hroom], rfl⟩

/-- Every key is deleted, bound anew or left as it was. -/
theorem hashes_register (h : Inv db) (id : AuthId) (argv : Argv) (key : String) :
    Changed id argv db key := by
  cases hexpires : argv.expires with
  | missing =>
    right; right
    refine ⟨by simp [delEvents, hexpires], by simp [boundKey, hexpires], ?_⟩
    unfold register
    rw [hexpires]
    dsimp only
    rw [hashes_get_bindings h]
  | notNumber =>
    right; right
    refine ⟨by simp [delEvents, hexpires], by simp [boundKey, hexpires], ?_⟩
    unfold register
    rw [hexpires]
  | number expires =>
    by_cases hzero : expires = 0
    · rw [hzero] at hexpires
      cases hcontact : argv.contact with
      | none => exact changed_unregisterAll hexpires hcontact key
      | some contact => exact changed_unregister h hexpires hcontact key
    · cases hcontact : argv.contact with
      | none =>
        right; right
        refine ⟨by simp [delEvents, hexpires, hcontact, hzero],
          by simp [boundKey, hexpires, hcontact], ?_⟩
        simp [register, hexpires, hcontact, hzero]
      | some contact => exact changed_bind h hexpires hcontact hzero key

/-- A key that is bound is returned. -/
theorem bound_returned (h : Inv db) {key : String} (hbound : boundKey id argv db = some key) :
    ∃ l, (register id argv db).1 = .bindings l ∧ ∃ d ∈ l, d.contact_key = key := by
  unfold boundKey at hbound
  cases hexpires : argv.expires with
  | missing => simp [hexpires] at hbound
  | notNumber => simp [hexpires] at hbound
  | number expires =>
    cases hcontact : argv.contact with
    | none => simp [hexpires, hcontact] at hbound
    | some contact =>
      simp only [hexpires, hcontact] at hbound
      split_ifs at hbound with hroom
      obtain rfl := Option.some.inj hbound
      have hregister := register_bind h id hcontact hexpires (by omega)
      rw [if_pos hroom.2, if_neg (by omega)] at hregister
      obtain ⟨⟨l, hl⟩, hhashes⟩ := hregister
      have hexact := replyExact_register h id argv
      rw [hl] at hexact
      refine ⟨l, hl, ⟨contact, expires, contactKey id contact, some (newHash argv expires).path,
        some (newHash argv expires).interface_id⟩, ?_, rfl⟩
      rw [hexact.2]
      unfold entryOf
      rw [hhashes, Function.update_self]
      rfl

/-! ### Contexts -/

theorem isSome_foldl_update (l : List Entry) (contexts : String → Option KeepAliveCtx) (key : String) :
    ((l.foldl (fun contexts d => updateKeepAliveContext contexts d.contact_key d.contact
        (d.path.getD "") (d.interface_id.getD "")) contexts) key).isSome = true ↔
      (contexts key).isSome = true ∨ key ∈ l.map Entry.contact_key := by
  induction l generalizing contexts with
  | nil => simp
  | cons d l ih =>
    rw [List.foldl_cons, ih, List.map_cons, List.mem_cons]
    unfold updateKeepAliveContext
    by_cases hkey : key = d.contact_key
    · simp [hkey]
    · simp [hkey]

theorem isSome_loadRow (contexts : String → Option KeepAliveCtx) (d : Row) (key : String) :
    (loadRow node_id contexts d key).isSome = true ↔ (contexts key).isSome = true ∨
      d.node_id = node_id ∧ d.key = key ∧ (aorOfKey key).isSome = true := by
  unfold loadRow
  by_cases hnode : d.node_id = node_id
  · rw [if_neg (not_not.mpr hnode)]
    by_cases hkey : key = d.key
    · cases haor : aorOfKey d.key with
      | none => simp [hkey, haor]
      | some aor =>
        dsimp only
        split_ifs with hthere
        · simp [hkey, hthere]
        · simp [hkey, hnode, haor]
    · have hne : d.key ≠ key := fun heq => hkey heq.symm
      cases haor : aorOfKey d.key with
      | none => simp [hne]
      | some aor =>
        dsimp only
        split_ifs
        · simp [hne]
        · simp [hkey, hne]
  · rw [if_pos hnode]
    simp [hnode]

theorem isSome_process_loaded_contacts (rows : List Row) (key : String) :
    (process_loaded_contacts node_id rows key).isSome = true ↔
      ∃ d ∈ rows, d.node_id = node_id ∧ d.key = key ∧ (aorOfKey key).isSome = true := by
  have hfold : ∀ (rows : List Row) (contexts : String → Option KeepAliveCtx),
      ((rows.foldl (loadRow node_id) contexts) key).isSome = true ↔ (contexts key).isSome = true ∨
        ∃ d ∈ rows, d.node_id = node_id ∧ d.key = key ∧ (aorOfKey key).isSome = true := by
    intro rows
    induction rows with
    | nil => simp
    | cons d rows ih =>
      intro contexts
      rw [List.foldl_cons, ih, isSome_loadRow]
      simp only [List.mem_cons, exists_eq_or_imp, or_assoc]
  unfold process_loaded_contacts
  rw [hfold]
  simp

theorem afterColon_append {cs : List Char} (h : ':' ∉ cs) (rest : List Char) :
    afterColon (cs ++ ':' :: rest) = some rest := by
  have hdrop : (cs ++ ':' :: rest).dropWhile (· ≠ ':') = ':' :: rest := by
    rw [List.dropWhile_append_of_pos]
    · simp
    · intro x hx
      have hne : x ≠ ':' := fun heq => h (heq ▸ hx)
      simpa using hne
  unfold afterColon
  rw [hdrop]

/-- The keys of bindings have the right format. -/
theorem isSome_aorOfKey (id : AuthId) (c : String) : (aorOfKey (contactKey id c)).isSome = true := by
  have hlist : (contactKey id c).toList =
      ['c'] ++ ':' :: ((toString id.toInt).toList ++ ':' :: c.toList) := by
    unfold contactKey
    simp only [String.toList_append, List.append_assoc]
    rfl
  unfold aorOfKey
  rw [hlist, afterColon_append (by decide), Option.bind_some,
    afterColon_append (colon_notMem_toString_int id.toInt)]
  rfl

/-! ### Steps of the store -/

namespace Node

variable {s s' : Node}

theorem loaded_publish (events : List String) :
    Loaded { s with subscription := s.subscription.publish events } ↔ Loaded s := by
  unfold Loaded Subscription.publish
  cases s.subscription <;> rfl

theorem loaded_of_expected {key : String} (h : Expected node_id s key) : Loaded s := by
  unfold Expected at h
  unfold Loaded
  cases hsub : s.subscription with
  | down => simp [hsub] at h
  | connected => simp [hsub] at h
  | loaded rows => trivial
  | subscribing => trivial
  | active notifications => trivial

/-- What the subscription connection will do about a key that is not notified. -/
theorem expected_publish {events : List String} {key : String} :
    Expected node_id { s with subscription := s.subscription.publish events } key ↔
      Expected node_id s key ∧ (¬ Window s → key ∉ events) := by
  unfold Expected Window Subscription.publish
  cases s.subscription with
  | down => simp
  | connected => simp
  | loaded rows => simp
  | subscribing => simp
  | active notifications =>
    simp only [List.mem_append, not_or, not_false_eq_true, forall_const, and_assoc]

/-- A change of the store: keys that are deleted may go, keys that become this node's are
    listed in the new replies, and this node loses no other key that matters. -/
theorem mirrors_changed (h : Mirrors node_id parse_uri s) {db' : Db} {keyspace' events : List String}
    {new : List Reply} (hinv : Inv db')
    (hscanned : ∀ key, (db'.hashes key).isSome = true → key ∈ keyspace')
    (hformat : ∀ key ∈ keyspace', ∃ id c, key = contactKey id c)
    (hgone : ∀ key ∈ events, db'.hashes key = none ∧ MayGo node_id parse_uri s key)
    (hgained : ∀ key, Mine node_id db' key →
      Mine node_id s.db key ∨ ∃ r ∈ new, key ∈ keysOf parse_uri r)
    (hlost : ∀ key, key ∉ events → Mine node_id s.db key →
      Mine node_id db' key ∨ ¬ Listed parse_uri s key ∧ ¬ Loaded s)
    (hnew : ∀ r ∈ new, ∀ key ∈ keysOf parse_uri r, Mine node_id db' key) :
    Mirrors node_id parse_uri
      { s with
        db := db'
        keyspace := keyspace'
        replies := s.replies ++ new
        subscription := s.subscription.publish events } := by
  -- the keys that are not deleted
  have hstays : ∀ key, Mine node_id db' key → key ∉ events := by
    intro key hmine hmem
    exact not_mine_of_none (hgone key hmem).1 hmine
  refine ⟨hinv, hscanned, hformat, ?_, ?_, ?_⟩
  · intro key ⟨r, hr, hkey⟩
    rcases List.mem_append.mp hr with hold | hnewr
    · have hlisted : Listed parse_uri s key := ⟨r, hold, hkey⟩
      have hmine := h.listed key hlisted
      have hnot : key ∉ events := fun hmem => ((hgone key hmem).2 hmine).1 hlisted
      rcases hlost key hnot hmine with hmine' | hunlisted
      · exact hmine'
      · exact absurd hlisted hunlisted.1
    · exact hnew r hnewr key hkey
  · intro hloaded key hmine'
    have hloaded : Loaded s := (loaded_publish events).mp hloaded
    rcases hgained key hmine' with hmine | ⟨r, hr, hkey⟩
    · rcases h.known hloaded key hmine with ⟨r, hr, hkey⟩ | hexpected
      · exact Or.inl ⟨r, List.mem_append_left _ hr, hkey⟩
      · exact Or.inr (expected_publish.mpr ⟨hexpected, fun _ => hstays key hmine'⟩)
    · exact Or.inl ⟨r, List.mem_append_right _ hr, hkey⟩
  · intro key hexpected'
    obtain ⟨hexpected, hunnotified⟩ := expected_publish.mp hexpected'
    have hmine := h.expected key hexpected
    have hnot : key ∉ events := by
      intro hmem
      have hwindow := ((hgone key hmem).2 hmine).2
      exact hunnotified hwindow hmem
    rcases hlost key hnot hmine with hmine' | hunloaded
    · exact hmine'
    · exact absurd (loaded_of_expected hexpected) hunloaded.2

theorem scanned_registered (h : Mirrors node_id parse_uri s) (id : AuthId) (argv : Argv) :
    ∀ key, ((register id argv s.db).2.hashes key).isSome = true →
      key ∈ (s.registered id argv).keyspace := by
  intro key hsome
  unfold registered
  dsimp only
  rcases hashes_register h.inv id argv key with ⟨-, hnone⟩ | ⟨-, hbound, -⟩ | ⟨-, -, hsame⟩
  · rw [hnone] at hsome
    cases hsome
  · unfold boundKey at hbound
    cases hexpires : argv.expires <;> cases hcontact : argv.contact <;>
      simp only [hexpires, hcontact] at hbound
    all_goals try cases hbound
    split_ifs at hbound
    rw [← Option.some.inj hbound]
    exact List.mem_append_right _ (List.mem_singleton_self _)
  · rw [hsame] at hsome
    have hmem := h.scanned key hsome
    cases argv.contact with
    | none => exact hmem
    | some contact => exact List.mem_append_left _ hmem

theorem format_registered (h : Mirrors node_id parse_uri s) (id : AuthId) (argv : Argv) :
    ∀ key ∈ (s.registered id argv).keyspace, ∃ id c, key = contactKey id c := by
  intro key hmem
  unfold registered at hmem
  cases hcontact : argv.contact with
  | none =>
    simp only [hcontact] at hmem
    exact h.format key hmem
  | some contact =>
    simp only [hcontact] at hmem
    rcases List.mem_append.mp hmem with hold | hnew
    · exact h.format key hold
    · exact ⟨id, contact, List.mem_singleton.mp hnew⟩

/-- Keys that are notified have no hash any more. -/
theorem hashes_delEvents (h : Inv db) {key : String} (hkey : key ∈ delEvents id argv db) :
    (register id argv db).2.hashes key = none := by
  rcases hashes_register h id argv key with ⟨-, hnone⟩ | ⟨hnot, -⟩ | ⟨hnot, -⟩
  · exact hnone
  · exact absurd hkey hnot
  · exact absurd hkey hnot

theorem mirrors_registerHere (h : Mirrors node_id parse_uri s) {id : AuthId} {argv : Argv}
    (hok : Orderly node_id parse_uri s (.registerHere id argv))
    (hnext : next node_id parse_uri s (.registerHere id argv) = some s') :
    Mirrors node_id parse_uri s' := by
  rw [← Option.some.inj hnext]
  obtain ⟨hreply, hgo⟩ := hok
  generalize hargv : { argv with node_id := node_id } = argv' at hreply hgo ⊢
  have hnode : argv'.node_id = node_id := by
    rw [← hargv]
  have hshape : ∀ key ∈ keysOf parse_uri (register id argv' s.db).1,
      Mine node_id (register id argv' s.db).2 key := by
    intro key hkey
    obtain ⟨d, hd, rfl⟩ := List.mem_map.mp hkey
    cases hr : (register id argv' s.db).1 with
    | bindings l =>
      rw [hr] at hreply hd
      exact (hreply d (List.mem_of_mem_filter hd)).1
    | nil =>
      rw [hr] at hd
      cases hd
    | text t =>
      rw [hr] at hd
      cases hd
    | luaError =>
      rw [hr] at hd
      cases hd
  refine @mirrors_changed node_id parse_uri s h (register id argv' s.db).2
    (s.registered id argv').keyspace (delEvents id argv' s.db) [(register id argv' s.db).1]
    (inv_register h.inv id argv') (scanned_registered h id argv') (format_registered h id argv')
    ?_ ?_ ?_ ?_
  · intro key hkey
    exact ⟨hashes_delEvents h.inv hkey, hgo key hkey⟩
  · intro key hmine'
    rcases hashes_register h.inv id argv' key with ⟨-, hnone⟩ | ⟨-, hbound, -⟩ | ⟨-, -, hsame⟩
    · exact absurd hmine' (not_mine_of_none hnone)
    · -- the new binding is in the reply
      obtain ⟨l, hl, d, hd, hkey⟩ := bound_returned h.inv hbound
      rw [hl] at hreply
      refine Or.inr ⟨_, List.mem_singleton_self _, ?_⟩
      rw [hl]
      exact List.mem_map.mpr ⟨d, (hreply d hd).2, hkey⟩
    · exact Or.inl ((mine_congr hsame).mp hmine')
  · intro key hnot hmine
    left
    rcases hashes_register h.inv id argv' key with ⟨hmem, -⟩ | ⟨-, -, expires, hhash⟩ | ⟨-, -, hsame⟩
    · exact absurd hmem hnot
    · exact ⟨newHash argv' expires, hhash, hnode⟩
    · exact (mine_congr hsame).mpr hmine
  · intro r hr key hkey
    rw [List.mem_singleton.mp hr] at hkey
    exact hshape key hkey

theorem mirrors_registerElsewhere (h : Mirrors node_id parse_uri s) {id : AuthId} {argv : Argv}
    (hok : Orderly node_id parse_uri s (.registerElsewhere id argv))
    (hnext : next node_id parse_uri s (.registerElsewhere id argv) = some s') :
    Mirrors node_id parse_uri s' := by
  unfold next at hnext
  dsimp only at hnext
  split_ifs at hnext with hnode
  rw [← Option.some.inj hnext]
  obtain ⟨hgo, htaken⟩ := hok
  have hchanged := @mirrors_changed node_id parse_uri s h (register id argv s.db).2
    (s.registered id argv).keyspace (delEvents id argv s.db) [] (inv_register h.inv id argv)
    (scanned_registered h id argv) (format_registered h id argv) ?_ ?_ ?_ ?_
  · rw [List.append_nil] at hchanged
    exact hchanged
  · intro key hkey
    exact ⟨hashes_delEvents h.inv hkey, hgo key hkey⟩
  · intro key hmine'
    left
    rcases hashes_register h.inv id argv key with ⟨-, hnone⟩ | ⟨-, -, expires, hhash⟩ | ⟨-, -, hsame⟩
    · exact absurd hmine' (not_mine_of_none hnone)
    · -- what another node binds is not this node's
      obtain ⟨hash, hhash', hmine⟩ := hmine'
      rw [hhash] at hhash'
      rw [← Option.some.inj hhash'] at hmine
      exact absurd hmine hnode
    · exact (mine_congr hsame).mp hmine'
  · intro key hnot hmine
    rcases hashes_register h.inv id argv key with ⟨hmem, -⟩ | ⟨-, hbound, -⟩ | ⟨-, -, hsame⟩
    · exact absurd hmem hnot
    · exact Or.inr (htaken key hbound hmine)
    · exact Or.inl ((mine_congr hsame).mpr hmine)
  · intro r hr
    cases hr

theorem mirrors_expired (h : Mirrors node_id parse_uri s) {key₀ : String}
    (hok : Orderly node_id parse_uri s (.expired key₀))
    (hnext : next node_id parse_uri s (.expired key₀) = some s') :
    Mirrors node_id parse_uri s' := by
  obtain ⟨hash, hhash, rfl⟩ := Option.map_eq_some_iff.mp hnext
  have hself : (s.db.delHash key₀).hashes key₀ = none := Function.update_self ..
  have hother : ∀ key, key ≠ key₀ → (s.db.delHash key₀).hashes key = s.db.hashes key :=
    fun key hne => Function.update_of_ne hne ..
  have hsub : ∀ key, Mine node_id (s.db.delHash key₀) key → key ≠ key₀ ∧ Mine node_id s.db key := by
    intro key hmine
    by_cases hkey : key = key₀
    · rw [hkey] at hmine
      exact absurd hmine (not_mine_of_none hself)
    · exact ⟨hkey, (mine_congr (hother key hkey)).mp hmine⟩
  have hchanged := @mirrors_changed node_id parse_uri s h (s.db.delHash key₀) s.keyspace [key₀] []
    (inv_delHash h.inv key₀) ?_ h.format ?_ ?_ ?_ ?_
  · rw [List.append_nil] at hchanged
    exact hchanged
  · intro key hsome
    by_cases hkey : key = key₀
    · rw [hkey, hself] at hsome
      cases hsome
    · rw [hother key hkey] at hsome
      exact h.scanned key hsome
  · intro key hkey
    rw [List.mem_singleton.mp hkey]
    exact ⟨hself, hok⟩
  · intro key hmine
    exact Or.inl (hsub key hmine).2
  · intro key hnot hmine
    left
    have hne : key ≠ key₀ := fun heq => hnot (List.mem_singleton.mpr heq)
    exact (mine_congr (hother key hne)).mpr hmine
  · intro r hr
    cases hr

/-! ### Steps of the node -/

theorem isSome_processRedisRegisterReply (contexts : String → Option KeepAliveCtx) (r : Reply)
    (key : String) :
    (processRedisRegisterReply parse_uri contexts r key).isSome = true ↔
      (contexts key).isSome = true ∨ key ∈ keysOf parse_uri r :=
  isSome_foldl_update (usedEntries parse_uri r) contexts key

/-- The node after a reply was processed. -/
def processed (parse_uri : String → Bool) (s : Node) (r : Reply) (replies : List Reply) : Node :=
  { s with
    replies := replies
    keepalive_contexts := processRedisRegisterReply parse_uri s.keepalive_contexts r }

theorem expected_processed {r : Reply} {replies : List Reply} {key : String} (hloaded : Loaded s)
    (hupdate : key ∈ keysOf parse_uri r → MayUpdate node_id s key)
    (h : Expected node_id s key ∨ key ∈ keysOf parse_uri r) :
    Expected node_id (processed parse_uri s r replies) key := by
  unfold Loaded at hloaded
  unfold MayUpdate at hupdate
  unfold Expected at h ⊢
  unfold processed
  cases hsub : s.subscription with
  | down => simp [hsub] at hloaded
  | connected => simp [hsub] at hloaded
  | loaded rows =>
    simp only [hsub] at h hupdate ⊢
    exact h.elim id hupdate
  | subscribing =>
    simp only [hsub] at h ⊢
    exact (isSome_processRedisRegisterReply _ _ _).mpr h
  | active notifications =>
    simp only [hsub] at h hupdate ⊢
    rcases h with hold | hkey
    · exact ⟨(isSome_processRedisRegisterReply _ _ _).mpr (Or.inl hold.1), hold.2⟩
    · exact ⟨(isSome_processRedisRegisterReply _ _ _).mpr (Or.inr hkey), hupdate hkey⟩

/-- A key that the reply does not list is expected only if it was so before. -/
theorem expected_of_processed {r : Reply} {replies : List Reply} {key : String}
    (hkey : key ∉ keysOf parse_uri r)
    (h : Expected node_id (processed parse_uri s r replies) key) : Expected node_id s key := by
  unfold processed at h
  unfold Expected at h ⊢
  cases hsub : s.subscription with
  | down => simp [hsub] at h
  | connected => simp [hsub] at h
  | loaded rows => simpa only [hsub] using h
  | subscribing =>
    simp only [hsub] at h ⊢
    exact ((isSome_processRedisRegisterReply _ _ _).mp h).resolve_right hkey
  | active notifications =>
    simp only [hsub] at h ⊢
    exact ⟨((isSome_processRedisRegisterReply _ _ _).mp h.1).resolve_right hkey, h.2⟩

theorem mirrors_replyProcessed (h : Mirrors node_id parse_uri s)
    (hok : Orderly node_id parse_uri s .replyProcessed)
    (hnext : next node_id parse_uri s .replyProcessed = some s') :
    Mirrors node_id parse_uri s' := by
  unfold next at hnext
  cases hreplies : s.replies with
  | nil => simp [hreplies] at hnext
  | cons r replies =>
    simp only [hreplies, Option.some.injEq] at hnext
    have hupdate : ∀ key ∈ keysOf parse_uri r, MayUpdate node_id s key := by
      intro key hkey
      exact hok r (by rw [hreplies]; rfl) key hkey
    have hprocessed : s' = processed parse_uri s r replies := hnext.symm
    rw [hprocessed]
    refine ⟨h.inv, h.scanned, h.format, ?_, ?_, ?_⟩
    · intro key ⟨r', hr', hkey⟩
      exact h.listed key ⟨r', by rw [hreplies]; exact List.mem_cons_of_mem _ hr', hkey⟩
    · intro hloaded key hmine
      rcases h.known hloaded key hmine with ⟨r', hr', hkey⟩ | hold
      · rw [hreplies, List.mem_cons] at hr'
        rcases hr' with rfl | hr'
        · exact Or.inr (expected_processed hloaded (hupdate key) (Or.inr hkey))
        · exact Or.inl ⟨r', hr', hkey⟩
      · exact Or.inr (expected_processed hloaded (hupdate key) (Or.inl hold))
    · intro key hexpected
      by_cases hkey : key ∈ keysOf parse_uri r
      · exact h.listed key ⟨r, by rw [hreplies]; exact List.mem_cons_self .., hkey⟩
      · exact h.expected key (expected_of_processed hkey hexpected)

theorem mirrors_replyLost (h : Mirrors node_id parse_uri s)
    (hok : Orderly node_id parse_uri s .replyLost)
    (hnext : next node_id parse_uri s .replyLost = some s') : Mirrors node_id parse_uri s' := by
  unfold next at hnext
  cases hreplies : s.replies with
  | nil => simp [hreplies] at hnext
  | cons r replies =>
    simp only [hreplies, Option.some.injEq] at hnext
    rw [← hnext]
    refine ⟨h.inv, h.scanned, h.format, ?_, ?_, h.expected⟩
    · intro key ⟨r', hr', hkey⟩
      exact h.listed key ⟨r', by rw [hreplies]; exact List.mem_cons_of_mem _ hr', hkey⟩
    · intro hloaded key hmine
      rcases h.known hloaded key hmine with ⟨r', hr', hkey⟩ | hold
      · rw [hreplies, List.mem_cons] at hr'
        rcases hr' with rfl | hr'
        · exact Or.inr (hok r' (by rw [hreplies]; rfl) key hkey hloaded)
        · exact Or.inl ⟨r', hr', hkey⟩
      · exact Or.inr hold

/-- Without a snapshot nothing has to be known. -/
theorem mirrors_unloaded (h : Mirrors node_id parse_uri s) {subscription : Subscription}
    (hsub : subscription = .down ∨ subscription = .connected) :
    Mirrors node_id parse_uri { s with subscription := subscription } := by
  refine ⟨h.inv, h.scanned, h.format, h.listed, ?_, ?_⟩
  · intro hloaded
    rcases hsub with rfl | rfl <;> exact hloaded.elim
  · intro key hexpected
    rcases hsub with rfl | rfl <;> exact hexpected.elim

/-- The snapshot has the bindings of this node. -/
theorem mem_load_contacts (h : Mirrors node_id parse_uri s) (key : String) :
    (∃ d ∈ load_contacts s.db s.keyspace, d.node_id = node_id ∧ d.key = key) ↔
      Mine node_id s.db key := by
  unfold load_contacts Mine
  constructor
  · rintro ⟨d, hd, hnode, rfl⟩
    obtain ⟨key, -, hrow⟩ := List.mem_filterMap.mp hd
    obtain ⟨hash, hhash, rfl⟩ := Option.map_eq_some_iff.mp hrow
    exact ⟨hash, hhash, hnode⟩
  · intro ⟨hash, hhash, hnode⟩
    have hmem := h.scanned key (by rw [hhash]; rfl)
    refine ⟨⟨hash.node_id, hash.path, hash.interface_id, key⟩, ?_, hnode, rfl⟩
    exact List.mem_filterMap.mpr ⟨key, hmem, by rw [hhash]; rfl⟩

theorem mirrors_loadExecuted (h : Mirrors node_id parse_uri s)
    (hnext : next node_id parse_uri s .loadExecuted = some s') : Mirrors node_id parse_uri s' := by
  unfold next at hnext
  cases hsub : s.subscription <;> simp only [hsub, reduceCtorEq, Option.some.injEq] at hnext
  rw [← hnext]
  refine ⟨h.inv, h.scanned, h.format, h.listed, ?_, ?_⟩
  · intro _ key hmine
    exact Or.inr ((mem_load_contacts h key).mpr hmine)
  · intro key hexpected
    exact (mem_load_contacts h key).mp hexpected

/-- A message of the subscription connection is processed, or the next phase is entered; what is
    expected stays the same for the keys of this node. -/
theorem mirrors_advanced (h : Mirrors node_id parse_uri s) (hloaded : Loaded s)
    {subscription : Subscription} {contexts : String → Option KeepAliveCtx}
    (hkept : ∀ key, Mine node_id s.db key → Expected node_id s key → Expected node_id
      { s with subscription := subscription, keepalive_contexts := contexts } key)
    (hback : ∀ key, Expected node_id
      { s with subscription := subscription, keepalive_contexts := contexts } key →
        Expected node_id s key) :
    Mirrors node_id parse_uri
      { s with subscription := subscription, keepalive_contexts := contexts } := by
  refine ⟨h.inv, h.scanned, h.format, h.listed, ?_, ?_⟩
  · intro _ key hmine
    rcases h.known hloaded key hmine with hlisted | hexpected
    · exact Or.inl hlisted
    · exact Or.inr (hkept key hmine hexpected)
  · intro key hexpected
    exact h.expected key (hback key hexpected)

theorem mirrors_loadProcessed (h : Mirrors node_id parse_uri s)
    (hnext : next node_id parse_uri s .loadProcessed = some s') : Mirrors node_id parse_uri s' := by
  unfold next at hnext
  cases hsub : s.subscription <;> simp only [hsub, reduceCtorEq, Option.some.injEq] at hnext
  next rows =>
  rw [← hnext]
  have hbefore : ∀ key, Expected node_id s key ↔ ∃ d ∈ rows, d.node_id = node_id ∧ d.key = key := by
    intro key
    unfold Expected
    rw [hsub]
  apply mirrors_advanced h (by unfold Loaded; rw [hsub]; trivial)
  · rintro key ⟨hash, hhash, -⟩ hexpected
    obtain ⟨d, hd, hnode, hkey⟩ := (hbefore key).mp hexpected
    obtain ⟨id, c, hformat⟩ := h.format key (h.scanned key (by rw [hhash]; rfl))
    refine (isSome_process_loaded_contacts rows key).mpr ⟨d, hd, hnode, hkey, ?_⟩
    rw [hformat]
    exact isSome_aorOfKey id c
  · intro key hexpected
    obtain ⟨d, hd, hnode, hkey, -⟩ := (isSome_process_loaded_contacts rows key).mp hexpected
    exact (hbefore key).mpr ⟨d, hd, hnode, hkey⟩

theorem mirrors_subscribeExecuted (h : Mirrors node_id parse_uri s)
    (hnext : next node_id parse_uri s .subscribeExecuted = some s') :
    Mirrors node_id parse_uri s' := by
  unfold next at hnext
  cases hsub : s.subscription <;> simp only [hsub, reduceCtorEq, Option.some.injEq] at hnext
  rw [← hnext]
  have hbefore : ∀ key, Expected node_id s key ↔ (s.keepalive_contexts key).isSome = true := by
    intro key
    unfold Expected
    rw [hsub]
  apply mirrors_advanced h (by unfold Loaded; rw [hsub]; trivial)
  · intro key _ hexpected
    exact ⟨(hbefore key).mp hexpected, List.not_mem_nil⟩
  · intro key hexpected
    exact (hbefore key).mpr hexpected.1

theorem mirrors_notificationProcessed (h : Mirrors node_id parse_uri s)
    (hnext : next node_id parse_uri s .notificationProcessed = some s') :
    Mirrors node_id parse_uri s' := by
  unfold next at hnext
  cases hsub : s.subscription with
  | down => simp [hsub] at hnext
  | connected => simp [hsub] at hnext
  | loaded rows => simp [hsub] at hnext
  | subscribing => simp [hsub] at hnext
  | active notifications =>
    cases notifications with
    | nil => simp [hsub] at hnext
    | cons key₀ notifications =>
      simp only [hsub, Option.some.injEq] at hnext
      rw [← hnext]
      have hbefore : ∀ key, Expected node_id s key ↔
          (s.keepalive_contexts key).isSome = true ∧ key ∉ key₀ :: notifications := by
        intro key
        unfold Expected
        rw [hsub]
      apply mirrors_advanced h (by unfold Loaded; rw [hsub]; trivial)
      · intro key _ hexpected
        obtain ⟨hsome, hnot⟩ := (hbefore key).mp hexpected
        rw [List.mem_cons, not_or] at hnot
        refine ⟨?_, hnot.2⟩
        show (Function.update s.keepalive_contexts key₀ none key).isSome = true
        rw [Function.update_of_ne hnot.1]
        exact hsome
      · intro key ⟨hsome, hnot⟩
        have hsome : (Function.update s.keepalive_contexts key₀ none key).isSome = true := hsome
        by_cases hkey : key = key₀
        · rw [hkey, Function.update_self] at hsome
          cases hsome
        · rw [Function.update_of_ne hkey] at hsome
          rw [hbefore, List.mem_cons, not_or]
          exact ⟨hsome, hkey, hnot⟩

/-! ### Runs -/

theorem mirrors_next {l : NodeLabel} (h : Mirrors node_id parse_uri s)
    (hok : Orderly node_id parse_uri s l) (hnext : next node_id parse_uri s l = some s') :
    Mirrors node_id parse_uri s' := by
  cases l with
  | registerHere id argv => exact mirrors_registerHere h hok hnext
  | registerElsewhere id argv => exact mirrors_registerElsewhere h hok hnext
  | expired key => exact mirrors_expired h hok hnext
  | replyProcessed => exact mirrors_replyProcessed h hok hnext
  | replyLost => exact mirrors_replyLost h hok hnext
  | connect =>
    unfold next at hnext
    cases hsub : s.subscription <;> simp only [hsub, reduceCtorEq, Option.some.injEq] at hnext
    rw [← hnext]
    exact mirrors_unloaded h (Or.inr rfl)
  | disconnect =>
    rw [← Option.some.inj hnext]
    exact mirrors_unloaded h (Or.inl rfl)
  | loadExecuted => exact mirrors_loadExecuted h hnext
  | loadProcessed => exact mirrors_loadProcessed h hnext
  | subscribeExecuted => exact mirrors_subscribeExecuted h hnext
  | notificationProcessed => exact mirrors_notificationProcessed h hnext

theorem mirrors_of_reachable
    (h : (system node_id parse_uri).ReachableUnder (Orderly node_id parse_uri) s) :
    Mirrors node_id parse_uri s := by
  refine System.invariant_under (Mirrors node_id parse_uri) ?_ ?_ h
  · rintro s ⟨hstore, hscanned, hformat, hreplies, hsub, -⟩
    refine ⟨inv_of_reachable hstore, hscanned, hformat, ?_, ?_, ?_⟩
    · rintro key ⟨r, hr, -⟩
      rw [hreplies] at hr
      cases hr
    · intro hloaded
      unfold Loaded at hloaded
      rw [hsub] at hloaded
      exact hloaded.elim
    · intro key hexpected
      unfold Expected at hexpected
      rw [hsub] at hexpected
      exact hexpected.elim
  · intro s l s' hmirrors hok hnext
    exact mirrors_next hmirrors hok hnext

/-- **Keepalive contexts.** In every orderly run, when nothing is on the way and the
    subscription is active, the contexts are exactly those of this node's bindings. -/
theorem contextsExact_of_orderly (node_id : String) (parse_uri : String → Bool) (s : Node)
    (h : (system node_id parse_uri).ReachableUnder (Orderly node_id parse_uri) s)
    (hquiescent : Quiescent s) : ContextsExact node_id s := by
  have hmirrors := mirrors_of_reachable h
  have hexpected : ∀ key, Expected node_id s key ↔ (s.keepalive_contexts key).isSome = true := by
    intro key
    unfold Expected
    rw [hquiescent.2]
    simp
  intro key
  rw [← hexpected]
  constructor
  · intro hkey
    exact hmirrors.expected key hkey
  · intro hmine
    rcases hmirrors.known (by unfold Loaded; rw [hquiescent.2]; trivial) key hmine with hlisted | hkey
    · obtain ⟨r, hr, -⟩ := hlisted
      rw [hquiescent.1] at hr
      cases hr
    · exact hkey

/-! ### A contact that expires -/

section Decidable

instance (db : Db) (key : String) : Decidable (Mine node_id db key) :=
  decidable_of_iff ((db.hashes key).any (·.node_id = node_id) = true) (by
    unfold Mine
    simp [Option.any_eq_true])

instance (s : Node) (key : String) : Decidable (Listed parse_uri s key) :=
  inferInstanceAs (Decidable (∃ r ∈ s.replies, _))

instance : ∀ s : Node, Decidable (Loaded s)
  | ⟨_, _, _, .down, _⟩ => inferInstanceAs (Decidable False)
  | ⟨_, _, _, .connected, _⟩ => inferInstanceAs (Decidable False)
  | ⟨_, _, _, .loaded _, _⟩ => inferInstanceAs (Decidable True)
  | ⟨_, _, _, .subscribing, _⟩ => inferInstanceAs (Decidable True)
  | ⟨_, _, _, .active _, _⟩ => inferInstanceAs (Decidable True)

instance : ∀ s : Node, Decidable (Window s)
  | ⟨_, _, _, .down, _⟩ => inferInstanceAs (Decidable False)
  | ⟨_, _, _, .connected, _⟩ => inferInstanceAs (Decidable False)
  | ⟨_, _, _, .loaded _, _⟩ => inferInstanceAs (Decidable True)
  | ⟨_, _, _, .subscribing, _⟩ => inferInstanceAs (Decidable True)
  | ⟨_, _, _, .active _, _⟩ => inferInstanceAs (Decidable False)

instance (key : String) : ∀ s : Node, Decidable (Expected node_id s key)
  | ⟨_, _, _, .down, _⟩ => inferInstanceAs (Decidable False)
  | ⟨_, _, _, .connected, _⟩ => inferInstanceAs (Decidable False)
  | ⟨_, _, _, .loaded rows, _⟩ => inferInstanceAs (Decidable (∃ d ∈ rows, _ ∧ _))
  | ⟨_, _, _, .subscribing, contexts⟩ => inferInstanceAs (Decidable ((contexts key).isSome = true))
  | ⟨_, _, _, .active notifications, _⟩ =>
    inferInstanceAs (Decidable (_ ∧ key ∉ notifications))

instance (key : String) : ∀ s : Node, Decidable (MayUpdate node_id s key)
  | ⟨_, _, _, .down, _⟩ => inferInstanceAs (Decidable True)
  | ⟨_, _, _, .connected, _⟩ => inferInstanceAs (Decidable True)
  | ⟨_, _, _, .loaded rows, _⟩ => inferInstanceAs (Decidable (∃ d ∈ rows, _ ∧ _))
  | ⟨_, _, _, .subscribing, _⟩ => inferInstanceAs (Decidable True)
  | ⟨_, _, _, .active notifications, _⟩ => inferInstanceAs (Decidable (key ∉ notifications))

instance (s : Node) (key : String) : Decidable (MayGo node_id parse_uri s key) :=
  inferInstanceAs (Decidable (_ → _ ∧ _))

instance (db : Db) : ∀ r : Reply, Decidable (Usable node_id parse_uri r db)
  | .bindings l => inferInstanceAs (Decidable (∀ d ∈ l, _ ∧ _))
  | .nil => inferInstanceAs (Decidable True)
  | .text _ => inferInstanceAs (Decidable True)
  | .luaError => inferInstanceAs (Decidable True)

instance (s : Node) : ∀ l : NodeLabel, Decidable (Orderly node_id parse_uri s l)
  | .registerHere _ _ => inferInstanceAs (Decidable (Usable _ _ _ _ ∧ _))
  | .registerElsewhere _ _ => inferInstanceAs (Decidable ((∀ _ ∈ _, _) ∧ ∀ _ ∈ _, _))
  | .expired _ => inferInstanceAs (Decidable (MayGo _ _ _ _))
  | .replyProcessed => inferInstanceAs (Decidable (∀ r ∈ s.replies.head?, ∀ _ ∈ _, _))
  | .replyLost => inferInstanceAs (Decidable (∀ r ∈ s.replies.head?, ∀ _ ∈ _, _ → _))
  | .connect => inferInstanceAs (Decidable True)
  | .disconnect => inferInstanceAs (Decidable True)
  | .loadExecuted => inferInstanceAs (Decidable True)
  | .loadProcessed => inferInstanceAs (Decidable True)
  | .subscribeExecuted => inferInstanceAs (Decidable True)
  | .notificationProcessed => inferInstanceAs (Decidable True)

end Decidable

namespace Example

def start : Node where
  db := StoreExample.empty
  keyspace := []
  replies := []
  subscription := .down
  keepalive_contexts _ := none

theorem init_start (node_id : String) (parse_uri : String → Bool) :
    (system node_id parse_uri).init start := by
  refine ⟨.init ⟨fun _ => rfl, fun _ => rfl⟩, ?_, ?_, rfl, rfl, fun _ => rfl⟩
  · intro key hsome
    cases hsome
  · intro key hmem
    cases hmem

def contact : String := "sip:a@h"

def parsesContact (uri : String) : Bool := uri == contact

def bindContact : NodeLabel :=
  .registerHere 7 { expires := .number 60, contact := some contact, interface_id := "0" }

/-- The node connects, and the contact is bound. -/
def subscribed : List NodeLabel :=
  [.connect, .loadExecuted, .loadProcessed, .subscribeExecuted, bindContact]

end Example

open Example

/-- The contact is bound and the reply is processed. -/
theorem contextsExact_of_orderly_bound :
    ∃ s, (system "1" parsesContact).ReachableUnder (Orderly "1" parsesContact) s ∧ Quiescent s ∧
      Mine "1" s.db (contactKey 7 contact) ∧ ContextsExact "1" s := by
  obtain ⟨s, hreach, hstate⟩ := (system "1" parsesContact).exists_reachableUnder_of_any
    (Orderly "1" parsesContact)
    (fun s => decide (s.replies = [] ∧ s.subscription = .active [] ∧
      Mine "1" s.db (contactKey 7 contact)))
    start (subscribed ++ [.replyProcessed]) (init_start "1" parsesContact) (by decide)
  obtain ⟨hreplies, hactive, hmine⟩ := of_decide_eq_true hstate
  have hquiescent : Quiescent s := ⟨hreplies, hactive⟩
  exact ⟨s, hreach, hquiescent, hmine, contextsExact_of_orderly "1" parsesContact s hreach hquiescent⟩

/-- The notification comes before the reply that lists the contact: its context stays. -/
theorem not_contextsExact_overtaken :
    ¬ ∀ (node_id : String) (parse_uri : String → Bool) (s : Node),
      (system node_id parse_uri).Reachable s → Quiescent s → ContextsExact node_id s := by
  intro hall
  obtain ⟨s, hreach, hstate⟩ := (system "1" parsesContact).exists_reachableUnder_of_any
    (fun _ _ => True)
    (fun s => decide (s.replies = [] ∧ s.subscription = .active [] ∧
      (s.keepalive_contexts (contactKey 7 contact)).isSome = true ∧
      ¬ Mine "1" s.db (contactKey 7 contact)))
    start (subscribed ++ [.expired (contactKey 7 contact), .notificationProcessed, .replyProcessed])
    (init_start "1" parsesContact) (by decide)
  obtain ⟨hreplies, hactive, hcontext, hgone⟩ := of_decide_eq_true hstate
  have hexact := hall "1" parsesContact s hreach ⟨hreplies, hactive⟩
  exact hgone ((hexact (contactKey 7 contact)).mp hcontext)

end Node

end Yeti.Registrar
