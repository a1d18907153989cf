import Yeti.Framework.Lists
import Yeti.Framework.System
import Yeti.Config.Mappings

/-! # No lost configuration update

    Model of the polling of `check_states` and of the answers to the reload queries
    (`Yeti::process` for `PGResponse`, `PGResponseError` and `PGTimeout`).  The state
    of a key is recorded together with the posting of its queries, so the answers
    decide whether what is recorded is also what is in memory.

    Time is the number of `check_states` rows that were delivered.  A query knows the
    time at which it was issued, and for every token the time of the query that
    filled the memory is kept; `0` stands for the configuration loaded at the start,
    or for one that a failed handler has spoiled.
-/

open LTS

namespace Yeti.Config

/-! ### State -/

/-- A row of `check_states`, or `db_cfg_states`; a state is `none` when it is no
    integer. -/
abbrev States := AList fun _ : String => Option Int

/-- A query without an answer. -/
structure Issued where
  query : PGQuery
  time : Nat
  deriving DecidableEq, Repr

/-- `sync_db::db_reply_condition`. -/
inductive DbReply where
  | DB_REPLY_WAITING
  | DB_REPLY_RESULT
  | DB_REPLY_ERROR
  | DB_REPLY_TIMEOUT
  deriving DecidableEq, Repr

/-- The polling of the configuration. -/
structure Polling where
  config : YetiCfg
  configuration_finished : Bool := true
  db_cfg_states : States := ∅
  outstanding : List Issued := []
  /-- For a token, when the query was issued whose answer is in memory. -/
  loaded : String → Nat := fun _ => 0
  /-- The rows delivered so far. -/
  reported : List States := []
  exceptions_counter : String → Nat := fun _ => 0
  db_reply_token : String := ""
  db_reply_condition : DbReply := .DB_REPLY_WAITING

/-- How `on_db_response` ends. -/
inductive Handled where
  | applied
  /-- It throws, and has left the configuration as it was or not. -/
  | exception (untouched : Bool)
  deriving DecidableEq, Repr

/-- An event for a query.  The row is that of a `check_states` answer, `none` when
    `e.result[0]` is no struct; the other answers go to their handlers. -/
inductive Answer where
  | PGResponse (row : Option States) (handled : Handled)
  | PGResponseError
  | PGTimeout

namespace Polling

/-- Post queries now. -/
def post (s : Polling) (queries : List PGQuery) : Polling :=
  { s with outstanding := s.outstanding ++ queries.map fun q => ⟨q, s.reported.length⟩ }

/-- `Yeti::onDbCfgReloadTimer`. -/
def onDbCfgReloadTimer (s : Polling) : Polling :=
  s.post [⟨"SELECT * FROM check_states()", [], "check_states"⟩]

/-! ### Rows of `check_states` -/

/-- The condition of the loop: the state is new or newer.  It throws (`none`) when a
    state to compare is no integer. -/
def isNewer (db_cfg_states : States) (key : String) (state : Option Int) : Option Bool :=
  match db_cfg_states.lookup key with
  | none => some true
  | some recorded =>
    match state, recorded with
    | some state, some recorded => some (state > recorded)
    | _, _ => none

/-- The queries for a key; unknown keys are only reported. -/
def reloadKey (config : YetiCfg) (key : String) : List PGQuery :=
  match Mapping.find key with
  | some m => m.on_reload config
  | none => []

/-- The loop over a row: the queries posted, and whether it ran to its end. -/
def reloadLoop (config : YetiCfg) (db_cfg_states : States) :
    List ((_ : String) × Option Int) → List PGQuery × Bool
  | [] => ([], true)
  | ⟨key, state⟩ :: row =>
    match isNewer db_cfg_states key state with
    | none => ([], false)
    | some false => reloadLoop config db_cfg_states row
    | some true =>
      -- the debug message prints the state as an integer
      if config.debug && state.isNone then ([], false)
      else
        let r := reloadLoop config db_cfg_states row
        (reloadKey config key ++ r.1, r.2)

/-- `Yeti::onDbCfgReloadTimerResponse`. -/
def onDbCfgReloadTimerResponse (s : Polling) (row : Option States) : Polling :=
  match row with
  | none => s
  | some r =>
    let (queries, finished) := reloadLoop s.config s.db_cfg_states r.entries
    -- queries already posted stay posted when the loop throws
    let s := { s with reported := s.reported ++ [r] }.post queries
    if finished then { s with db_cfg_states := r } else s

/-! ### Answers -/

/-- The call of `on_db_response` for the answer to `q`. -/
def handle (s : Polling) (q : Issued) (handled : Handled) : Polling :=
  let token := q.query.token
  match handled with
  | .applied => { s with loaded := Function.update s.loaded token q.time }
  | .exception untouched =>
    { s with
      loaded := if untouched then s.loaded else Function.update s.loaded token 0
      exceptions_counter :=
        Function.update s.exceptions_counter token (s.exceptions_counter token + 1) }

/-- `Yeti::process` for the answer to `q`. -/
def process (s : Polling) (q : Issued) (a : Answer) : Polling :=
  match a with
  | .PGResponse row handled =>
    if s.configuration_finished then
      if q.query.token = "check_states" then s.onDbCfgReloadTimerResponse row
      else
        match Mapping.find q.query.token with
        | some _ => s.handle q handled
        | none => s
    else { s with db_reply_token := q.query.token, db_reply_condition := .DB_REPLY_RESULT }
  -- after the start errors and timeouts are passed over
  | .PGResponseError =>
    if s.configuration_finished then s
    else { s with db_reply_token := q.query.token, db_reply_condition := .DB_REPLY_ERROR }
  | .PGTimeout =>
    if s.configuration_finished then s
    else { s with db_reply_token := q.query.token, db_reply_condition := .DB_REPLY_TIMEOUT }

/-! ### The system -/

/-- Labels of the polling; the answers come in any order. -/
inductive Label where
  | onDbCfgReloadTimer
  | answer (i : Nat) (a : Answer)

def next (s : Polling) : Label → Option Polling
  | .onDbCfgReloadTimer => some s.onDbCfgReloadTimer
  | .answer i a =>
    s.outstanding[i]?.map fun q =>
      { s with outstanding := s.outstanding.eraseIdx i }.process q a

/-- The end of `Yeti::configure`, which polls for the first time. -/
def started (config : YetiCfg) : Polling :=
  ({ config := config } : Polling).onDbCfgReloadTimer

def system : System Polling Label where
  init s := ∃ config, s = started config
  next := next

/-! ### Statements -/

/-- `state` was reported for `key` by the time `t`. -/
def Reported (s : Polling) (key : String) (state : Option Int) (t : Nat) : Prop :=
  ∃ row ∈ s.reported.take t, row.lookup key = some state

/-- The configuration under `token` was loaded by a query issued after the report, or
    such a query is outstanding. -/
def Covered (s : Polling) (key : String) (state : Option Int) (token : String) : Prop :=
  s.Reported key state (s.loaded token) ∨
    ∃ q ∈ s.outstanding, q.query.token = token ∧ s.Reported key state q.time

/-- No update of a recorded state is lost, in any table that its key reloads. -/
def Current (s : Polling) : Prop :=
  ∀ (m : Mapping) (state : Option Int), s.db_cfg_states.lookup m.key = some state →
    ∀ q ∈ m.on_reload s.config, s.Covered m.key state q.token

/-- Besides the `i`-th query there is one for the same token, issued at `t` or later. -/
def asked (s : Polling) (i : Nat) (token : String) (t : Nat) : Bool :=
  (s.outstanding.eraseIdx i).any fun q => q.query.token == token && t ≤ q.time

/-- A row does not go back in the state of a key. -/
def Ascends (s : Polling) (row : States) : Prop :=
  ∀ e ∈ row.entries, ∀ state ∈ e.2, ∀ recorded ∈ s.db_cfg_states.lookup e.1,
    ∀ r ∈ recorded, r ≤ state

/-- The answer to the `i`-th query `q` is not needed: something at least as late is in
    memory or asked for. -/
def Superseded (s : Polling) (i : Nat) (q : Issued) : Prop :=
  q.time ≤ s.loaded q.query.token ∨ s.asked i q.query.token q.time = true

/-- What the handler of the `i`-th query `q` may do.  An answer that is applied must
    not replace a later one, unless a query that is as late is outstanding. -/
def HarmlessHandled (s : Polling) (i : Nat) (q : Issued) : Handled → Prop
  | .applied => s.loaded q.query.token ≤ q.time ∨
      s.asked i q.query.token (s.loaded q.query.token) = true
  | .exception true => s.Superseded i q
  | .exception false => s.asked i q.query.token (max q.time (s.loaded q.query.token)) = true

/-- What the answer to the `i`-th query `q` may be. -/
def Harmless (s : Polling) (i : Nat) (q : Issued) : Answer → Prop
  | .PGResponse row handled =>
    (q.query.token = "check_states" → ∀ r ∈ row, s.Ascends r) ∧
      (q.query.token ≠ "check_states" → s.HarmlessHandled i q handled)
  | .PGResponseError => q.query.token ≠ "check_states" → s.Superseded i q
  | .PGTimeout => q.query.token ≠ "check_states" → s.Superseded i q

/-- Steps that lose no update. -/
def Keeps (s : Polling) : Label → Prop
  | .onDbCfgReloadTimer => True
  | .answer i a => ∀ q ∈ s.outstanding[i]?, s.Harmless i q a

instance (s : Polling) (key : String) (state : Option Int) (t : Nat) :
    Decidable (s.Reported key state t) :=
  inferInstanceAs (Decidable (∃ row ∈ s.reported.take t, row.lookup key = some state))

instance (s : Polling) (key : String) (state : Option Int) (token : String) :
    Decidable (s.Covered key state token) :=
  inferInstanceAs (Decidable (_ ∨ ∃ q ∈ s.outstanding, _ ∧ _))

instance (s : Polling) (row : States) : Decidable (s.Ascends row) :=
  inferInstanceAs (Decidable (∀ e ∈ row.entries, ∀ state ∈ e.2,
    ∀ recorded ∈ s.db_cfg_states.lookup e.1, ∀ r ∈ recorded, r ≤ state))

instance (s : Polling) (i : Nat) (q : Issued) : Decidable (s.Superseded i q) :=
  inferInstanceAs (Decidable (_ ∨ _))

instance (s : Polling) (i : Nat) (q : Issued) :
    (handled : Handled) → Decidable (s.HarmlessHandled i q handled)
  | .applied => inferInstanceAs (Decidable (_ ∨ _))
  | .exception true => inferInstanceAs (Decidable (s.Superseded i q))
  | .exception false => inferInstanceAs (Decidable (_ = true))

instance (s : Polling) (i : Nat) (q : Issued) : (a : Answer) → Decidable (s.Harmless i q a)
  | .PGResponse row handled =>
    inferInstanceAs (Decidable ((_ → ∀ r ∈ row, s.Ascends r) ∧
      (_ → s.HarmlessHandled i q handled)))
  | .PGResponseError => inferInstanceAs (Decidable (_ → s.Superseded i q))
  | .PGTimeout => inferInstanceAs (Decidable (_ → s.Superseded i q))

instance (s : Polling) : (l : Label) → Decidable (s.Keeps l)
  | .onDbCfgReloadTimer => .isTrue trivial
  | .answer i _ => inferInstanceAs (Decidable (∀ q ∈ s.outstanding[i]?, _))

/-! ### Coverage -/

variable {s s' : Polling} {i : Nat} {q : Issued}

theorem Reported.mono {key : String} {state : Option Int} {t t' : Nat}
    (h : s.Reported key state t) (hle : t ≤ t') : s.Reported key state t' := by
  obtain ⟨row, hrow, hlookup⟩ := h
  exact ⟨row, List.take_subset_take_left s.reported hle hrow, hlookup⟩

/-- Something at least as late as `t` is in memory or on its way. -/
def Holds (s : Polling) (token : String) (t : Nat) : Prop :=
  t ≤ s.loaded token ∨ ∃ q ∈ s.outstanding, q.query.token = token ∧ t ≤ q.time

theorem covered_iff {key : String} {state : Option Int} {token : String} :
    s.Covered key state token ↔ ∃ t, s.Holds token t ∧ s.Reported key state t := by
  constructor
  · rintro (h | ⟨q, hq, htoken, h⟩)
    · exact ⟨_, .inl le_rfl, h⟩
    · exact ⟨_, .inr ⟨q, hq, htoken, le_rfl⟩, h⟩
  · rintro ⟨t, hle | ⟨q, hq, htoken, hle⟩, h⟩
    · exact .inl (h.mono hle)
    · exact .inr ⟨q, hq, htoken, h.mono hle⟩

/-- Coverage lasts as long as nothing that is held gets lost. -/
theorem Covered.of_holds {key : String} {state : Option Int} {token : String}
    (h : s.Covered key state token) (hrep : s.reported <+: s'.reported)
    (hholds : ∀ t, s.Holds token t → s'.Holds token t) : s'.Covered key state token := by
  rw [covered_iff] at h ⊢
  -- rows are only appended, so the first `t` of them stay the first `t`
  obtain ⟨t, ht, row, hrow, hlookup⟩ := h
  obtain ⟨rows, hrows⟩ := hrep
  have hrow' : row ∈ s'.reported.take t := by
    rw [← hrows, List.take_append]
    exact List.mem_append_left _ hrow
  exact ⟨t, hholds t ht, row, hrow', hlookup⟩

theorem asked_iff {token : String} {t : Nat} :
    s.asked i token t = true ↔
      ∃ q ∈ s.outstanding.eraseIdx i, q.query.token = token ∧ t ≤ q.time := by
  simp [asked]

/-- What is held is in memory, in the `i`-th query or in another one. -/
theorem Holds.split {token : String} {t : Nat} (h : s.Holds token t)
    (hq : s.outstanding[i]? = some q) :
    t ≤ s.loaded token ∨ (q.query.token = token ∧ t ≤ q.time) ∨ s.asked i token t = true := by
  rcases h with hle | ⟨q', hq', htoken, hle⟩
  · exact .inl hle
  · -- the query that holds it is the `i`-th one or survives its removal
    rcases List.eq_or_mem_eraseIdx hq hq' with rfl | hmem
    · exact .inr (.inl ⟨htoken, hle⟩)
    · exact .inr (.inr (asked_iff.mpr ⟨q', hmem, htoken, hle⟩))

theorem asked_mono {token : String} {t t' : Nat} (h : s.asked i token t' = true)
    (hle : t ≤ t') : s.asked i token t = true := by
  obtain ⟨q, hq, htoken, hle'⟩ := asked_iff.mp h
  exact asked_iff.mpr ⟨q, hq, htoken, by omega⟩

/-! ### Answers to reload queries -/

/-- An answer that is not applied. -/
theorem holds_dropped (hq : s.outstanding[i]? = some q)
    (hok : s.Superseded i q) (hloaded : s'.loaded = s.loaded)
    (hout : s'.outstanding = s.outstanding.eraseIdx i)
    {token : String} {t : Nat} (h : s.Holds token t) : s'.Holds token t := by
  unfold Holds
  rw [hloaded, hout, ← asked_iff]
  rcases h.split hq with hle | ⟨rfl, hle⟩ | hasked
  · exact .inl hle
  · rcases hok with hok | hok
    · exact .inl (by omega)
    · exact .inr (asked_mono hok hle)
  · exact .inr hasked

/-- An answer that is applied. -/
theorem holds_applied (hq : s.outstanding[i]? = some q)
    (hok : s.HarmlessHandled i q .applied)
    (hloaded : s'.loaded = Function.update s.loaded q.query.token q.time)
    (hout : s'.outstanding = s.outstanding.eraseIdx i)
    {token : String} {t : Nat} (h : s.Holds token t) : s'.Holds token t := by
  unfold Holds
  rw [hloaded, hout, ← asked_iff]
  rcases h.split hq with hle | ⟨rfl, hle⟩ | hasked
  · by_cases htoken : token = q.query.token
    · subst htoken
      rw [Function.update_self]
      -- the memory is overwritten: by something later, or while something later is asked for
      rcases hok with hok | hok
      · exact .inl (by omega)
      · exact .inr (asked_mono hok hle)
    · rw [Function.update_of_ne htoken]
      exact .inl hle
  · rw [Function.update_self]
    exact .inl hle
  · exact .inr hasked

/-- A handler that throws and spoils the configuration. -/
theorem holds_spoiled (hq : s.outstanding[i]? = some q)
    (hok : s.HarmlessHandled i q (.exception false))
    (hloaded : s'.loaded = Function.update s.loaded q.query.token 0)
    (hout : s'.outstanding = s.outstanding.eraseIdx i)
    {token : String} {t : Nat} (h : s.Holds token t) : s'.Holds token t := by
  unfold Holds
  rw [hloaded, hout, ← asked_iff]
  rcases h.split hq with hle | ⟨rfl, hle⟩ | hasked
  · by_cases htoken : token = q.query.token
    · subst htoken
      -- neither the memory nor this query is left, so another query has to hold it
      exact .inr (asked_mono hok (by omega))
    · rw [Function.update_of_ne htoken]
      exact .inl hle
  · exact .inr (asked_mono hok (by omega))
  · exact .inr hasked

/-- Steps that record nothing new keep what is held. -/
theorem Current.of_holds (h : s.Current) (hconfig : s'.config = s.config)
    (hstates : s'.db_cfg_states = s.db_cfg_states) (hrep : s.reported <+: s'.reported)
    (hholds : ∀ (m : Mapping) t, s.Holds m.key t → s'.Holds m.key t) : s'.Current := by
  intro m state hstate q hq
  rw [hconfig] at hq
  rw [hstates] at hstate
  -- the token of a query may be another key than the one that reloads it
  obtain ⟨p, hp⟩ := Mapping.token_on_reload hq
  have hcovered := h m state hstate q hq
  rw [hp] at hcovered ⊢
  exact hcovered.of_holds hrep (hholds p)

/-! ### Rows -/

/-- A row that is read to its end has posted the queries of all new states. -/
theorem reloadLoop_finished {config : YetiCfg} {states : States}
    {row : List ((_ : String) × Option Int)} (h : (reloadLoop config states row).2 = true)
    {key : String} {state : Option Int} (hmem : ⟨key, state⟩ ∈ row) :
    isNewer states key state = some false ∨
      ∀ q ∈ reloadKey config key, q ∈ (reloadLoop config states row).1 := by
  induction row with
  | nil => simp at hmem
  | cons e row ih =>
    obtain ⟨k, v⟩ := e
    unfold reloadLoop at h ⊢
    rcases hnewer : isNewer states k v with _ | newer
    · simp [hnewer] at h
    · rcases newer with _ | _
      · -- not newer: the key is passed over
        simp only [hnewer] at h ⊢
        rcases List.mem_cons.mp hmem with heq | hmem
        · cases heq
          exact .inl hnewer
        · exact ih h hmem
      · simp only [hnewer] at h ⊢
        by_cases hdebug : (config.debug && v.isNone) = true
        · simp [hdebug] at h
        · rw [if_neg hdebug] at h ⊢
          rcases List.mem_cons.mp hmem with heq | hmem
          · cases heq
            exact .inr fun q hq => List.mem_append_left _ hq
          · rcases ih h hmem with hold | hnew
            · exact .inl hold
            · exact .inr fun q hq => List.mem_append_right _ (hnew q hq)

/-- A state that is not newer, in a row that does not go back, is the recorded one. -/
theorem Ascends.eq_recorded {row : States} (h : s.Ascends row) {key : String}
    {state : Option Int} (hmem : ⟨key, state⟩ ∈ row.entries)
    (hnewer : isNewer s.db_cfg_states key state = some false) :
    s.db_cfg_states.lookup key = some state := by
  unfold isNewer at hnewer
  rcases hrec : s.db_cfg_states.lookup key with _ | recorded
  · simp [hrec] at hnewer
  · rcases state with _ | v
    · -- a state that is no integer makes the comparison throw
      simp [hrec] at hnewer
    · rcases recorded with _ | v₀
      · simp [hrec] at hnewer
      · have hle : v₀ ≤ v := h _ hmem v rfl (some v₀) hrec v₀ rfl
        have hge : ¬ v > v₀ := by simpa [hrec] using hnewer
        have heq : v₀ = v := by omega
        rw [heq]

/-- The answer to `check_states` takes nothing away from the keys. -/
theorem holds_checked (hq : s.outstanding[i]? = some q)
    (hcheck : q.query.token = "check_states") (hloaded : s'.loaded = s.loaded)
    (hout : ∀ x ∈ s.outstanding.eraseIdx i, x ∈ s'.outstanding) {m : Mapping} {t : Nat}
    (h : s.Holds m.key t) : s'.Holds m.key t := by
  unfold Holds
  rw [hloaded]
  rcases h.split hq with hle | ⟨htoken, -⟩ | hasked
  · exact .inl hle
  · -- no mapping has the key `check_states`
    exact absurd (htoken.symm.trans hcheck) m.key_ne_check_states
  · obtain ⟨x, hx, hrest⟩ := asked_iff.mp hasked
    exact .inr ⟨x, hout x hx, hrest⟩

/-- The queries posted for a row, and what is recorded of it. -/
theorem onDbCfgReloadTimerResponse_some (s : Polling) (r : States) :
    s.onDbCfgReloadTimerResponse (some r) =
      { s with
        reported := s.reported ++ [r]
        outstanding := s.outstanding ++
          (reloadLoop s.config s.db_cfg_states r.entries).1.map
            fun q => ⟨q, s.reported.length + 1⟩
        db_cfg_states :=
          if (reloadLoop s.config s.db_cfg_states r.entries).2 then r else s.db_cfg_states } := by
  unfold onDbCfgReloadTimerResponse
  simp only [post, List.length_append, List.length_singleton]
  split <;> rfl

theorem current_row (h : s.Current) (hq : s.outstanding[i]? = some q)
    (hcheck : q.query.token = "check_states") {row : Option States}
    (hok : ∀ r ∈ row, s.Ascends r) :
    ({ s with
        outstanding := s.outstanding.eraseIdx i }.onDbCfgReloadTimerResponse row).Current := by
  rcases row with _ | r
  · refine h.of_holds rfl rfl (List.prefix_refl _) ?_
    intro m t hholds
    refine holds_checked hq hcheck ?_ ?_ hholds
    · rfl
    · exact fun x hx => hx
  · rw [onDbCfgReloadTimerResponse_some]
    simp only
    have hrep : s.reported <+: s.reported ++ [r] := List.prefix_append _ _
    rcases hfin : (reloadLoop s.config s.db_cfg_states r.entries).2 with _ | _
    · -- an exception: queries are posted, and nothing is recorded
      refine h.of_holds rfl rfl hrep ?_
      intro m t hholds
      refine holds_checked hq hcheck ?_ ?_ hholds
      · rfl
      · exact fun x hx => List.mem_append_left _ hx
    · intro m state hstate p hp
      have hmem : ⟨m.key, state⟩ ∈ r.entries := AList.mem_lookup_iff.mp hstate
      rcases reloadLoop_finished hfin hmem with hold | hnew
      · -- the state was recorded before
        have hrec := (hok r rfl).eq_recorded hmem hold
        obtain ⟨k, hk⟩ := Mapping.token_on_reload hp
        have hcovered := h m state hrec p hp
        rw [hk] at hcovered ⊢
        refine hcovered.of_holds hrep ?_
        intro t hholds
        refine holds_checked hq hcheck ?_ ?_ hholds
        · rfl
        · exact fun x hx => List.mem_append_left _ hx
      · -- a newer state: its query was posted after this row was reported
        have hkey : p ∈ reloadKey s.config m.key := by
          rw [reloadKey, Mapping.find_key]
          exact hp
        have hposted := hnew p hkey
        right
        refine ⟨⟨p, s.reported.length + 1⟩, ?_, rfl, r, ?_, hstate⟩
        · exact List.mem_append_right _ (List.mem_map_of_mem hposted)
        · rw [List.take_of_length_le (by simp)]
          simp

theorem current_handle (h : s.Current) (hq : s.outstanding[i]? = some q) {handled : Handled}
    (hok : s.HarmlessHandled i q handled) :
    ({ s with outstanding := s.outstanding.eraseIdx i }.handle q handled).Current := by
  rcases handled with _ | untouched
  · refine h.of_holds rfl rfl (List.prefix_refl _) ?_
    intro m t hholds
    refine holds_applied hq hok ?_ ?_ hholds
    · rfl
    · rfl
  · rcases untouched with _ | _
    · refine h.of_holds rfl rfl (List.prefix_refl _) ?_
      intro m t hholds
      refine holds_spoiled hq hok ?_ ?_ hholds
      · rfl
      · rfl
    · refine h.of_holds rfl rfl (List.prefix_refl _) ?_
      intro m t hholds
      refine holds_dropped hq hok ?_ ?_ hholds
      · rfl
      · rfl

/-- A query that is given up. -/
theorem current_dropped (h : s.Current) (hq : s.outstanding[i]? = some q)
    (hok : q.query.token ≠ "check_states" → s.Superseded i q) :
    { s with outstanding := s.outstanding.eraseIdx i }.Current := by
  refine h.of_holds rfl rfl (List.prefix_refl _) ?_
  intro m t hholds
  by_cases hcheck : q.query.token = "check_states"
  · refine holds_checked hq hcheck ?_ ?_ hholds
    · rfl
    · exact fun x hx => hx
  · refine holds_dropped hq (hok hcheck) ?_ ?_ hholds
    · rfl
    · rfl

/-! ### All runs -/

/-- The token is that of `check_states` or of an entry. -/
def Known (q : Issued) : Prop :=
  q.query.token = "check_states" ∨ ∃ m : Mapping, q.query.token = m.key

theorem token_reloadLoop {config : YetiCfg} {states : States}
    {row : List ((_ : String) × Option Int)} {p : PGQuery}
    (h : p ∈ (reloadLoop config states row).1) : ∃ m : Mapping, p.token = m.key := by
  induction row with
  | nil => simp [reloadLoop] at h
  | cons e row ih =>
    obtain ⟨key, state⟩ := e
    unfold reloadLoop at h
    split at h
    · simp at h
    · exact ih h
    · split at h
      · simp at h
      · rcases List.mem_append.mp h with h | h
        · unfold reloadKey at h
          split at h
          · exact Mapping.token_on_reload h
          · simp at h
        · exact ih h

/-- Nothing is lost, and every answer finds its handler. -/
structure Inv (s : Polling) : Prop where
  finished : s.configuration_finished = true
  current : s.Current
  known : ∀ q ∈ s.outstanding, Known q

theorem inv_started (config : YetiCfg) : (started config).Inv := by
  refine ⟨rfl, ?_, ?_⟩
  · intro m state hstate
    -- nothing is recorded at the start
    have hnone : (started config).db_cfg_states.lookup m.key = none := AList.lookup_empty _
    rw [hnone] at hstate
    contradiction
  · intro q hq
    rw [List.mem_singleton.mp hq]
    exact .inl rfl

theorem inv_onDbCfgReloadTimer (h : s.Inv) : s.onDbCfgReloadTimer.Inv := by
  refine ⟨h.finished, ?_, ?_⟩
  · refine h.current.of_holds rfl rfl (List.prefix_refl _) ?_
    intro m t hholds
    rcases hholds with hle | ⟨q, hq, hrest⟩
    · exact .inl hle
    · exact .inr ⟨q, List.mem_append_left _ hq, hrest⟩
  · intro q hq
    rcases List.mem_append.mp hq with hq | hq
    · exact h.known q hq
    · rw [List.mem_singleton.mp hq]
      exact .inl rfl

theorem known_row (h : ∀ q ∈ s.outstanding, Known q) (row : Option States) :
    ∀ q ∈ (s.onDbCfgReloadTimerResponse row).outstanding, Known q := by
  rcases row with _ | r
  · exact h
  · rw [onDbCfgReloadTimerResponse_some]
    intro q hq
    rcases List.mem_append.mp hq with hq | hq
    · exact h q hq
    · obtain ⟨p, hp, rfl⟩ := List.mem_map.mp hq
      exact .inr (token_reloadLoop hp)

/-! What `process` does once the configuration is finished. -/

theorem process_checked (hfin : s.configuration_finished = true) (row : Option States)
    (handled : Handled) (hcheck : q.query.token = "check_states") :
    s.process q (.PGResponse row handled) = s.onDbCfgReloadTimerResponse row := by
  unfold process
  simp only
  rw [if_pos hfin, if_pos hcheck]

theorem process_handled (hfin : s.configuration_finished = true) (row : Option States)
    (handled : Handled) (hq : Known q) (hcheck : q.query.token ≠ "check_states") :
    s.process q (.PGResponse row handled) = s.handle q handled := by
  rcases hq with hc | ⟨m, hm⟩
  · exact absurd hc hcheck
  · unfold process
    simp only
    rw [if_pos hfin, if_neg hcheck, hm, Mapping.find_key]

theorem process_failed (hfin : s.configuration_finished = true) {a : Answer}
    (ha : a = .PGResponseError ∨ a = .PGTimeout) : s.process q a = s := by
  rcases ha with rfl | rfl
  · exact if_pos hfin
  · exact if_pos hfin

theorem handle_outstanding (handled : Handled) :
    (s.handle q handled).outstanding = s.outstanding ∧
      (s.handle q handled).configuration_finished = s.configuration_finished := by
  rcases handled with _ | untouched
  · exact ⟨rfl, rfl⟩
  · exact ⟨rfl, rfl⟩

theorem inv_process (h : s.Inv) (hq : s.outstanding[i]? = some q) {a : Answer}
    (hok : s.Harmless i q a) :
    ({ s with outstanding := s.outstanding.eraseIdx i }.process q a).Inv := by
  have hrest : ∀ x ∈ s.outstanding.eraseIdx i, Known x :=
    fun x hx => h.known x (List.mem_of_mem_eraseIdx hx)
  have hfin : { s with outstanding := s.outstanding.eraseIdx i }.configuration_finished = true :=
    h.finished
  -- errors and timeouts only take the query away
  have hfailed : a = .PGResponseError ∨ a = .PGTimeout →
      ({ s with outstanding := s.outstanding.eraseIdx i }.process q a).Inv := by
    intro ha
    rw [process_failed hfin ha]
    refine ⟨h.finished, current_dropped h.current hq ?_, hrest⟩
    rcases ha with rfl | rfl
    · exact hok
    · exact hok
  rcases a with ⟨row, handled⟩ | _ | _
  · by_cases hcheck : q.query.token = "check_states"
    · rw [process_checked hfin row handled hcheck]
      have hrow := current_row h.current hq hcheck (hok.1 hcheck)
      refine ⟨?_, hrow, known_row hrest row⟩
      rcases row with _ | r
      · exact h.finished
      · rw [onDbCfgReloadTimerResponse_some]
        exact h.finished
    · rw [process_handled hfin row handled (h.known q (List.mem_of_getElem? hq)) hcheck]
      obtain ⟨hout, hfinished⟩ := handle_outstanding
        (s := { s with outstanding := s.outstanding.eraseIdx i }) (q := q) handled
      refine ⟨hfinished.trans h.finished, current_handle h.current hq (hok.2 hcheck), ?_⟩
      rw [hout]
      exact hrest
  · exact hfailed (.inl rfl)
  · exact hfailed (.inr rfl)

theorem inv_next {l : Label} (h : s.Inv) (hok : s.Keeps l) (hnext : s.next l = some s') :
    s'.Inv := by
  rcases l with _ | ⟨i, a⟩
  · rw [← Option.some.inj hnext]
    exact inv_onDbCfgReloadTimer h
  · obtain ⟨q, hq, rfl⟩ := Option.map_eq_some_iff.mp hnext
    exact inv_process h hq (hok q hq)

/-- **No lost update**: along every run whose answers are harmless, each table of a
    recorded key was loaded by a query issued after the report of the recorded state,
    or such a query is outstanding. -/
theorem current_of_keeps (s : Polling) (h : system.ReachableUnder Keeps s) : s.Current := by
  have hinv : s.Inv := by
    refine System.invariant_under Inv ?_ (fun _ _ _ => inv_next) h
    rintro _ ⟨config, rfl⟩
    exact inv_started config
  exact hinv.current

/-- A configuration without the optional features. -/
def plainConfig : YetiCfg := ⟨false, false, 1, 1, false⟩

/-- A row with one state. -/
def oneState (key : String) (state : Int) : States := AList.singleton key (some state)

/-- The load balancers are reloaded after their first report. -/
theorem current_of_keeps_reload :
    ∃ s, system.ReachableUnder Keeps s ∧ s.outstanding = [] ∧
      s.db_cfg_states.lookup "trusted_lb" = some (some 1) ∧ s.Current := by
  obtain ⟨s, hreach, htest⟩ := system.exists_reachableUnder_of_any Keeps
    (fun s => decide (s.outstanding = [] ∧
      s.db_cfg_states.lookup "trusted_lb" = some (some 1))) (started plainConfig)
    [.answer 0 (.PGResponse (some (oneState "trusted_lb" 1)) .applied),
      .answer 0 (.PGResponse none .applied)]
    ⟨plainConfig, rfl⟩ (by decide +kernel)
  obtain ⟨hout, hstate⟩ := of_decide_eq_true htest
  exact ⟨s, hreach, hout, hstate, current_of_keeps s hreach⟩

/-- The reload of the load balancers fails once, and is never tried again. -/
theorem not_current_query_error : ¬ ∀ s, system.Reachable s → s.Current := by
  intro hall
  obtain ⟨s, hreach, htest⟩ := system.exists_reachableUnder_of_any (fun _ _ => True)
    (fun s => decide (s.db_cfg_states.lookup "trusted_lb" = some (some 1) ∧
      ¬ s.Covered "trusted_lb" (some 1) "trusted_lb")) (started plainConfig)
    [.answer 0 (.PGResponse (some (oneState "trusted_lb" 1)) .applied),
      .answer 0 .PGResponseError]
    ⟨plainConfig, rfl⟩ (by decide +kernel)
  obtain ⟨hstate, hnot⟩ := of_decide_eq_true htest
  exact hnot (hall s hreach .trusted_lb (some 1) hstate
    ⟨"SELECT * FROM load_trusted_lb()", [], "trusted_lb"⟩ (List.mem_singleton.mpr rfl))

end Polling

end Yeti.Config
