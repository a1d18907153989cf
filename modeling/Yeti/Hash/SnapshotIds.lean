import Mathlib.Data.List.Nodup
import Mathlib.Data.BitVec
import Yeti.Framework.System
import Yeti.Hash.Snapshot

/-! # Identifiers of snapshot rows

    Model of `CdrList::onTimer`, which lists the active calls and, with buffering, the calls
    that were finalized since the last snapshot (`onSessionFinalize`).

    Every row has an identifier: a union of a word and the bit-fields sign, node, timestamp
    and counter.  The counter is increased for every row and never reset, it wraps around.
    What is posted to the destinations is here the list of rows of a snapshot.
-/

namespace Yeti.Hash

/-! ### The identifier -/

/-- The bit-fields of `snapshot_id`. -/
structure SnapshotId where
  sign : BitVec 1 := 0
  node_id : BitVec 8
  timestamp : BitVec 32
  counter : BitVec 23 := 0
  deriving DecidableEq, Repr

namespace SnapshotId

/-- The word; the counter has the lowest bits. -/
def v (fields : SnapshotId) : BitVec 64 :=
  fields.sign ++ fields.node_id ++ fields.timestamp ++ fields.counter

/-- `snapshot_id.fields.counter++`. -/
def next (fields : SnapshotId) : SnapshotId := { fields with counter := fields.counter + 1 }

end SnapshotId

/-! ### Snapshots -/

variable {D : Type}

/-- An entry of the event dispatcher: a leg of a call, which may have lost its context, and the
    context its CDR. -/
inductive QueueEntry (D : Type) where
  | other
  | leg (isALeg : Bool) (call_ctx : Option (Option (Cdr D)))

/-- The CDR that is listed for an entry. -/
def QueueEntry.activeCdr : QueueEntry D → Option (Cdr D)
  | .leg true (some cdr) => cdr
  | _ => none

/-- A row, with the identifier it was given. -/
structure Row (D : Type) where
  id : BitVec 64
  call : List (String × AmArg D)

/-- A snapshot that was posted. -/
structure Snapshot (D : Type) where
  snapshot_ts : Nat
  rows : List (Row D)

/-- What `onTimer` reads from elsewhere. -/
structure SnapshotConfig where
  node_id : Int
  pop_id : Int
  dyn_fields : List DynField
  snapshots_buffering : Bool
  snapshots_interval : Nat
  snapshots_fields_whitelist : List String
  deriving DecidableEq, Repr

/-- The members of `class CdrList` that change. -/
structure CdrList (D : Type) where
  last_snapshot_ts : Nat := 0
  snapshot_id : SnapshotId
  postponed_active_calls : List (Cdr D) := []

namespace SnapshotConfig

variable (core : Core D) (config : SnapshotConfig)

/-- What both loops set before the CDR is listed. -/
def header (snapshot_id : SnapshotId) (snapshot_ts : Nat) : List (String × AmArg D) :=
  [("id", .longLong snapshot_id.v.toInt), ("snapshot_timestamp", .cstr (core.dateTime snapshot_ts)),
    ("snapshot_date", .cstr (core.date snapshot_ts)), ("node_id", .int config.node_id),
    ("pop_id", .int config.pop_id)]

/-- The listed CDR with the field `end_time` of the row. -/
def listed (cdr : Cdr D) (end_time : AmArg D) (call : List (String × AmArg D)) :
    List (String × AmArg D) :=
  if config.snapshots_fields_whitelist.isEmpty then
    Listing.assign (cdr.snapshot_info core config.dyn_fields call) [("end_time", end_time)]
  else
    Listing.assign
      (cdr.snapshot_info_filtered core config.dyn_fields config.snapshots_fields_whitelist call)
      (add_field config.snapshots_fields_whitelist "end_time" end_time)

/-- The row of an active call. -/
def activeRow (snapshot_ts : Nat) (snapshot_id : SnapshotId) (cdr : Cdr D) : Row D where
  id := snapshot_id.v
  call := config.listed core cdr (.cstr (core.dateTime snapshot_ts))
    (Listing.assign [] (config.header core snapshot_id snapshot_ts ++
      if config.snapshots_buffering then [("buffered", .bool false)] else []))

/-- The row of a postponed call. -/
def postponedRow (snapshot_ts : Nat) (snapshot_id : SnapshotId) (cdr : Cdr D) : Row D where
  id := snapshot_id.v
  call := config.listed core cdr (core.timevalField cdr.end_time)
    (Listing.assign [] (config.header core snapshot_id snapshot_ts ++ [("buffered", .bool true)]))

/-- A loop over calls, each with the next identifier. -/
def serialize (row : SnapshotId → Cdr D → Row D) (snapshot_id : SnapshotId) :
    List (Cdr D) → SnapshotId × List (Row D)
  | [] => (snapshot_id, [])
  | cdr :: cdrs =>
    let (last_id, rows) := serialize row snapshot_id.next cdrs
    (last_id, row snapshot_id.next cdr :: rows)

end SnapshotConfig

namespace CdrList

variable (core : Core D) (config : SnapshotConfig)

/-- `CdrList::CdrList`, which does not set the timestamp. -/
def new (node_id : Int) (timestamp : BitVec 32) : CdrList D where
  snapshot_id := { node_id := BitVec.ofInt 8 node_id, timestamp }

/-- `CdrList::onSessionFinalize`. -/
def onSessionFinalize (l : CdrList D) (cdr : Cdr D) : CdrList D :=
  if config.snapshots_buffering then
    { l with postponed_active_calls := l.postponed_active_calls ++ [cdr] }
  else l

/-- `onTimer` after the check: the two loops. -/
def takeSnapshot (l : CdrList D) (snapshot_ts : Nat) (entries : List (QueueEntry D)) :
    CdrList D × Snapshot D :=
  let snapshot_id := { l.snapshot_id with timestamp := BitVec.ofNat 32 snapshot_ts }
  let (snapshot_id, active) := SnapshotConfig.serialize (config.activeRow core snapshot_ts)
    snapshot_id (entries.filterMap QueueEntry.activeCdr)
  if config.snapshots_buffering then
    let (snapshot_id, postponed) := SnapshotConfig.serialize
      (config.postponedRow core snapshot_ts) snapshot_id l.postponed_active_calls
    ({ last_snapshot_ts := snapshot_ts, snapshot_id, postponed_active_calls := [] },
      ⟨snapshot_ts, active ++ postponed⟩)
  else ({ l with last_snapshot_ts := snapshot_ts, snapshot_id }, ⟨snapshot_ts, active⟩)

/-- `CdrList::onTimer`; a duplicate timestamp is ignored. -/
def onTimer (l : CdrList D) (now : Nat) (entries : List (QueueEntry D)) :
    CdrList D × Option (Snapshot D) :=
  let snapshot_ts := now - now % config.snapshots_interval
  if l.last_snapshot_ts ≠ 0 ∧ l.last_snapshot_ts = snapshot_ts then (l, none)
  else
    let (l', snapshot) := l.takeSnapshot core config snapshot_ts entries
    (l', some snapshot)

end CdrList

/-! ### Runs -/

/-- The list of calls and what it has posted so far. -/
structure SnapshotRun (D : Type) where
  list : CdrList D
  snapshots : List (Snapshot D) := []

/-- What happens to the list of calls. -/
inductive SnapshotLabel (D : Type) where
  | onSessionFinalize (cdr : Cdr D)
  | onTimer (now : Nat) (entries : List (QueueEntry D))

/-- The list of calls of a node, under all orders of calls and timer events. -/
def snapshotSystem (core : Core D) (config : SnapshotConfig) :
    LTS.System (SnapshotRun D) (SnapshotLabel D) where
  init s := ∃ timestamp, s = { list := CdrList.new config.node_id timestamp }
  next s
    | .onSessionFinalize cdr => some { s with list := s.list.onSessionFinalize config cdr }
    | .onTimer now entries =>
      let (list, snapshot) := s.list.onTimer core config now entries
      some { list, snapshots := s.snapshots ++ snapshot.toList }

/-! ### Words -/

theorem toNat_append_eq {m n : Nat} (x : BitVec m) (y : BitVec n) :
    (x ++ y).toNat = x.toNat * 2 ^ n + y.toNat := by
  rw [BitVec.toNat_append, ← Nat.shiftLeft_add_eq_or_of_lt y.isLt, Nat.shiftLeft_eq]

namespace SnapshotId

theorem toNat_v (fields : SnapshotId) : fields.v.toNat =
    ((fields.sign.toNat * 2 ^ 8 + fields.node_id.toNat) * 2 ^ 32 + fields.timestamp.toNat) *
      2 ^ 23 + fields.counter.toNat := by
  unfold v
  rw [toNat_append_eq, toNat_append_eq, toNat_append_eq]

/-- Without the sign bit the word is not negative. -/
theorem toInt_v {fields : SnapshotId} (hsign : fields.sign = 0) :
    fields.v.toInt = fields.v.toNat := by
  have hv := fields.toNat_v
  have hnode := fields.node_id.isLt
  have htimestamp := fields.timestamp.isLt
  have hcounter := fields.counter.isLt
  have hzero : fields.sign.toNat = 0 := by rw [hsign]; rfl
  rw [BitVec.toInt_eq_toNat_of_lt]
  omega

/-- The timestamp decides. -/
theorem v_lt {fields fields' : SnapshotId} (hsign : fields.sign = fields'.sign)
    (hnode : fields.node_id = fields'.node_id)
    (hlt : fields.timestamp.toNat < fields'.timestamp.toNat) :
    fields.v.toNat < fields'.v.toNat := by
  have hcounter := fields.counter.isLt
  rw [toNat_v, toNat_v, hsign, hnode]
  omega

/-! ### Counting -/

/-- The identifier after some more rows. -/
def advance (fields : SnapshotId) (n : Nat) : SnapshotId :=
  { fields with counter := fields.counter + BitVec.ofNat 23 n }

theorem advance_zero (fields : SnapshotId) : fields.advance 0 = fields := by
  simp [advance]

theorem advance_advance (fields : SnapshotId) (n m : Nat) :
    (fields.advance n).advance m = fields.advance (n + m) := by
  simp [advance, BitVec.ofNat_add, BitVec.add_assoc]

theorem next_eq_advance (fields : SnapshotId) : fields.next = fields.advance 1 := rfl

/-- The identifiers of the next rows. -/
def ids (fields : SnapshotId) (n : Nat) : List (BitVec 64) :=
  (List.range n).map fun i => (fields.advance (i + 1)).v

theorem ids_succ (fields : SnapshotId) (n : Nat) :
    fields.ids (n + 1) = fields.next.v :: fields.next.ids n := by
  unfold ids
  rw [List.range_succ_eq_map, List.map_cons, List.map_map]
  refine congrArg (_ :: ·) (List.map_congr_left fun i _ => ?_)
  rw [next_eq_advance, advance_advance, Nat.add_comm 1 (i + 1)]
  rfl

theorem ids_add (fields : SnapshotId) (n m : Nat) :
    fields.ids (n + m) = fields.ids n ++ (fields.advance n).ids m := by
  unfold ids
  rw [List.range_add, List.map_append, List.map_map]
  refine congrArg (_ ++ ·) (List.map_congr_left fun i _ => ?_)
  rw [advance_advance, Function.comp_apply, Nat.add_assoc]

/-- Less than a whole cycle of the counter. -/
theorem nodup_ids (fields : SnapshotId) {n : Nat} (hn : n < 2 ^ 23) : (fields.ids n).Nodup := by
  refine List.Nodup.map_on (fun i hi j hj hij => ?_) List.nodup_range
  have hi := List.mem_range.mp hi
  have hj := List.mem_range.mp hj
  have hword := congrArg BitVec.toNat hij
  rw [toNat_v, toNat_v] at hword
  have hcounter : (fields.advance (i + 1)).counter.toNat = (fields.advance (j + 1)).counter.toNat :=
    Nat.add_left_cancel hword
  simp only [advance, BitVec.toNat_add, BitVec.toNat_ofNat] at hcounter
  have hlt := fields.counter.isLt
  omega

theorem mem_ids {fields : SnapshotId} {n : Nat} {id : BitVec 64} (h : id ∈ fields.ids n) :
    ∃ counter, id = ({ fields with counter } : SnapshotId).v := by
  obtain ⟨i, -, rfl⟩ := List.mem_map.mp h
  exact ⟨_, rfl⟩

end SnapshotId

/-! ### Loops -/

theorem SnapshotConfig.serialize_eq {row : SnapshotId → Cdr D → Row D}
    (hrow : ∀ fields cdr, (row fields cdr).id = fields.v) (cdrs : List (Cdr D))
    (fields : SnapshotId) :
    (serialize row fields cdrs).1 = fields.advance cdrs.length ∧
      (serialize row fields cdrs).2.length = cdrs.length ∧
      (serialize row fields cdrs).2.map (·.id) = fields.ids cdrs.length := by
  induction cdrs generalizing fields with
  | nil => exact ⟨fields.advance_zero.symm, rfl, rfl⟩
  | cons cdr cdrs ih =>
    obtain ⟨hlast, hlength, hids⟩ := ih fields.next
    unfold serialize
    refine ⟨?_, ?_, ?_⟩
    · rw [hlast, SnapshotId.next_eq_advance, SnapshotId.advance_advance, List.length_cons,
        Nat.add_comm]
    · rw [List.length_cons, hlength, List.length_cons]
    · rw [List.map_cons, hids, hrow, List.length_cons, SnapshotId.ids_succ]

/-- The rows have the identifiers after the given one, with the timestamp of the snapshot. -/
def Snapshot.NumberedFrom (snapshot : Snapshot D) (fields : SnapshotId) : Prop :=
  snapshot.rows.map (·.id) =
    { fields with timestamp := BitVec.ofNat 32 snapshot.snapshot_ts }.ids snapshot.rows.length

namespace CdrList

variable (core : Core D) (config : SnapshotConfig) (l : CdrList D)

theorem takeSnapshot_numbered (snapshot_ts : Nat) (entries : List (QueueEntry D)) :
    (l.takeSnapshot core config snapshot_ts entries).1.snapshot_id.sign = l.snapshot_id.sign ∧
      (l.takeSnapshot core config snapshot_ts entries).1.snapshot_id.node_id =
        l.snapshot_id.node_id ∧
      (l.takeSnapshot core config snapshot_ts entries).2.NumberedFrom l.snapshot_id := by
  obtain ⟨hlast, hlength, hids⟩ := SnapshotConfig.serialize_eq
    (fun _ _ => rfl : ∀ fields cdr, (config.activeRow core snapshot_ts fields cdr).id = fields.v)
    (entries.filterMap QueueEntry.activeCdr)
    { l.snapshot_id with timestamp := BitVec.ofNat 32 snapshot_ts }
  have hpostponed := SnapshotConfig.serialize_eq
    (fun _ _ => rfl : ∀ fields cdr, (config.postponedRow core snapshot_ts fields cdr).id = fields.v)
    l.postponed_active_calls
  unfold takeSnapshot Snapshot.NumberedFrom
  cases config.snapshots_buffering with
  | false =>
    simp only [Bool.false_eq_true, if_false, hlast]
    exact ⟨rfl, rfl, hlength ▸ hids⟩
  | true =>
    -- the postponed calls are numbered on
    obtain ⟨hlast', hlength', hids'⟩ := hpostponed
      (({ l.snapshot_id with timestamp := BitVec.ofNat 32 snapshot_ts } : SnapshotId).advance
        (entries.filterMap QueueEntry.activeCdr).length)
    simp only [if_true, hlast, hlast', List.map_append, List.length_append, hids, hids', hlength,
      hlength', SnapshotId.ids_add]
    exact ⟨rfl, rfl, trivial⟩

theorem onTimer_numbered (now : Nat) (entries : List (QueueEntry D)) :
    (l.onTimer core config now entries).1.snapshot_id.sign = l.snapshot_id.sign ∧
      (l.onTimer core config now entries).1.snapshot_id.node_id = l.snapshot_id.node_id ∧
      ∀ snapshot ∈ (l.onTimer core config now entries).2, snapshot.NumberedFrom l.snapshot_id := by
  obtain ⟨hsign, hnode, hnumbered⟩ := l.takeSnapshot_numbered core config
    (now - now % config.snapshots_interval) entries
  unfold onTimer
  -- a second timer in the interval posts nothing
  by_cases hduplicate :
      l.last_snapshot_ts ≠ 0 ∧ l.last_snapshot_ts = now - now % config.snapshots_interval
  · rw [if_pos hduplicate]
    exact ⟨rfl, rfl, fun _ h => by cases h⟩
  · rw [if_neg hduplicate]
    refine ⟨hsign, hnode, fun snapshot hsnapshot => ?_⟩
    rw [← Option.some.inj hsnapshot]
    exact hnumbered

end CdrList

/-! ### The field `id` -/

section Field

variable (core : Core D) {config : SnapshotConfig}

/-- Only a dynamic field of that name would change the identifier in a row. -/
theorem SnapshotConfig.lookup_id_listed (hid : ∀ d ∈ config.dyn_fields, d.name ≠ "id") (cdr : Cdr D)
    (end_time : AmArg D) (call : List (String × AmArg D)) :
    (config.listed core cdr end_time call).lookup "id" = call.lookup "id" := by
  have hdynamic : Listing.last (cdr.dynamicEntries config.dyn_fields) "id" = none := by
    refine Listing.last_eq_none_iff.mpr fun hmem => ?_
    obtain ⟨d, hd, hname⟩ := cdr.exists_of_mem_dynamicEntries hmem
    exact hid d hd hname
  have hclickhouse : Listing.last cdr.clickhouseEntries "id" = none :=
    Listing.last_eq_none_iff.mpr fun hmem =>
      absurd (Cdr.prefix_of_mem_clickhouse hmem) (by decide)
  have hstatic : Listing.last (cdr.staticEntries core) "id" = none :=
    cdr.last_static_eq_none core (by decide)
  unfold listed
  split_ifs
  · rw [Listing.lookup_assign, Cdr.snapshot_info, Listing.lookup_assign, Cdr.last_snapshotEntries,
      hdynamic, hclickhouse, hstatic]
    rfl
  · have hend : Listing.last (add_field config.snapshots_fields_whitelist "end_time" end_time)
        "id" = none := by
      rw [add_field, filter]
      split_ifs
      · rfl
      · rfl
    rw [Listing.lookup_assign, hend, Cdr.snapshot_info_filtered, Listing.lookup_assign,
      Cdr.last_snapshotEntriesFiltered, hdynamic, hclickhouse, hstatic]
    simp

theorem SnapshotConfig.lookup_id_activeRow (hid : ∀ d ∈ config.dyn_fields, d.name ≠ "id")
    (snapshot_ts : Nat) (fields : SnapshotId) (cdr : Cdr D) :
    (config.activeRow core snapshot_ts fields cdr).call.lookup "id" =
      some (.longLong fields.v.toInt) := by
  unfold activeRow
  rw [lookup_id_listed core hid, Listing.lookup_assign, Listing.last_append]
  cases config.snapshots_buffering with
  | false => rfl
  | true => rfl

theorem SnapshotConfig.lookup_id_postponedRow (hid : ∀ d ∈ config.dyn_fields, d.name ≠ "id")
    (snapshot_ts : Nat) (fields : SnapshotId) (cdr : Cdr D) :
    (config.postponedRow core snapshot_ts fields cdr).call.lookup "id" =
      some (.longLong fields.v.toInt) := by
  unfold postponedRow
  rw [lookup_id_listed core hid, Listing.lookup_assign, Listing.last_append]
  rfl

end Field

/-! ### Runs of the node -/

section Runs

variable {core : Core D} {config : SnapshotConfig}

/-- Sign and node stay, and the rows are numbered. -/
structure SnapshotInv (config : SnapshotConfig) (s : SnapshotRun D) : Prop where
  sign : s.list.snapshot_id.sign = 0
  node_id : s.list.snapshot_id.node_id = BitVec.ofInt 8 config.node_id
  numbered : ∀ snapshot ∈ s.snapshots, ∃ fields : SnapshotId, fields.sign = 0 ∧
    fields.node_id = BitVec.ofInt 8 config.node_id ∧ snapshot.NumberedFrom fields

theorem SnapshotInv.next {s s' : SnapshotRun D} (h : SnapshotInv config s)
    (label : SnapshotLabel D) (hnext : (snapshotSystem core config).next s label = some s') :
    SnapshotInv config s' := by
  cases label with
  | onSessionFinalize cdr =>
    -- the call is postponed at most, and gets its number with the next snapshot
    have hid : (s.list.onSessionFinalize config cdr).snapshot_id = s.list.snapshot_id := by
      unfold CdrList.onSessionFinalize
      split_ifs
      · rfl
      · rfl
    rw [← Option.some.inj hnext]
    exact ⟨hid ▸ h.sign, hid ▸ h.node_id, h.numbered⟩
  | onTimer now entries =>
    obtain ⟨hsign, hnode, hnumbered⟩ := s.list.onTimer_numbered core config now entries
    rw [← Option.some.inj hnext]
    refine ⟨hsign.trans h.sign, hnode.trans h.node_id, fun snapshot hmem => ?_⟩
    rcases List.mem_append.mp hmem with hold | hnew
    · exact h.numbered snapshot hold
    · have hposted := hnumbered snapshot (Option.mem_toList.mp hnew)
      exact ⟨s.list.snapshot_id, h.sign, h.node_id, hposted⟩

theorem snapshotInv_of_reachable {s : SnapshotRun D}
    (h : (snapshotSystem core config).Reachable s) : SnapshotInv config s := by
  refine LTS.System.invariant_under (SnapshotInv config) ?_ ?_ h
  · rintro s ⟨timestamp, rfl⟩
    exact ⟨rfl, rfl, fun _ hmem => absurd hmem List.not_mem_nil⟩
  · exact fun s label s' hinv _ hnext => hinv.next label hnext

/-- The word of a row, by its fields. -/
theorem SnapshotInv.row {s : SnapshotRun D} (h : SnapshotInv config s) {snapshot : Snapshot D}
    (hmem : snapshot ∈ s.snapshots) {id : BitVec 64} (hid : id ∈ snapshot.rows.map (·.id)) :
    ∃ counter, id = SnapshotId.v ⟨0, BitVec.ofInt 8 config.node_id,
      BitVec.ofNat 32 snapshot.snapshot_ts, counter⟩ := by
  obtain ⟨fields, hsign, hnode, hnumbered⟩ := h.numbered snapshot hmem
  rw [hnumbered] at hid
  obtain ⟨counter, rfl⟩ := SnapshotId.mem_ids hid
  exact ⟨counter, by rw [hsign, hnode]⟩

/-- Rows of a later snapshot have larger words. -/
theorem SnapshotInv.lt_of_ts_lt {s : SnapshotRun D} (h : SnapshotInv config s)
    {snapshot snapshot' : Snapshot D} (hmem : snapshot ∈ s.snapshots)
    (hmem' : snapshot' ∈ s.snapshots) (hlt : snapshot.snapshot_ts < snapshot'.snapshot_ts)
    (hbelow : snapshot'.snapshot_ts < 2 ^ 32) {id id' : BitVec 64}
    (hid : id ∈ snapshot.rows.map (·.id)) (hid' : id' ∈ snapshot'.rows.map (·.id)) :
    id.toNat < id'.toNat := by
  obtain ⟨counter, rfl⟩ := h.row hmem hid
  obtain ⟨counter', rfl⟩ := h.row hmem' hid'
  refine SnapshotId.v_lt rfl rfl ?_
  rw [BitVec.toNat_ofNat, BitVec.toNat_ofNat, Nat.mod_eq_of_lt (hlt.trans hbelow),
    Nat.mod_eq_of_lt hbelow]
  exact hlt

theorem SnapshotInv.toInt_eq {s : SnapshotRun D} (h : SnapshotInv config s)
    {snapshot : Snapshot D} (hmem : snapshot ∈ s.snapshots) {id : BitVec 64}
    (hid : id ∈ snapshot.rows.map (·.id)) : id.toInt = id.toNat := by
  obtain ⟨counter, rfl⟩ := h.row hmem hid
  exact SnapshotId.toInt_v rfl

/-! ### Main result -/

/-- The identifiers of all rows that a node has posted. -/
def SnapshotRun.ids (s : SnapshotRun D) : List (BitVec 64) :=
  s.snapshots.flatMap fun snapshot => snapshot.rows.map (·.id)

theorem SnapshotInv.nodup_ids {s : SnapshotRun D} (h : SnapshotInv config s)
    (hdistinct : (s.snapshots.map (·.snapshot_ts)).Nodup)
    (hbelow : ∀ snapshot ∈ s.snapshots, snapshot.snapshot_ts < 2 ^ 32)
    (hrows : ∀ snapshot ∈ s.snapshots, snapshot.rows.length < 2 ^ 23) : s.ids.Nodup := by
  refine List.nodup_flatMap.mpr ⟨fun snapshot hmem => ?_, ?_⟩
  · obtain ⟨fields, -, -, hnumbered⟩ := h.numbered snapshot hmem
    rw [hnumbered]
    exact SnapshotId.nodup_ids _ (hrows snapshot hmem)
  · -- two snapshots differ in the timestamp, which stands above the counter
    have hpairwise := List.pairwise_map.mp hdistinct
    refine hpairwise.imp_of_mem fun {snapshot snapshot'} hmem hmem' hne id hid hid' => ?_
    rcases Nat.lt_or_gt_of_ne hne with hlt | hlt
    · exact absurd (h.lt_of_ts_lt hmem hmem' hlt (hbelow _ hmem') hid hid') (lt_irrefl _)
    · exact absurd (h.lt_of_ts_lt hmem' hmem hlt (hbelow _ hmem) hid' hid) (lt_irrefl _)

end Runs

/-! ### Two snapshots -/

namespace SnapshotExample

/-- Snapshots every 60 seconds, with buffering. -/
def bufferingConfig : SnapshotConfig where
  node_id := 3
  pop_id := 1
  dyn_fields := []
  snapshots_buffering := true
  snapshots_interval := 60
  snapshots_fields_whitelist := []

/-- An active call, which is postponed when it ends. -/
def twoSnapshots : SnapshotRun Int :=
  let (first, snapshot) := (CdrList.new 3 0).onTimer plainCore bufferingConfig 65
    [.leg true (some (some idleCdr)), .other]
  let (second, snapshot') := (first.onSessionFinalize bufferingConfig idleCdr).onTimer plainCore
    bufferingConfig 130 []
  { list := second, snapshots := snapshot.toList ++ snapshot'.toList }

theorem reachable_twoSnapshots :
    (snapshotSystem plainCore bufferingConfig).Reachable twoSnapshots :=
  .step (.onTimer 130 []) (.step (.onSessionFinalize idleCdr)
    (.step (.onTimer 65 [.leg true (some (some idleCdr)), .other]) (.init ⟨0, rfl⟩) trivial rfl)
    trivial rfl) trivial rfl

end SnapshotExample

end Yeti.Hash
