import Yeti.Sdp.Offer

/-! # Where the connection addresses stand

    Model of `normalize_conn_location`.  An SDP may carry a connection address for the
    whole session and one for each media line, which takes precedence; the function
    moves them to the level that a gateway wants.

    The address that is in effect for a line must stay.  `assert_session_conn` lifts
    addresses of the lines only if they agree, but an address that the session has
    already replaces those of the lines unseen.
-/

namespace Yeti.Sdp

/-! ### Model -/

/-- `!conn.address.empty()`. -/
def SdpConnection.isSet (conn : SdpConnection) : Bool := !conn.address.isEmpty

/-- `all_media_conn_equal`: whether the connections of the lines are equal, and the first
    of them in `conn`. -/
def all_media_conn_equal : List SdpMedia → SdpConnection → Bool × SdpConnection
  | [], conn => (true, conn)
  | m :: media, conn =>
    if m.conn.isSet then
      if !conn.isSet then all_media_conn_equal media m.conn
      else if conn = m.conn then all_media_conn_equal media conn
      else (false, conn)
    else all_media_conn_equal media conn

/-- `assert_session_conn`: the SDP, and whether it has a connection for the session. -/
def assert_session_conn (sdp : AmSdp) : AmSdp × Bool :=
  if sdp.conn.isSet then (sdp, true)
  else if 1 < sdp.media.length then
    let (all_is_equal, conn) := all_media_conn_equal sdp.media {}
    if all_is_equal && conn.isSet then ({ sdp with conn := conn }, true) else (sdp, false)
  else
    match sdp.media with
    | [] => (sdp, false)
    | m :: _ => if m.conn.isSet then ({ sdp with conn := m.conn }, true) else (sdp, false)

/-- `assert_media_conn`, without the flag that no caller reads. -/
def assert_media_conn (sdp : AmSdp) : AmSdp :=
  if !sdp.conn.isSet then sdp
  else
    { sdp with media := sdp.media.map fun m =>
        if !m.conn.isSet then { m with conn := sdp.conn } else m }

/-- `remove_media_conn`. -/
def remove_media_conn (sdp : AmSdp) : AmSdp :=
  { sdp with media := sdp.media.map fun m => if m.conn.isSet then { m with conn := {} } else m }

/-- `BOTH` of the connection locations. -/
def BOTH : Int := 0
def SESSION_ONLY : Int := 1
def MEDIA_ONLY : Int := 2

/-- `normalize_conn_location`. -/
def normalize_conn_location (sdp : AmSdp) (location_id : Int) : AmSdp :=
  if location_id = BOTH then assert_media_conn (assert_session_conn sdp).1
  else if location_id = SESSION_ONLY then
    if (assert_session_conn sdp).2 then
      -- the session has a connection: clean those of all streams
      remove_media_conn (assert_session_conn sdp).1
    else (assert_session_conn sdp).1
  else if location_id = MEDIA_ONLY then
    { assert_media_conn (assert_session_conn sdp).1 with conn := {} }
  else sdp

/-! ### What is claimed -/

/-- The connection in effect for a line. -/
def AmSdp.effective (sdp : AmSdp) (m : SdpMedia) : SdpConnection :=
  if m.conn.isSet then m.conn else sdp.conn

/-- The streams of `sdp` that have a connection have the same one in `sdp'`. -/
def Preserves (sdp sdp' : AmSdp) : Prop :=
  List.Forall₂ (fun m m' => (sdp.effective m).isSet → sdp'.effective m' = sdp.effective m)
    sdp.media sdp'.media

/-- The connections stay in effect, and stand where they are wanted. -/
structure Located (sdp : AmSdp) (location_id : Int) (sdp' : AmSdp) : Prop where
  preserves : Preserves sdp sdp'
  both : location_id = BOTH →
    List.Forall₂ (fun m m' => (sdp.effective m).isSet → m'.conn.isSet) sdp.media sdp'.media
  media_only : location_id = MEDIA_ONLY → sdp'.conn.isSet = false
  session_only : location_id = SESSION_ONLY → (∀ m' ∈ sdp'.media, m'.conn.isSet = false) →
    ∀ m₁ ∈ sdp.media, ∀ m₂ ∈ sdp.media, (sdp.effective m₁).isSet → (sdp.effective m₂).isSet →
      sdp.effective m₁ = sdp.effective m₂

/-- No line overrides a connection of the session. -/
def NoOverride (sdp : AmSdp) : Prop :=
  sdp.conn.isSet → ∀ m ∈ sdp.media, m.conn.isSet → m.conn = sdp.conn

instance : DecidablePred NoOverride := fun sdp =>
  inferInstanceAs (Decidable (sdp.conn.isSet → ∀ m ∈ sdp.media, m.conn.isSet → m.conn = sdp.conn))

/-! ### The helpers -/

theorem not_isSet_default : SdpConnection.isSet {} = false := rfl

theorem effective_of_isSet {sdp : AmSdp} {m : SdpMedia} (h : m.conn.isSet = true) :
    sdp.effective m = m.conn := if_pos h

theorem effective_of_not_isSet {sdp : AmSdp} {m : SdpMedia} (h : m.conn.isSet = false) :
    sdp.effective m = sdp.conn := if_neg (by simp [h])

/-- If the connections are equal, they are the one found. -/
theorem eq_of_all_media_conn_equal {media : List SdpMedia} {conn conn' : SdpConnection}
    (h : all_media_conn_equal media conn = (true, conn')) :
    (conn.isSet = true → conn' = conn) ∧ ∀ m ∈ media, m.conn.isSet = true → m.conn = conn' := by
  induction media generalizing conn with
  | nil =>
    cases h
    exact ⟨fun _ => rfl, by simp⟩
  | cons m media ih =>
    rw [all_media_conn_equal] at h
    rw [List.forall_mem_cons]
    split_ifs at h with hm hconn heq
    · obtain ⟨hfirst, hrest⟩ := ih h
      have hconn : conn.isSet = false := by simpa using hconn
      exact ⟨by simp [hconn], fun _ => (hfirst hm).symm, hrest⟩
    · obtain ⟨hfirst, hrest⟩ := ih h
      have hconn : conn.isSet = true := by simpa using hconn
      exact ⟨hfirst, fun _ => heq.symm.trans (hfirst hconn).symm, hrest⟩
    · cases h
    · obtain ⟨hfirst, hrest⟩ := ih h
      exact ⟨hfirst, fun hset => absurd hset hm, hrest⟩

/-- The session has a connection, or gets the one of all streams that have one, or
    nothing changes. -/
theorem assert_session_conn_cases (sdp : AmSdp) :
    (sdp.conn.isSet = true ∧ assert_session_conn sdp = (sdp, true)) ∨
    (∃ conn, sdp.conn.isSet = false ∧ conn.isSet = true ∧
      (∀ m ∈ sdp.media, m.conn.isSet = true → m.conn = conn) ∧
      assert_session_conn sdp = ({ sdp with conn := conn }, true)) ∨
    (sdp.conn.isSet = false ∧ assert_session_conn sdp = (sdp, false)) := by
  unfold assert_session_conn
  cases hsession : sdp.conn.isSet with
  | true => exact .inl ⟨rfl, rfl⟩
  | false =>
    right
    rw [if_neg Bool.false_ne_true]
    by_cases hseveral : 1 < sdp.media.length
    · rw [if_pos hseveral]
      cases hequal : all_media_conn_equal sdp.media {} with
      | mk all_is_equal conn =>
        dsimp only
        by_cases hlift : (all_is_equal && conn.isSet) = true
        · obtain ⟨hall, hconn⟩ := Bool.and_eq_true_iff.mp hlift
          subst hall
          rw [if_pos hlift]
          exact .inl ⟨conn, rfl, hconn, (eq_of_all_media_conn_equal hequal).2, rfl⟩
        · rw [if_neg hlift]
          exact .inr ⟨rfl, rfl⟩
    · rw [if_neg hseveral]
      cases hmedia : sdp.media with
      | nil => exact .inr ⟨rfl, rfl⟩
      | cons m rest =>
        have hrest : rest = [] := by
          rw [hmedia, List.length_cons] at hseveral
          exact List.eq_nil_of_length_eq_zero (by omega)
        subst hrest
        dsimp only
        cases hm : m.conn.isSet with
        | true =>
          rw [if_pos rfl]
          refine .inl ⟨m.conn, rfl, hm, ?_, rfl⟩
          intro m' hm' _
          rw [List.mem_singleton.mp hm']
        | false => exact .inr ⟨rfl, rfl⟩

/-! ### Lines -/

/-- `m` after `assert_media_conn`, if the session has the connection `conn`. -/
def withConn (conn : SdpConnection) (m : SdpMedia) : SdpMedia :=
  if !m.conn.isSet then { m with conn := conn } else m

theorem assert_media_conn_of_isSet {sdp : AmSdp} (h : sdp.conn.isSet = true) :
    assert_media_conn sdp = { sdp with media := sdp.media.map (withConn sdp.conn) } := by
  unfold assert_media_conn
  rw [h]
  rfl

theorem assert_media_conn_of_not_isSet {sdp : AmSdp} (h : sdp.conn.isSet = false) :
    assert_media_conn sdp = sdp := by
  unfold assert_media_conn
  rw [h]
  rfl

/-- Without a connection of the session, only lines with their own have one. -/
theorem isSet_of_effective {sdp : AmSdp} (hsession : sdp.conn.isSet = false) {m : SdpMedia}
    (h : (sdp.effective m).isSet = true) : m.conn.isSet = true := by
  unfold AmSdp.effective at h
  split_ifs at h with hm
  · exact hm
  · rw [hsession] at h
    cases h

/-- Once the session has a connection that no line overrides, it may be given to the
    lines that have none. -/
theorem effective_withConn {sdp : AmSdp} {conn : SdpConnection}
    (hconn : sdp.conn.isSet = true → conn = sdp.conn) {m : SdpMedia}
    (hm : (sdp.effective m).isSet = true) : (withConn conn m).conn = sdp.effective m := by
  unfold withConn
  cases hown : m.conn.isSet with
  | true => exact (effective_of_isSet hown).symm
  | false =>
    rw [effective_of_not_isSet hown] at hm ⊢
    exact hconn hm

theorem forall₂_map_self {R : SdpMedia → SdpMedia → Prop} {f : SdpMedia → SdpMedia}
    {media : List SdpMedia} (h : ∀ m ∈ media, R m (f m)) : List.Forall₂ R media (media.map f) := by
  rw [List.forall₂_map_right_iff, List.forall₂_same]
  exact h

theorem preserves_self (sdp : AmSdp) : Preserves sdp sdp :=
  List.forall₂_same.mpr fun _ _ _ => rfl

/-! ### The locations -/

/-- With the connections on all levels, every stream that has one has it in its line. -/
theorem conn_asserted (sdp : AmSdp) :
    List.Forall₂ (fun m m' => (sdp.effective m).isSet → m'.conn = sdp.effective m) sdp.media
      (assert_media_conn (assert_session_conn sdp).1).media := by
  rcases assert_session_conn_cases sdp with
    ⟨hsession, hassert⟩ | ⟨conn, hsession, hconn, -, hassert⟩ | ⟨hsession, hassert⟩
  · rw [hassert, assert_media_conn_of_isSet hsession]
    exact forall₂_map_self fun m _ hm => effective_withConn (fun _ => rfl) hm
  · have hlifted : ({ sdp with conn := conn } : AmSdp).conn.isSet = true := hconn
    rw [hassert, assert_media_conn_of_isSet hlifted]
    refine forall₂_map_self ?_
    intro m _ hm
    exact effective_withConn (fun hset => absurd hset (by simp [hsession])) hm
  · rw [hassert, assert_media_conn_of_not_isSet hsession]
    refine List.forall₂_same.mpr ?_
    intro m _ hm
    exact (effective_of_isSet (isSet_of_effective hsession hm)).symm

/-- A line that has its connection keeps it in effect, whatever the session has. -/
theorem preserves_of_conn {sdp sdp' : AmSdp}
    (h : List.Forall₂ (fun m m' => (sdp.effective m).isSet → m'.conn = sdp.effective m) sdp.media
      sdp'.media) : Preserves sdp sdp' := by
  refine List.Forall₂.imp ?_ h
  intro m m' hline hm
  have hconn : m'.conn = sdp.effective m := hline hm
  rw [← hconn] at hm ⊢
  exact effective_of_isSet hm

theorem located_both (sdp : AmSdp) : Located sdp BOTH (normalize_conn_location sdp BOTH) where
  preserves := preserves_of_conn (conn_asserted sdp)
  both _ := by
    refine List.Forall₂.imp ?_ (conn_asserted sdp)
    intro m m' hline hm
    rw [hline hm]
    exact hm
  media_only hloc := absurd hloc (by decide)
  session_only hloc := absurd hloc (by decide)

theorem located_media_only (sdp : AmSdp) :
    Located sdp MEDIA_ONLY (normalize_conn_location sdp MEDIA_ONLY) where
  preserves := preserves_of_conn (conn_asserted sdp)
  both hloc := absurd hloc (by decide)
  media_only _ := not_isSet_default
  session_only hloc := absurd hloc (by decide)

/-- Any other location changes nothing. -/
theorem located_other (sdp : AmSdp) {location_id : Int} (hboth : location_id ≠ BOTH)
    (hsession : location_id ≠ SESSION_ONLY) (hmedia : location_id ≠ MEDIA_ONLY) :
    Located sdp location_id (normalize_conn_location sdp location_id) := by
  have hsame : normalize_conn_location sdp location_id = sdp := by
    rw [normalize_conn_location, if_neg hboth, if_neg hsession, if_neg hmedia]
  rw [hsame]
  exact ⟨preserves_self sdp, fun hloc => absurd hloc hboth, fun hloc => absurd hloc hmedia,
    fun hloc => absurd hloc hsession⟩

/-- `m` after `remove_media_conn`. -/
def withoutConn (m : SdpMedia) : SdpMedia := if m.conn.isSet then { m with conn := {} } else m

theorem not_isSet_withoutConn (m : SdpMedia) : (withoutConn m).conn.isSet = false := by
  unfold withoutConn
  cases hm : m.conn.isSet with
  | true => rfl
  | false => exact hm

theorem remove_media_conn_eq (sdp : AmSdp) :
    remove_media_conn sdp = { sdp with media := sdp.media.map withoutConn } := rfl

/-- Without the connections of the lines, that of the session is in effect. -/
theorem preserves_remove_iff {sdp : AmSdp} {conn : SdpConnection} :
    Preserves sdp (remove_media_conn { sdp with conn := conn }) ↔
      ∀ m ∈ sdp.media, (sdp.effective m).isSet = true → conn = sdp.effective m := by
  rw [remove_media_conn_eq, Preserves, List.forall₂_map_right_iff, List.forall₂_same]
  refine forall_congr' fun m => forall_congr' fun _ => forall_congr' fun _ => ?_
  rw [effective_of_not_isSet (not_isSet_withoutConn m)]

theorem effective_eq_iff_noOverride {sdp : AmSdp} (hsession : sdp.conn.isSet = true) :
    (∀ m ∈ sdp.media, (sdp.effective m).isSet = true → sdp.conn = sdp.effective m) ↔
      NoOverride sdp := by
  constructor
  · intro h _ m hmem hm
    have heff : sdp.effective m = m.conn := effective_of_isSet hm
    rw [← heff]
    exact (h m hmem (heff.symm ▸ hm)).symm
  · intro h m hmem _
    cases hm : m.conn.isSet with
    | true => rw [effective_of_isSet hm, h hsession m hmem hm]
    | false => rw [effective_of_not_isSet hm]

/-- `SESSION_ONLY` is as it should be iff no line overrides the session's connection. -/
theorem located_session_only_iff (sdp : AmSdp) :
    Located sdp SESSION_ONLY (normalize_conn_location sdp SESSION_ONLY) ↔ NoOverride sdp := by
  have hnormalize : normalize_conn_location sdp SESSION_ONLY =
      if (assert_session_conn sdp).2 then remove_media_conn (assert_session_conn sdp).1
      else (assert_session_conn sdp).1 := rfl
  -- streams whose effective connections are all `conn`
  have hremoved : ∀ conn, (∀ m ∈ sdp.media, (sdp.effective m).isSet = true →
      conn = sdp.effective m) →
      Located sdp SESSION_ONLY (remove_media_conn { sdp with conn := conn }) := by
    intro conn heff
    refine ⟨preserves_remove_iff.mpr heff, fun hloc => absurd hloc (by decide),
      fun hloc => absurd hloc (by decide), ?_⟩
    intro _ _ m₁ hmem₁ m₂ hmem₂ hset₁ hset₂
    exact (heff m₁ hmem₁ hset₁).symm.trans (heff m₂ hmem₂ hset₂)
  rw [hnormalize]
  rcases assert_session_conn_cases sdp with
    ⟨hsession, hassert⟩ | ⟨conn, hsession, hconn, hall, hassert⟩ | ⟨hsession, hassert⟩
  · rw [hassert, if_pos rfl, ← effective_eq_iff_noOverride hsession]
    constructor
    · intro h
      exact preserves_remove_iff.mp h.preserves
    · exact hremoved sdp.conn
  · rw [hassert, if_pos rfl]
    refine iff_of_true (hremoved conn ?_) fun hset => absurd hset (by simp [hsession])
    intro m hmem hm
    have hown := isSet_of_effective hsession hm
    rw [effective_of_isSet hown, hall m hmem hown]
  · rw [hassert, if_neg Bool.false_ne_true]
    refine iff_of_true ⟨preserves_self sdp, fun hloc => absurd hloc (by decide),
      fun hloc => absurd hloc (by decide), ?_⟩ fun hset => absurd hset (by simp [hsession])
    -- a stream with a connection has it in its line
    intro _ hnone m₁ hmem₁ m₂ _ hset₁ _
    have hown := isSet_of_effective hsession hset₁
    rw [hnone m₁ hmem₁] at hown
    cases hown

/-- **Connection location.**  The connections stay in effect and stand where they are
    wanted, except that `SESSION_ONLY` needs that no line overrides a connection that the
    session has. -/
theorem located_iff (sdp : AmSdp) (location_id : Int) :
    Located sdp location_id (normalize_conn_location sdp location_id) ↔
      (location_id = SESSION_ONLY → NoOverride sdp) := by
  by_cases hsession : location_id = SESSION_ONLY
  · subst hsession
    rw [located_session_only_iff]
    exact ⟨fun h _ => h, fun h => h rfl⟩
  · refine iff_of_true ?_ fun hloc => absurd hloc hsession
    by_cases hboth : location_id = BOTH
    · subst hboth
      exact located_both sdp
    · by_cases hmedia : location_id = MEDIA_ONLY
      · subst hmedia
        exact located_media_only sdp
      · exact located_other sdp hboth hsession hmedia

namespace ConnectionExample

def address (text : String) : SdpConnection :=
  { network := 1, addrType := 1, address := text.toList }

/-- An audio line with its own address and one without, in a session with an address. -/
def overridden : AmSdp :=
  { conn := address "10.0.0.1"
    media := [
      { type := .MT_Audio, port := 5000, transport := .TP_RTPAVP, payloads := [],
        conn := address "10.0.0.2" },
      { type := .MT_Audio, port := 5002, transport := .TP_RTPAVP, payloads := [] } ] }

end ConnectionExample

open ConnectionExample in
/-- The address of the first line is lost. -/
theorem not_located_overridden :
    ¬ Located overridden SESSION_ONLY (normalize_conn_location overridden SESSION_ONLY) := by
  rw [located_session_only_iff]
  decide

end Yeti.Sdp
