import Yeti.Sdp.FilterOffer

/-! # What an answer leaves of an offer

    Model of `processSdpAnswer`, which makes the answer to an offer out of the one that
    the other leg sent.  With relayed media the lines of the answer are those that were
    negotiated for the offer, and none of the later passes adds a line or a codec.

    `Narrows` compares a line with the one it was made of: the payloads are some of those
    that were there, up to their numbers.
-/

namespace Yeti.Sdp

open Headers (FilterEntry)

variable {Body : Type}

/-! ### `processSdpAnswer` -/

/-- The arguments of `processSdpAnswer` apart from the message body. -/
structure AnswerArgs where
  profile : FilterProfile
  avoid_transcoding : Bool := false
  /-- `call->isALeg()` -/
  a_leg : Bool
  single_codec : Bool := false
  noaudio_streams_filtered : Bool := false
  answer_is_mandatory : Bool := false
  override_id : Int := 0
  /-- `sip_msg.cseq` -/
  cseq : UInt32
  /-- whether the program was built `WITH_ZRTP` -/
  with_zrtp : Bool
  deriving DecidableEq, Repr

/-- The flags of `filterSdpAnswerMedia`. -/
def AnswerArgs.flags (args : AnswerArgs) : AnswerFlags :=
  ⟨args.noaudio_streams_filtered, args.avoid_transcoding, args.single_codec⟩

/-- How a call ends. -/
inductive AnswerOutcome (Body : Type) where
  | returned (body : Body) (negotiated_media : List SdpMedia) (leg : LegSdp)
  | thrown (e : InternalException) (leg : LegSdp)

/-- The passes after `filterSdpAnswerMedia`. -/
def finishAnswer (args : AnswerArgs) (sdp : AmSdp) (mapping : PayloadIdMapping) :
    AmSdp × PayloadIdMapping :=
  let fixed := fix_dynamic_payloads sdp mapping
  let sdp := filterSDPalines fixed.1
    (if args.a_leg then args.profile.sdpalinesfilter else args.profile.bleg_sdpalinesfilter)
  let sdp := normalize_conn_location sdp
    (if args.a_leg then args.profile.bleg_conn_location_id else args.profile.aleg_conn_location_id)
  (clear_zrtp_params args.with_zrtp (clear_ice_params sdp), fixed.2)

/-- `processSdpAnswer` once the answer is parsed. -/
def answerParsed (core : FilterCore Body) (args : AnswerArgs) (body : Body)
    (negotiated_media : List SdpMedia) (leg : LegSdp) (sdp : AmSdp) : AnswerOutcome Body :=
  let done (sdp : AmSdp) (leg : LegSdp) : AnswerOutcome Body :=
    .returned (core.setPayload body (core.print sdp)) sdp.media leg
  if args.profile.rtprelay_enabled then
    let sdp := normalizeSDP core.IANA_RTP_PAYLOADS core.explode sdp
    let session := leg.session.normalizeSdpVersion ⟨sdp.origin_sessV, args.cseq, false⟩
    let leg := { leg with session := session }
    match filterSdpAnswerMedia args.flags args.override_id negotiated_media sdp.media with
    | .error e => .thrown e leg
    | .ok (media, _) =>
      let finished := finishAnswer args
        { sdp with media := media, origin_sessV := session.sdp_session_version } leg.mapping
      done finished.1 { leg with mapping := finished.2 }
  else done sdp leg

/-- There is no SDP in the answer. -/
def emptyAnswer (args : AnswerArgs) (body : Body) (negotiated_media : List SdpMedia)
    (leg : LegSdp) : AnswerOutcome Body :=
  if args.answer_is_mandatory then .thrown ⟨DC_REPLY_SDP_EMPTY_ANSWER, args.override_id⟩ leg
  else .returned body negotiated_media leg

/-- `processSdpAnswer`, which returns 0 or throws. -/
def processSdpAnswer (core : FilterCore Body) (args : AnswerArgs) (body : Body) (method : String)
    (negotiated_media : List SdpMedia) (leg : LegSdp) : AnswerOutcome Body :=
  if method ∉ sdpMethods then .returned body negotiated_media leg
  else if core.empty body then emptyAnswer args body negotiated_media leg
  else
    match core.sdpPayload body with
    | none => emptyAnswer args body negotiated_media leg
    | some payload =>
      match core.parse payload with
      | none => .thrown ⟨DC_REPLY_SDP_PARSING_FAILED, args.override_id⟩ leg
      | some sdp => answerParsed core args body negotiated_media leg sdp

/-! ### Lines made of lines -/

/-- The payloads differ in their numbers at most. -/
def SdpPayload.SameCodec (p q : SdpPayload) : Prop := { p with payload_type := q.payload_type } = q

/-- `n` was made of the line `o`: an audio line is left with some of its codecs. -/
structure Narrows (o n : SdpMedia) : Prop where
  type : n.type = o.type
  transport : o.type = .MT_Audio → n.transport = o.transport
  payloads : o.type = .MT_Audio → ∀ p ∈ n.payloads, ∃ q ∈ o.payloads, q.SameCodec p

theorem SdpPayload.SameCodec.trans {p q r : SdpPayload} (hpq : p.SameCodec q)
    (hqr : q.SameCodec r) : p.SameCodec r := by
  unfold SameCodec at *
  rw [← hqr, ← hpq]

/-- Some of the payloads are left. -/
theorem Narrows.of_subset {o n : SdpMedia} (htype : n.type = o.type)
    (htransport : n.transport = o.transport) (hpayloads : n.payloads ⊆ o.payloads) :
    Narrows o n where
  type := htype
  transport _ := htransport
  payloads _ p hp := ⟨p, hpayloads hp, rfl⟩

theorem Narrows.refl (m : SdpMedia) : Narrows m m := .of_subset rfl rfl (List.Subset.refl _)

theorem Narrows.trans {a b c : SdpMedia} (hab : Narrows a b) (hbc : Narrows b c) :
    Narrows a c where
  type := hbc.type.trans hab.type
  transport haudio := (hbc.transport (hab.type.trans haudio)).trans (hab.transport haudio)
  payloads haudio p hp := by
    obtain ⟨q, hq, hqp⟩ := hbc.payloads (hab.type.trans haudio) p hp
    obtain ⟨r, hr, hrq⟩ := hab.payloads haudio q hq
    exact ⟨r, hr, hrq.trans hqp⟩

/-- All lines are there, each narrowed. -/
def AllNarrow (media media' : List SdpMedia) : Prop := List.Forall₂ Narrows media media'

theorem AllNarrow.refl (media : List SdpMedia) : AllNarrow media media :=
  List.forall₂_same.mpr fun m _ => .refl m

theorem AllNarrow.trans {a b c : List SdpMedia} (hab : AllNarrow a b) (hbc : AllNarrow b c) :
    AllNarrow a c := by
  unfold AllNarrow at *
  induction hab generalizing c with
  | nil =>
    rw [List.forall₂_nil_left_iff.mp hbc]
    exact .nil
  | cons hhead _ ih =>
    obtain ⟨m, media, hm, hmedia, rfl⟩ := List.forall₂_cons_left_iff.mp hbc
    exact .cons (hhead.trans hm) (ih hmedia)

/-- A pass over the lines. -/
theorem AllNarrow.map {f : SdpMedia → SdpMedia} (hf : ∀ m, Narrows m (f m))
    (media : List SdpMedia) : AllNarrow media (media.map f) :=
  forall₂_map_self fun m _ => hf m

theorem AllNarrow.types {media media' : List SdpMedia} (h : AllNarrow media media') :
    media'.map (·.type) = media.map (·.type) := by
  unfold AllNarrow at h
  induction h with
  | nil => rfl
  | cons hhead _ ih => rw [List.map_cons, List.map_cons, hhead.type, ih]

theorem AllNarrow.ne_nil {media media' : List SdpMedia} (h : AllNarrow media media')
    (hne : media ≠ []) : media' ≠ [] := by
  rintro rfl
  exact hne (List.forall₂_nil_right_iff.mp h)

/-! ### The passes of an offer -/

theorem Retouched.allNarrow {media media' : List SdpMedia} (h : Retouched media media') :
    AllNarrow media media' := by
  obtain ⟨f, rfl, hf⟩ := h
  exact .map (fun m => .of_subset (hf m).type (hf m).transport (by rw [(hf m).payloads]; simp)) media

theorem narrows_arrange (group : List SdpPayload) (m : SdpMedia) : Narrows m (arrange group m) := by
  unfold arrange
  split_ifs
  · exact .refl m
  · refine .of_subset rfl rfl (List.append_subset.mpr ⟨fun p hp => mem_of_mem_matched hp, ?_⟩)
    exact List.take_subset 1 m.payloads
  · exact .of_subset rfl rfl (fun p hp => mem_of_mem_matched hp)

theorem Finished.narrows {single_codec : Bool} {m m' : SdpMedia} (h : Finished single_codec m m') :
    Narrows m m' where
  type := h.type
  transport _ := h.transport
  payloads haudio p hp := by
    rw [h.payloads haudio] at hp
    refine ⟨p, ?_, rfl⟩
    unfold finalPayloads at hp
    split_ifs at hp
    · have hadded := mem_add_codecs hp
      simpa using hadded
    · exact hp

theorem allNarrow_prepare {isLocal : Bool} {negotiated_media media media' : List SdpMedia}
    (h : prepare isLocal negotiated_media media = .ok media') : AllNarrow media media' := by
  refine List.Forall₂.imp ?_ (prepare_lines h)
  rintro m _ ⟨port, rfl⟩
  exact .of_subset rfl rfl (List.Subset.refl _)

/-- What is negotiated for an offer are its lines, each narrowed. -/
theorem allNarrow_processParsed {core : Core Body} {codec_groups : Int → Option (List SdpPayload)}
    {args : OfferArgs} {body body' : Body} {negotiated_media media : List SdpMedia} {sdp : AmSdp}
    (h : processParsed core codec_groups args body negotiated_media sdp = .returned 0 body' media) :
    AllNarrow sdp.media media := by
  unfold processParsed at h
  cases hprepare : prepare args.isLocal negotiated_media sdp.media with
  | error code =>
    -- the code of a refusal is not 0
    rw [hprepare] at h
    injection h with hcode
    rcases prepare_error hprepare with hcount | htypes
    · exact absurd (hcount.symm.trans hcode) (by decide)
    · exact absurd (htypes.symm.trans hcode) (by decide)
  | ok lines =>
    have hlines := allNarrow_prepare hprepare
    rw [hprepare] at h
    cases hgroup : codec_groups args.static_codecs_id with
    | none =>
      rw [hgroup] at h
      cases h
    | some group =>
      simp only [hgroup, filter_arrange_SDP_false] at h
      generalize (if AllDeactivated group lines then FC_CODECS_NOT_MATCHED else 0) = res at h
      split_ifs at h with hres
      · injection h with hcode
        exact absurd hcode hres
      obtain ⟨sdp', g, hmedia, hg, hfinish⟩ := finishOffer_eq core args body negotiated_media
        { sdp with media := lines.map (arrange group) }
      rw [hfinish] at h
      split_ifs at h
      · injection h with hcode
        cases hcode
      · injection h with hcode
        cases hcode
      · injection h with hcode hbody hnegotiated
        rw [← hnegotiated, hmedia]
        exact (hlines.trans (.map (narrows_arrange group) lines)).trans
          (.map (fun m => (hg m).narrows) _)

/-- An offer that is accepted: either there is no SDP, and nothing changes, or its lines are
    negotiated. -/
theorem allNarrow_processSdpOffer {core : Core Body}
    {codec_groups : Int → Option (List SdpPayload)} {args : OfferArgs} {body body' : Body}
    {method : String} {negotiated_media media : List SdpMedia}
    (h : processSdpOffer core codec_groups args body method negotiated_media =
      .returned 0 body' media) :
    (offeredSdp core body method = none ∧ media = negotiated_media) ∨
      ∃ sdp, offeredSdp core body method = some sdp ∧ AllNarrow sdp.media media := by
  unfold processSdpOffer at h
  unfold offeredSdp
  cases hpayload : core.sdpPayload body with
  | none =>
    rw [hpayload] at h
    injection h with hcode hbody hnegotiated
    exact .inl ⟨rfl, hnegotiated.symm⟩
  | some payload =>
    simp only [hpayload] at h
    rw [Option.bind_some]
    split_ifs at h ⊢ with hmethod
    · cases hparse : core.parse payload with
      | none =>
        rw [hparse] at h
        injection h with hcode
        cases hcode
      | some sdp =>
        rw [hparse] at h
        exact .inr ⟨sdp, rfl, allNarrow_processParsed h⟩
    · injection h with hcode hbody hnegotiated
      exact .inl ⟨rfl, hnegotiated.symm⟩

/-! ### The passes of an answer -/

/-- The payloads get other numbers. -/
theorem withNumbers_narrows (m : SdpMedia) (numbers : List ℤ) :
    Narrows m { m with payloads := withNumbers m.payloads numbers } where
  type := rfl
  transport _ := rfl
  payloads _ p hp := by
    have hp' : p ∈ withNumbers m.payloads numbers := hp
    unfold withNumbers at hp'
    obtain ⟨i, hi⟩ := List.mem_iff_getElem?.mp hp'
    rw [List.getElem?_zipWith_eq_some] at hi
    obtain ⟨q, n, hq, -, rfl⟩ := hi
    exact ⟨q, List.mem_of_getElem? hq, rfl⟩

theorem allNarrow_fixLines (stream_idx : ℕ) (mapping : PayloadIdMapping) (media : List SdpMedia) :
    AllNarrow media (fixLines stream_idx mapping media).1 := by
  unfold AllNarrow
  induction media generalizing stream_idx mapping with
  | nil => exact .nil
  | cons m media ih =>
    rw [fixLines]
    split_ifs
    · refine .cons ?_ (ih _ _)
      rw [fixLine_eq]
      exact withNumbers_narrows m _
    · exact .cons (.refl m) (ih _ _)

theorem assert_session_conn_media (sdp : AmSdp) :
    (assert_session_conn sdp).1.media = sdp.media := by
  rcases assert_session_conn_cases sdp with ⟨-, heq⟩ | ⟨conn, -, -, -, heq⟩ | ⟨-, heq⟩ <;> rw [heq]

theorem retouched_assert_media_conn (sdp : AmSdp) :
    Retouched sdp.media (assert_media_conn sdp).media := by
  unfold assert_media_conn
  split_ifs
  · exact .refl _
  · refine ⟨_, rfl, fun m => ?_⟩
    split_ifs
    · exact ⟨rfl, rfl, rfl, rfl, fun _ => rfl⟩
    · exact .refl m

theorem retouched_normalize_conn_location (sdp : AmSdp) (location_id : Int) :
    Retouched sdp.media (normalize_conn_location sdp location_id).media := by
  have hasserted := retouched_assert_media_conn (assert_session_conn sdp).1
  rw [assert_session_conn_media] at hasserted
  unfold normalize_conn_location
  split_ifs
  · exact hasserted
  · -- the session has a connection, those of the lines go
    unfold remove_media_conn
    rw [assert_session_conn_media]
    refine ⟨_, rfl, fun m => ?_⟩
    split_ifs
    · exact ⟨rfl, rfl, rfl, rfl, fun _ => rfl⟩
    · exact .refl m
  · rw [assert_session_conn_media]
    exact .refl _
  · exact hasserted
  · exact .refl _

theorem allNarrow_clear_zrtp_params (with_zrtp : Bool) (sdp : AmSdp) :
    AllNarrow sdp.media (clear_zrtp_params with_zrtp sdp).media := by
  unfold clear_zrtp_params
  split_ifs
  · exact .refl _
  · exact .map (f := fun m => { m with zrtp_is_use := false, zrtp_hash := [] })
      (fun m => .of_subset rfl rfl (List.Subset.refl _)) sdp.media
  · exact .refl _

theorem allNarrow_finishAnswer (args : AnswerArgs) (sdp : AmSdp) (mapping : PayloadIdMapping) :
    AllNarrow sdp.media (finishAnswer args sdp mapping).1.media := by
  unfold finishAnswer
  dsimp only
  have hfixed : AllNarrow sdp.media (fix_dynamic_payloads sdp mapping).1.media :=
    allNarrow_fixLines 0 mapping sdp.media
  refine hfixed.trans ?_
  generalize (fix_dynamic_payloads sdp mapping).1 = fixed
  have hlines := retouched_filterSDPalines fixed
    (if args.a_leg then args.profile.sdpalinesfilter else args.profile.bleg_sdpalinesfilter)
  refine hlines.allNarrow.trans ?_
  generalize filterSDPalines fixed _ = filtered
  have hconn := retouched_normalize_conn_location filtered
    (if args.a_leg then args.profile.bleg_conn_location_id else args.profile.aleg_conn_location_id)
  refine hconn.allNarrow.trans ?_
  generalize normalize_conn_location filtered _ = located
  have hice : AllNarrow located.media (clear_ice_params located).media :=
    .map (f := fun m => { m with ice_pwd := [], ice_ufrag := [], ice_candidate := [], is_ice := false })
      (fun m => .of_subset rfl rfl (List.Subset.refl _)) located.media
  exact hice.trans (allNarrow_clear_zrtp_params args.with_zrtp _)

/-- The lines of the answer are those that were negotiated, each narrowed. -/
theorem allNarrow_filterSdpAnswerMedia {flags : AnswerFlags} {override_id : Int}
    {negotiated_media media result : List SdpMedia} {unexpected : Bool}
    (hnegotiated : negotiated_media ≠ [])
    (h : filterSdpAnswerMedia flags override_id negotiated_media media = .ok (result, unexpected)) :
    AllNarrow negotiated_media result := by
  obtain ⟨-, h⟩ := answerLoop_of_filterSdpAnswerMedia hnegotiated h
  obtain ⟨lines, hlines, hanswers⟩ := answerLoop_lines h
  rw [hlines, List.nil_append]
  refine List.Forall₂.imp ?_ hanswers
  intro o n hanswer
  exact ⟨hanswer.type, fun haudio => hanswer.transport (hanswer.type.trans haudio),
    fun haudio p hp => ⟨p, hanswer.payloads (hanswer.type.trans haudio) p hp, rfl⟩⟩

/-- **An answer narrows**: with relayed media, what is sent on and kept has the lines that
    were negotiated. -/
theorem allNarrow_processSdpAnswer {core : FilterCore Body} {args : AnswerArgs}
    {body body' : Body} {method : String} {negotiated_media media : List SdpMedia}
    {leg leg' : LegSdp} (hrelay : args.profile.rtprelay_enabled = true)
    (hnegotiated : negotiated_media ≠ [])
    (h : processSdpAnswer core args body method negotiated_media leg =
      .returned body' media leg') : AllNarrow negotiated_media media := by
  have hempty (h : emptyAnswer args body negotiated_media leg = .returned body' media leg') :
      AllNarrow negotiated_media media := by
    unfold emptyAnswer at h
    split_ifs at h
    injection h with hbody hmedia
    rw [hmedia]
    exact .refl media
  unfold processSdpAnswer at h
  split_ifs at h with hmethod hbody
  · exact hempty h
  · cases hpayload : core.sdpPayload body with
    | none =>
      rw [hpayload] at h
      exact hempty h
    | some payload =>
      cases hparse : core.parse payload with
      | none =>
        simp only [hpayload, hparse] at h
        cases h
      | some sdp =>
        simp only [hpayload, hparse] at h
        unfold answerParsed at h
        rw [if_pos hrelay] at h
        dsimp only at h
        split at h
        · cases h
        next lines unexpected hlines =>
          injection h with hbody hmedia
          rw [← hmedia]
          have hfinish (sdp' : AmSdp) (hsdp' : sdp'.media = lines) :
              AllNarrow lines (finishAnswer args sdp' leg.mapping).1.media := by
            rw [← hsdp']
            exact allNarrow_finishAnswer args sdp' leg.mapping
          exact (allNarrow_filterSdpAnswerMedia hnegotiated hlines).trans (hfinish _ rfl)
  · injection h with hbody hmedia
    rw [hmedia]
    exact .refl media

end Yeti.Sdp
