import Yeti.Framework.Lists
import Yeti.Sdp.Connections
import Yeti.Sdp.Numbers
import Yeti.Sdp.OfferOutcome
import Yeti.Sdp.Version

/-! # The offer that goes out, and elements that are not there

    Model of `filterSdpOffer`, which makes the offer for the other leg out of the one
    that `processSdpOffer` accepted, with the passes that it runs if the media is
    relayed.

    The first elements of a list of lines or payloads are accessed in two places only:
    `*sdp.media.begin()` in `processSdpOffer` and `*media.payloads.begin()` in
    `filter_arrange_SDP`.  For both it is said exactly which inputs bring them to a
    list that is empty.
-/

namespace Yeti.Sdp

open Headers (FilterEntry)

/-! ### `normalizeSDP` -/

/-- An entry of `IANA_RTP_PAYLOADS`. -/
structure IanaPayload where
  payload_name : List Char
  clock_rate : Int
  channels : Int
  deriving DecidableEq, Repr

/-- The loop body of `fix_missing_encodings`. -/
def fix_missing_encoding (IANA_RTP_PAYLOADS : List IanaPayload) (p : SdpPayload) : SdpPayload :=
  if !p.encoding_name.isEmpty then p
  else if p.payload_type < 0 then p
  else
    match IANA_RTP_PAYLOADS[p.payload_type.toNat]? with
    | none => p
    | some entry =>
      if entry.payload_name.isEmpty then p
      else
        { p with
          encoding_name := entry.payload_name
          clock_rate := entry.clock_rate
          encoding_param := if 1 < entry.channels then entry.channels else p.encoding_param }

/-- The loop body of `fix_incomplete_silencesupp`. -/
def fix_silencesupp (explode : List Char → Char → List (List Char)) (a : SdpAttribute) :
    SdpAttribute :=
  if a.attr = "silenceSupp".toList then
    let parts := explode a.value ' '
    { a with value := a.value ++ (List.replicate (5 - parts.length) " -".toList).flatten }
  else a

/-- The loop body of `normalizeSDP`. -/
def normalizeLine (IANA_RTP_PAYLOADS : List IanaPayload)
    (explode : List Char → Char → List (List Char)) (m : SdpMedia) : SdpMedia :=
  if m.type ≠ .MT_Audio ∧ m.type ≠ .MT_Video then m
  else
    { m with
      payloads := m.payloads.map (fix_missing_encoding IANA_RTP_PAYLOADS)
      attributes := m.attributes.map (fix_silencesupp explode) }

/-- `normalizeSDP`. -/
def normalizeSDP (IANA_RTP_PAYLOADS : List IanaPayload)
    (explode : List Char → Char → List (List Char)) (sdp : AmSdp) : AmSdp :=
  { sdp with media := sdp.media.map (normalizeLine IANA_RTP_PAYLOADS explode) }

/-! ### The other passes -/

/-- `clear_ice_params`. -/
def clear_ice_params (sdp : AmSdp) : AmSdp :=
  { sdp with
    ice_pwd := []
    ice_ufrag := []
    use_ice := false
    media := sdp.media.map fun m =>
      { m with ice_pwd := [], ice_ufrag := [], ice_candidate := [], is_ice := false } }

/-- `clear_zrtp_params`. -/
def clear_zrtp_params (with_zrtp : Bool) (sdp : AmSdp) : AmSdp :=
  if sdp.media.isEmpty then sdp
  else if with_zrtp then
    { sdp with media := sdp.media.map fun m => { m with zrtp_is_use := false, zrtp_hash := [] } }
  else sdp

/-- `cutNoAudioStreams`. -/
def cutNoAudioStreams (sdp : AmSdp) (cut : Bool) : AmSdp × Nat :=
  if !cut then (sdp, 0)
  else
    let new_media := sdp.media.filter (·.type = .MT_Audio)
    if new_media.isEmpty then (sdp, FC_NO_SUITABLE_MEDIA)
    else ({ sdp with media := new_media }, 0)

/-! ### `filterSdpOffer` -/

/-- What is read of the core besides the parser. -/
structure FilterCore (Body : Type) extends Core Body where
  /-- `body.empty()` -/
  empty : Body → Bool
  IANA_RTP_PAYLOADS : List IanaPayload
  explode : List Char → Char → List (List Char)

/-- The settings of `SBCCallProfile` that are read here. -/
structure FilterProfile extends OfferProfile where
  bleg_sdpalinesfilter : List FilterEntry := []
  aleg_conn_location_id : Int := 0
  bleg_conn_location_id : Int := 0
  deriving DecidableEq, Repr

/-- The arguments of `filterSdpOffer` apart from the message body. -/
structure FilterArgs where
  profile : FilterProfile
  /-- `call->isALeg()` -/
  a_leg : Bool
  static_codecs_id : Int
  /-- `sip_msg.cseq` -/
  cseq : UInt32
  /-- whether the program was built `WITH_ZRTP` -/
  with_zrtp : Bool
  deriving DecidableEq, Repr

/-- What the leg remembers between SDPs. -/
structure LegSdp where
  session : SdpSession
  mapping : PayloadIdMapping

/-- How a call ends; `out_sdp` is set on success only. -/
inductive FilterOutcome (Body : Type) where
  | returned (code : Nat) (body : Body) (out_sdp : Option AmSdp) (leg : LegSdp)
  /-- `CodecsGroupException(code, codecs_group)` -/
  | thrown (code : Nat) (codecs_group : Int) (leg : LegSdp)
  /-- an element that does not exist was accessed -/
  | undefined

variable {Body : Type}

/-- `normalizeSDP` and `normalizeSdpVersion`, if the media is relayed. -/
def normalizeOffer (core : FilterCore Body) (args : FilterArgs) (leg : LegSdp) (sdp : AmSdp) :
    AmSdp × LegSdp :=
  if args.profile.rtprelay_enabled then
    let sdp := normalizeSDP core.IANA_RTP_PAYLOADS core.explode sdp
    let session := leg.session.normalizeSdpVersion ⟨sdp.origin_sessV, args.cseq, true⟩
    ({ sdp with origin_sessV := session.sdp_session_version }, { leg with session := session })
  else (sdp, leg)

/-- What follows `filter_arrange_SDP`. -/
def finishFilter (core : FilterCore Body) (args : FilterArgs) (body : Body) (leg : LegSdp)
    (sdp : AmSdp) : FilterOutcome Body :=
  if args.profile.rtprelay_enabled then
    let fixed := fix_dynamic_payloads sdp leg.mapping
    let leg := { leg with mapping := fixed.2 }
    let sdp := filterSDPalines fixed.1
      (if args.a_leg then args.profile.sdpalinesfilter else args.profile.bleg_sdpalinesfilter)
    let sdp := clear_zrtp_params args.with_zrtp (clear_ice_params sdp)
    let cut := cutNoAudioStreams sdp args.profile.filter_noaudio_streams
    if cut.2 ≠ 0 then .returned cut.2 body none leg
    else
      let sdp := normalize_conn_location cut.1
        (if args.a_leg then args.profile.bleg_conn_location_id
          else args.profile.aleg_conn_location_id)
      .returned 0 (core.setPayload body (core.print sdp)) (some sdp) leg
  else .returned 0 (core.setPayload body (core.print sdp)) (some sdp) leg

/-- `filterSdpOffer` once the offer is parsed. -/
def filterParsed (core : FilterCore Body) (codec_groups : Int → Option (List SdpPayload))
    (args : FilterArgs) (body : Body) (leg : LegSdp) (sdp : AmSdp) : FilterOutcome Body :=
  let normalized := normalizeOffer core args leg sdp
  match codec_groups args.static_codecs_id with
  | none => .thrown FC_CG_GROUP_NOT_FOUND args.static_codecs_id normalized.2
  | some static_codecs =>
    -- codecs are added only if the media is relayed
    match filter_arrange_SDP normalized.1 static_codecs args.profile.rtprelay_enabled with
    | none => .undefined
    | some (sdp, res) =>
      if res ≠ 0 then .returned res body none normalized.2
      else finishFilter core args body normalized.2 sdp

/-- `filterSdpOffer`. -/
def filterSdpOffer (core : FilterCore Body) (codec_groups : Int → Option (List SdpPayload))
    (args : FilterArgs) (body : Body) (method : String) (leg : LegSdp) : FilterOutcome Body :=
  if core.empty body then .returned 0 body none leg
  else
    match core.sdpPayload body with
    | none => .returned 0 body none leg
    | some payload =>
      if method ∉ sdpMethods then .returned 0 body none leg
      else
        match core.parse payload with
        | none => .returned DC_REPLY_SDP_PARSING_FAILED body none leg
        | some sdp => filterParsed core codec_groups args body leg sdp

/-! ### Elements that are not there -/

/-- The SDP of the message, if the functions get to see one. -/
def offeredSdp (core : Core Body) (body : Body) (method : String) : Option AmSdp :=
  (core.sdpPayload body).bind fun payload =>
    if method ∈ sdpMethods then core.parse payload else none

/-- The codec group is telephone-event alone. -/
def LoneEvent (group : List SdpPayload) : Prop :=
  ∃ f, group = [f] ∧ is_telephone_event f = true

/-- `filter_arrange_SDP` finds the payloads that it takes from the lines: it adds no
    codecs, or the group is more than telephone-event, or every audio line has payloads. -/
def ArrangeSafe (group : List SdpPayload) (add_codecs : Bool) (sdp : AmSdp) : Prop :=
  add_codecs = true → LoneEvent group → ∀ m ∈ sdp.media, m.type = .MT_Audio → m.payloads ≠ []

/-- `processSdpOffer` finds a first line: the media is not relayed, or the offer has
    lines, or it is refused before (for its group, for the lines that were negotiated, or
    because it has no audio). -/
def OfferSafe (core : Core Body) (codec_groups : Int → Option (List SdpPayload))
    (args : OfferArgs) (body : Body) (method : String) (negotiated_media : List SdpMedia) : Prop :=
  ∀ sdp ∈ offeredSdp core body method, args.profile.rtprelay_enabled = true →
    sdp.media ≠ [] ∨ codec_groups args.static_codecs_id = none ∨
      args.isLocal = true ∧ negotiated_media ≠ [] ∨ args.profile.filter_noaudio_streams = true

/-- `filterSdpOffer` arranges lines that it can. -/
def FilterSafe (core : FilterCore Body) (codec_groups : Int → Option (List SdpPayload))
    (args : FilterArgs) (body : Body) (method : String) : Prop :=
  core.empty body = false → ∀ sdp ∈ offeredSdp core.toCore body method,
    ∀ group ∈ codec_groups args.static_codecs_id,
      ArrangeSafe group args.profile.rtprelay_enabled sdp

/-! ### `filter_arrange_SDP` -/

/-- Without payloads to choose from, the codecs of the group are added. -/
theorem arrangedPayloads_of_nil {group : List SdpPayload} {m : SdpMedia} (h : m.payloads = []) :
    arrangedPayloads group true m = group := by
  unfold arrangedPayloads
  have hsome : arrangedPayload true m = some := by
    funext f
    unfold arrangedPayload findPayload
    rw [h]
    rfl
  rw [hsome]
  exact List.filterMap_some

theorem lineFilteredOut_nil_iff {group : List SdpPayload} :
    lineFilteredOut group [] = true ↔ LoneEvent group := by
  unfold lineFilteredOut LoneEvent
  cases group with
  | nil => simp
  | cons f rest =>
    cases rest with
    | nil => simp
    | cons g rest => simp

/-- `*media.payloads.begin()` does not exist. -/
theorem arrangeLine_eq_none_iff {group : List SdpPayload} {add_codecs : Bool} {m : SdpMedia} :
    arrangeLine group add_codecs m = none ↔
      add_codecs = true ∧ LoneEvent group ∧ m.type = .MT_Audio ∧ m.payloads = [] := by
  cases add_codecs with
  | false => simp [arrangeLine_false]
  | true =>
    unfold arrangeLine
    by_cases haudio : m.type = .MT_Audio
    · rw [if_neg (not_not.mpr haudio)]
      dsimp only
      cases hpayloads : m.payloads with
      | nil =>
        rw [arrangedPayloads_of_nil hpayloads]
        -- all codecs of the group are added, so only the group decides
        by_cases hlone : LoneEvent group
        · rw [if_pos (lineFilteredOut_nil_iff.mpr hlone)]
          simp [hlone, haudio]
        · rw [if_neg (fun h => hlone (lineFilteredOut_nil_iff.mp h))]
          simp [hlone]
      | cons first rest =>
        split_ifs <;> simp
    · rw [if_pos haudio]
      simp [haudio]

theorem filter_arrange_SDP_ne_none_iff (sdp : AmSdp) (group : List SdpPayload)
    (add_codecs : Bool) :
    filter_arrange_SDP sdp group add_codecs ≠ none ↔ ArrangeSafe group add_codecs sdp := by
  unfold filter_arrange_SDP
  dsimp only
  rw [ne_eq, Option.map_eq_none_iff, List.mapM_eq_none_iff]
  simp only [arrangeLine_eq_none_iff]
  unfold ArrangeSafe
  constructor
  · intro h hadd hlone m hm haudio hnil
    exact h ⟨m, hm, hadd, hlone, haudio, hnil⟩
  · intro h ⟨m, hm, hadd, hlone, haudio, hnil⟩
    exact h hadd hlone m hm haudio hnil

/-! ### The two functions -/

/-- `normalizeSDP` leaves the types of the lines, and whether they have payloads. -/
theorem arrangeSafe_normalizeOffer (core : FilterCore Body) (args : FilterArgs) (leg : LegSdp)
    (sdp : AmSdp) (group : List SdpPayload) (add_codecs : Bool) :
    ArrangeSafe group add_codecs (normalizeOffer core args leg sdp).1 ↔
      ArrangeSafe group add_codecs sdp := by
  have hline : ∀ m, (normalizeLine core.IANA_RTP_PAYLOADS core.explode m).type = m.type ∧
      ((normalizeLine core.IANA_RTP_PAYLOADS core.explode m).payloads = [] ↔ m.payloads = []) := by
    intro m
    unfold normalizeLine
    split_ifs
    · exact ⟨rfl, Iff.rfl⟩
    · exact ⟨rfl, List.map_eq_nil_iff⟩
  unfold normalizeOffer
  split_ifs
  · unfold ArrangeSafe normalizeSDP
    simp only [List.forall_mem_map, (hline _).1, ne_eq, (hline _).2]
  · exact Iff.rfl

theorem finishFilter_ne_undefined (core : FilterCore Body) (args : FilterArgs) (body : Body)
    (leg : LegSdp) (sdp : AmSdp) : finishFilter core args body leg sdp ≠ .undefined := by
  unfold finishFilter
  dsimp only
  split_ifs <;> simp

theorem filterParsed_ne_undefined_iff (core : FilterCore Body)
    (codec_groups : Int → Option (List SdpPayload)) (args : FilterArgs) (body : Body)
    (leg : LegSdp) (sdp : AmSdp) :
    filterParsed core codec_groups args body leg sdp ≠ .undefined ↔
      ∀ group ∈ codec_groups args.static_codecs_id,
        ArrangeSafe group args.profile.rtprelay_enabled sdp := by
  unfold filterParsed
  dsimp only
  cases hgroup : codec_groups args.static_codecs_id with
  | none => simp
  | some group =>
    have harrange := filter_arrange_SDP_ne_none_iff (normalizeOffer core args leg sdp).1 group
      args.profile.rtprelay_enabled
    rw [arrangeSafe_normalizeOffer] at harrange
    have hone : (∀ group' ∈ some group, ArrangeSafe group' args.profile.rtprelay_enabled sdp) ↔
        ArrangeSafe group args.profile.rtprelay_enabled sdp := by simp
    rw [hone, ← harrange]
    cases hresult : filter_arrange_SDP (normalizeOffer core args leg sdp).1 group
        args.profile.rtprelay_enabled with
    | none => simp [hresult]
    | some r =>
      refine iff_of_true ?_ (Option.some_ne_none r)
      simp only [hresult]
      split_ifs
      · simp
      · exact finishFilter_ne_undefined core args body _ r.1

theorem filterSdpOffer_ne_undefined_iff (core : FilterCore Body)
    (codec_groups : Int → Option (List SdpPayload)) (args : FilterArgs) (body : Body)
    (method : String) (leg : LegSdp) :
    filterSdpOffer core codec_groups args body method leg ≠ .undefined ↔
      FilterSafe core codec_groups args body method := by
  unfold filterSdpOffer FilterSafe offeredSdp
  cases hempty : core.empty body with
  | true => simp
  | false =>
    cases hpayload : core.sdpPayload body with
    | none => simp
    | some payload =>
      by_cases hmethod : method ∈ sdpMethods
      · cases hparse : core.parse payload with
        | none => simp [hmethod, hparse]
        | some sdp =>
          have hparsed := filterParsed_ne_undefined_iff core codec_groups args body leg sdp
          simp only [hmethod, hparse, not_true_eq_false, if_false, if_true, Option.bind_some,
            Bool.false_eq_true, forall_const]
          rw [hparsed]
          simp
      · simp [hmethod]

/-- The end of `processSdpOffer` on the arranged lines. -/
theorem finishOffer_ne_undefined_iff (core : Core Body) (args : OfferArgs) (body : Body)
    (negotiated_media : List SdpMedia) (sdp : AmSdp) :
    finishOffer core args body negotiated_media sdp ≠ .undefined ↔
      (args.profile.rtprelay_enabled = true →
        sdp.media ≠ [] ∨ args.profile.filter_noaudio_streams = true) := by
  obtain ⟨sdp', g, -, -, heq⟩ := finishOffer_eq core args body negotiated_media sdp
  rw [heq]
  by_cases hnoaudio : args.profile.filter_noaudio_streams = true ∧
      ¬ ∃ m ∈ sdp.media, m.type = .MT_Audio
  · rw [if_pos hnoaudio]
    exact iff_of_true (by simp) fun _ => .inr hnoaudio.1
  · rw [if_neg hnoaudio]
    by_cases habsent : args.profile.rtprelay_enabled = true ∧ sdp.media = []
    · rw [if_pos habsent]
      refine iff_of_false (by simp) ?_
      intro h
      rcases h habsent.1 with hmedia | hfilter
      · exact hmedia habsent.2
      · exact hnoaudio ⟨hfilter, by simp [habsent.2]⟩
    · -- there is a first line, or the transport is not looked at
      rw [if_neg habsent]
      refine iff_of_true ?_ fun hrelay => .inl fun hmedia => habsent ⟨hrelay, hmedia⟩
      split_ifs <;> simp

/-- The lines that the passes start with are none only if the offer has none and, on the
    leg itself, none were negotiated. -/
theorem prepare_eq_nil_iff (isLocal : Bool) (negotiated_media media : List SdpMedia) :
    prepare isLocal negotiated_media media = .ok [] ↔
      media = [] ∧ (isLocal = true → negotiated_media = []) := by
  cases isLocal with
  | false => simp [prepare]
  | true =>
    simp only [prepare, if_true, true_implies]
    cases negotiated_media with
    | nil => simp [checkLocal]
    | cons negotiated rest =>
      cases media with
      | nil => simp [checkLocal]
      | cons m media =>
        simp only [checkLocal]
        split_ifs
        · simp
        · cases checkLocal rest media <;> simp [Except.map]

theorem processParsed_ne_undefined_iff (core : Core Body)
    (codec_groups : Int → Option (List SdpPayload)) (args : OfferArgs) (body : Body)
    (negotiated_media : List SdpMedia) (sdp : AmSdp) :
    processParsed core codec_groups args body negotiated_media sdp ≠ .undefined ↔
      (args.profile.rtprelay_enabled = true →
        sdp.media ≠ [] ∨ codec_groups args.static_codecs_id = none ∨
          args.isLocal = true ∧ negotiated_media ≠ [] ∨
          args.profile.filter_noaudio_streams = true) := by
  have hprepare := prepare_eq_nil_iff args.isLocal negotiated_media sdp.media
  unfold processParsed
  cases hlines : prepare args.isLocal negotiated_media sdp.media with
  | error code =>
    -- refused for the lines: some were negotiated, or the offer has some
    refine iff_of_true (by simp) fun _ => ?_
    rw [hlines] at hprepare
    by_cases hmedia : sdp.media = []
    · have hnegotiated : ¬ (args.isLocal = true → negotiated_media = []) := fun h => by
        cases hprepare.mpr ⟨hmedia, h⟩
      exact .inr (.inr (.inl (Classical.not_imp.mp hnegotiated)))
    · exact .inl hmedia
  | ok media =>
    cases hgroup : codec_groups args.static_codecs_id with
    | none => exact iff_of_true (by simp) fun _ => .inr (.inl rfl)
    | some group =>
      have hne : media ≠ [] ↔ sdp.media ≠ [] ∨ args.isLocal = true ∧ negotiated_media ≠ [] := by
        rw [hlines, Except.ok.injEq] at hprepare
        rw [ne_eq, hprepare, not_and_or, Classical.not_imp]
      simp only [filter_arrange_SDP_false, reduceCtorEq, false_or]
      by_cases hdeactivated : AllDeactivated group media
      · -- refused, but not without a line
        obtain ⟨m, hm, -⟩ := hdeactivated.1
        have hmedia : media ≠ [] := List.ne_nil_of_mem hm
        rw [if_pos hdeactivated]
        refine iff_of_true (by simp [FC_CODECS_NOT_MATCHED]) fun _ => ?_
        rcases hne.mp hmedia with hoffered | hnegotiated
        · exact .inl hoffered
        · exact .inr (.inl hnegotiated)
      · rw [if_neg hdeactivated, if_neg (by simp), finishOffer_ne_undefined_iff]
        have hmap : media.map (arrange group) ≠ [] ↔ media ≠ [] := by simp
        rw [hmap, hne, or_assoc]

theorem processSdpOffer_ne_undefined_iff (core : Core Body)
    (codec_groups : Int → Option (List SdpPayload)) (args : OfferArgs) (body : Body)
    (method : String) (negotiated_media : List SdpMedia) :
    processSdpOffer core codec_groups args body method negotiated_media ≠ .undefined ↔
      OfferSafe core codec_groups args body method negotiated_media := by
  unfold processSdpOffer OfferSafe offeredSdp
  cases hpayload : core.sdpPayload body with
  | none => simp
  | some payload =>
    by_cases hmethod : method ∈ sdpMethods
    · cases hparse : core.parse payload with
      | none => simp [hmethod, hparse]
      | some sdp =>
        have hparsed := processParsed_ne_undefined_iff core codec_groups args body
          negotiated_media sdp
        simp only [hmethod, hparse, not_true_eq_false, if_false, if_true, Option.bind_some]
        rw [hparsed]
        simp
    · simp [hmethod]

/-- **Absent elements.**  `filter_arrange_SDP`, `processSdpOffer` and `filterSdpOffer`
    access only elements that are there, exactly on the inputs that are safe for them. -/
theorem sdp_offers_defined_iff (core : FilterCore Body)
    (codec_groups : Int → Option (List SdpPayload)) (method : String) (body : Body) :
    (∀ (sdp : AmSdp) (static_payloads : List SdpPayload) (add_codecs : Bool),
      filter_arrange_SDP sdp static_payloads add_codecs ≠ none ↔
        ArrangeSafe static_payloads add_codecs sdp) ∧
    (∀ (args : OfferArgs) (negotiated_media : List SdpMedia),
      processSdpOffer core.toCore codec_groups args body method negotiated_media ≠ .undefined ↔
        OfferSafe core.toCore codec_groups args body method negotiated_media) ∧
    (∀ (args : FilterArgs) (leg : LegSdp),
      filterSdpOffer core codec_groups args body method leg ≠ .undefined ↔
        FilterSafe core codec_groups args body method) :=
  ⟨filter_arrange_SDP_ne_none_iff,
    fun args negotiated_media =>
      processSdpOffer_ne_undefined_iff core.toCore codec_groups args body method negotiated_media,
    fun args leg => filterSdpOffer_ne_undefined_iff core codec_groups args body method leg⟩

namespace FilterExample

open OfferExample (telephoneEvent)

/-- A core that parses every text as this SDP. -/
def coreOf (sdp : AmSdp) : FilterCore String where
  sdpPayload body := some body
  setPayload _ payload := payload
  parse _ := some sdp
  print _ := ""
  isHoldRequest _ := false
  empty body := body.isEmpty
  IANA_RTP_PAYLOADS := []
  explode s _ := [s]

def noLines : AmSdp := { media := [] }

/-- An audio line without payloads. -/
def noPayloads : AmSdp := OfferExample.audio []

def relayed : OfferArgs := { OfferExample.settings with profile := { rtprelay_enabled := true } }

def filterRelayed : FilterArgs :=
  { profile := { rtprelay_enabled := true }, a_leg := true, static_codecs_id := 1, cseq := 1,
    with_zrtp := false }

end FilterExample

open FilterExample OfferExample in
/-- Relayed offers: one without any line, and one of an audio line without payloads where
    the group is telephone-event alone. -/
theorem sdp_offers_undefined :
    processSdpOffer (FilterExample.coreOf noLines).toCore (fun _ => some codecGroup) relayed
        "v=0" "INVITE" [] = .undefined ∧
      filterSdpOffer (FilterExample.coreOf noPayloads) (fun _ => some [telephoneEvent 101 8000])
        filterRelayed "v=0" "INVITE" ⟨{}, ⟨fun _ => none⟩⟩ = .undefined := by
  constructor
  · rfl
  · rfl

end Yeti.Sdp
