import Mathlib.Data.List.Forall2
import Yeti.Sdp.Media

/-! # The media of an offer

    Model of `processSdpOffer` and of the passes that it runs one after the other over
    the parsed offer.  Each pass treats every media line on its own, so the result is
    the offer with one function applied to all of its lines; the early returns depend
    on the lines as a whole.

    Access to an element that is not there (`*sdp.media.begin()` without media lines)
    is the outcome `undefined`.
-/

namespace Yeti.Sdp

open Headers (FilterEntry FilterType isActiveFilter tolower)

/-! ### Data -/

/-- `class AmSdp`, without the lines that only the printer reads. -/
structure AmSdp where
  media : List SdpMedia
  attributes : List SdpAttribute := []
  conn : SdpConnection := {}
  /-- `origin.sessV` -/
  origin_sessV : UInt32 := 0
  ice_pwd : List Char := []
  ice_ufrag : List Char := []
  use_ice : Bool := false
  deriving DecidableEq, Repr

/-- The settings of `SBCCallProfile` that are read here. -/
structure OfferProfile where
  sdpalinesfilter : List FilterEntry := []
  filter_noaudio_streams : Bool := false
  rtprelay_enabled : Bool := false
  aleg_media_transport : TransProt := .TP_RTPAVP
  bleg_media_transport : TransProt := .TP_RTPAVP
  aleg_media_allow_zrtp : Bool := false
  bleg_media_allow_zrtp : Bool := false
  deriving DecidableEq, Repr

/-- The parser and printer of SDP, the message body and the test for hold requests are
    part of the core. -/
structure Core (Body : Type) where
  /-- the payload of `body.hasContentType(SIP_APPLICATION_SDP)` -/
  sdpPayload : Body → Option String
  /-- `setPayload` and `normalizeContentType` on that part -/
  setPayload : Body → String → Body
  /-- `AmSdp::parse`, `none` where it fails -/
  parse : String → Option AmSdp
  /-- `AmSdp::print` -/
  print : AmSdp → String
  isHoldRequest : AmSdp → Bool

/-! ### The passes -/

/-- The entry that `filter_arrange_SDP` adds for the payload `f` of the codec group. -/
def arrangedPayload (add_codecs : Bool) (media : SdpMedia) (f : SdpPayload) :
    Option SdpPayload :=
  match findPayload media.payloads f media.transport with
  | some p =>
    if add_codecs then
      some { p with
        format := []
        sdp_format_parameters := f.sdp_format_parameters
        encoding_name := f.encoding_name
        payload_type :=
          if DYNAMIC_PAYLOAD_TYPE_START ≤ p.payload_type ∧ f.payload_type ≠ -1 then
            f.payload_type
          else p.payload_type }
    else some p
  | none => if add_codecs then some f else none

/-- `new_pl` of `filter_arrange_SDP`. -/
def arrangedPayloads (static_payloads : List SdpPayload) (add_codecs : Bool)
    (media : SdpMedia) : List SdpPayload :=
  static_payloads.filterMap (arrangedPayload add_codecs media)

/-- No payload remained, or the only one is telephone-event. -/
def lineFilteredOut (new_pl payloads : List SdpPayload) : Bool :=
  (new_pl.isEmpty && !payloads.isEmpty) ||
    (new_pl.length == 1 && new_pl.head?.any is_telephone_event)

/-- The loop body of `filter_arrange_SDP`: `none` where `*media.payloads.begin()` does not
    exist. -/
def arrangeLine (static_payloads : List SdpPayload) (add_codecs : Bool) (media : SdpMedia) :
    Option SdpMedia :=
  if media.type ≠ .MT_Audio then some media
  else
    let new_pl := arrangedPayloads static_payloads add_codecs media
    if lineFilteredOut new_pl media.payloads then
      media.payloads.head?.map fun first =>
        { media with payloads := new_pl ++ [first], port := 0 }
    else some { media with payloads := new_pl }

/-- An audio line that `filter_arrange_SDP` deactivates. -/
def deactivated (static_payloads : List SdpPayload) (add_codecs : Bool) (media : SdpMedia) :
    Bool :=
  lineFilteredOut (arrangedPayloads static_payloads add_codecs media) media.payloads

/-- `filter_arrange_SDP`: the new SDP and the returned code. -/
def filter_arrange_SDP (sdp : AmSdp) (static_payloads : List SdpPayload) (add_codecs : Bool) :
    Option (AmSdp × Nat) :=
  let audio := sdp.media.filter (·.type = .MT_Audio)
  let media_line_filtered_out := audio.any (deactivated static_payloads add_codecs)
  let media_line_left := audio.any fun m => !deactivated static_payloads add_codecs m
  (sdp.media.mapM (arrangeLine static_payloads add_codecs)).map fun media =>
    ({ sdp with media := media },
      if !media_line_left && media_line_filtered_out then FC_CODECS_NOT_MATCHED else 0)

/-- `filterSDPAttributes`. -/
def filterSDPAttributes (fe : FilterEntry) (attributes : List SdpAttribute) :
    List SdpAttribute :=
  attributes.filter fun a =>
    !xor (decide (fe.filter_type = .Whitelist)) (fe.filter_list.contains (tolower a.attr))

/-- `filterSDPalines`. -/
def filterSDPalines (sdp : AmSdp) (filter_list : List FilterEntry) : AmSdp :=
  filter_list.foldl (fun sdp fe =>
    if isActiveFilter fe.filter_type then
      { sdp with
        attributes := filterSDPAttributes fe sdp.attributes
        media := sdp.media.map fun m =>
          { m with attributes := filterSDPAttributes fe m.attributes } }
    else sdp) sdp

/-- `filterNoAudioStreams`. -/
def filterNoAudioStreams (sdp : AmSdp) (filter : Bool) : AmSdp × Nat :=
  if !filter then (sdp, 0)
  else
    ({ sdp with media := sdp.media.map fun m =>
        if m.type ≠ .MT_Audio then { m with port := 0 } else m },
      if sdp.media.any (·.type = .MT_Audio) then 0 else FC_NO_SUITABLE_MEDIA)

/-- `fix_media_activity`: what is sent only is received only on this side. -/
def fix_media_activity (isHoldRequest : AmSdp → Bool) (sdp : AmSdp) : AmSdp :=
  if isHoldRequest sdp then
    { sdp with media := sdp.media.map fun m =>
        if m.send && !m.recv then { m with send := false, recv := true } else m }
  else sdp

/-- `reduce_codecs_to_single`. -/
def reduce_codecs_to_single (media : List SdpMedia) : List SdpMedia :=
  media.map fun m =>
    if m.type ≠ .MT_Audio then m else { m with payloads := add_codecs [] m.payloads true }

/-! ### `processSdpOffer` -/

/-- The check whether an in-dialog offer fits what was negotiated: the streams that are
    added are disabled. -/
def checkLocal : List SdpMedia → List SdpMedia → Except Nat (List SdpMedia)
  | [], media => .ok (media.map fun m => { m with port := 0 })
  | _ :: _, [] => .error DC_REPLY_SDP_STREAMS_COUNT
  | negotiated :: rest, m :: media =>
    if negotiated.type ≠ m.type then .error DC_REPLY_SDP_STREAMS_TYPES
    else (checkLocal rest media).map (m :: ·)

/-- The lines that the passes start with. -/
def prepare (isLocal : Bool) (negotiated_media media : List SdpMedia) :
    Except Nat (List SdpMedia) :=
  if isLocal then checkLocal negotiated_media media else .ok media

/-- The arguments of `processSdpOffer` apart from the message. -/
structure OfferArgs where
  profile : OfferProfile
  /-- `call->isALeg()` -/
  a_leg : Bool
  isLocal : Bool
  single_codec : Bool
  static_codecs_id : Int
  /-- whether the program was built `WITH_ZRTP` -/
  with_zrtp : Bool
  deriving DecidableEq, Repr

/-- The transport expected on the leg. -/
def OfferArgs.media_transport (args : OfferArgs) : TransProt :=
  if args.a_leg then args.profile.aleg_media_transport else args.profile.bleg_media_transport

def OfferArgs.zrtp_enabled (args : OfferArgs) : Bool :=
  if args.a_leg then args.profile.aleg_media_allow_zrtp else args.profile.bleg_media_allow_zrtp

/-- The check of the first line if the media is relayed. -/
def OfferArgs.invalidTransport (args : OfferArgs) (first_media : SdpMedia) : Bool :=
  decide (first_media.type = .MT_Audio) &&
    (decide (first_media.transport ≠ args.media_transport) ||
      (args.with_zrtp &&
        (decide (args.media_transport = .TP_RTPAVP) ||
          decide (args.media_transport = .TP_RTPAVPF)) &&
        args.zrtp_enabled && !first_media.zrtp_is_use))

/-- How a call ends. -/
inductive OfferOutcome (Body : Type) where
  | returned (code : Nat) (body : Body) (negotiated_media : List SdpMedia)
  /-- `CodecsGroupException(code, codecs_group)` -/
  | thrown (code : Nat) (codecs_group : Int)
  /-- an element that does not exist was accessed -/
  | undefined

/-- The methods whose bodies are offers or answers. -/
def sdpMethods : List String := ["INVITE", "UPDATE", "PRACK", "ACK"]

variable {Body : Type}

/-- `fix_media_activity` and `reduce_codecs_to_single`, where they are asked for. -/
def finalMedia (core : Core Body) (args : OfferArgs) (sdp : AmSdp) : AmSdp :=
  let sdp := if args.isLocal then fix_media_activity core.isHoldRequest sdp else sdp
  if args.single_codec then { sdp with media := reduce_codecs_to_single sdp.media } else sdp

/-- The check of the transport, and the new body. -/
def concludeOffer (core : Core Body) (args : OfferArgs) (body : Body)
    (negotiated_media : List SdpMedia) (sdp : AmSdp) : OfferOutcome Body :=
  let done := .returned 0 (core.setPayload body (core.print sdp)) sdp.media
  if args.profile.rtprelay_enabled then
    match sdp.media with
    | [] => .undefined
    | first_media :: _ =>
      if args.invalidTransport first_media then
        .returned FC_INVALID_MEDIA_TRANSPORT body negotiated_media
      else done
  else done

/-- What follows `filter_arrange_SDP`. -/
def finishOffer (core : Core Body) (args : OfferArgs) (body : Body)
    (negotiated_media : List SdpMedia) (sdp : AmSdp) : OfferOutcome Body :=
  let sdp := filterSDPalines sdp args.profile.sdpalinesfilter
  let r := filterNoAudioStreams sdp args.profile.filter_noaudio_streams
  if r.2 ≠ 0 then .returned r.2 body negotiated_media
  else concludeOffer core args body negotiated_media (finalMedia core args r.1)

/-- `processSdpOffer` once the offer is parsed. -/
def processParsed (core : Core Body) (codec_groups : Int → Option (List SdpPayload))
    (args : OfferArgs) (body : Body) (negotiated_media : List SdpMedia) (sdp : AmSdp) :
    OfferOutcome Body :=
  match prepare args.isLocal negotiated_media sdp.media with
  | .error code => .returned code body negotiated_media
  | .ok media =>
    match codec_groups args.static_codecs_id with
    | none => .thrown FC_CG_GROUP_NOT_FOUND args.static_codecs_id
    | some static_codecs_filter =>
      match filter_arrange_SDP { sdp with media := media } static_codecs_filter false with
      | none => .undefined
      | some (sdp, res) =>
        if res ≠ 0 then .returned res body negotiated_media
        else finishOffer core args body negotiated_media sdp

/-- `processSdpOffer`. -/
def processSdpOffer (core : Core Body) (codec_groups : Int → Option (List SdpPayload))
    (args : OfferArgs) (body : Body) (method : String) (negotiated_media : List SdpMedia) :
    OfferOutcome Body :=
  match core.sdpPayload body with
  | none => .returned 0 body negotiated_media
  | some payload =>
    if method ∉ sdpMethods then .returned 0 body negotiated_media
    else
      match core.parse payload with
      | none => .returned DC_REPLY_SDP_PARSING_FAILED body negotiated_media
      | some sdp => processParsed core codec_groups args body negotiated_media sdp

/-! ### Arranging a line -/

/-- The payloads of the line that the codec group matches, in the order of the group. -/
def matched (group : List SdpPayload) (media : SdpMedia) : List SdpPayload :=
  group.filterMap fun f => findPayload media.payloads f media.transport

/-- No payload or only telephone-event matched. -/
def NoCodec (group : List SdpPayload) (media : SdpMedia) : Prop :=
  ∀ p ∈ matched group media, is_telephone_event p = true

/-- A line without a matched codec that `filter_arrange_SDP` does not deactivate. -/
def Missed (group : List SdpPayload) (media : SdpMedia) : Prop :=
  media.payloads = [] ∨ NoCodec group media ∧ 2 ≤ (matched group media).length

variable {group : List SdpPayload} {m : SdpMedia}

theorem arrangedPayloads_false (group : List SdpPayload) (m : SdpMedia) :
    arrangedPayloads group false m = matched group m := by
  unfold arrangedPayloads matched
  congr 1
  funext f
  unfold arrangedPayload
  cases findPayload m.payloads f m.transport with
  | none => rfl
  | some p => rfl

theorem mem_of_mem_matched {p : SdpPayload} (h : p ∈ matched group m) : p ∈ m.payloads := by
  obtain ⟨f, -, hfind⟩ := List.mem_filterMap.mp h
  exact mem_of_findPayload hfind

theorem matched_eq_nil (hnil : m.payloads = []) : matched group m = [] := by
  rw [List.eq_nil_iff_forall_not_mem]
  intro p hp
  have hmem := mem_of_mem_matched hp
  rw [hnil] at hmem
  cases hmem

/-- A deactivated line has a payload. -/
theorem payloads_ne_nil_of_deactivated (h : deactivated group false m = true) :
    m.payloads ≠ [] := by
  unfold deactivated lineFilteredOut at h
  rw [arrangedPayloads_false] at h
  intro hnil
  rw [hnil, matched_eq_nil hnil] at h
  cases h

/-- The deactivated lines are those without a matched codec that are not missed. -/
theorem deactivated_iff : deactivated group false m = true ↔ NoCodec group m ∧ ¬ Missed group m := by
  unfold deactivated lineFilteredOut Missed NoCodec
  rw [arrangedPayloads_false]
  cases hmatched : matched group m with
  | nil => simp
  | cons p ps =>
    have hpayloads : m.payloads ≠ [] := by
      intro hempty
      rw [matched_eq_nil hempty] at hmatched
      cases hmatched
    cases ps with
    | nil => simp [hpayloads]
    | cons q qs =>
      simp only [List.length_cons]
      simp [hpayloads]

/-- What `filter_arrange_SDP` makes of a line when no codecs are added. -/
def arrange (group : List SdpPayload) (m : SdpMedia) : SdpMedia :=
  if m.type ≠ .MT_Audio then m
  else if deactivated group false m then
    { m with payloads := matched group m ++ m.payloads.take 1, port := 0 }
  else { m with payloads := matched group m }

theorem arrangeLine_false (group : List SdpPayload) (m : SdpMedia) :
    arrangeLine group false m = some (arrange group m) := by
  unfold arrangeLine arrange
  by_cases haudio : m.type = .MT_Audio
  · rw [if_neg (not_not.mpr haudio), if_neg (not_not.mpr haudio)]
    have hdeactivated : lineFilteredOut (arrangedPayloads group false m) m.payloads =
        deactivated group false m := rfl
    simp only [hdeactivated]
    by_cases hout : deactivated group false m = true
    · rw [if_pos hout, if_pos hout]
      cases hpayloads : m.payloads with
      | nil => exact absurd hpayloads (payloads_ne_nil_of_deactivated hout)
      | cons first rest => simp [arrangedPayloads_false]
    · rw [if_neg hout, if_neg hout, arrangedPayloads_false]
  · rw [if_pos haudio, if_pos haudio]

theorem mapM_arrangeLine (group : List SdpPayload) (media : List SdpMedia) :
    media.mapM (arrangeLine group false) = some (media.map (arrange group)) := by
  induction media with
  | nil => rfl
  | cons m media ih => simp [List.mapM_cons, arrangeLine_false, ih]

/-- All audio lines were deactivated. -/
def AllDeactivated (group : List SdpPayload) (media : List SdpMedia) : Prop :=
  (∃ m ∈ media, m.type = .MT_Audio) ∧
    ∀ m ∈ media, m.type = .MT_Audio → deactivated group false m = true

instance (group : List SdpPayload) (media : List SdpMedia) : Decidable (AllDeactivated group media) :=
  inferInstanceAs (Decidable (_ ∧ _))

/-- `filter_arrange_SDP` when no codecs are added. -/
theorem filter_arrange_SDP_false (sdp : AmSdp) (group : List SdpPayload) :
    filter_arrange_SDP sdp group false =
      some ({ sdp with media := sdp.media.map (arrange group) },
        if AllDeactivated group sdp.media then FC_CODECS_NOT_MATCHED else 0) := by
  unfold filter_arrange_SDP
  rw [mapM_arrangeLine]
  simp only [Option.map_some, Option.some.injEq, Prod.mk.injEq, true_and]
  congr 1
  unfold AllDeactivated
  simp only [Bool.and_eq_true, Bool.not_eq_true', List.any_eq_false, List.any_eq_true,
    List.mem_filter, decide_eq_true_eq, Bool.not_eq_true', Bool.not_eq_false, eq_iff_iff]
  constructor
  · intro h
    obtain ⟨hleft, m, ⟨hm, haudio⟩, -⟩ := h
    exact ⟨⟨m, hm, haudio⟩, fun m' hm' haudio' => hleft m' ⟨hm', haudio'⟩⟩
  · intro h
    obtain ⟨⟨m, hm, haudio⟩, hall⟩ := h
    exact ⟨fun m' hm' => hall m' hm'.1 hm'.2, m, ⟨hm, haudio⟩, hall m hm haudio⟩

/-! ### The passes after it -/

/-- What the other passes leave of a line as it was. -/
structure Kept (m m' : SdpMedia) : Prop where
  type : m'.type = m.type
  transport : m'.transport = m.transport
  zrtp_is_use : m'.zrtp_is_use = m.zrtp_is_use
  payloads : m'.payloads = m.payloads
  port : m.type = .MT_Audio → m'.port = m.port

theorem Kept.refl (m : SdpMedia) : Kept m m := ⟨rfl, rfl, rfl, rfl, fun _ => rfl⟩

theorem Kept.trans {m₁ m₂ m₃ : SdpMedia} (h₁ : Kept m₁ m₂) (h₂ : Kept m₂ m₃) : Kept m₁ m₃ where
  type := h₂.type.trans h₁.type
  transport := h₂.transport.trans h₁.transport
  zrtp_is_use := h₂.zrtp_is_use.trans h₁.zrtp_is_use
  payloads := h₂.payloads.trans h₁.payloads
  port haudio := (h₂.port (h₁.type.trans haudio)).trans (h₁.port haudio)

/-- One list of lines is the other with each line retouched on its own. -/
def Retouched (media media' : List SdpMedia) : Prop :=
  ∃ f : SdpMedia → SdpMedia, media' = media.map f ∧ ∀ m, Kept m (f m)

theorem Retouched.refl (media : List SdpMedia) : Retouched media media :=
  ⟨id, (List.map_id media).symm, Kept.refl⟩

theorem Retouched.trans {media₁ media₂ media₃ : List SdpMedia} (h₁ : Retouched media₁ media₂)
    (h₂ : Retouched media₂ media₃) : Retouched media₁ media₃ := by
  obtain ⟨f, rfl, hf⟩ := h₁
  obtain ⟨g, rfl, hg⟩ := h₂
  exact ⟨g ∘ f, List.map_map, fun m => (hf m).trans (hg (f m))⟩

theorem retouched_filterSDPalines (sdp : AmSdp) (filter_list : List FilterEntry) :
    Retouched sdp.media (filterSDPalines sdp filter_list).media := by
  induction filter_list generalizing sdp with
  | nil => exact Retouched.refl _
  | cons fe filter_list ih =>
    refine Retouched.trans ?_ (ih _)
    dsimp only
    split_ifs
    · exact ⟨_, rfl, fun m => ⟨rfl, rfl, rfl, rfl, fun _ => rfl⟩⟩
    · exact Retouched.refl _

theorem retouched_filterNoAudioStreams (sdp : AmSdp) (filter : Bool) :
    Retouched sdp.media (filterNoAudioStreams sdp filter).1.media := by
  unfold filterNoAudioStreams
  by_cases hfilter : (!filter) = true
  · rw [if_pos hfilter]
    exact Retouched.refl _
  · rw [if_neg hfilter]
    refine ⟨_, rfl, ?_⟩
    intro m
    split_ifs with haudio
    · exact ⟨rfl, rfl, rfl, rfl, fun h => absurd h haudio⟩
    · exact Kept.refl m

theorem retouched_fix_media_activity (isHoldRequest : AmSdp → Bool) (sdp : AmSdp) :
    Retouched sdp.media (fix_media_activity isHoldRequest sdp).media := by
  unfold fix_media_activity
  split_ifs
  · refine ⟨_, rfl, ?_⟩
    intro m
    split_ifs
    · exact ⟨rfl, rfl, rfl, rfl, fun _ => rfl⟩
    · exact Kept.refl m
  · exact Retouched.refl _

/-- Audio lines are not taken away or added. -/
theorem Retouched.exists_audio {media media' : List SdpMedia} (h : Retouched media media') :
    (∃ m ∈ media', m.type = .MT_Audio) ↔ ∃ m ∈ media, m.type = .MT_Audio := by
  obtain ⟨f, rfl, hf⟩ := h
  simp [(hf _).type]

/-! ### The end of the function -/

/-- The payloads of an audio line at the end. -/
def finalPayloads (single_codec : Bool) (payloads : List SdpPayload) : List SdpPayload :=
  if single_codec then add_codecs [] payloads true else payloads

/-- A line at the end, after `filter_arrange_SDP` made `m` of it. -/
structure Finished (single_codec : Bool) (m m' : SdpMedia) : Prop where
  type : m'.type = m.type
  transport : m'.transport = m.transport
  zrtp_is_use : m'.zrtp_is_use = m.zrtp_is_use
  port : m.type = .MT_Audio → m'.port = m.port
  payloads : m.type = .MT_Audio → m'.payloads = finalPayloads single_codec m.payloads

theorem finished_of_retouched {media media' : List SdpMedia} (h : Retouched media media')
    (single_codec : Bool) :
    ∃ g : SdpMedia → SdpMedia, (∀ m, Finished single_codec m (g m)) ∧
      (if single_codec then reduce_codecs_to_single media' else media') = media.map g := by
  obtain ⟨f, rfl, hf⟩ := h
  cases single_codec with
  | false =>
    refine ⟨f, ?_, rfl⟩
    intro m
    exact ⟨(hf m).type, (hf m).transport, (hf m).zrtp_is_use, (hf m).port, fun _ => (hf m).payloads⟩
  | true =>
    rw [if_pos rfl]
    unfold reduce_codecs_to_single
    rw [List.map_map]
    refine ⟨_, ?_, rfl⟩
    intro m
    rw [Function.comp_apply]
    split_ifs with haudio
    · rw [(hf m).type] at haudio
      exact ⟨(hf m).type, (hf m).transport, (hf m).zrtp_is_use, (hf m).port,
        fun h => absurd h haudio⟩
    · refine ⟨(hf m).type, (hf m).transport, (hf m).zrtp_is_use, (hf m).port, ?_⟩
      intro _
      show add_codecs [] (f m).payloads true = add_codecs [] m.payloads true
      rw [(hf m).payloads]

theorem Finished.invalidTransport {single_codec : Bool} {m m' : SdpMedia}
    (h : Finished single_codec m m') (args : OfferArgs) :
    args.invalidTransport m' = args.invalidTransport m := by
  unfold OfferArgs.invalidTransport
  rw [h.type, h.transport, h.zrtp_is_use]

/-- The code of `filterNoAudioStreams`. -/
theorem filterNoAudioStreams_code (sdp : AmSdp) (filter : Bool) :
    (filterNoAudioStreams sdp filter).2 =
      if filter = true ∧ ¬ ∃ m ∈ sdp.media, m.type = .MT_Audio then FC_NO_SUITABLE_MEDIA else 0 := by
  unfold filterNoAudioStreams
  cases filter with
  | false => rfl
  | true =>
    by_cases hex : ∃ m ∈ sdp.media, m.type = .MT_Audio
    · simp [List.any_eq, hex]
    · simp [List.any_eq, hex]

/-- `concludeOffer` in terms of the lines that `filter_arrange_SDP` left. -/
theorem concludeOffer_eq (core : Core Body) (args : OfferArgs) (body : Body)
    (negotiated_media : List SdpMedia) {sdp : AmSdp} {media : List SdpMedia}
    {g : SdpMedia → SdpMedia} (hmedia : sdp.media = media.map g)
    (hg : ∀ m, Finished args.single_codec m (g m)) :
    concludeOffer core args body negotiated_media sdp =
      if args.profile.rtprelay_enabled = true ∧ media = [] then .undefined
      else if args.profile.rtprelay_enabled = true ∧
          ∃ first ∈ media.head?, args.invalidTransport first = true then
        .returned FC_INVALID_MEDIA_TRANSPORT body negotiated_media
      else .returned 0 (core.setPayload body (core.print sdp)) sdp.media := by
  unfold concludeOffer
  dsimp only
  by_cases hrelay : args.profile.rtprelay_enabled = true
  · rw [if_pos hrelay]
    cases media with
    | nil =>
      rw [hmedia]
      simp [hrelay]
    | cons first rest =>
      rw [hmedia]
      simp only [List.map_cons, (hg first).invalidTransport]
      simp [hrelay]
  · simp [hrelay]

/-- What `finishOffer` does with the arranged lines. -/
theorem finishOffer_eq (core : Core Body) (args : OfferArgs) (body : Body)
    (negotiated_media : List SdpMedia) (sdp : AmSdp) :
    ∃ (sdp' : AmSdp) (g : SdpMedia → SdpMedia),
      sdp'.media = sdp.media.map g ∧ (∀ m, Finished args.single_codec m (g m)) ∧
      finishOffer core args body negotiated_media sdp =
        if args.profile.filter_noaudio_streams = true ∧ ¬ ∃ m ∈ sdp.media, m.type = .MT_Audio then
          .returned FC_NO_SUITABLE_MEDIA body negotiated_media
        else if args.profile.rtprelay_enabled = true ∧ sdp.media = [] then .undefined
        else if args.profile.rtprelay_enabled = true ∧
            ∃ first ∈ sdp.media.head?, args.invalidTransport first = true then
          .returned FC_INVALID_MEDIA_TRANSPORT body negotiated_media
        else .returned 0 (core.setPayload body (core.print sdp')) sdp'.media := by
  unfold finishOffer
  dsimp only
  have hlines := retouched_filterSDPalines sdp args.profile.sdpalinesfilter
  generalize filterSDPalines sdp args.profile.sdpalinesfilter = sdp₁ at hlines ⊢
  have hcode := filterNoAudioStreams_code sdp₁ args.profile.filter_noaudio_streams
  have hstreams := retouched_filterNoAudioStreams sdp₁ args.profile.filter_noaudio_streams
  generalize filterNoAudioStreams sdp₁ args.profile.filter_noaudio_streams = r at hcode hstreams ⊢
  simp only [hlines.exists_audio] at hcode
  have hfixed : Retouched r.1.media
      (if args.isLocal then fix_media_activity core.isHoldRequest r.1 else r.1).media := by
    split_ifs
    · exact retouched_fix_media_activity core.isHoldRequest r.1
    · exact Retouched.refl _
  obtain ⟨g, hg, hmedia⟩ :=
    finished_of_retouched ((hlines.trans hstreams).trans hfixed) args.single_codec
  have hfinal : (finalMedia core args r.1).media = sdp.media.map g := by
    rw [← hmedia]
    unfold finalMedia
    dsimp only
    cases args.single_codec with
    | false => rfl
    | true => rfl
  refine ⟨finalMedia core args r.1, g, hfinal, hg, ?_⟩
  rw [hcode, concludeOffer_eq core args body negotiated_media hfinal hg]
  by_cases hnone : args.profile.filter_noaudio_streams = true ∧
      ¬ ∃ m ∈ sdp.media, m.type = .MT_Audio
  · rw [if_pos hnone, if_pos hnone]
    rfl
  · rw [if_neg hnone, if_neg hnone]
    rfl


end Yeti.Sdp
