import Yeti.Sdp.Offer

/-! # What becomes of an offer

    Either the offer is refused and nothing changes, or its lines are filtered and the
    result is both stored and sent on.  `filter_arrange_SDP` misses two kinds of lines:
    those without payloads, and those of which two or more telephone-event payloads
    matched and nothing else.  They stay active, and `FC_CODECS_NOT_MATCHED` is not
    returned for them.  And with relayed media an offer without media lines is read past
    its end.
-/

namespace Yeti.Sdp

variable {Body : Type}

/-! ### What is claimed -/

/-- There are audio lines, and none of them has a codec that matched. -/
def AllNoCodec (group : List SdpPayload) (media : List SdpMedia) : Prop :=
  (∃ m ∈ media, m.type = .MT_Audio) ∧ ∀ m ∈ media, m.type = .MT_Audio → NoCodec group m

/-- How a line of the result relates to the offered one. -/
structure OfferLine (group : List SdpPayload) (single_codec : Bool) (offered m : SdpMedia) :
    Prop where
  type : m.type = offered.type
  taken : m.type = .MT_Audio → ∀ p ∈ m.payloads, p ∈ offered.payloads
  nonempty : m.type = .MT_Audio → offered.payloads ≠ [] → m.payloads ≠ []
  order : m.type = .MT_Audio → ¬ NoCodec group offered →
    m.payloads = if single_codec then add_codecs [] (matched group offered) true
      else matched group offered
  port : m.type = .MT_Audio → NoCodec group offered → m.port = 0

/-- The claimed outcomes for the parsed offer `sdp`. -/
def OfferMeets (core : Core Body) (args : OfferArgs) (group : List SdpPayload) (body : Body)
    (negotiated_media : List SdpMedia) (sdp : AmSdp) : OfferOutcome Body → Prop
  | .returned code body' negotiated' =>
    (code ≠ 0 → body' = body ∧ negotiated' = negotiated_media) ∧
    (code = 0 → ∃ sdp', body' = core.setPayload body (core.print sdp') ∧
      negotiated' = sdp'.media ∧
      List.Forall₂ (OfferLine group args.single_codec) sdp.media sdp'.media) ∧
    (code = FC_CODECS_NOT_MATCHED ↔
      (∃ media, prepare args.isLocal negotiated_media sdp.media = .ok media) ∧
        AllNoCodec group sdp.media)
  | .thrown _ _ => False
  | .undefined => False

/-- The offers that are handled as claimed: there is a line if the first one is looked at,
    and missed lines do no harm. -/
def OfferHandled (args : OfferArgs) (group : List SdpPayload)
    (negotiated_media : List SdpMedia) (sdp : AmSdp) : Prop :=
  ∀ media, prepare args.isLocal negotiated_media sdp.media = .ok media →
    ¬ (media = [] ∧ args.profile.rtprelay_enabled = true ∧
      args.profile.filter_noaudio_streams = false) ∧
    ∀ m ∈ media, m.type = .MT_Audio → Missed group m →
      (∃ m' ∈ media, m'.type = .MT_Audio ∧ ¬ NoCodec group m') ∧
      (m.port = 0 ∨ args.profile.rtprelay_enabled = true ∧
        ∃ first ∈ media.head?, args.invalidTransport first = true)

variable {group : List SdpPayload} {m : SdpMedia}

/-! ### Lines of the result -/

/-- The lines after the local check are the offered ones, up to the port. -/
def SameButPort (m m' : SdpMedia) : Prop := ∃ port, m' = { m with port := port }

theorem checkLocal_lines {negotiated_media media media' : List SdpMedia}
    (h : checkLocal negotiated_media media = .ok media') :
    List.Forall₂ SameButPort media media' := by
  induction negotiated_media generalizing media media' with
  | nil =>
    unfold checkLocal at h
    cases h
    rw [List.forall₂_map_right_iff, List.forall₂_same]
    intro m _
    exact ⟨0, rfl⟩
  | cons n negotiated_media ih =>
    cases media with
    | nil => cases h
    | cons m media =>
      unfold checkLocal at h
      split_ifs at h
      cases hrest : checkLocal negotiated_media media with
      | error code =>
        rw [hrest] at h
        cases h
      | ok rest =>
        rw [hrest] at h
        cases h
        exact .cons ⟨m.port, rfl⟩ (ih hrest)

theorem prepare_lines {isLocal : Bool} {negotiated_media media media' : List SdpMedia}
    (h : prepare isLocal negotiated_media media = .ok media') :
    List.Forall₂ SameButPort media media' := by
  unfold prepare at h
  split_ifs at h
  · exact checkLocal_lines h
  · cases h
    rw [List.forall₂_same]
    intro m _
    exact ⟨m.port, rfl⟩

/-- The codes of the local check. -/
theorem prepare_error {isLocal : Bool} {negotiated_media media : List SdpMedia} {code : Nat}
    (h : prepare isLocal negotiated_media media = .error code) :
    code = DC_REPLY_SDP_STREAMS_COUNT ∨ code = DC_REPLY_SDP_STREAMS_TYPES := by
  unfold prepare at h
  split_ifs at h
  induction negotiated_media generalizing media with
  | nil => cases h
  | cons n negotiated_media ih =>
    cases media with
    | nil =>
      cases h
      exact Or.inl rfl
    | cons m media =>
      unfold checkLocal at h
      split_ifs at h
      · cases h
        exact Or.inr rfl
      · cases hrest : checkLocal negotiated_media media with
        | error code' =>
          rw [hrest] at h
          cases h
          exact ih hrest
        | ok rest =>
          rw [hrest] at h
          cases h

/-- The codecs of a line do not depend on its port. -/
theorem SameButPort.noCodec_iff {m m' : SdpMedia} (h : SameButPort m m')
    (group : List SdpPayload) : NoCodec group m' ↔ NoCodec group m := by
  obtain ⟨port, rfl⟩ := h
  exact Iff.rfl

theorem allNoCodec_iff {media media' : List SdpMedia} (h : List.Forall₂ SameButPort media media') :
    AllNoCodec group media' ↔ AllNoCodec group media := by
  have hexists : (∃ m ∈ media', m.type = .MT_Audio) ↔ ∃ m ∈ media, m.type = .MT_Audio := by
    induction h with
    | nil => rfl
    | cons hm _ ih =>
      obtain ⟨port, rfl⟩ := hm
      simp [ih]
  have hall : (∀ m ∈ media', m.type = .MT_Audio → NoCodec group m) ↔
      ∀ m ∈ media, m.type = .MT_Audio → NoCodec group m := by
    clear hexists
    induction h with
    | nil => rfl
    | cons hm _ ih =>
      have hcodec := hm.noCodec_iff group
      obtain ⟨port, rfl⟩ := hm
      simp only [List.forall_mem_cons, ih, hcodec]
  unfold AllNoCodec
  rw [hexists, hall]

theorem finalPayloads_ne_nil {single_codec : Bool} {payloads : List SdpPayload}
    (h : payloads ≠ []) : finalPayloads single_codec payloads ≠ [] := by
  unfold finalPayloads
  split_ifs
  · obtain ⟨p, ps, rfl⟩ := List.exists_cons_of_ne_nil h
    intro hnil
    have hfirst := first_add_codecs p ps true
    rw [hnil, List.prefix_nil] at hfirst
    cases hfirst
  · exact h

theorem mem_finalPayloads {single_codec : Bool} {payloads : List SdpPayload} {p : SdpPayload}
    (h : p ∈ finalPayloads single_codec payloads) : p ∈ payloads := by
  unfold finalPayloads at h
  split_ifs at h
  · have hadded := mem_add_codecs h
    simpa using hadded
  · exact h

/-- The payloads of an arranged audio line. -/
theorem payloads_arrange (haudio : m.type = .MT_Audio) :
    (arrange group m).payloads =
      matched group m ++ if deactivated group false m then m.payloads.take 1 else [] := by
  unfold arrange
  rw [if_neg (not_not.mpr haudio)]
  split_ifs
  · rfl
  · exact (List.append_nil _).symm

theorem type_arrange (group : List SdpPayload) (m : SdpMedia) :
    (arrange group m).type = m.type := by
  unfold arrange
  split_ifs <;> rfl

theorem port_arrange (haudio : m.type = .MT_Audio) :
    (arrange group m).port = if deactivated group false m then 0 else m.port := by
  unfold arrange
  rw [if_neg (not_not.mpr haudio)]
  split_ifs <;> rfl

theorem noCodec_of_missed (h : Missed group m) : NoCodec group m := by
  rcases h with hnil | ⟨hcodec, -⟩
  · intro p hp
    rw [matched_eq_nil hnil] at hp
    cases hp
  · exact hcodec

/-- The payloads of an arranged line are offered ones, and there are some if some were
    offered and the line was not missed. -/
theorem mem_payloads_arrange (haudio : m.type = .MT_Audio) {p : SdpPayload}
    (h : p ∈ (arrange group m).payloads) : p ∈ m.payloads := by
  rw [payloads_arrange haudio, List.mem_append] at h
  rcases h with hmatched | hfirst
  · exact mem_of_mem_matched hmatched
  · split_ifs at hfirst
    · exact List.mem_of_mem_take hfirst
    · cases hfirst

theorem payloads_arrange_ne_nil (haudio : m.type = .MT_Audio) (h : m.payloads ≠ []) :
    (arrange group m).payloads ≠ [] := by
  rw [payloads_arrange haudio]
  by_cases hout : deactivated group false m = true
  · rw [if_pos hout]
    intro hnil
    have htake := (List.append_eq_nil_iff.mp hnil).2
    rw [List.take_eq_nil_iff] at htake
    exact h (htake.resolve_left Nat.one_ne_zero)
  · rw [if_neg hout, List.append_nil]
    intro hnil
    apply hout
    rw [deactivated_iff]
    constructor
    · intro p hp
      rw [hnil] at hp
      cases hp
    · rintro (hempty | ⟨-, hlength⟩)
      · exact h hempty
      · rw [hnil, List.length_nil] at hlength
        omega

/-- A line of the result is as claimed unless it was missed and its port was not zero. -/
theorem offerLine_iff {single_codec : Bool} {offered m m' : SdpMedia} (hm : SameButPort offered m)
    (h : Finished single_codec (arrange group m) m') :
    OfferLine group single_codec offered m' ↔
      (m.type = .MT_Audio → Missed group m → m.port = 0) := by
  have htype : m'.type = m.type := h.type.trans (type_arrange group m)
  have hcodec := hm.noCodec_iff group
  -- on an audio line, payloads and port come from `arrange`
  have hpayloads : m.type = .MT_Audio →
      m'.payloads = finalPayloads single_codec (arrange group m).payloads :=
    fun haudio => h.payloads ((type_arrange group m).trans haudio)
  have hport : m.type = .MT_Audio →
      m'.port = if deactivated group false m then 0 else m.port :=
    fun haudio => (h.port ((type_arrange group m).trans haudio)).trans (port_arrange haudio)
  constructor
  · intro hline haudio hmissed
    have hzero := hline.port (htype.trans haudio) (hcodec.mp (noCodec_of_missed hmissed))
    have hnot : deactivated group false m = false := by
      rw [Bool.eq_false_iff, ne_eq, deactivated_iff]
      exact fun hboth => hboth.2 hmissed
    rw [hport haudio, hnot] at hzero
    exact hzero
  · intro hmissed
    obtain ⟨port, rfl⟩ := hm
    refine ⟨htype, ?_, ?_, ?_, ?_⟩
    · intro haudio p hp
      rw [htype] at haudio
      rw [hpayloads haudio] at hp
      exact mem_payloads_arrange haudio (mem_finalPayloads hp)
    · intro haudio hoffered
      rw [htype] at haudio
      rw [hpayloads haudio]
      exact finalPayloads_ne_nil (payloads_arrange_ne_nil haudio hoffered)
    · intro haudio hsome
      rw [htype] at haudio
      have hnot : ¬ deactivated group false { offered with port := port } = true := by
        rw [deactivated_iff]
        exact fun hboth => hsome hboth.1
      rw [hpayloads haudio, payloads_arrange haudio, if_neg hnot, List.append_nil]
      rfl
    · intro haudio hnone
      rw [htype] at haudio
      rw [hport haudio]
      split_ifs with hout
      · rfl
      · apply hmissed haudio
        by_contra hnot
        exact hout (deactivated_iff.mpr ⟨hnone, hnot⟩)

/-- All lines of the result are as claimed unless one was missed and its port was not
    zero. -/
theorem forall₂_offerLine_iff (group : List SdpPayload) {single_codec : Bool}
    {offered media : List SdpMedia} (h : List.Forall₂ SameButPort offered media) {g : SdpMedia → SdpMedia}
    (hg : ∀ m, Finished single_codec m (g m)) :
    List.Forall₂ (OfferLine group single_codec) offered ((media.map (arrange group)).map g) ↔
      ∀ m ∈ media, m.type = .MT_Audio → Missed group m → m.port = 0 := by
  induction h with
  | nil => simp
  | cons hm _ ih =>
    simp only [List.map_cons, List.forall₂_cons, List.forall_mem_cons]
    rw [ih, offerLine_iff hm (hg _)]

/-! ### The outcome -/

/-- If all audio lines lack a codec and not all were deactivated, one was missed. -/
theorem exists_missed {media : List SdpMedia} (hall : AllNoCodec group media)
    (hnot : ¬ AllDeactivated group media) :
    ∃ m ∈ media, m.type = .MT_Audio ∧ Missed group m := by
  by_contra hnone
  apply hnot
  refine ⟨hall.1, ?_⟩
  intro m hm haudio
  rw [deactivated_iff]
  exact ⟨hall.2 m hm haudio, fun hmissed => hnone ⟨m, hm, haudio, hmissed⟩⟩

/-- The missed lines leave no trace in the code if another line has a codec. -/
theorem not_allNoCodec_iff {media : List SdpMedia} (hnot : ¬ AllDeactivated group media) :
    ¬ AllNoCodec group media ↔ ∀ m ∈ media, m.type = .MT_Audio → Missed group m →
      ∃ m' ∈ media, m'.type = .MT_Audio ∧ ¬ NoCodec group m' := by
  constructor
  · intro hsome m hm haudio _
    by_contra hnone
    push Not at hnone
    exact hsome ⟨⟨m, hm, haudio⟩, hnone⟩
  · intro hcodec hall
    obtain ⟨m, hm, haudio, hmissed⟩ := exists_missed hall hnot
    obtain ⟨m', hm', haudio', hne⟩ := hcodec m hm haudio hmissed
    exact hne (hall.2 m' hm' haudio')

variable {core : Core Body} {args : OfferArgs} {body : Body} {negotiated_media : List SdpMedia}
  {sdp : AmSdp}

/-- A refusal has to have the right code. -/
theorem offerMeets_refused_iff {code : Nat} (hcode : code ≠ 0) :
    OfferMeets core args group body negotiated_media sdp (.returned code body negotiated_media) ↔
      (code = FC_CODECS_NOT_MATCHED ↔
        (∃ media, prepare args.isLocal negotiated_media sdp.media = .ok media) ∧
          AllNoCodec group sdp.media) := by
  constructor
  · intro h
    exact h.2.2
  · intro h
    exact ⟨fun _ => ⟨rfl, rfl⟩, fun hzero => absurd hzero hcode, h⟩

/-- A refusal for another reason than the codecs. -/
theorem offerMeets_other_iff {code : Nat} {media : List SdpMedia} (hcode : code ≠ 0)
    (hother : code ≠ FC_CODECS_NOT_MATCHED)
    (hprepare : prepare args.isLocal negotiated_media sdp.media = .ok media) :
    OfferMeets core args group body negotiated_media sdp (.returned code body negotiated_media) ↔
      ¬ AllNoCodec group media := by
  rw [offerMeets_refused_iff hcode, allNoCodec_iff (prepare_lines hprepare)]
  simp [hother, hprepare]

/-- An accepted offer. -/
theorem offerMeets_accepted_iff {media : List SdpMedia} {sdp' : AmSdp} {g : SdpMedia → SdpMedia}
    (hprepare : prepare args.isLocal negotiated_media sdp.media = .ok media)
    (hmedia : sdp'.media = (media.map (arrange group)).map g)
    (hg : ∀ m, Finished args.single_codec m (g m)) :
    OfferMeets core args group body negotiated_media sdp
        (.returned 0 (core.setPayload body (core.print sdp')) sdp'.media) ↔
      (∀ m ∈ media, m.type = .MT_Audio → Missed group m → m.port = 0) ∧
        ¬ AllNoCodec group media := by
  have hlines := prepare_lines hprepare
  have hoffer := forall₂_offerLine_iff group hlines hg
  rw [← hmedia] at hoffer
  have hcode : (0 = FC_CODECS_NOT_MATCHED ↔
      (∃ media, prepare args.isLocal negotiated_media sdp.media = .ok media) ∧
        AllNoCodec group sdp.media) ↔ ¬ AllNoCodec group media := by
    rw [allNoCodec_iff hlines]
    simp [hprepare, FC_CODECS_NOT_MATCHED]
  constructor
  · intro h
    obtain ⟨sdp'', -, heq, hforall⟩ := h.2.1 rfl
    rw [← heq] at hforall
    exact ⟨hoffer.mp hforall, hcode.mp h.2.2⟩
  · intro h
    refine ⟨fun hne => absurd rfl hne, fun _ => ⟨sdp', rfl, rfl, hoffer.mpr h.1⟩, hcode.mpr h.2⟩

theorem offerHandled_iff {media : List SdpMedia}
    (hprepare : prepare args.isLocal negotiated_media sdp.media = .ok media)
    (hnot : ¬ AllDeactivated group media) :
    OfferHandled args group negotiated_media sdp ↔
      ¬ (media = [] ∧ args.profile.rtprelay_enabled = true ∧
        args.profile.filter_noaudio_streams = false) ∧
      ¬ AllNoCodec group media ∧
      ∀ m ∈ media, m.type = .MT_Audio → Missed group m →
        (m.port = 0 ∨ args.profile.rtprelay_enabled = true ∧
          ∃ first ∈ media.head?, args.invalidTransport first = true) := by
  unfold OfferHandled
  rw [hprepare, not_allNoCodec_iff hnot]
  simp only [Except.ok.injEq, forall_eq', forall_and]

theorem exists_audio_arrange (group : List SdpPayload) (media : List SdpMedia) :
    (∃ m ∈ media.map (arrange group), m.type = .MT_Audio) ↔ ∃ m ∈ media, m.type = .MT_Audio := by
  simp [type_arrange]

theorem invalidTransport_arrange (args : OfferArgs) (group : List SdpPayload) (m : SdpMedia) :
    args.invalidTransport (arrange group m) = args.invalidTransport m := by
  have hkept : (arrange group m).transport = m.transport ∧
      (arrange group m).zrtp_is_use = m.zrtp_is_use := by
    unfold arrange
    split_ifs <;> exact ⟨rfl, rfl⟩
  unfold OfferArgs.invalidTransport
  rw [type_arrange, hkept.1, hkept.2]

/-- Once the codecs of some line matched, the rest of the function does as claimed
    exactly on the offers that are handled. -/
theorem offerMeets_finishOffer_iff {media : List SdpMedia}
    (hprepare : prepare args.isLocal negotiated_media sdp.media = .ok media)
    (hnot : ¬ AllDeactivated group media) :
    OfferMeets core args group body negotiated_media sdp
        (finishOffer core args body negotiated_media
          { sdp with media := media.map (arrange group) }) ↔
      OfferHandled args group negotiated_media sdp := by
  obtain ⟨sdp', g, hmedia, hg, heq⟩ := finishOffer_eq core args body negotiated_media
    { sdp with media := media.map (arrange group) }
  have hhead : (∃ first ∈ (media.map (arrange group)).head?, args.invalidTransport first = true) ↔
      ∃ first ∈ media.head?, args.invalidTransport first = true := by
    cases media with
    | nil => simp
    | cons m media => simp [invalidTransport_arrange]
  simp only [exists_audio_arrange, hhead, List.map_eq_nil_iff] at heq
  rw [heq, offerHandled_iff hprepare hnot]
  by_cases hnone : args.profile.filter_noaudio_streams = true ∧ ¬ ∃ m ∈ media, m.type = .MT_Audio
  · -- no audio line at all
    rw [if_pos hnone, offerMeets_other_iff (by decide) (by decide) hprepare]
    have hcodec : ¬ AllNoCodec group media := fun hall => hnone.2 hall.1
    refine iff_of_true hcodec ⟨?_, hcodec, ?_⟩
    · rw [hnone.1]
      simp
    · intro m hm haudio
      exact absurd ⟨m, hm, haudio⟩ hnone.2
  rw [if_neg hnone]
  by_cases hempty : args.profile.rtprelay_enabled = true ∧ media = []
  · -- the first line does not exist
    rw [if_pos hempty]
    have hfilter : args.profile.filter_noaudio_streams = false := by
      rw [Bool.eq_false_iff]
      intro hfilter
      apply hnone
      simp [hfilter, hempty.2]
    refine iff_of_false id ?_
    rintro ⟨hline, -⟩
    exact hline ⟨hempty.2, hempty.1, hfilter⟩
  rw [if_neg hempty]
  have hline : ¬ (media = [] ∧ args.profile.rtprelay_enabled = true ∧
      args.profile.filter_noaudio_streams = false) :=
    fun h => hempty ⟨h.2.1, h.1⟩
  by_cases hinvalid : args.profile.rtprelay_enabled = true ∧
      ∃ first ∈ media.head?, args.invalidTransport first = true
  · -- refused for the transport
    rw [if_pos hinvalid, offerMeets_other_iff (by decide) (by decide) hprepare]
    constructor
    · intro hcodec
      exact ⟨hline, hcodec, fun m _ _ _ => Or.inr hinvalid⟩
    · intro h
      exact h.2.1
  · -- accepted
    rw [if_neg hinvalid, offerMeets_accepted_iff hprepare hmedia hg]
    constructor
    · intro h
      exact ⟨hline, h.2, fun m hm haudio hmissed => Or.inl (h.1 m hm haudio hmissed)⟩
    · intro h
      refine ⟨?_, h.2.1⟩
      intro m hm haudio hmissed
      exact (h.2.2 m hm haudio hmissed).resolve_right hinvalid

/-- `processSdpOffer` of a parsed offer. -/
theorem offerMeets_processParsed_iff {codec_groups : Int → Option (List SdpPayload)}
    (hgroup : codec_groups args.static_codecs_id = some group) :
    OfferMeets core args group body negotiated_media sdp
        (processParsed core codec_groups args body negotiated_media sdp) ↔
      OfferHandled args group negotiated_media sdp := by
  unfold processParsed
  cases hprepare : prepare args.isLocal negotiated_media sdp.media with
  | error code =>
    have hcodes := prepare_error hprepare
    have hzero : code ≠ 0 := by
      rcases hcodes with rfl | rfl <;> decide
    have hother : code ≠ FC_CODECS_NOT_MATCHED := by
      rcases hcodes with rfl | rfl <;> decide
    simp only [offerMeets_refused_iff hzero, OfferHandled, hprepare]
    simp [hother]
  | ok media =>
    simp only [hgroup, filter_arrange_SDP_false]
    by_cases hall : AllDeactivated group media
    · rw [if_pos hall, if_pos (by decide)]
      -- every audio line was deactivated, none was missed
      have hcodec : ∀ m ∈ media, m.type = .MT_Audio → NoCodec group m ∧ ¬ Missed group m :=
        fun m hm haudio => deactivated_iff.mp (hall.2 m hm haudio)
      have hnocodec : AllNoCodec group media :=
        ⟨hall.1, fun m hm haudio => (hcodec m hm haudio).1⟩
      have hmeets : OfferMeets core args group body negotiated_media sdp
          (.returned FC_CODECS_NOT_MATCHED body negotiated_media) := by
        rw [offerMeets_refused_iff (by decide)]
        exact ⟨fun _ => ⟨⟨media, hprepare⟩, (allNoCodec_iff (prepare_lines hprepare)).mp hnocodec⟩,
          fun _ => rfl⟩
      have hhandled : OfferHandled args group negotiated_media sdp := by
        intro media' hprepare'
        rw [hprepare] at hprepare'
        cases hprepare'
        obtain ⟨m, hm, -⟩ := hall.1
        constructor
        · rintro ⟨rfl, -⟩
          cases hm
        · intro m' hm' haudio' hmissed'
          exact absurd hmissed' (hcodec m' hm' haudio').2
      exact iff_of_true hmeets hhandled
    · rw [if_neg hall]
      exact offerMeets_finishOffer_iff hprepare hall

theorem processSdpOffer_parsed {codec_groups : Int → Option (List SdpPayload)} {method : String}
    {payload : String} (hpayload : core.sdpPayload body = some payload)
    (hmethod : method ∈ sdpMethods) (hparse : core.parse payload = some sdp) :
    processSdpOffer core codec_groups args body method negotiated_media =
      processParsed core codec_groups args body negotiated_media sdp := by
  unfold processSdpOffer
  simp [hpayload, hmethod, hparse]

/-- **Outcome of an offer.** A parsed offer is handled as claimed exactly if there is a
    line to look at and no missed line does harm. -/
theorem offerMeets_processSdpOffer_iff (core : Core Body)
    (codec_groups : Int → Option (List SdpPayload)) (args : OfferArgs) (body : Body)
    (method : String) (negotiated_media : List SdpMedia) {payload : String} {sdp : AmSdp}
    {group : List SdpPayload} (hpayload : core.sdpPayload body = some payload)
    (hmethod : method ∈ sdpMethods) (hparse : core.parse payload = some sdp)
    (hgroup : codec_groups args.static_codecs_id = some group) :
    OfferMeets core args group body negotiated_media sdp
        (processSdpOffer core codec_groups args body method negotiated_media) ↔
      OfferHandled args group negotiated_media sdp := by
  rw [processSdpOffer_parsed hpayload hmethod hparse]
  exact offerMeets_processParsed_iff hgroup

/-! ### Offers with telephone-event -/

namespace OfferExample

def pcma : SdpPayload := { payload_type := 8, encoding_name := "PCMA".toList, clock_rate := 8000 }

def telephoneEvent (payload_type clock_rate : Int) : SdpPayload :=
  { payload_type := payload_type, encoding_name := "telephone-event".toList,
    clock_rate := clock_rate }

def codecGroup : List SdpPayload := [pcma, telephoneEvent 101 8000, telephoneEvent 102 16000]

/-- An offer of one audio line. -/
def audio (payloads : List SdpPayload) : AmSdp :=
  { media := [{ type := .MT_Audio, port := 5000, transport := .TP_RTPAVP, payloads := payloads }] }

def settings : OfferArgs :=
  { profile := {}, a_leg := true, isLocal := false, single_codec := false, static_codecs_id := 1,
    with_zrtp := false }

/-- A core that knows the text of one SDP. -/
def coreOf (text : String) (sdp : AmSdp) : Core String where
  sdpPayload body := some body
  setPayload _ payload := payload
  parse payload := if payload = text then some sdp else none
  print _ := text
  isHoldRequest _ := false

theorem parse_coreOf (text : String) (sdp : AmSdp) : (coreOf text sdp).parse text = some sdp := by
  simp [coreOf]

def plainText : String :=
  "m=audio 5000 RTP/AVP 8 101\r\na=rtpmap:8 PCMA/8000\r\na=rtpmap:101 telephone-event/8000\r\n"

def eventsText : String :=
  "m=audio 5000 RTP/AVP 101 102\r\na=rtpmap:101 telephone-event/8000\r\n" ++
    "a=rtpmap:102 telephone-event/16000\r\n"

end OfferExample

open OfferExample

instance (group : List SdpPayload) (m : SdpMedia) : Decidable (NoCodec group m) :=
  inferInstanceAs (Decidable (∀ p ∈ matched group m, _))

instance (group : List SdpPayload) (m : SdpMedia) : Decidable (Missed group m) :=
  inferInstanceAs (Decidable (_ ∨ _))

/-- An offer of PCMA and telephone-event. -/
theorem offerMeets_processSdpOffer_iff_plain :
    OfferMeets (coreOf plainText (audio [pcma, telephoneEvent 101 8000])) settings codecGroup
      plainText [] (audio [pcma, telephoneEvent 101 8000])
      (processSdpOffer (coreOf plainText (audio [pcma, telephoneEvent 101 8000]))
        (fun _ => some codecGroup) settings plainText "INVITE" []) := by
  refine (offerMeets_processSdpOffer_iff (coreOf plainText _) (fun _ => some codecGroup) settings
    plainText "INVITE" [] rfl (by decide) (parse_coreOf plainText _) rfl).mpr ?_
  intro media hmedia
  cases hmedia
  refine ⟨by decide, ?_⟩
  intro m hm _ hmissed
  rw [List.mem_singleton.mp hm] at hmissed
  exact absurd hmissed (by decide)

/-- Two telephone-event payloads match and no codec does: the line stays active. -/
theorem not_offerMeets_two_telephone_events :
    ¬ ∀ (core : Core String) (codec_groups : Int → Option (List SdpPayload)) (args : OfferArgs)
      (body method : String) (negotiated_media : List SdpMedia) (payload : String) (sdp : AmSdp)
      (group : List SdpPayload), core.sdpPayload body = some payload → method ∈ sdpMethods →
      core.parse payload = some sdp → codec_groups args.static_codecs_id = some group →
      OfferMeets core args group body negotiated_media sdp
        (processSdpOffer core codec_groups args body method negotiated_media) := by
  intro hall
  have hmeets := hall (coreOf eventsText (audio [telephoneEvent 101 8000, telephoneEvent 102 16000]))
    (fun _ => some codecGroup) settings eventsText "INVITE" [] eventsText _ codecGroup rfl
    (by decide) (parse_coreOf eventsText _) rfl
  rw [processSdpOffer_parsed rfl (by decide) (parse_coreOf eventsText _),
    offerMeets_processParsed_iff rfl] at hmeets
  obtain ⟨-, hlines⟩ := hmeets _ rfl
  obtain ⟨⟨m, hm, -, hcodec⟩, -⟩ := hlines _ (List.mem_singleton_self _) rfl (by decide)
  rw [List.mem_singleton.mp hm] at hcodec
  exact hcodec (by decide)

end Yeti.Sdp
