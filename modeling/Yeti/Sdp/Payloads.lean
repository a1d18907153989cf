import Yeti.Framework.Lists
import Yeti.Sdp.Answer
import Yeti.Sdp.OfferOutcome

/-! # The payloads of an audio line

    Two ways in which the payload list of an audio line is made anew: `add_codec` with
    `single_codec`, which is to leave one codec, and the arrangement of the negotiated
    payloads in the order of an answer, which is to leave them all.

    The first goes by the size of the list made so far, the second looks up payloads
    of either list in the other.  For both it is said exactly on which lists they do
    what they are for.
-/

namespace Yeti.Sdp

/-! ### A single codec -/

/-- The first payload that is not telephone-event, and all that are. -/
def singleCodec : List SdpPayload → List SdpPayload
  | [] => []
  | p :: ps =>
    if is_telephone_event p then p :: singleCodec ps else p :: ps.filter is_telephone_event

/-- At most one telephone-event stands before the first other payload. -/
def FewEventsFirst (ps : List SdpPayload) : Prop :=
  (ps.takeWhile is_telephone_event).length < 2 ∨ ∀ p ∈ ps, is_telephone_event p = true

instance : DecidablePred FewEventsFirst := fun ps =>
  inferInstanceAs (Decidable ((ps.takeWhile is_telephone_event).length < 2 ∨
    ∀ p ∈ ps, is_telephone_event p = true))

/-- The list still takes any payload: it is empty or holds one telephone-event. -/
def Waiting (pl : List SdpPayload) : Prop :=
  pl = [] ∨ ∃ e, pl = [e] ∧ is_telephone_event e = true

/-- The list takes no other payload than telephone-event any more. -/
def Closed (pl : List SdpPayload) : Prop :=
  pl ≠ [] ∧ (pl.length = 1 → ∀ p ∈ pl, is_telephone_event p = false)

theorem add_codec_event {p : SdpPayload} (h : is_telephone_event p = true)
    (pl : List SdpPayload) : add_codec pl p true = pl ++ [p] := by
  unfold add_codec
  rw [h, Bool.or_true, if_pos rfl]

theorem add_codec_closed {pl : List SdpPayload} (h : Closed pl) {p : SdpPayload}
    (hp : is_telephone_event p = false) : add_codec pl p true = pl := by
  obtain ⟨hne, hone⟩ := h
  unfold add_codec
  rw [hp]
  cases pl with
  | nil => exact absurd rfl hne
  | cons q qs =>
    cases qs with
    | nil =>
      have hq : is_telephone_event q = false := hone rfl q List.mem_cons_self
      simp [hq]
    | cons r rs => simp

/-- A closed list stays closed. -/
theorem Closed.concat {pl : List SdpPayload} (h : Closed pl) (p : SdpPayload) :
    Closed (pl ++ [p]) := by
  refine ⟨by simp, ?_⟩
  intro hlength
  have hpos : 0 < pl.length := List.length_pos_iff.mpr h.1
  rw [List.length_append, List.length_singleton] at hlength
  omega

theorem add_codecs_cons (pl : List SdpPayload) (p : SdpPayload) (ps : List SdpPayload) :
    add_codecs pl (p :: ps) true = add_codecs (add_codec pl p true) ps true := rfl

theorem add_codecs_closed {pl : List SdpPayload} (h : Closed pl) (ps : List SdpPayload) :
    add_codecs pl ps true = pl ++ ps.filter is_telephone_event := by
  induction ps generalizing pl with
  | nil => exact (List.append_nil pl).symm
  | cons p ps ih =>
    rw [add_codecs_cons]
    cases hp : is_telephone_event p with
    | true =>
      rw [add_codec_event hp, ih (h.concat p), List.filter_cons_of_pos hp, List.append_assoc]
      rfl
    | false =>
      rw [add_codec_closed h hp, ih h, List.filter_cons_of_neg (by simp [hp])]

/-- The codec is taken after no telephone-event or after one. -/
theorem add_codec_waiting {pl : List SdpPayload} (h : Waiting pl) (p : SdpPayload) :
    add_codec pl p true = pl ++ [p] := by
  rcases h with rfl | ⟨e, rfl, he⟩
  · simp [add_codec]
  · simp [add_codec, he]

theorem Waiting.closed_concat {pl : List SdpPayload} (h : Waiting pl) {p : SdpPayload}
    (hp : is_telephone_event p = false) : Closed (pl ++ [p]) := by
  rcases h with rfl | ⟨e, rfl, he⟩
  · exact ⟨by simp, by simp [hp]⟩
  · exact ⟨by simp, by simp⟩

/-- One telephone-event first. -/
theorem add_codecs_one_event {e : SdpPayload} (he : is_telephone_event e = true)
    (ps : List SdpPayload) :
    add_codecs [e] ps true =
      if ps.head?.any is_telephone_event then e :: ps.filter is_telephone_event
      else e :: singleCodec ps := by
  cases ps with
  | nil => rfl
  | cons p ps =>
    rw [add_codecs_cons, List.head?_cons, Option.any_some]
    cases hp : is_telephone_event p with
    | true =>
      have hclosed : Closed ([e] ++ [p]) := ⟨by simp, by simp⟩
      rw [add_codec_event hp, add_codecs_closed hclosed, if_pos rfl, List.filter_cons_of_pos hp]
      rfl
    | false =>
      have hwaiting : Waiting [e] := .inr ⟨e, rfl, he⟩
      rw [add_codec_waiting hwaiting, add_codecs_closed (hwaiting.closed_concat hp),
        if_neg Bool.false_ne_true, singleCodec, if_neg (by simp [hp])]
      rfl

/-- What `add_codec` makes of a list of payloads. -/
theorem add_codecs_single (ps : List SdpPayload) :
    add_codecs [] ps true =
      if (ps.takeWhile is_telephone_event).length < 2 then singleCodec ps
      else ps.filter is_telephone_event := by
  cases ps with
  | nil => rfl
  | cons p ps =>
    -- a codec first closes the list; after a telephone-event the next payload decides
    have hwaiting : Waiting [] := .inl rfl
    rw [add_codecs_cons, add_codec_waiting hwaiting p]
    cases hp : is_telephone_event p with
    | false =>
      rw [add_codecs_closed (hwaiting.closed_concat hp), List.takeWhile_cons_of_neg (by simp [hp]),
        if_pos (by simp), singleCodec, if_neg (by simp [hp])]
      rfl
    | true =>
      rw [List.nil_append, add_codecs_one_event hp, List.takeWhile_cons_of_pos hp, singleCodec, if_pos hp,
        List.filter_cons_of_pos hp]
      cases ps with
      | nil => rfl
      | cons q qs =>
        cases hq : is_telephone_event q with
        | true =>
          rw [List.takeWhile_cons_of_pos hq, List.head?_cons, Option.any_some, if_pos hq,
            if_neg (by simp)]
        | false =>
          rw [List.takeWhile_cons_of_neg (by simp [hq]), List.head?_cons, Option.any_some,
            if_neg (by simp [hq]), if_pos (by simp)]

theorem singleCodec_of_events {ps : List SdpPayload}
    (h : ∀ p ∈ ps, is_telephone_event p = true) : singleCodec ps = ps := by
  induction ps with
  | nil => rfl
  | cons p ps ih =>
    obtain ⟨hp, hps⟩ := List.forall_mem_cons.mp h
    rw [singleCodec, if_pos hp, ih hps]

/-- A codec of the list is left. -/
theorem exists_codec_singleCodec {ps : List SdpPayload} {p : SdpPayload} (hmem : p ∈ ps)
    (hp : is_telephone_event p = false) :
    ∃ q ∈ singleCodec ps, is_telephone_event q = false := by
  induction ps with
  | nil => cases hmem
  | cons r rs ih =>
    rw [singleCodec]
    cases hr : is_telephone_event r with
    | false =>
      rw [if_neg Bool.false_ne_true]
      exact ⟨r, List.mem_cons_self, hr⟩
    | true =>
      rw [if_pos rfl]
      rcases List.mem_cons.mp hmem with rfl | hrest
      · exact absurd hp (by simp [hr])
      · obtain ⟨q, hq, hcodec⟩ := ih hrest
        exact ⟨q, List.mem_cons_of_mem r hq, hcodec⟩

theorem add_codecs_eq_singleCodec_iff (ps : List SdpPayload) :
    add_codecs [] ps true = singleCodec ps ↔ FewEventsFirst ps := by
  rw [add_codecs_single]
  unfold FewEventsFirst
  by_cases hfew : (ps.takeWhile is_telephone_event).length < 2
  · rw [if_pos hfew]
    exact iff_of_true rfl (.inl hfew)
  · rw [if_neg hfew]
    constructor
    · intro heq
      refine .inr fun p hmem => ?_
      by_contra hp
      -- the codec would have to be left by the filter
      obtain ⟨q, hq, hcodec⟩ := exists_codec_singleCodec hmem (by simpa using hp)
      rw [← heq] at hq
      have hevent := (List.mem_filter.mp hq).2
      rw [hcodec] at hevent
      cases hevent
    · rintro (hlt | hevents)
      · exact absurd hlt hfew
      · rw [singleCodec_of_events hevents]
        exact List.filter_eq_self.mpr hevents

/-- The payload list of a line made anew from that of another. -/
def LeavesSingleCodec (m line : SdpMedia) : Prop := line.payloads = singleCodec m.payloads

theorem audioLines_reduce_codecs_to_single (media : List SdpMedia) :
    audioLines (reduce_codecs_to_single media) =
      (audioLines media).map fun m => { m with payloads := add_codecs [] m.payloads true } := by
  induction media with
  | nil => rfl
  | cons m media ih =>
    have hcons : reduce_codecs_to_single (m :: media) =
        (if m.type ≠ .MT_Audio then m else { m with payloads := add_codecs [] m.payloads true }) ::
          reduce_codecs_to_single media := rfl
    rw [hcons]
    by_cases haudio : m.type = .MT_Audio
    · have hline : { m with payloads := add_codecs [] m.payloads true }.type = .MT_Audio := haudio
      rw [if_neg (not_not.mpr haudio), audioLines_cons_audio haudio, audioLines_cons_audio hline,
        List.map_cons, ih]
    · rw [if_pos haudio, audioLines_cons_other haudio, audioLines_cons_other haudio, ih]

/-- Both ways of reducing an audio line `m` leave the first codec and the telephone-events
    exactly if no more than one telephone-event stands before the codec. -/
theorem single_codec_iff (i : Nat) (m : SdpMedia) :
    (∀ media : List SdpMedia, (audioLines media)[i]? = some m →
      ∃ line, (audioLines (reduce_codecs_to_single media))[i]? = some line ∧
        (LeavesSingleCodec m line ↔ FewEventsFirst m.payloads)) ∧
    (∀ (flags : AnswerFlags) (override_id : Int) (negotiated_media media result : List SdpMedia)
        (unexpected : Bool), flags.avoid_transcoding = false → flags.single_codec = true →
      filterSdpAnswerMedia flags override_id negotiated_media media = .ok (result, unexpected) →
      (audioLines negotiated_media)[i]? = some m →
      ∃ line, (audioLines result)[i]? = some line ∧
        (LeavesSingleCodec m line ↔ FewEventsFirst m.payloads)) := by
  constructor
  · intro media hm
    refine ⟨{ m with payloads := add_codecs [] m.payloads true }, ?_,
      add_codecs_eq_singleCodec_iff m.payloads⟩
    rw [audioLines_reduce_codecs_to_single, List.getElem?_map, hm]
    rfl
  · intro flags override_id negotiated_media media result unexpected htranscoding hsingle h hm
    obtain ⟨answer_m, -, hline⟩ := filterSdpAnswerMedia_audio h hm
    have hpayloads : (answerLine flags m answer_m).payloads = add_codecs [] m.payloads true := by
      simp [answerLine, answerPayloads, htranscoding, hsingle]
    refine ⟨answerLine flags m answer_m, hline, ?_⟩
    rw [LeavesSingleCodec, hpayloads]
    exact add_codecs_eq_singleCodec_iff m.payloads

namespace AnswerExample

open OfferExample (telephoneEvent)

/-- An audio line with these payloads. -/
def line (payloads : List SdpPayload) : SdpMedia :=
  { type := .MT_Audio, port := 5000, transport := .TP_RTPAVP, payloads := payloads }

/-- A single codec, transcoded where the legs differ. -/
def singleFlags : AnswerFlags :=
  { noaudio_streams_filtered := false, avoid_transcoding := false, single_codec := true }

def eventFirst : List SdpPayload := [telephoneEvent 101 8000, pcma, pcmu]

def eventsFirst : List SdpPayload := [telephoneEvent 101 8000, telephoneEvent 102 16000, pcma]

end AnswerExample

open AnswerExample in
/-- One telephone-event before the codecs: both ways leave it and the first codec. -/
theorem single_codec_iff_event_first :
    (∃ l, (audioLines (reduce_codecs_to_single [line eventFirst]))[0]? = some l ∧
      LeavesSingleCodec (line eventFirst) l) ∧
    ∃ l, (audioLines [line (eventFirst.take 2)])[0]? = some l ∧
      LeavesSingleCodec (line eventFirst) l := by
  obtain ⟨hreduce, hanswer⟩ := single_codec_iff 0 (line eventFirst)
  obtain ⟨l, hl, hiff⟩ := hreduce [line eventFirst] rfl
  obtain ⟨l', hl', hiff'⟩ := hanswer singleFlags 0 [line eventFirst] [line eventFirst]
    [line (eventFirst.take 2)] false rfl rfl rfl rfl
  exact ⟨⟨l, hl, hiff.mpr (by decide)⟩, l', hl', hiff'.mpr (by decide)⟩

open AnswerExample in
/-- Two telephone-events before the codec: no codec is left. -/
theorem not_leavesSingleCodec_events_first :
    (¬ ∃ l, (audioLines (reduce_codecs_to_single [line eventsFirst]))[0]? = some l ∧
      LeavesSingleCodec (line eventsFirst) l) ∧
    filterSdpAnswerMedia singleFlags 0 [line eventsFirst] [line eventsFirst] =
      .ok ([line (eventsFirst.take 2)], false) ∧
    ¬ LeavesSingleCodec (line eventsFirst) (line (eventsFirst.take 2)) := by
  refine ⟨?_, rfl, ?_⟩
  · intro ⟨l, hl, hsingle⟩
    cases hl
    revert hsingle
    unfold LeavesSingleCodec
    decide
  · unfold LeavesSingleCodec
    decide

/-! ### The order of the answer -/

/-- The payloads of the line: those that the answer's payloads find, in the answer's
    order, and after them those that the answer does not have; all negotiated payloads,
    each as often as it was negotiated. -/
structure Arranged (transport : TransProt) (negotiated answer pl : List SdpPayload) : Prop where
  permutation : pl.Perm negotiated
  order : ∃ missing,
    pl = (answer.filterMap fun f => findPayload negotiated f transport) ++ missing ∧
      ∀ p ∈ missing, containsPayload answer p transport = false

/-- Every negotiated payload that the answer contains is found by as many payloads of the
    answer as it was negotiated times, and none finds one that the answer does not
    contain. -/
def FoundOnce (transport : TransProt) (negotiated answer : List SdpPayload) : Prop :=
  ∀ p ∈ negotiated, (answer.countP fun f => findPayload negotiated f transport == some p) =
    if containsPayload answer p transport then negotiated.count p else 0

instance (transport : TransProt) (negotiated answer : List SdpPayload) :
    Decidable (FoundOnce transport negotiated answer) :=
  inferInstanceAs (Decidable (∀ p ∈ negotiated, _))

theorem add_codecs_all (pl ps : List SdpPayload) : add_codecs pl ps false = pl ++ ps := by
  induction ps generalizing pl with
  | nil => exact (List.append_nil pl).symm
  | cons p ps ih =>
    show add_codecs (pl ++ [p]) ps false = pl ++ p :: ps
    rw [ih, List.append_assoc]
    rfl

/-- The payloads of an audio line whose codecs are all kept, in the answer's order. -/
theorem answerPayloads_arranging {flags : AnswerFlags} (havoid : flags.avoid_transcoding = true)
    (hsingle : flags.single_codec = false) (other_m m : SdpMedia) :
    answerPayloads flags other_m m =
      (m.payloads.filterMap fun f => findPayload other_m.payloads f m.transport) ++
        other_m.payloads.filter fun p => !containsPayload m.payloads p m.transport := by
  unfold answerPayloads
  rw [if_neg (by simp [havoid]), hsingle]
  dsimp only
  rw [add_codecs_all, add_codecs_all, List.nil_append]

/-- What was not negotiated is neither found nor counted. -/
theorem foundOnce_iff (transport : TransProt) (negotiated answer : List SdpPayload) :
    FoundOnce transport negotiated answer ↔
      ∀ p, (answer.countP fun f => findPayload negotiated f transport == some p) =
        if containsPayload answer p transport then negotiated.count p else 0 := by
  constructor
  · intro h p
    by_cases hp : p ∈ negotiated
    · exact h p hp
    · have hnone : (answer.countP fun f => findPayload negotiated f transport == some p) = 0 := by
        rw [List.countP_eq_zero]
        intro f _ hfind
        exact hp (mem_of_findPayload (beq_iff_eq.mp hfind))
      rw [hnone, List.count_eq_zero.mpr hp, ite_self]
  · intro h p _
    exact h p

theorem arranged_iff_foundOnce (transport : TransProt) (negotiated answer : List SdpPayload) :
    Arranged transport negotiated answer
        ((answer.filterMap fun f => findPayload negotiated f transport) ++
          negotiated.filter fun p => !containsPayload answer p transport) ↔
      FoundOnce transport negotiated answer := by
  have hperm := List.perm_filterMap_append_filter_iff
    (fun f => findPayload negotiated f transport)
    (fun p => !containsPayload answer p transport) answer negotiated
  have hflip : ∀ p, (if !containsPayload answer p transport then 0 else negotiated.count p) =
      if containsPayload answer p transport then negotiated.count p else 0 := fun p => by
    cases containsPayload answer p transport <;> rfl
  simp only [hflip] at hperm
  rw [foundOnce_iff, ← hperm]
  constructor
  · intro h
    exact h.permutation
  · intro h
    refine ⟨h, _, rfl, ?_⟩
    intro p hp
    simpa using (List.mem_filter.mp hp).2

/-- The audio lines of an answer carry the negotiated payloads in the answer's order
    exactly if the payloads of the answer find those it contains once. -/
theorem answer_arranged_iff (flags : AnswerFlags) (override_id : Int)
    (negotiated_media media result : List SdpMedia) (unexpected : Bool)
    (havoid : flags.avoid_transcoding = true) (hsingle : flags.single_codec = false)
    (h : filterSdpAnswerMedia flags override_id negotiated_media media =
      .ok (result, unexpected)) (i : Nat) (other_m : SdpMedia)
    (hi : (audioLines negotiated_media)[i]? = some other_m) :
    ∃ m line, (audioLines media)[i]? = some m ∧ (audioLines result)[i]? = some line ∧
      (Arranged other_m.transport other_m.payloads m.payloads line.payloads ↔
        FoundOnce other_m.transport other_m.payloads m.payloads) := by
  obtain ⟨m, hm, hline⟩ := filterSdpAnswerMedia_audio h hi
  refine ⟨m, answerLine flags other_m m, hm, hline, ?_⟩
  have hpayloads : (answerLine flags other_m m).payloads =
      (m.payloads.filterMap fun f => findPayload other_m.payloads f other_m.transport) ++
        other_m.payloads.filter fun p => !containsPayload m.payloads p other_m.transport :=
    answerPayloads_arranging havoid hsingle other_m _
  rw [hpayloads]
  exact arranged_iff_foundOnce other_m.transport other_m.payloads m.payloads

namespace AnswerExample

def keepAll : AnswerFlags :=
  { noaudio_streams_filtered := false, avoid_transcoding := true, single_codec := false }

/-- AMR in one of its two payload formats. -/
def amr (payload_type : Int) : SdpPayload :=
  { payload_type := payload_type, encoding_name := "AMR".toList, clock_rate := 8000 }

end AnswerExample

open AnswerExample in
/-- An answer that prefers the second of two codecs. -/
theorem answer_arranged_iff_second_first :
    filterSdpAnswerMedia keepAll 0 [line [pcma, pcmu]] [line [pcmu]] =
      .ok ([line [pcmu, pcma]], false) ∧
    ∃ m l, (audioLines [line [pcmu]])[0]? = some m ∧
      (audioLines [line [pcmu, pcma]])[0]? = some l ∧
      Arranged .TP_RTPAVP [pcma, pcmu] m.payloads l.payloads := by
  have hresult : filterSdpAnswerMedia keepAll 0 [line [pcma, pcmu]] [line [pcmu]] =
      .ok ([line [pcmu, pcma]], false) := rfl
  obtain ⟨m, l, hm, hl, hiff⟩ := answer_arranged_iff keepAll 0 [line [pcma, pcmu]] [line [pcmu]]
    [line [pcmu, pcma]] false rfl rfl hresult 0 (line [pcma, pcmu]) rfl
  have honce : FoundOnce (line [pcma, pcmu]).transport [pcma, pcmu] m.payloads := by
    cases hm
    decide
  exact ⟨hresult, m, l, hm, hl, hiff.mpr honce⟩

open AnswerExample in
/-- An answer with AMR in both formats: the negotiated AMR is listed twice. -/
theorem not_arranged_amr_twice :
    filterSdpAnswerMedia keepAll 0 [line [amr 97, pcma]] [line [amr 97, amr 98]] =
      .ok ([line [amr 97, amr 97, pcma]], false) ∧
    ¬ Arranged .TP_RTPAVP [amr 97, pcma] [amr 97, amr 98] [amr 97, amr 97, pcma] := by
  refine ⟨rfl, ?_⟩
  intro h
  have hlength := h.permutation.length_eq
  cases hlength

end Yeti.Sdp
