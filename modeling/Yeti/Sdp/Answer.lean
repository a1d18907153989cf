import Mathlib.Data.List.Forall2
import Yeti.Sdp.Media

/-! # The media of an answer

    Model of `filterSdpAnswerMedia`.  The negotiated lines and the lines of the answer
    are walked together; if non-audio streams were taken out of the offer, the walk
    skips the negotiated ones and the answer has no line for them.  So the answer has
    to have a line for every negotiated line that is not skipped, and this is what the
    count before the loop makes sure.
-/

namespace Yeti.Sdp

/-! ### Model -/

/-- What is thrown: `InternalException(code, override_id)`. -/
structure InternalException where
  code : Nat
  override_id : Int
  deriving DecidableEq, Repr

/-- The flags of `filterSdpAnswerMedia`. -/
structure AnswerFlags where
  noaudio_streams_filtered : Bool
  avoid_transcoding : Bool
  single_codec : Bool
  deriving DecidableEq, Repr

/-- The payloads of an audio line: the negotiated ones in their order, or in the order of
    the answer with those that the answer leaves out at the end. -/
def answerPayloads (flags : AnswerFlags) (other_m m : SdpMedia) : List SdpPayload :=
  if !flags.avoid_transcoding then add_codecs [] other_m.payloads flags.single_codec
  else
    let received := m.payloads.filterMap fun f =>
      findPayload other_m.payloads f m.transport
    let missing := other_m.payloads.filter fun p =>
      !containsPayload m.payloads p m.transport
    add_codecs (add_codecs [] received flags.single_codec) missing flags.single_codec

/-- An audio line of the answer, with the negotiated transport and payloads. -/
def answerLine (flags : AnswerFlags) (other_m m : SdpMedia) : SdpMedia :=
  let m := { m with transport := other_m.transport }
  { m with payloads := answerPayloads flags other_m m }

/-- The loop: the lines that were negotiated and the lines of the answer that are left,
    and the list made so far.  The flag says that the loop ended with
    `unexpected reply sdp`. -/
def answerLoop (flags : AnswerFlags) (override_id : Int) :
    List SdpMedia → List SdpMedia → List SdpMedia → Except InternalException (List SdpMedia × Bool)
  | [], _, filtered => .ok (filtered, false)
  | other_m :: others, media, filtered =>
    if flags.noaudio_streams_filtered && other_m.type ≠ .MT_Audio then
      answerLoop flags override_id others media (filtered ++ [other_m])
    else
      match media with
      | [] => .ok (filtered, true)
      | m :: ms =>
        if m.type ≠ other_m.type then .error ⟨DC_REPLY_SDP_STREAMS_TYPES, override_id⟩
        else if m.type ≠ .MT_Audio then
          answerLoop flags override_id others ms (filtered ++ [m])
        else
          answerLoop flags override_id others ms (filtered ++ [answerLine flags other_m m])

/-- The number of audio lines. -/
def audioStreams (media : List SdpMedia) : Nat := media.countP (·.type = .MT_Audio)

/-- The check of the number of streams. -/
def countsMatch (flags : AnswerFlags) (negotiated_media media : List SdpMedia) : Bool :=
  negotiated_media.length == media.length ||
    flags.noaudio_streams_filtered && media.length == audioStreams negotiated_media

/-- `filterSdpAnswerMedia`: the new media list and whether the loop was left with
    `unexpected reply sdp`. -/
def filterSdpAnswerMedia (flags : AnswerFlags) (override_id : Int)
    (negotiated_media media : List SdpMedia) :
    Except InternalException (List SdpMedia × Bool) :=
  if negotiated_media.isEmpty then .ok (media, false)
  else if media.isEmpty then .error ⟨DC_REPLY_SDP_EMPTY_ANSWER, override_id⟩
  else if !countsMatch flags negotiated_media media then
    .error ⟨DC_REPLY_SDP_STREAMS_COUNT, override_id⟩
  else answerLoop flags override_id negotiated_media media []

/-! ### What is claimed -/

/-- How a line of the new list relates to the line that was negotiated for it. -/
structure Answers (flags : AnswerFlags) (other_m m : SdpMedia) : Prop where
  type : m.type = other_m.type
  transport : m.type = .MT_Audio → m.transport = other_m.transport
  payloads : m.type = .MT_Audio → ∀ p ∈ m.payloads, p ∈ other_m.payloads
  copied : m.type ≠ .MT_Audio → flags.noaudio_streams_filtered → m = other_m

/-- The shape of an answer: line by line as negotiated, and the other non-audio lines
    are those of the answer. -/
structure AnswerShape (flags : AnswerFlags) (negotiated_media media result : List SdpMedia) :
    Prop where
  lines : List.Forall₂ (Answers flags) negotiated_media result
  received : flags.noaudio_streams_filtered = false →
    ∀ (i : Nat) (m : SdpMedia), result[i]? = some m → m.type ≠ .MT_Audio → media[i]? = some m

/-! ### Lines -/

variable {flags : AnswerFlags} {override_id : Int} {other_m m : SdpMedia}

/-- Only negotiated payloads are added. -/
theorem mem_answerPayloads {p : SdpPayload} (h : p ∈ answerPayloads flags other_m m) :
    p ∈ other_m.payloads := by
  unfold answerPayloads at h
  split_ifs at h
  · have hadded := mem_add_codecs h
    simpa using hadded
  · rcases mem_add_codecs h with hreceived | hmissing
    · have hadded := mem_add_codecs hreceived
      simp only [List.not_mem_nil, false_or, List.mem_filterMap] at hadded
      obtain ⟨f, -, hfind⟩ := hadded
      exact mem_of_findPayload hfind
    · exact List.mem_of_mem_filter hmissing

theorem answers_self (h : other_m.type ≠ .MT_Audio) : Answers flags other_m other_m where
  type := rfl
  transport _ := rfl
  payloads haudio := absurd haudio h
  copied _ _ := rfl

theorem answers_line (htype : m.type = other_m.type) (haudio : m.type = .MT_Audio) :
    Answers flags other_m (answerLine flags other_m m) where
  type := htype
  transport _ := rfl
  payloads _ _ hp := mem_answerPayloads hp
  copied hne := absurd haudio hne

/-- A non-audio line of the answer is kept where none was skipped. -/
theorem answers_received (htype : m.type = other_m.type) (hne : m.type ≠ .MT_Audio)
    (hskip : ¬ (flags.noaudio_streams_filtered && other_m.type ≠ .MT_Audio) = true) :
    Answers flags other_m m where
  type := htype
  transport haudio := absurd haudio hne
  payloads haudio := absurd haudio hne
  copied _ hfiltered := by
    rw [htype] at hne
    exact absurd (by simp [hfiltered, hne]) hskip

/-! ### The loop -/

/-- The lines of the answer that the loop needs. -/
def needed (flags : AnswerFlags) (others : List SdpMedia) : Nat :=
  if flags.noaudio_streams_filtered then audioStreams others else others.length

theorem needed_cons (flags : AnswerFlags) (other_m : SdpMedia) (others : List SdpMedia) :
    needed flags (other_m :: others) =
      (if flags.noaudio_streams_filtered && other_m.type ≠ .MT_Audio then 0 else 1) +
        needed flags others := by
  unfold needed audioStreams
  rw [List.countP_cons, List.length_cons]
  cases flags.noaudio_streams_filtered <;> by_cases haudio : other_m.type = .MT_Audio <;>
    simp [haudio, Nat.add_comm]

/-- With enough lines the loop does not run out of them. -/
theorem answerLoop_expected {others media filtered result : List SdpMedia} {unexpected : Bool}
    (h : answerLoop flags override_id others media filtered = .ok (result, unexpected))
    (hneeded : needed flags others ≤ media.length) : unexpected = false := by
  induction others generalizing media filtered with
  | nil =>
    unfold answerLoop at h
    cases h
    rfl
  | cons other_m others ih =>
    rw [needed_cons] at hneeded
    unfold answerLoop at h
    by_cases hskip : (flags.noaudio_streams_filtered && other_m.type ≠ .MT_Audio) = true
    · rw [if_pos hskip] at h hneeded
      exact ih h (by omega)
    · rw [if_neg hskip] at h hneeded
      cases media with
      | nil =>
        rw [List.length_nil] at hneeded
        omega
      | cons m ms =>
        have hrest : needed flags others ≤ ms.length := by
          rw [List.length_cons] at hneeded
          omega
        dsimp only at h
        split_ifs at h
        · exact ih h hrest
        · exact ih h hrest

/-- The loop appends one line for each negotiated one. -/
theorem answerLoop_lines {others media filtered result : List SdpMedia}
    (h : answerLoop flags override_id others media filtered = .ok (result, false)) :
    ∃ lines, result = filtered ++ lines ∧ List.Forall₂ (Answers flags) others lines := by
  induction others generalizing media filtered with
  | nil =>
    unfold answerLoop at h
    cases h
    exact ⟨[], (List.append_nil _).symm, .nil⟩
  | cons other_m others ih =>
    -- what the loop appended next answers `other_m`
    have hcons : ∀ line ms, Answers flags other_m line →
        answerLoop flags override_id others ms (filtered ++ [line]) = .ok (result, false) →
        ∃ lines, result = filtered ++ lines ∧
          List.Forall₂ (Answers flags) (other_m :: others) lines := by
      intro line ms hline hloop
      obtain ⟨lines, hresult, hlines⟩ := ih hloop
      exact ⟨line :: lines, by rw [hresult, List.append_assoc]; rfl, .cons hline hlines⟩
    unfold answerLoop at h
    by_cases hskip : (flags.noaudio_streams_filtered && other_m.type ≠ .MT_Audio) = true
    · rw [if_pos hskip] at h
      have hne : other_m.type ≠ .MT_Audio := by
        have hboth := hskip
        simp only [Bool.and_eq_true, decide_eq_true_eq] at hboth
        exact hboth.2
      exact hcons other_m media (answers_self hne) h
    · rw [if_neg hskip] at h
      cases media with
      | nil => cases h
      | cons m ms =>
        dsimp only at h
        split_ifs at h with htype haudio
        · exact hcons m ms (answers_received (not_not.mp htype) haudio hskip) h
        · exact hcons _ ms (answers_line (not_not.mp htype) (not_not.mp haudio)) h

/-- Without skipping, non-audio lines come from the same position of the answer. -/
theorem answerLoop_received {others media filtered result : List SdpMedia}
    (hfiltered : flags.noaudio_streams_filtered = false)
    (h : answerLoop flags override_id others media filtered = .ok (result, false)) :
    ∃ lines, result = filtered ++ lines ∧
      ∀ (i : Nat) (m : SdpMedia), lines[i]? = some m → m.type ≠ .MT_Audio → media[i]? = some m := by
  induction others generalizing media filtered with
  | nil =>
    unfold answerLoop at h
    cases h
    exact ⟨[], (List.append_nil _).symm, by intro i m hm; simp at hm⟩
  | cons other_m others ih =>
    have hcons : ∀ line m ms, (line.type ≠ .MT_Audio → m = line) →
        answerLoop flags override_id others ms (filtered ++ [line]) = .ok (result, false) →
        ∃ lines, result = filtered ++ lines ∧ ∀ (i : Nat) (m' : SdpMedia),
          lines[i]? = some m' → m'.type ≠ .MT_Audio → (m :: ms)[i]? = some m' := by
      intro line m ms hline hloop
      obtain ⟨lines, hresult, hlines⟩ := ih hloop
      refine ⟨line :: lines, by rw [hresult, List.append_assoc]; rfl, ?_⟩
      intro i m' hm' hne
      cases i with
      | zero =>
        rw [List.getElem?_cons_zero] at hm' ⊢
        obtain rfl := Option.some.inj hm'
        rw [hline hne]
      | succ i =>
        rw [List.getElem?_cons_succ] at hm' ⊢
        exact hlines i m' hm' hne
    unfold answerLoop at h
    rw [hfiltered, Bool.false_and, if_neg Bool.false_ne_true] at h
    cases media with
    | nil => cases h
    | cons m ms =>
      dsimp only at h
      split_ifs at h with htype haudio
      · exact hcons m m ms (fun _ => rfl) h
      · have hline : (answerLine flags other_m m).type ≠ .MT_Audio → m = answerLine flags other_m m :=
          fun hne => absurd (not_not.mp haudio) hne
        exact hcons _ m ms hline h

/-! ### The function -/

/-- The checks before the loop leave enough lines. -/
theorem needed_le_of_countsMatch {negotiated_media media : List SdpMedia}
    (h : countsMatch flags negotiated_media media) :
    needed flags negotiated_media ≤ media.length := by
  have hle : audioStreams negotiated_media ≤ negotiated_media.length := List.countP_le_length
  unfold countsMatch at h
  simp only [Bool.or_eq_true, Bool.and_eq_true, beq_iff_eq] at h
  unfold needed
  rcases h with hlength | ⟨hfiltered, haudio⟩
  · split_ifs
    · omega
    · omega
  · rw [if_pos hfiltered]
    omega

/-- What does not throw is made by the loop, which has lines enough. -/
theorem answerLoop_of_filterSdpAnswerMedia {negotiated_media media result : List SdpMedia}
    {unexpected : Bool} (hnegotiated : negotiated_media ≠ [])
    (h : filterSdpAnswerMedia flags override_id negotiated_media media =
      .ok (result, unexpected)) :
    unexpected = false ∧
      answerLoop flags override_id negotiated_media media [] = .ok (result, false) := by
  unfold filterSdpAnswerMedia at h
  rw [if_neg (by simpa using hnegotiated)] at h
  split_ifs at h with hempty hcounts
  have hcounts : countsMatch flags negotiated_media media := by simpa using hcounts
  have hexpected := answerLoop_expected h (needed_le_of_countsMatch hcounts)
  rw [hexpected] at h
  exact ⟨hexpected, h⟩

/-- **Answer shape.** What does not throw has a line for each negotiated one, and the
    loop never runs out of lines of the answer. -/
theorem answerShape_of_filterSdpAnswerMedia (flags : AnswerFlags) (override_id : Int)
    {negotiated_media media result : List SdpMedia} {unexpected : Bool}
    (hnegotiated : negotiated_media ≠ [])
    (h : filterSdpAnswerMedia flags override_id negotiated_media media =
      .ok (result, unexpected)) :
    unexpected = false ∧ AnswerShape flags negotiated_media media result := by
  obtain ⟨hexpected, h⟩ := answerLoop_of_filterSdpAnswerMedia hnegotiated h
  obtain ⟨lines, hlines, hanswers⟩ := answerLoop_lines h
  rw [List.nil_append] at hlines
  refine ⟨hexpected, ?_, ?_⟩
  · rw [hlines]
    exact hanswers
  · intro hfiltered
    obtain ⟨lines', hlines', hreceived⟩ := answerLoop_received hfiltered h
    rw [List.nil_append] at hlines'
    rw [hlines']
    exact hreceived

/-! ### Audio lines -/

/-- The audio lines, in their order. -/
def audioLines (media : List SdpMedia) : List SdpMedia := media.filter (·.type = .MT_Audio)

theorem audioLines_cons_audio (h : m.type = .MT_Audio) (media : List SdpMedia) :
    audioLines (m :: media) = m :: audioLines media :=
  List.filter_cons_of_pos (by simpa using h)

theorem audioLines_cons_other (h : m.type ≠ .MT_Audio) (media : List SdpMedia) :
    audioLines (m :: media) = audioLines media :=
  List.filter_cons_of_neg (by simpa using h)

/-- Line by line of the same types, the audio lines are as many. -/
theorem length_audioLines_eq {before after : List SdpMedia}
    (h : List.Forall₂ (Answers flags) before after) :
    (audioLines before).length = (audioLines after).length := by
  induction h with
  | nil => rfl
  | @cons m line before after hline _ ih =>
    by_cases haudio : m.type = .MT_Audio
    · rw [audioLines_cons_audio haudio, audioLines_cons_audio (hline.type.trans haudio)]
      exact congrArg (· + 1) ih
    · have hne : line.type ≠ .MT_Audio := hline.type ▸ haudio
      rw [audioLines_cons_other haudio, audioLines_cons_other hne]
      exact ih

/-- The loop pairs the audio lines in their order. -/
theorem answerLoop_audio {others media filtered result : List SdpMedia}
    (h : answerLoop flags override_id others media filtered = .ok (result, false)) :
    ∃ lines, result = filtered ++ lines ∧
      audioLines lines =
        List.zipWith (answerLine flags) (audioLines others) (audioLines media) := by
  induction others generalizing media filtered with
  | nil =>
    unfold answerLoop at h
    cases h
    exact ⟨[], (List.append_nil _).symm, rfl⟩
  | cons other_m others ih =>
    -- a line that is not audio takes no part on any side
    have hother : ∀ line ms, line.type ≠ .MT_Audio → other_m.type ≠ .MT_Audio →
        audioLines ms = audioLines media →
        answerLoop flags override_id others ms (filtered ++ [line]) = .ok (result, false) →
        ∃ lines, result = filtered ++ lines ∧ audioLines lines = List.zipWith (answerLine flags)
          (audioLines (other_m :: others)) (audioLines media) := by
      intro line ms hline hne hms hloop
      obtain ⟨lines, hresult, hlines⟩ := ih hloop
      refine ⟨line :: lines, by rw [hresult, List.append_assoc]; rfl, ?_⟩
      rw [audioLines_cons_other hline, audioLines_cons_other hne, hlines, hms]
    unfold answerLoop at h
    by_cases hskip : (flags.noaudio_streams_filtered && other_m.type ≠ .MT_Audio) = true
    · rw [if_pos hskip] at h
      have hne : other_m.type ≠ .MT_Audio := by
        have hboth := hskip
        simp only [Bool.and_eq_true, decide_eq_true_eq] at hboth
        exact hboth.2
      exact hother other_m media hne hne rfl h
    · rw [if_neg hskip] at h
      cases media with
      | nil => cases h
      | cons m ms =>
        dsimp only at h
        split_ifs at h with htype haudio
        · have htype : m.type = other_m.type := not_not.mp htype
          exact hother m ms haudio (htype ▸ haudio) (audioLines_cons_other haudio ms).symm h
        · have htype : m.type = other_m.type := not_not.mp htype
          have haudio : m.type = .MT_Audio := not_not.mp haudio
          obtain ⟨lines, hresult, hlines⟩ := ih h
          refine ⟨answerLine flags other_m m :: lines,
            by rw [hresult, List.append_assoc]; rfl, ?_⟩
          have hline : (answerLine flags other_m m).type = .MT_Audio := haudio
          rw [audioLines_cons_audio hline, audioLines_cons_audio haudio,
            audioLines_cons_audio (htype.symm.trans haudio), hlines]
          rfl

/-- Each negotiated audio line has its line in the answer, and makes one in the result. -/
theorem filterSdpAnswerMedia_audio {negotiated_media media result : List SdpMedia}
    {unexpected : Bool}
    (h : filterSdpAnswerMedia flags override_id negotiated_media media =
      .ok (result, unexpected)) {i : Nat} {other_m : SdpMedia}
    (hi : (audioLines negotiated_media)[i]? = some other_m) :
    ∃ m, (audioLines media)[i]? = some m ∧
      (audioLines result)[i]? = some (answerLine flags other_m m) := by
  have hnegotiated : negotiated_media ≠ [] := by
    rintro rfl
    cases hi
  obtain ⟨-, h⟩ := answerLoop_of_filterSdpAnswerMedia hnegotiated h
  obtain ⟨lines, hlines, haudio⟩ := answerLoop_audio h
  obtain ⟨lines', hlines', hanswers⟩ := answerLoop_lines h
  obtain rfl : lines = lines' := List.append_cancel_left (hlines.symm.trans hlines')
  rw [List.nil_append] at hlines
  subst hlines
  have hlength := length_audioLines_eq hanswers
  rw [haudio, List.length_zipWith] at hlength
  have hlt : i < (audioLines negotiated_media).length := (List.getElem?_eq_some_iff.mp hi).1
  obtain ⟨m, hm⟩ : ∃ m, (audioLines media)[i]? = some m :=
    ⟨_, List.getElem?_eq_getElem (by omega)⟩
  refine ⟨m, hm, ?_⟩
  rw [haudio, List.getElem?_zipWith, hi, hm]

/-! ### An audio and a video line, answered without video -/

namespace AnswerExample

def pcma : SdpPayload := { payload_type := 8, encoding_name := "PCMA".toList, clock_rate := 8000 }
def pcmu : SdpPayload := { payload_type := 0, encoding_name := "PCMU".toList, clock_rate := 8000 }

def negotiated : List SdpMedia :=
  [ { type := .MT_Audio, port := 5000, transport := .TP_RTPSAVP, payloads := [pcma, pcmu] },
    { type := .MT_Video, port := 0, transport := .TP_RTPAVP, payloads := [] } ]

def answer : List SdpMedia :=
  [ { type := .MT_Audio, port := 6000, transport := .TP_RTPAVP, payloads := [pcmu] } ]

def audioOnly : AnswerFlags :=
  { noaudio_streams_filtered := true, avoid_transcoding := true, single_codec := false }

end AnswerExample

open AnswerExample in
theorem answerShape_of_filterSdpAnswerMedia_audio_only :
    ∃ result, filterSdpAnswerMedia audioOnly 0 negotiated answer = .ok (result, false) ∧
      AnswerShape audioOnly negotiated answer result := by
  have hresult : filterSdpAnswerMedia audioOnly 0 negotiated answer = .ok (
      [ { type := .MT_Audio, port := 6000, transport := .TP_RTPSAVP, payloads := [pcmu, pcma] },
        { type := .MT_Video, port := 0, transport := .TP_RTPAVP, payloads := [] } ], false) := by
    rfl
  have hshape := answerShape_of_filterSdpAnswerMedia audioOnly 0
    (List.cons_ne_nil _ _) hresult
  exact ⟨_, hresult, hshape.2⟩

end Yeti.Sdp
