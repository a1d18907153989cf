import Yeti.Framework.System
import Yeti.Sdp.Answering

/-! # Offers and answers of a call

    The SDPs that pass through the two legs of a call: the initial offer of the caller,
    offers in requests and in replies, offers that a leg answers itself, and the answers
    that are sent on to the leg that has offered.  They come in any order, an offer may
    be answered several times (in a provisional and in the final reply) or not at all,
    and any of them may be refused.

    In every run with relayed media, each answer to an offer has its lines, and the codecs
    of the answers only get fewer.
-/

open LTS

namespace Yeti.Sdp

variable {Body : Type}

/-! ### State -/

/-- What a leg that is created remembers. -/
def LegSdp.new : LegSdp := ⟨{}, ⟨fun _ => none⟩⟩

/-- The SDPs of a call; `true` stands for the A leg. -/
structure Negotiation where
  /-- `aleg_negotiated_media` and `bleg_negotiated_media`. -/
  negotiated_media : Bool → List SdpMedia := fun _ => []
  /-- The lines of `bleg_initial_offer`. -/
  bleg_initial_offer : List SdpMedia := []
  legs : Bool → LegSdp := fun _ => .new
  /-- The lines of the last offer of a leg that was accepted. -/
  offered : Bool → Option (List SdpMedia) := fun _ => none
  /-- The answers that the leg got to it, oldest first. -/
  answered : Bool → List (List SdpMedia) := fun _ => []

namespace Negotiation

/-- The offer of the leg `a_leg` is accepted, if there is one. -/
def accept (s : Negotiation) (a_leg : Bool) (offer : Option AmSdp) (media : List SdpMedia) :
    Negotiation :=
  match offer with
  | none => { s with negotiated_media := Function.update s.negotiated_media a_leg media }
  | some sdp =>
    { s with
      negotiated_media := Function.update s.negotiated_media a_leg media
      offered := Function.update s.offered a_leg (some sdp.media)
      answered := Function.update s.answered a_leg [] }

/-- What the leg remembers. -/
def remember (s : Negotiation) (a_leg : Bool) (leg : LegSdp) : Negotiation :=
  { s with legs := Function.update s.legs a_leg leg }

/-- The leg `a_leg` gets an answer, if there is one. -/
def receive (s : Negotiation) (a_leg : Bool) (answer : Option AmSdp) (media : List SdpMedia) :
    Negotiation :=
  { s with
    negotiated_media := Function.update s.negotiated_media a_leg media
    answered := match answer with
      | none => s.answered
      | some _ => Function.update s.answered a_leg (s.answered a_leg ++ [media]) }

/-! ### Steps -/

inductive Label (Body : Type) where
  /-- `processResourcesAndSdp`; the offer for the B leg is made of `modified_body`. -/
  | initialOffer (args : OfferArgs) (filter : FilterArgs) (body modified_body : Body)
      (method : String)
  /-- `connectCalleeRequest`: the offer for another B leg. -/
  | connectCallee (filter : FilterArgs) (body : Body) (method : String)
  /-- An offer that `relayEvent` sends on, in a request or in a reply. -/
  | offer (a_leg : Bool) (args : OfferArgs) (filter : FilterArgs) (body : Body) (method : String)
  /-- A re-INVITE or an UPDATE that the leg answers itself. -/
  | localOffer (a_leg : Bool) (args : OfferArgs) (body : Body) (method : String)
  /-- An answer for the leg `a_leg`, which `relayEvent` of the other leg sends on. -/
  | answer (a_leg : Bool) (args : AnswerArgs) (body : Body) (method : String)

/-- `processSdpOffer` for an offer of the leg `a_leg`; the body goes on if it returns 0. -/
def processOffer (core : Core Body) (codec_groups : Int → Option (List SdpPayload))
    (s : Negotiation) (a_leg : Bool) (args : OfferArgs) (body : Body) (method : String) :
    Option (Negotiation × Option Body) :=
  match processSdpOffer core codec_groups { args with a_leg := a_leg } body method
      (s.negotiated_media a_leg) with
  | .undefined => none
  | .thrown _ _ => some (s, none)
  | .returned code body' media =>
    if code = 0 then some (s.accept a_leg (offeredSdp core body method) media, some body')
    else some (s, none)

/-- `filterSdpOffer` on the leg `a_leg`; `out_sdp` is the offer that goes out. -/
def filterOffer (core : FilterCore Body) (codec_groups : Int → Option (List SdpPayload))
    (s : Negotiation) (a_leg : Bool) (filter : FilterArgs) (body : Body) (method : String) :
    Option (Negotiation × Bool × Option AmSdp) :=
  match filterSdpOffer core codec_groups { filter with a_leg := a_leg } body method
      (s.legs a_leg) with
  | .undefined => none
  | .thrown _ _ leg => some (s.remember a_leg leg, false, none)
  | .returned code _ out_sdp leg => some (s.remember a_leg leg, code = 0, out_sdp)

/-- The offer that was made for the B leg. -/
def setInitialOffer (s : Negotiation) (out_sdp : Option AmSdp) : Negotiation :=
  { s with bleg_initial_offer := (out_sdp.map (·.media)).getD s.bleg_initial_offer }

/-- The B leg begins with the lines of the offer that it is sent. -/
def beginBLeg (s : Negotiation) : Negotiation :=
  { s with
    negotiated_media := Function.update s.negotiated_media false s.bleg_initial_offer
    offered := Function.update s.offered false none
    answered := Function.update s.answered false [] }

/-- One step; `none` where an element is accessed that does not exist. -/
def next (core : FilterCore Body) (codec_groups : Int → Option (List SdpPayload))
    (s : Negotiation) : Label Body → Option Negotiation
  | .initialOffer args filter body modified_body method =>
    (s.processOffer core.toCore codec_groups true { args with isLocal := false } body method).bind
      fun r =>
        if r.2.isNone then some r.1
        else
          (r.1.filterOffer core codec_groups true filter modified_body method).map fun r =>
            if r.2.1 then (r.1.setInitialOffer r.2.2).beginBLeg else r.1
  | .connectCallee filter body method =>
    (s.filterOffer core codec_groups true filter body method).map fun r =>
      if r.2.1 then (r.1.setInitialOffer r.2.2).remember false .new else r.1
  | .offer a_leg args filter body method =>
    (s.processOffer core.toCore codec_groups a_leg { args with isLocal := false } body method).bind
      fun r =>
        match r.2 with
        | none => some r.1
        | some body' =>
          (r.1.filterOffer core codec_groups a_leg filter body' method).map (·.1)
  | .localOffer a_leg args body method =>
    (s.processOffer core.toCore codec_groups a_leg { args with isLocal := true } body method).map
      (·.1)
  | .answer a_leg args body method =>
    let answer := if core.empty body then none else offeredSdp core.toCore body method
    match processSdpAnswer core { args with a_leg := !a_leg } body method
        (s.negotiated_media a_leg) (s.legs !a_leg) with
    | .thrown _ leg => some (s.remember (!a_leg) leg)
    | .returned _ media leg => some ((s.receive a_leg answer media).remember (!a_leg) leg)

/-- All runs of a call. -/
def system (core : FilterCore Body) (codec_groups : Int → Option (List SdpPayload)) :
    System Negotiation (Label Body) where
  init s := s = {}
  next := next core codec_groups

/-- The media is relayed. -/
def Relays (_ : Negotiation) : Label Body → Prop
  | .answer _ args _ _ => args.profile.rtprelay_enabled = true
  | _ => True

instance (s : Negotiation) : (l : Label Body) → Decidable (s.Relays l)
  | .answer _ _ _ _ => inferInstanceAs (Decidable (_ = true))
  | .initialOffer _ _ _ _ _ => .isTrue trivial
  | .connectCallee _ _ _ => .isTrue trivial
  | .offer _ _ _ _ _ => .isTrue trivial
  | .localOffer _ _ _ _ => .isTrue trivial

/-! ### The invariant -/

/-- The lines of an offer, the answers to it and what is negotiated agree. -/
structure Agreed (offered : List SdpMedia) (answered : List (List SdpMedia))
    (negotiated_media : List SdpMedia) : Prop where
  negotiated : AllNarrow offered negotiated_media
  offered : ∀ media ∈ answered, AllNarrow offered media
  current : ∀ media ∈ answered, AllNarrow media negotiated_media
  ordered : answered.Pairwise AllNarrow

/-- The invariant. -/
def Inv (s : Negotiation) : Prop :=
  ∀ a_leg offered, s.offered a_leg = some offered → offered ≠ [] →
    Agreed offered (s.answered a_leg) (s.negotiated_media a_leg)

/-- Nothing was answered yet. -/
theorem Agreed.start {offered negotiated_media : List SdpMedia}
    (h : AllNarrow offered negotiated_media) : Agreed offered [] negotiated_media :=
  ⟨h, fun _ hmedia => absurd hmedia List.not_mem_nil, fun _ hmedia => absurd hmedia List.not_mem_nil,
    .nil⟩

/-- A further answer. -/
theorem Agreed.answer {offered negotiated_media media : List SdpMedia}
    {answered : List (List SdpMedia)} (h : Agreed offered answered negotiated_media)
    (hmedia : AllNarrow negotiated_media media) : Agreed offered (answered ++ [media]) media where
  negotiated := h.negotiated.trans hmedia
  offered a ha := by
    rcases List.mem_append.mp ha with hold | hnew
    · exact h.offered a hold
    · rw [List.mem_singleton.mp hnew]
      exact h.negotiated.trans hmedia
  current a ha := by
    rcases List.mem_append.mp ha with hold | hnew
    · exact (h.current a hold).trans hmedia
    · rw [List.mem_singleton.mp hnew]
      exact .refl media
  ordered := by
    refine List.pairwise_append.mpr ⟨h.ordered, List.pairwise_singleton _ _, ?_⟩
    intro a ha b hb
    rw [List.mem_singleton.mp hb]
    exact (h.current a ha).trans hmedia

variable {s : Negotiation}

theorem Inv.remember (h : s.Inv) (a_leg : Bool) (leg : LegSdp) : (s.remember a_leg leg).Inv := h

theorem Inv.setInitialOffer (h : s.Inv) (out_sdp : Option AmSdp) :
    (s.setInitialOffer out_sdp).Inv := h

/-- Only the leg `a_leg` changes. -/
theorem Inv.update (h : s.Inv) {s' : Negotiation} (a_leg : Bool)
    (hother : ∀ leg, leg ≠ a_leg → s'.offered leg = s.offered leg ∧
      s'.answered leg = s.answered leg ∧ s'.negotiated_media leg = s.negotiated_media leg)
    (hleg : ∀ offered, s'.offered a_leg = some offered → offered ≠ [] →
      Agreed offered (s'.answered a_leg) (s'.negotiated_media a_leg)) : s'.Inv := by
  intro leg offered hoffered hne
  by_cases heq : leg = a_leg
  · rw [heq] at hoffered ⊢
    exact hleg offered hoffered hne
  · obtain ⟨h₁, h₂, h₃⟩ := hother leg heq
    rw [h₁] at hoffered
    rw [h₂, h₃]
    exact h leg offered hoffered hne

theorem Inv.beginBLeg (h : s.Inv) : s.beginBLeg.Inv := by
  refine h.update false (fun leg hleg => ?_) (fun offered hoffered => ?_)
  · unfold Negotiation.beginBLeg
    simp only [Function.update_of_ne hleg, and_self]
  · unfold Negotiation.beginBLeg at hoffered
    simp only [Function.update_self] at hoffered
    cases hoffered

/-- An offer is accepted. -/
theorem Inv.accept (h : s.Inv) (a_leg : Bool) {offer : Option AmSdp} {media : List SdpMedia}
    (hmedia : (offer = none ∧ media = s.negotiated_media a_leg) ∨
      ∃ sdp, offer = some sdp ∧ AllNarrow sdp.media media) : (s.accept a_leg offer media).Inv := by
  rcases hmedia with ⟨rfl, rfl⟩ | ⟨sdp, rfl, hnarrow⟩
  · have hsame : (s.accept a_leg none (s.negotiated_media a_leg)).negotiated_media =
        s.negotiated_media := Function.update_eq_self a_leg s.negotiated_media
    intro leg offered hoffered hne
    rw [hsame]
    exact h leg offered hoffered hne
  · refine h.update a_leg (fun leg hleg => ?_) (fun offered hoffered _ => ?_)
    · unfold Negotiation.accept
      simp only [Function.update_of_ne hleg, and_self]
    · unfold Negotiation.accept at hoffered ⊢
      simp only [Function.update_self, Option.some.injEq] at hoffered ⊢
      rw [← hoffered]
      exact .start hnarrow

/-- An answer arrives. -/
theorem Inv.receive (h : s.Inv) (a_leg : Bool) (answer : Option AmSdp) {media : List SdpMedia}
    (hmedia : s.negotiated_media a_leg ≠ [] → AllNarrow (s.negotiated_media a_leg) media)
    (hnone : answer = none → media = s.negotiated_media a_leg) :
    (s.receive a_leg answer media).Inv := by
  refine h.update a_leg (fun leg hleg => ?_) (fun offered hoffered hne => ?_)
  · unfold Negotiation.receive
    cases answer with
    | none => simp only [Function.update_of_ne hleg, and_self]
    | some sdp => simp only [Function.update_of_ne hleg, and_self]
  · have hagreed := h a_leg offered hoffered hne
    unfold Negotiation.receive
    cases answer with
    | none =>
      simp only [Function.update_self]
      rw [hnone rfl]
      exact hagreed
    | some sdp =>
      simp only [Function.update_self]
      exact hagreed.answer (hmedia (hagreed.negotiated.ne_nil hne))

/-! ### Steps keep it -/

variable {core : FilterCore Body} {codec_groups : Int → Option (List SdpPayload)}

theorem Inv.processOffer (h : s.Inv) {a_leg : Bool} {args : OfferArgs} {body : Body}
    {method : String} {r : Negotiation × Option Body}
    (hr : s.processOffer core.toCore codec_groups a_leg args body method = some r) : r.1.Inv := by
  unfold Negotiation.processOffer at hr
  split at hr
  · cases hr
  · rw [← Option.some_inj.mp hr]
    exact h
  next code body' media heq =>
    split_ifs at hr with hcode
    · rw [hcode] at heq
      rw [← Option.some_inj.mp hr]
      exact h.accept a_leg (allNarrow_processSdpOffer heq)
    · rw [← Option.some_inj.mp hr]
      exact h

theorem Inv.filterOffer (h : s.Inv) {a_leg : Bool} {filter : FilterArgs} {body : Body}
    {method : String} {r : Negotiation × Bool × Option AmSdp}
    (hr : s.filterOffer core codec_groups a_leg filter body method = some r) : r.1.Inv := by
  unfold Negotiation.filterOffer at hr
  split at hr
  · cases hr
  · rw [← Option.some_inj.mp hr]
    exact h.remember a_leg _
  · rw [← Option.some_inj.mp hr]
    exact h.remember a_leg _

/-- Without an SDP nothing changes. -/
theorem processSdpAnswer_none {args : AnswerArgs} {body body' : Body} {method : String}
    {negotiated_media media : List SdpMedia} {leg leg' : LegSdp}
    (hnone : (if core.empty body then none else offeredSdp core.toCore body method) = none)
    (h : processSdpAnswer core args body method negotiated_media leg =
      .returned body' media leg') : media = negotiated_media := by
  have hempty (h : emptyAnswer args body negotiated_media leg = .returned body' media leg') :
      media = negotiated_media := by
    unfold emptyAnswer at h
    split_ifs at h
    injection h with hbody hmedia
    exact hmedia.symm
  unfold processSdpAnswer at h
  unfold offeredSdp at hnone
  split_ifs at h hnone with hmethod hbody
  · exact hempty h
  · cases hpayload : core.sdpPayload body with
    | none =>
      rw [hpayload] at h
      exact hempty h
    | some payload =>
      simp only [hpayload, Option.bind_some] at h hnone
      rw [hnone] at h
      cases h
  · injection h with hbody hmedia
    exact hmedia.symm
  · injection h with hbody hmedia
    exact hmedia.symm

/-- **The step lemma.** -/
theorem Inv.next (h : s.Inv) {l : Label Body} (hrelays : s.Relays l) {s' : Negotiation}
    (hnext : next core codec_groups s l = some s') : s'.Inv := by
  cases l with
  | initialOffer args filter body modified_body method =>
    obtain ⟨r, hr, hnext⟩ := Option.bind_eq_some_iff.mp hnext
    have haccepted := h.processOffer hr
    split_ifs at hnext
    · rw [← Option.some_inj.mp hnext]
      exact haccepted
    · obtain ⟨r', hr', heq⟩ := Option.map_eq_some_iff.mp hnext
      have hfiltered := haccepted.filterOffer hr'
      rw [← heq]
      split_ifs
      · exact (hfiltered.setInitialOffer r'.2.2).beginBLeg
      · exact hfiltered
  | connectCallee filter body method =>
    obtain ⟨r, hr, heq⟩ := Option.map_eq_some_iff.mp hnext
    have hfiltered := h.filterOffer hr
    rw [← heq]
    split_ifs
    · exact (hfiltered.setInitialOffer r.2.2).remember false .new
    · exact hfiltered
  | offer a_leg args filter body method =>
    obtain ⟨r, hr, hnext⟩ := Option.bind_eq_some_iff.mp hnext
    have haccepted := h.processOffer hr
    split at hnext
    · rw [← Option.some_inj.mp hnext]
      exact haccepted
    · obtain ⟨r', hr', heq⟩ := Option.map_eq_some_iff.mp hnext
      rw [← heq]
      exact haccepted.filterOffer hr'
  | localOffer a_leg args body method =>
    obtain ⟨r, hr, heq⟩ := Option.map_eq_some_iff.mp hnext
    rw [← heq]
    exact h.processOffer hr
  | answer a_leg args body method =>
    unfold Negotiation.next at hnext
    dsimp only at hnext
    split at hnext
    · rw [← Option.some_inj.mp hnext]
      exact h.remember _ _
    next body' media leg heq =>
      rw [← Option.some_inj.mp hnext]
      have hrelay : ({ args with a_leg := !a_leg } : AnswerArgs).profile.rtprelay_enabled = true :=
        hrelays
      have hreceived := h.receive a_leg
        (if core.empty body then none else offeredSdp core.toCore body method)
        (fun hne => allNarrow_processSdpAnswer hrelay hne heq)
        (fun hnone => processSdpAnswer_none hnone heq)
      exact hreceived.remember _ _

/-! ### Runs -/

theorem inv_of_reachableUnder (h : (system core codec_groups).ReachableUnder Relays s) : s.Inv := by
  refine System.invariant_under Inv ?_ ?_ h
  · rintro _ rfl a_leg offered hoffered
    cases hoffered
  · intro s l s' hinv hrelays hnext
    exact hinv.next hrelays hnext

namespace Sample

def pcmu : SdpPayload := { payload_type := 0, encoding_name := "PCMU".toList, clock_rate := 8000 }

def pcma : SdpPayload := { payload_type := 8, encoding_name := "PCMA".toList, clock_rate := 8000 }

/-- Audio with these payloads, and video. -/
def lines (payloads : List SdpPayload) : List SdpMedia :=
  [{ type := .MT_Audio, port := 5000, transport := .TP_RTPAVP, payloads },
    { type := .MT_Video, port := 5002, transport := .TP_RTPAVP, payloads := [] }]

/-- A core whose messages are the media lines themselves, as far as the sample needs. -/
def stack : FilterCore (Option Bool) where
  sdpPayload body := body.map fun offer => if offer then "offer" else "answer"
  setPayload _ payload := some (payload = "offer")
  parse payload := some { media := lines (if payload = "offer" then [pcmu, pcma] else [pcma]) }
  print sdp := if sdp.media = lines [pcma] then "answer" else "offer"
  isHoldRequest _ := false
  empty body := body.isNone
  IANA_RTP_PAYLOADS := []
  explode _ _ := []

def profile : FilterProfile := { rtprelay_enabled := true }

def offerArgs : OfferArgs where
  profile := profile.toOfferProfile
  a_leg := true
  isLocal := false
  single_codec := false
  static_codecs_id := 1
  with_zrtp := false

def filterArgs : FilterArgs where
  profile := profile
  a_leg := true
  static_codecs_id := 1
  cseq := 1
  with_zrtp := false

def answerArgs : AnswerArgs where
  profile := profile
  a_leg := false
  single_codec := true
  avoid_transcoding := true
  cseq := 1
  with_zrtp := false

/-- An offer with two codecs, answered in a provisional and in the final reply. -/
def run : List (Label (Option Bool)) :=
  [.initialOffer offerArgs filterArgs (some true) (some true) "INVITE",
    .answer true { answerArgs with single_codec := false } (some false) "INVITE",
    .answer true answerArgs (some false) "INVITE"]

end Sample

end Negotiation

end Yeti.Sdp
