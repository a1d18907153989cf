import Yeti.Headers.Filter

/-! # Media lines and their payloads

    The part of an SDP that `sdp_filter.cpp` works on, and the functions on payload
    lists that offers and answers share: `findPayload`, `is_telephone_event` and
    `add_codec`.
-/

namespace Yeti.Sdp

open Headers (tolower)

/-! ### Data -/

/-- `enum MediaType` (`MT_AUDIO`, `MT_VIDEO`); the types that no function here asks for are numbers. -/
inductive MediaType where
  | MT_Audio
  | MT_Video
  | other (type : Nat)
  deriving DecidableEq, Repr

/-- `enum TransProt`, with numbers for the transports that are not named here. -/
inductive TransProt where
  | TP_NONE
  | TP_RTPAVP
  | TP_RTPAVPF
  | TP_RTPSAVP
  | TP_RTPSAVPF
  | TP_UDPTLSRTPSAVP
  | TP_UDPTLSRTPSAVPF
  | other (transport : Nat)
  deriving DecidableEq, Repr

/-- `struct SdpPayload`. -/
structure SdpPayload where
  payload_type : Int
  encoding_name : List Char
  clock_rate : Int
  encoding_param : Int := -1
  format : List Char := []
  sdp_format_parameters : List Char := []
  deriving DecidableEq, Repr

/-- `struct SdpAttribute`. -/
structure SdpAttribute where
  attr : List Char
  value : List Char := []
  deriving DecidableEq, Repr

/-- `struct SdpConnection`; without an address there is no connection. -/
structure SdpConnection where
  network : Int := 0
  addrType : Int := 0
  address : List Char := []
  deriving DecidableEq, Repr

/-- `struct SdpMedia`. -/
structure SdpMedia where
  type : MediaType
  port : Nat
  transport : TransProt
  payloads : List SdpPayload
  send : Bool := true
  recv : Bool := true
  conn : SdpConnection := {}
  attributes : List SdpAttribute := []
  /-- `zrtp_hash.is_use` -/
  zrtp_is_use : Bool := false
  /-- `zrtp_hash.hash` -/
  zrtp_hash : List Char := []
  ice_pwd : List Char := []
  ice_ufrag : List Char := []
  ice_candidate : List (List Char) := []
  is_ice : Bool := false
  deriving DecidableEq, Repr

/-- The first payload number that has no fixed meaning. -/
def DYNAMIC_PAYLOAD_TYPE_START : Int := 96

/-! ### Codes

    The refusal and disconnect codes of `CodesTranslator.h` that are used here. -/

def FC_CG_GROUP_NOT_FOUND : Nat := 140
def FC_CODECS_NOT_MATCHED : Nat := 141
def FC_NO_SUITABLE_MEDIA : Nat := 142
def FC_INVALID_MEDIA_TRANSPORT : Nat := 143
def DC_REPLY_SDP_PARSING_FAILED : Nat := 1501
def DC_REPLY_SDP_EMPTY_ANSWER : Nat := 1502
def DC_REPLY_SDP_STREAMS_COUNT : Nat := 1503
def DC_REPLY_SDP_STREAMS_TYPES : Nat := 1504

/-! ### Looking up payloads -/

/-- The transports that carry RTP. -/
def TransProt.isRtp : TransProt → Bool
  | .TP_RTPAVP => true
  | .TP_RTPAVPF => true
  | .TP_RTPSAVP => true
  | .TP_RTPSAVPF => true
  | .TP_UDPTLSRTPSAVP => true
  | .TP_UDPTLSRTPSAVPF => true
  | _ => false

/-- The number of the payload alone says which codec it is. -/
def static_payload (payload : SdpPayload) (transport : TransProt) : Bool :=
  transport.isRtp && decide (0 ≤ payload.payload_type) &&
    decide (payload.payload_type < DYNAMIC_PAYLOAD_TYPE_START)

/-- The body of the loop in `findPayload`: whether the listed payload `p` is the one
    looked for. -/
def matchesPayload (payload : SdpPayload) (transport : TransProt) (p : SdpPayload) : Bool :=
  let same_name := tolower p.encoding_name == tolower payload.encoding_name
  -- clients use names of their own for static payload types
  let same_codec :=
    if static_payload payload transport then
      payload.payload_type == p.payload_type || same_name
    else same_name
  same_codec &&
    !(decide (0 < p.clock_rate) && decide (p.clock_rate ≠ payload.clock_rate)) &&
    !(decide (0 ≤ p.encoding_param) && decide (0 ≤ payload.encoding_param) &&
      decide (p.encoding_param ≠ payload.encoding_param))

/-- `findPayload`. -/
def findPayload (payloads : List SdpPayload) (payload : SdpPayload) (transport : TransProt) :
    Option SdpPayload :=
  payloads.find? (matchesPayload payload transport)

/-- `containsPayload`. -/
def containsPayload (payloads : List SdpPayload) (payload : SdpPayload)
    (transport : TransProt) : Bool :=
  (findPayload payloads payload transport).isSome

theorem mem_of_findPayload {payloads : List SdpPayload} {payload p : SdpPayload}
    {transport : TransProt} (h : findPayload payloads payload transport = some p) :
    p ∈ payloads :=
  List.mem_of_find?_eq_some h

/-! ### Adding payloads -/

/-- `DTMF_ENCODING_NAME`. -/
def DTMF_ENCODING_NAME : List Char := "TELEPHONE-EVENT".toList

/-- `is_telephone_event`. -/
def is_telephone_event (p : SdpPayload) : Bool :=
  p.encoding_name.map Char.toUpper == DTMF_ENCODING_NAME

/-- `add_codec`. -/
def add_codec (pl : List SdpPayload) (p : SdpPayload) (single_codec : Bool) : List SdpPayload :=
  if !single_codec || pl.isEmpty ||
      (pl.length == 1 && pl.head?.any is_telephone_event) || is_telephone_event p
  then pl ++ [p]
  else pl

/-- A payload list made by adding the payloads one after the other. -/
def add_codecs (pl : List SdpPayload) (ps : List SdpPayload) (single_codec : Bool) :
    List SdpPayload :=
  ps.foldl (fun pl p => add_codec pl p single_codec) pl

theorem mem_add_codec {pl : List SdpPayload} {p q : SdpPayload} {single_codec : Bool}
    (h : q ∈ add_codec pl p single_codec) : q ∈ pl ∨ q = p := by
  unfold add_codec at h
  split_ifs at h
  · simpa using h
  · exact Or.inl h

theorem mem_add_codecs {ps pl : List SdpPayload} {q : SdpPayload} {single_codec : Bool}
    (h : q ∈ add_codecs pl ps single_codec) : q ∈ pl ∨ q ∈ ps := by
  induction ps generalizing pl with
  | nil => exact Or.inl h
  | cons p ps ih =>
    rcases ih h with hpl | hps
    · rcases mem_add_codec hpl with hpl | rfl
      · exact Or.inl hpl
      · exact Or.inr (List.mem_cons_self ..)
    · exact Or.inr (List.mem_cons_of_mem _ hps)

/-- The list only grows. -/
theorem le_add_codec (pl : List SdpPayload) (p : SdpPayload) (single_codec : Bool) :
    pl <+: add_codec pl p single_codec := by
  unfold add_codec
  split_ifs
  · exact List.prefix_append pl [p]
  · exact List.prefix_rfl

theorem le_add_codecs (pl ps : List SdpPayload) (single_codec : Bool) :
    pl <+: add_codecs pl ps single_codec := by
  induction ps generalizing pl with
  | nil => exact List.prefix_rfl
  | cons p ps ih => exact (le_add_codec pl p single_codec).trans (ih _)

/-- The first payload is always added. -/
theorem first_add_codecs (p : SdpPayload) (ps : List SdpPayload) (single_codec : Bool) :
    [p] <+: add_codecs [] (p :: ps) single_codec := by
  have hfirst : add_codec [] p single_codec = [p] := by simp [add_codec]
  show [p] <+: add_codecs (add_codec [] p single_codec) ps single_codec
  rw [hfirst]
  exact le_add_codecs [p] ps single_codec

end Yeti.Sdp
