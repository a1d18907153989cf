import Yeti.Framework.Decimal
import Yeti.Framework.Joining

/-! # Header fields for the routing query

    Model of `UsedHeaderField`, which reads a configured header of a request, whole or a
    part of the name-addresses in it.

    The three headers that the stack keeps apart are told by the first letter of the
    name.  Any other name with one of these letters is taken for one of them and found
    empty, so its header is never looked up.
-/

namespace Yeti.Headers

open Joining

/-! ### Data -/

/-- `struct sip_avp`. -/
structure SipAvp where
  name : List Char
  value : List Char := []
  deriving DecidableEq, Repr

/-- `struct sip_uri`. -/
structure SipUri where
  user : List Char := []
  host : List Char := []
  port : Nat := 0
  params : List SipAvp := []
  uri_params : List SipAvp := []
  hdrs : List SipAvp := []
  deriving DecidableEq, Repr

/-- `struct sip_nameaddr`. -/
structure SipNameaddr where
  params : List SipAvp := []
  uri : SipUri := {}
  deriving DecidableEq, Repr

/-- The fields of `AmSipRequest` that are read here. -/
structure AmSipRequest where
  from_ : List Char := []
  to_ : List Char := []
  contact : List Char := []
  hdrs : List Char := []
  deriving DecidableEq, Repr

/-- `UsedHeaderField::NeededPart`. -/
inductive NeededPart where
  | uri_user
  | uri_domain
  | uri_port
  | uri_param
  deriving DecidableEq, Repr

/-- `UsedHeaderField::ValueType`. -/
inductive ValueType where
  | Raw
  | Uri
  deriving DecidableEq, Repr

/-- `class UsedHeaderField`. -/
structure UsedHeaderField where
  name : List Char
  param : List Char := []
  type : ValueType := .Raw
  part : NeededPart := .uri_user
  multiple_headers : Bool := false
  deriving DecidableEq, Repr

/-- The functions of the core that are called. -/
structure HeaderCore where
  getHeader : List Char → List Char → List Char
  /-- the entries, `none` where it fails -/
  parse_nameaddr_list : List Char → Option (List (List Char))
  /-- whether it succeeds, and the structure that was passed in afterwards -/
  parse_nameaddr_uri : SipNameaddr → List Char → Bool × SipNameaddr

/-! ### Model -/

def SIP_HDR_FROM : List Char := "From".toList
def SIP_HDR_TO : List Char := "To".toList
def SIP_HDR_CONTACT : List Char := "Contact".toList

/-- `getInternalHeader`: the new value of `hdr`, which is empty before, or `none` where it
    returns false. -/
def getInternalHeader (req : AmSipRequest) (name : List Char) : Option (List Char) :=
  if name.head? = some 'F' then some (if name = SIP_HDR_FROM then req.from_ else [])
  else if name.head? = some 'T' then some (if name = SIP_HDR_TO then req.to_ else [])
  else if name.head? = some 'C' then some (if name = SIP_HDR_CONTACT then req.contact else [])
  else none

/-- `UsedHeaderField::applyFormat`. -/
def UsedHeaderField.applyFormat (f : UsedHeaderField) (format : List Char) : UsedHeaderField :=
  let f := { f with multiple_headers := false }
  if format.isEmpty then { f with type := .Raw }
  else
    let f :=
      if "uri_user".toList.isPrefixOf format then { f with type := .Uri, part := .uri_user }
      else if "uri_domain".toList.isPrefixOf format then { f with type := .Uri, part := .uri_domain }
      else if "uri_port".toList.isPrefixOf format then { f with type := .Uri, part := .uri_port }
      else if "uri_param".toList.isPrefixOf format then
        if f.param.isEmpty then { f with type := .Raw }
        else { f with type := .Uri, part := .uri_param }
      else { f with type := .Raw }
    if "_array".toList.isSuffixOf format then { f with multiple_headers := true } else f

/-- `UsedHeaderField::UsedHeaderField(const AmArg &)`. -/
def UsedHeaderField.ofArg (varname varparam varformat : List Char) : UsedHeaderField :=
  UsedHeaderField.applyFormat { name := varname, param := varparam } varformat

/-- `strncmp` of two texts of one length is 0: what follows a NUL is not compared. -/
def sameText (s t : List Char) : Bool :=
  s.length == t.length && s.takeWhile (· ≠ '\x00') == t.takeWhile (· ≠ '\x00')

/-- The needed part of the URI, if it is there. -/
def UsedHeaderField.neededPart (f : UsedHeaderField) (uri : SipUri) : Option (List Char) :=
  match f.part with
  | .uri_user => some uri.user
  | .uri_domain => some uri.host
  | .uri_port => some (Decimal.formatInt uri.port)
  | .uri_param => (uri.params.find? fun avp => sameText f.param avp.name).map (·.value)

/-- `UsedHeaderField::process_uri`: the returned value and `ret` afterwards.  The comma is
    written before the part is looked for. -/
def UsedHeaderField.process_uri (f : UsedHeaderField) (uri : SipUri) (ret : List Char) :
    Bool × List Char :=
  let ret := if !ret.isEmpty then ret ++ [','] else ret
  match f.neededPart uri with
  | some value => (true, ret ++ value)
  | none => (false, ret)

/-- The structure without what the previous entry may have left in its lists. -/
def SipNameaddr.cleared (na : SipNameaddr) : SipNameaddr :=
  { na with params := [], uri := { na.uri with params := [], uri_params := [], hdrs := [] } }

/-- The loop over the entries: false where it returns false, and `val` afterwards. -/
def UsedHeaderField.readEntries (core : HeaderCore) (f : UsedHeaderField) :
    SipNameaddr → List Char → List (List Char) → Bool × List Char
  | _, val, [] => (true, val)
  | na, val, na_str :: na_list =>
    let na := if f.multiple_headers then na.cleared else na
    let parsed := core.parse_nameaddr_uri na na_str
    if !parsed.1 then
      if f.multiple_headers then f.readEntries core parsed.2 val na_list else (false, val)
    else
      let processed := f.process_uri parsed.2.uri val
      if !processed.1 then
        if f.multiple_headers then f.readEntries core parsed.2 processed.2 na_list
        else (false, processed.2)
      else if !f.multiple_headers then (true, processed.2)
      else f.readEntries core parsed.2 processed.2 na_list

/-- What follows the label `succ`. -/
def succeed (fixup_utf8 : List Char → List Char) (val : List Char) : Bool × List Char :=
  if val.isEmpty then (false, val) else (true, fixup_utf8 val)

/-- `UsedHeaderField::getValue`: the returned value and `val` afterwards, where
    `fixup_utf8` is what `fixup_utf8_inplace` of the core makes of a text. -/
def UsedHeaderField.getValue (core : HeaderCore) (fixup_utf8 : List Char → List Char)
    (f : UsedHeaderField) (req : AmSipRequest) (val : List Char) : Bool × List Char :=
  let hdr := (getInternalHeader req f.name).getD (core.getHeader req.hdrs f.name)
  if hdr.isEmpty then (false, val)
  else
    match f.type with
    | .Raw => succeed fixup_utf8 hdr
    | .Uri =>
      match core.parse_nameaddr_list hdr with
      | none => (false, val)
      | some na_list =>
        let read := f.readEntries core {} val na_list
        if !read.1 then read else succeed fixup_utf8 read.2

/-! ### What is claimed -/

/-- The text of the header: the three that the request has fields for, or what is found
    in its header block. -/
def headerText (core : HeaderCore) (req : AmSipRequest) (name : List Char) : List Char :=
  if name = SIP_HDR_FROM then req.from_
  else if name = SIP_HDR_TO then req.to_
  else if name = SIP_HDR_CONTACT then req.contact
  else core.getHeader req.hdrs name

/-- The function yields the text, up to what the fix-up makes of it: it returns false
    exactly if there is none. -/
def Yields (result : (List Char → List Char) → Bool × List Char) (text : List Char) : Prop :=
  ∀ fixup_utf8, (result fixup_utf8).1 = !text.isEmpty ∧
    (text ≠ [] → (result fixup_utf8).2 = fixup_utf8 text)

/-- The name begins like one of the three headers and is none of them. -/
def Shadowed (name : List Char) : Prop :=
  (name.head? = some 'F' ∨ name.head? = some 'T' ∨ name.head? = some 'C') ∧
    name ≠ SIP_HDR_FROM ∧ name ≠ SIP_HDR_TO ∧ name ≠ SIP_HDR_CONTACT

instance : DecidablePred Shadowed := fun name =>
  inferInstanceAs (Decidable ((name.head? = some 'F' ∨ name.head? = some 'T' ∨
    name.head? = some 'C') ∧ name ≠ SIP_HDR_FROM ∧ name ≠ SIP_HDR_TO ∧ name ≠ SIP_HDR_CONTACT))

/-! ### The header -/

theorem head?_from : SIP_HDR_FROM.head? = some 'F' := by decide

theorem head?_to : SIP_HDR_TO.head? = some 'T' := by decide

theorem head?_contact : SIP_HDR_CONTACT.head? = some 'C' := by decide

/-- A shadowed header is found empty, any other as it is. -/
theorem header_eq (core : HeaderCore) (req : AmSipRequest) (name : List Char) :
    (getInternalHeader req name).getD (core.getHeader req.hdrs name) =
      if Shadowed name then [] else headerText core req name := by
  unfold getInternalHeader headerText Shadowed
  -- the three names first: for any other, the first character alone decides
  by_cases hfrom : name = SIP_HDR_FROM
  · subst hfrom
    simp [head?_from]
  · by_cases hto : name = SIP_HDR_TO
    · subst hto
      simp [head?_to, hfrom]
    · by_cases hcontact : name = SIP_HDR_CONTACT
      · subst hcontact
        simp [head?_contact, hfrom, hto]
      · simp only [hfrom, hto, hcontact, if_false, ne_eq, not_false_eq_true, and_true]
        by_cases hF : name.head? = some 'F'
        · simp [hF]
        · by_cases hT : name.head? = some 'T'
          · simp [hT]
          · by_cases hC : name.head? = some 'C'
            · simp [hC]
            · simp [hF, hT, hC]

theorem headerText_of_shadowed {core : HeaderCore} {req : AmSipRequest} {name : List Char}
    (h : Shadowed name) : headerText core req name = core.getHeader req.hdrs name := by
  obtain ⟨-, hfrom, hto, hcontact⟩ := h
  rw [headerText, if_neg hfrom, if_neg hto, if_neg hcontact]

theorem yields_succeed_iff {val text : List Char} :
    Yields (fun fixup_utf8 => succeed fixup_utf8 val) text ↔ val = text := by
  have hsucceed : ∀ fixup_utf8, succeed fixup_utf8 val =
      if val.isEmpty then (false, val) else (true, fixup_utf8 val) := fun _ => rfl
  unfold Yields
  simp only [hsucceed]
  cases val with
  | nil =>
    constructor
    · intro h
      simpa using (h id).1.symm
    · rintro rfl _
      exact ⟨rfl, fun hne => absurd rfl hne⟩
  | cons ch val =>
    constructor
    · intro h
      have hne : text ≠ [] := by simpa using (h id).1.symm
      exact (h id).2 hne
    · rintro rfl _
      exact ⟨rfl, fun _ => rfl⟩

/-- Where the function returns false there should be no text. -/
theorem yields_false_iff {val text : List Char} :
    Yields (fun _ => (false, val)) text ↔ text = [] := by
  constructor
  · intro h
    simpa using (h id).1.symm
  · rintro rfl _
    exact ⟨rfl, fun hne => absurd rfl hne⟩

/-! ### Raw fields -/

/-- **Raw fields** yield the text of the header exactly if the name is not shadowed, or
    the header is not there. -/
theorem raw_yields_iff (core : HeaderCore) (f : UsedHeaderField) (req : AmSipRequest)
    (val : List Char) (hraw : f.type = .Raw) :
    Yields (fun fixup_utf8 => f.getValue core fixup_utf8 req val) (headerText core req f.name) ↔
      (Shadowed f.name → core.getHeader req.hdrs f.name = []) := by
  unfold UsedHeaderField.getValue
  simp only [hraw, header_eq]
  by_cases hshadowed : Shadowed f.name
  · simp only [hshadowed, if_true, List.isEmpty_nil, true_implies]
    rw [yields_false_iff, headerText_of_shadowed hshadowed]
  · simp only [hshadowed, if_false, false_implies, iff_true]
    cases htext : headerText core req f.name with
    | nil => exact yields_false_iff.mpr rfl
    | cons ch text =>
      simp only [List.isEmpty_cons, Bool.false_eq_true, if_false]
      exact yields_succeed_iff.mpr rfl

namespace UsedHeaderExample

def twoAddresses : List Char := "<sip:1@x;p=a>,<sip:2@y>".toList

/-- A core that reads one header from a block and knows two name-addresses. -/
def core : HeaderCore where
  getHeader hdrs name :=
    if (name ++ ": ".toList).isPrefixOf hdrs then hdrs.drop (name.length + 2) else []
  parse_nameaddr_list hdr :=
    if hdr = twoAddresses then some ["<sip:1@x;p=a>".toList, "<sip:2@y>".toList] else some [hdr]
  parse_nameaddr_uri na na_str :=
    if na_str = "<sip:1@x;p=a>".toList then
      (true, { uri := { user := ['1'], host := ['x'], port := 5060, params := [⟨['p'], ['a']⟩] } })
    else if na_str = "<sip:2@y>".toList then
      (true, { uri := { user := ['2'], host := ['y'], port := 5060 } })
    else (false, na)

def request (hdrs : String) : AmSipRequest := { hdrs := hdrs.toList }

end UsedHeaderExample

open UsedHeaderExample in
/-- `Diversion` as it is. -/
theorem raw_yields_iff_diversion :
    Yields (fun fixup_utf8 => UsedHeaderField.getValue core fixup_utf8 { name := "Diversion".toList }
      (request "Diversion: <sip:1@x>") []) "<sip:1@x>".toList := by
  have hnot : ¬ Shadowed "Diversion".toList := by decide
  exact (raw_yields_iff core { name := "Diversion".toList } (request "Diversion: <sip:1@x>") []
    rfl).mpr fun hname => absurd hname hnot

open UsedHeaderExample in
/-- `Call-Info` begins like `Contact`: it is there, and the function returns false. -/
theorem not_raw_yields_call_info :
    ¬ Yields (fun fixup_utf8 => UsedHeaderField.getValue core fixup_utf8
      { name := "Call-Info".toList } (request "Call-Info: x") [])
      (headerText core (request "Call-Info: x") "Call-Info".toList) := by
  intro h
  have htrue := (h id).1
  revert htrue
  decide

/-! ### Array fields -/

/-- The name-addresses in the header. -/
def entries (core : HeaderCore) (req : AmSipRequest) (name : List Char) : List (List Char) :=
  if (headerText core req name).isEmpty then []
  else (core.parse_nameaddr_list (headerText core req name)).getD []

/-- The text of the needed part in an entry, empty if the part is not there; none if the
    entry is not parsed. -/
def UsedHeaderField.partText (core : HeaderCore) (f : UsedHeaderField) (na_str : List Char) :
    Option (List Char) :=
  let parsed := core.parse_nameaddr_uri {} na_str
  if parsed.1 then some ((f.neededPart parsed.2.uri).getD []) else none

/-- The texts of the entries that are parsed. -/
def UsedHeaderField.partTexts (core : HeaderCore) (f : UsedHeaderField) (req : AmSipRequest) :
    List (List Char) :=
  (entries core req f.name).filterMap (f.partText core)

/-- The parser does not read what an earlier entry left in the structure besides the
    lists. -/
def Reusable (core : HeaderCore) : Prop :=
  ∀ (na : SipNameaddr) (na_str : List Char),
    (core.parse_nameaddr_uri na.cleared na_str).1 = (core.parse_nameaddr_uri {} na_str).1 ∧
      ((core.parse_nameaddr_uri {} na_str).1 = true →
        (core.parse_nameaddr_uri na.cleared na_str).2.uri = (core.parse_nameaddr_uri {} na_str).2.uri)

/-- No entry without the part comes after one that has it, and a header whose name is
    shadowed has no entry with the part at all. -/
structure ArrayReadable (core : HeaderCore) (f : UsedHeaderField) (req : AmSipRequest) : Prop where
  no_gap : NoGap (f.partTexts core req)
  found : Shadowed f.name → ∀ text ∈ f.partTexts core req, text = []

/-- The part is added to what is there, or nothing but the comma. -/
theorem process_uri_eq (f : UsedHeaderField) (uri : SipUri) (ret : List Char) :
    f.process_uri uri ret =
      ((f.neededPart uri).isSome, add ',' ret ((f.neededPart uri).getD [])) := by
  unfold UsedHeaderField.process_uri add
  cases hret : ret.isEmpty <;> cases f.neededPart uri <;> simp

/-- In an array the loop goes on after every entry. -/
theorem readEntries_array {core : HeaderCore} (hcore : Reusable core) {f : UsedHeaderField}
    (harray : f.multiple_headers = true) (na : SipNameaddr) (val : List Char)
    (na_list : List (List Char)) :
    f.readEntries core na val na_list =
      (true, (na_list.filterMap (f.partText core)).foldl (add ',') val) := by
  induction na_list generalizing na val with
  | nil => rfl
  | cons na_str na_list ih =>
    obtain ⟨hparses, huri⟩ := hcore na na_str
    rw [UsedHeaderField.readEntries]
    simp only [harray, if_true, process_uri_eq, hparses, Bool.not_true, Bool.false_eq_true, if_false,
      ih]
    cases hparsed : (core.parse_nameaddr_uri {} na_str).1 with
    | false =>
      have htext : f.partText core na_str = none := by
        simp [UsedHeaderField.partText, hparsed]
      rw [List.filterMap_cons_none htext]
      rfl
    | true =>
      have htext : f.partText core na_str =
          some ((f.neededPart (core.parse_nameaddr_uri {} na_str).2.uri).getD []) := by
        simp [UsedHeaderField.partText, hparsed]
      rw [List.filterMap_cons_some htext, List.foldl_cons, huri hparsed]
      simp

open UsedHeaderExample in
theorem reusable_core : Reusable core := by
  intro na na_str
  simp only [core]
  split_ifs <;> simp

end Yeti.Headers
