import Mathlib.Data.List.Basic
import Yeti.Framework.Decimal

/-! # Template expansion

    `replaceParameters` of `ParamReplacer.cpp`: the scan of a template with its
    placeholders.  A placeholder is a function of the template, of the position of its
    letter and of the URI parsers, which the branches fill on demand; the bracket
    contents of `$_o(...)` and `$#(...)` are expanded by a recursive call.

    Reading past the template and dividing by zero are faults.  `run` has a bound on the
    nesting and on the number of steps; `unfinished` says that the bound was too small.
-/

namespace Yeti.Params

open Decimal

/-! ### Strings -/

/-- What may go wrong while a template is expanded. -/
inductive Fault where
  | out_of_range
  | division_by_zero
  | unfinished
  deriving DecidableEq, Repr

/-- `s[i]` of a `std::string`: the terminating zero may be read, nothing behind it. -/
def charAt (s : List Char) (i : Nat) : Except Fault Char :=
  if h : i < s.length then .ok s[i]
  else if i = s.length then .ok '\x00'
  else .error .out_of_range

/-- `s.substr(pos, count)`. -/
def substr (s : List Char) (pos count : Nat) : Except Fault (List Char) :=
  if pos ≤ s.length then .ok ((s.drop pos).take count) else .error .out_of_range

/-- The loop `for (;skip_p<s.length() && s[skip_p] != ')';skip_p++)`. -/
def closing (s : List Char) (skip_p : Nat) : Nat :=
  skip_p + (s.drop skip_p).findIdx (· == ')')

/-- `to_hex`: the last four bits as a digit. -/
def to_hex (code : Nat) : Char := Nat.digitChar (code % 16)

/-- What `url_encode` writes for one character. -/
def url_encode_char (c : Char) : List Char :=
  if c.isAlphanum || c = '-' || c = '_' || c = '.' || c = '~' then [c]
  else if c = ' ' then ['+']
  else ['%', to_hex (c.toNat / 16), to_hex c.toNat]

/-- `url_encode` of a zero terminated string. -/
def url_encode (str : List Char) : List Char :=
  (str.takeWhile (· ≠ '\x00')).flatMap url_encode_char

/-! ### Request and context -/

/-- The fields of an `AmUriParser` that the placeholders read. -/
structure AmUriParser where
  uri : List Char := []
  display_name : List Char := []
  uri_user : List Char := []
  uri_host : List Char := []
  uri_port : List Char := []
  uri_headers : List Char := []
  uri_param : List Char := []
  deriving DecidableEq, Repr

/-- The addresses that have a parser of their own. -/
inductive Address where
  | ruri
  | from_
  | to_
  deriving DecidableEq, Repr

/-- The fields of an `AmSipRequest` that the placeholders read. -/
structure AmSipRequest where
  method : List Char
  r_uri : List Char
  from_ : List Char
  from_tag : List Char
  to_ : List Char
  to_tag : List Char
  callid : List Char
  hdrs : List Char
  remote_ip : List Char
  remote_port : Nat
  local_ip : List Char
  local_port : Nat
  local_if : Nat
  deriving DecidableEq, Repr

/-- An entry of `AmConfig.sip_ifs`; `public_ip` is that of `proto_info[0]`. -/
structure SipInterface where
  name : List Char
  public_ip : List Char
  deriving DecidableEq, Repr

/-- The parameters of `replaceParameters` that no branch changes. -/
structure Env where
  req : AmSipRequest
  next_hop : List Char
  app_param : List Char
  outbound_interface_host : List Char
  rebuild : Address → Bool
  sip_ifs : List SipInterface

/-- The URI that the parser of an address is given. -/
def Env.uri (env : Env) : Address → List Char
  | .ruri => env.req.r_uri
  | .from_ => env.req.from_
  | .to_ => env.req.to_

/-- The tag that `$ft` and `$tt` stand for. -/
def Env.tag (env : Env) : Address → Option (List Char)
  | .ruri => none
  | .from_ => some env.req.from_tag
  | .to_ => some env.req.to_tag

/-- The parsers that `replaceParameters` takes by reference, and the number of calls of
    `rand()` so far. -/
structure St where
  ruriParser : AmUriParser := {}
  fromParser : AmUriParser := {}
  toParser : AmUriParser := {}
  draws : Nat := 0
  deriving DecidableEq, Repr

def St.parser (st : St) : Address → AmUriParser
  | .ruri => st.ruriParser
  | .from_ => st.fromParser
  | .to_ => st.toParser

def St.setParser (st : St) (k : Address) (q : AmUriParser) : St :=
  match k with
  | .ruri => { st with ruriParser := q }
  | .from_ => { st with fromParser := q }
  | .to_ => { st with toParser := q }

/-- The functions of the core that the expansion calls.  `parse_gen_params` and
    `parse_next_hop` return nothing when they fail, `str2int` when the text is no
    integer; `lower_cmp_n` tells whether two names differ; `rand` is the sequence of the
    results of `rand()`. -/
structure Library where
  parse_uri : AmUriParser → Bool × AmUriParser
  nameaddr_str : AmUriParser → List Char
  uri_str : AmUriParser → List Char
  parse_gen_params : List Char → Option (List (List Char × List Char))
  lower_cmp_n : List Char → List Char → Bool
  parse_next_hop : List Char → Option (List (List Char × Nat))
  getHeader : List Char → List Char → List Char
  get_header_keyvalue : List Char → List Char → List Char
  skip_to_end_of_brackets : List Char → Nat → Nat
  calculateMD5 : List Char → List Char
  str2int : List Char → Option Int
  rand : Nat → Nat

/-- `skip_to_end_of_brackets` goes forward and stays within the string. -/
def Library.SkipsWithin (L : Library) : Prop :=
  ∀ s p, p ≤ s.length →
    p ≤ L.skip_to_end_of_brackets s p ∧ L.skip_to_end_of_brackets s p ≤ s.length

/-- What a placeholder does: the text it appends and how far the scan goes on. -/
structure Step where
  out : List Char := []
  skip_chars : Nat := 1
  st : St
  deriving DecidableEq, Repr

/-! ### Components of a URI -/

/-- The host, with the port when there is one. -/
def AmUriParser.hostPort (q : AmUriParser) : List Char :=
  if q.uri_port.isEmpty then q.uri_host else q.uri_host ++ ':' :: q.uri_port

/-- The value of the last parameter of that name. -/
def paramValue (L : Library) (params : List (List Char × List Char)) (param_name : List Char) :
    List Char :=
  params.foldl (fun param it => if L.lower_cmp_n it.1 param_name then param else it.2) []

/-- The component that a letter stands for. -/
def AmUriParser.component (q : AmUriParser) (c : Char) : List Char :=
  if c = 'u' then q.uri_user ++ '@' :: q.hostPort
  else if c = 'U' then q.uri_user
  else if c = 'd' then q.hostPort
  else if c = 'h' then q.uri_host
  else if c = 'p' then q.uri_port
  else if c = 'H' then q.uri_headers
  else if c = 'P' then q.uri_param
  else if c = 'n' then q.display_name
  else []

/-- `replaceParsedParam`: the number of characters to skip and the text.  `p` is the
    position in front of the component's letter. -/
def replaceParsedParam (L : Library) (s : List Char) (p : Nat) (parsed : AmUriParser) :
    Except Fault (Nat × List Char) := do
  let c ← charAt s (p + 1)
  if c = 'P' ∧ p + 3 < s.length then
    let b ← charAt s (p + 2)
    if b = '(' then
      let skip_p := closing s (p + 3)
      if skip_p = s.length then .ok (1, [])
      else
        let param_name ← substr s (p + 3) (skip_p - p - 3)
        if param_name.isEmpty then .ok (skip_p - p, parsed.uri_param)
        else
          match L.parse_gen_params parsed.uri_param with
          | none => .ok (1, [])
          | some params => .ok (skip_p - p, paramValue L params param_name)
    else .ok (1, parsed.uri_param)
  else .ok (1, parsed.component c)

/-! ### The placeholders -/

/-- The parser of an address, filled when it is empty; `false` when parsing fails. -/
def use (L : Library) (env : Env) (k : Address) (st : St) : Bool × St :=
  if (st.parser k).uri.isEmpty then
    let r := L.parse_uri { st.parser k with uri := env.uri k }
    (r.1, st.setParser k r.2)
  else (true, st)

/-- The text of a whole address. -/
def whole (L : Library) (env : Env) (k : Address) (st : St) : List Char :=
  if env.rebuild k then
    match k with
    | .ruri => L.uri_str st.ruriParser
    | .from_ => L.nameaddr_str st.fromParser
    | .to_ => L.nameaddr_str st.toParser
  else env.uri k

/-- The cases `'f'`, `'t'` and `'r'`. -/
def case_address (L : Library) (env : Env) (k : Address) (s : List Char) (p : Nat) (st : St) :
    Except Fault Step :=
  if s.length = p + 1 then .ok { out := whole L env k st, st := st }
  else do
    let c ← charAt s (p + 1)
    if c = '.' then .ok { out := whole L env k st, st := st }
    else if c = 't' ∧ (env.tag k).isSome then .ok { out := (env.tag k).getD [], st := st }
    else
      let parsed := use L env k st
      if parsed.1 then
        let r ← replaceParsedParam L s p (parsed.2.parser k)
        .ok { out := r.2, skip_chars := r.1, st := parsed.2 }
      else .ok { st := parsed.2 }

/-- The case `'c'`. -/
def case_c (env : Env) (s : List Char) (p : Nat) (st : St) : Except Fault Step :=
  if s.length = p + 1 then .ok { out := env.req.callid, st := st }
  else do
    let c ← charAt s (p + 1)
    .ok { out := if c = 'i' then env.req.callid else [], st := st }

/-- A case that prints one of several values by the letter that follows. -/
def case_letter (value : Char → List Char) (s : List Char) (p : Nat) (st : St) :
    Except Fault Step :=
  if s.length < p + 1 then .ok { st := st }
  else do
    let c ← charAt s (p + 1)
    .ok { out := value c, st := st }

/-- The values of the case `'s'`. -/
def Env.source (env : Env) (c : Char) : List Char :=
  if c = 'i' then env.req.remote_ip
  else if c = 'p' then formatInt env.req.remote_port
  else []

/-- The values of the case `'R'`. -/
def Env.received (env : Env) (c : Char) : List Char :=
  if c = 'i' then env.req.local_ip
  else if c = 'p' then formatInt env.req.local_port
  else if c = 'f' then formatInt env.req.local_if
  else if c = 'n' then (env.sip_ifs[env.req.local_if]?).elim [] SipInterface.name
  else if c = 'I' then (env.sip_ifs[env.req.local_if]?).elim [] SipInterface.public_ip
  else []

/-- The values of the case `'O'`. -/
def Env.outbound (env : Env) (c : Char) : List Char :=
  if c = 'i' then env.outbound_interface_host else []

/-- The values of a host and a port that the case `'d'` prints. -/
def destination (host port : List Char) (c : Char) : List Char :=
  if c = 'i' then host else if c = 'p' then port else []

/-- The case `'d'`. -/
def case_d (L : Library) (env : Env) (s : List Char) (p : Nat) (st : St) : Except Fault Step :=
  if s.length < p + 1 then .ok { st := st }
  else if !env.next_hop.isEmpty then
    match L.parse_next_hop env.next_hop with
    | none => .ok { st := st }
    | some [] => .ok { st := st }
    | some (dest :: _) => case_letter (destination dest.1 (formatInt dest.2)) s p st
  else
    let parsed := use L env .ruri st
    if parsed.1 then
      case_letter (destination parsed.2.ruriParser.uri_host parsed.2.ruriParser.uri_port)
        s p parsed.2
    else .ok { st := parsed.2 }

/-- A parser of its own for the value of a header. -/
def headerParser (L : Library) (env : Env) (hdr_name : List Char) : AmUriParser :=
  { uri := L.getHeader env.req.hdrs hdr_name }

/-- `case_HDR`. -/
def case_HDR (L : Library) (env : Env) (hdr_name : List Char) (s : List Char) (p : Nat)
    (st : St) : Except Fault Step :=
  let uriParser := headerParser L env hdr_name
  if s.length = p + 1 then .ok { out := uriParser.uri, st := st }
  else do
    let c ← charAt s (p + 1)
    if c = '.' then .ok { out := uriParser.uri, st := st }
    else
      let parsed := L.parse_uri uriParser
      if parsed.1 then
        if c = 'i' then .ok { out := parsed.2.component 'u', st := st }
        else
          let r ← replaceParsedParam L s p parsed.2
          .ok { out := r.2, skip_chars := r.1, st := st }
      else .ok { st := st }

/-- The case `'P'`. -/
def case_P (L : Library) (env : Env) (s : List Char) (p : Nat) (st : St) :
    Except Fault Step := do
  let c ← charAt s (p + 1)
  if c ≠ '(' then .ok { st := st }
  else if s.length < p + 3 then .ok { st := st }
  else
    let skip_p := closing s (p + 2)
    if skip_p = s.length then .ok { st := st }
    else
      let param_name ← substr s (p + 2) (skip_p - p - 2)
      .ok { out := L.get_header_keyvalue env.app_param param_name, skip_chars := skip_p - p,
            st := st }

/-- The case `'H'` from the opening bracket on, which is in front of
    `p + name_offset`. -/
def case_H_named (L : Library) (env : Env) (name_offset : Nat) (s : List Char) (p : Nat)
    (st : St) : Except Fault Step :=
  if s.length < name_offset + 1 then .ok { st := st }
  else
    let skip_p := closing s (p + name_offset)
    if skip_p = s.length then .ok { st := st }
    else do
      let hdr_name ← substr s (p + name_offset) (skip_p - p - name_offset)
      if name_offset = 2 then
        .ok { out := L.getHeader env.req.hdrs hdr_name, skip_chars := skip_p - p, st := st }
      else
        let uriParser := headerParser L env hdr_name
        let c ← charAt s (p + 1)
        if c = '.' then .ok { out := uriParser.uri, st := st }
        else
          let parsed := L.parse_uri uriParser
          if parsed.1 then
            let r ← replaceParsedParam L s p parsed.2
            .ok { out := r.2, skip_chars := skip_p - p, st := st }
          else .ok { st := st }

/-- The case `'H'`. -/
def case_H (L : Library) (env : Env) (s : List Char) (p : Nat) (st : St) :
    Except Fault Step := do
  let c ← charAt s (p + 1)
  if c ≠ '(' then
    let c₂ ← charAt s (p + 2)
    if c₂ ≠ '(' then .ok { st := st }
    else case_H_named L env 3 s p st
  else case_H_named L env 2 s p st

/-- `$_r`: `rand()%r_max`, which has the sign of `rand()`. -/
def random (L : Library) (br_str : List Char) (draws : Nat) :
    Except Fault (List Char × Nat) :=
  match L.str2int br_str with
  | none => .ok ("0".toList, draws)
  | some r_max =>
    if r_max = 0 then .error .division_by_zero
    else .ok (formatInt (Int.tmod (L.rand draws) r_max), draws + 1)

/-- The operators of `$_`. -/
def modify (L : Library) (operation : Char) (br_str : List Char) (draws : Nat) :
    Except Fault (List Char × Nat) :=
  if operation = 'u' then .ok (br_str.map Char.toUpper, draws)
  else if operation = 'l' then .ok (br_str.map Char.toLower, draws)
  else if operation = 's' then .ok (formatInt (br_str.length % 4294967296 : Nat), draws)
  else if operation = '5' then .ok (L.calculateMD5 br_str, draws)
  else if operation = 't' then
    .ok (if 4 ≤ br_str.length then br_str.drop (br_str.length - 3) else br_str, draws)
  else if operation = 'r' then random L br_str draws
  else .ok (br_str, draws)

/-- The case `'_'`; `rec` expands the bracket content. -/
def case_modify (L : Library) (rec : List Char → St → Except Fault (List Char × St))
    (s : List Char) (p : Nat) (st : St) : Except Fault Step :=
  if s.length < p + 4 then .ok { st := st }
  else do
    let operation ← charAt s (p + 1)
    let c ← charAt s (p + 2)
    if c ≠ '(' then .ok { st := st }
    else
      let skip_p := L.skip_to_end_of_brackets s (p + 3)
      if skip_p = s.length then .ok { skip_chars := skip_p - p, st := st }
      else
        let br_str ← substr s (p + 3) (skip_p - p - 3)
        let r ← rec br_str st
        let m ← modify L operation r.1 r.2.draws
        .ok { out := m.1, skip_chars := skip_p - p, st := { r.2 with draws := m.2 } }

/-- The case `'#'`. -/
def case_url_encode (L : Library) (rec : List Char → St → Except Fault (List Char × St))
    (s : List Char) (p : Nat) (st : St) : Except Fault Step := do
  let c ← charAt s (p + 1)
  if c ≠ '(' then .ok { st := st }
  else if s.length < p + 3 then .ok { st := st }
  else
    let skip_p := L.skip_to_end_of_brackets s (p + 2)
    if skip_p = s.length then .ok { skip_chars := skip_p - p, st := st }
    else
      let expr_str ← substr s (p + 2) (skip_p - p - 2)
      let r ← rec expr_str st
      .ok { out := url_encode r.1, skip_chars := skip_p - p, st := r.2 }

/-- The default case: its warning prints the two characters of the pattern. -/
def case_unknown (s : List Char) (p : Nat) (st : St) : Except Fault Step := do
  let _ ← charAt s (p + 1)
  .ok { st := st }

/-- `switch (s[p])` behind a `$`. -/
def placeholder (L : Library) (env : Env)
    (rec : List Char → St → Except Fault (List Char × St)) (s : List Char) (p : Nat) (st : St) :
    Except Fault Step := do
  let c ← charAt s p
  if c = 'f' then case_address L env .from_ s p st
  else if c = 't' then case_address L env .to_ s p st
  else if c = 'r' then case_address L env .ruri s p st
  else if c = 'c' then case_c env s p st
  else if c = 's' then case_letter env.source s p st
  else if c = 'd' then case_d L env s p st
  else if c = 'R' then case_letter env.received s p st
  else if c = 'O' then case_letter env.outbound s p st
  else if c = 'a' then case_HDR L env "P-Asserted-Identity".toList s p st
  else if c = 'p' then case_HDR L env "P-Preferred-Identity".toList s p st
  else if c = 'P' then case_P L env s p st
  else if c = 'H' then case_H L env s p st
  else if c = '_' then case_modify L rec s p st
  else if c = 'm' then .ok { out := env.req.method, st := st }
  else if c = '#' then case_url_encode L rec s p st
  else case_unknown s p st

/-! ### The scan -/

/-- The local variables of the loop. -/
structure Cursor where
  p : Nat := 0
  is_escaped : Bool := false
  res : List Char := []
  st : St
  deriving DecidableEq, Repr

/-- The character that an escape stands for. -/
def escape (c : Char) : Char :=
  if c = 'r' then '\r' else if c = 'n' then '\n' else if c = 't' then '\t' else c

/-- One iteration of the loop. -/
def iteration (L : Library) (env : Env)
    (rec : List Char → St → Except Fault (List Char × St)) (s : List Char) (k : Cursor) :
    Except Fault Cursor := do
  let c ← charAt s k.p
  if k.is_escaped then
    .ok { k with p := k.p + 1, is_escaped := false, res := k.res ++ [escape c] }
  else if c = '\\' then
    if k.p = s.length - 1 then .ok { k with p := k.p + 1, res := k.res ++ ['\\'] }
    else .ok { k with p := k.p + 1, is_escaped := true }
  else if c = '$' ∧ k.p + 1 ≤ s.length then
    let step ← placeholder L env rec s (k.p + 1) k.st
    .ok { p := k.p + 1 + step.skip_chars + 1, is_escaped := false, res := k.res ++ step.out,
          st := step.st }
  else .ok { k with p := k.p + 1, res := k.res ++ [c] }

/-- The loop, with at most `fuel` iterations and as deep a nesting. -/
def run (L : Library) (env : Env) (fuel : Nat) (s : List Char) (k : Cursor) :
    Except Fault (List Char × St) :=
  match fuel with
  | 0 => .error .unfinished
  | n + 1 =>
    if k.p < s.length then do
      let k' ← iteration L env (fun br st => run L env n br { st := st }) s k
      run L env n s k'
    else .ok (k.res, k.st)

/-- `replaceParameters`. -/
def replaceParameters (L : Library) (env : Env) (s : List Char) (st : St) :
    Except Fault (List Char × St) :=
  run L env (s.length + 1) s { st := st }

/-! ### A library to evaluate with -/

/-- Splits `user@host`. -/
def userAtHost (q : AmUriParser) : Bool × AmUriParser :=
  if q.uri.contains '@' then
    (true, { q with uri_user := q.uri.takeWhile (· ≠ '@'),
                    uri_host := (q.uri.dropWhile (· ≠ '@')).drop 1 })
  else (false, q)

/-- A small core: a URI is `user@host`, a parameter list has no parameters, brackets do not
    nest, an integer has digits and a sign, and `rand()` counts. -/
def Library.small : Library where
  parse_uri := userAtHost
  nameaddr_str q := q.uri
  uri_str q := q.uri
  parse_gen_params _ := some []
  lower_cmp_n a b := a.map Char.toLower != b.map Char.toLower
  parse_next_hop _ := none
  getHeader _ _ := []
  get_header_keyvalue _ _ := []
  skip_to_end_of_brackets := closing
  calculateMD5 _ := []
  str2int s :=
    if s.head? = some '-' then (readDigits s.tail).map fun n : Nat => -(n : Int)
    else if s = ['0'] then some 0
    else (readDigits s).map fun n : Nat => (n : Int)
  rand n := n

/-- A request of Alice to Bob, with nothing replaced yet. -/
def Env.small : Env where
  req := {
    method := "INVITE".toList
    r_uri := "bob@b".toList
    from_ := "alice@a".toList
    from_tag := "1".toList
    to_ := "bob@b".toList
    to_tag := []
    callid := "c".toList
    hdrs := []
    remote_ip := "192.0.2.1".toList
    remote_port := 5060
    local_ip := "192.0.2.2".toList
    local_port := 5060
    local_if := 0 }
  next_hop := []
  app_param := []
  outbound_interface_host := []
  rebuild _ := false
  sip_ifs := []

theorem closing_bounds {s : List Char} {i : Nat} (h : i ≤ s.length) :
    i ≤ closing s i ∧ closing s i ≤ s.length := by
  have hlen : (s.drop i).findIdx (· == ')') ≤ (s.drop i).length := List.findIdx_le_length
  rw [List.length_drop] at hlen
  unfold closing
  omega

theorem Library.small_skipsWithin : Library.small.SkipsWithin := fun _ _ h => closing_bounds h

end Yeti.Params
