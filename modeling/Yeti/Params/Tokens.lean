import Yeti.Params.Scan

/-! # Tokens of a template

    The well-formed templates as lists of tokens, and what each token stands for on its
    own: its value does not depend on the tokens around it, and a header or a URI that
    cannot be evaluated gives the empty string.

    A `$kP` that is followed by an opening bracket is read as `$kP(name)`, so a list of
    tokens that renders to such a text has the longer token there.
-/

namespace Yeti.Params

open Decimal

/-! ### Tokens -/

/-- The headers that have a placeholder of their own. -/
inductive Identity where
  | pai
  | ppi
  deriving DecidableEq, Repr

def Identity.letter : Identity → Char
  | .pai => 'a'
  | .ppi => 'p'

def Identity.hdr_name : Identity → List Char
  | .pai => "P-Asserted-Identity".toList
  | .ppi => "P-Preferred-Identity".toList

def Address.letter : Address → Char
  | .ruri => 'r'
  | .from_ => 'f'
  | .to_ => 't'

/-- The values of the case `'c'`. -/
def Env.callid (env : Env) (c : Char) : List Char :=
  if c = 'i' then env.req.callid else []

/-- The two-character placeholders that print a field of the request. -/
inductive Field where
  | callid
  | source
  | received
  | outbound
  deriving DecidableEq, Repr

def Field.letter : Field → Char
  | .callid => 'c'
  | .source => 's'
  | .received => 'R'
  | .outbound => 'O'

def Field.value (env : Env) : Field → Char → List Char
  | .callid => env.callid
  | .source => env.source
  | .received => env.received
  | .outbound => env.outbound

/-- The placeholders without a template in brackets. -/
inductive Part where
  | address (k : Address) (x : Char)
  | addressParam (k : Address) (name : List Char)
  | identity (i : Identity) (x : Char)
  | identityParam (i : Identity) (name : List Char)
  | field (f : Field) (x : Char)
  | destination (x : Char)
  | method
  | app (name : List Char)
  | header (name : List Char)
  | headerPart (x : Char) (name : List Char)
  deriving DecidableEq, Repr

/-- The text behind the `$`. -/
def Part.text : Part → List Char
  | .address k x => [k.letter, x]
  | .addressParam k name => k.letter :: 'P' :: '(' :: (name ++ [')'])
  | .identity i x => [i.letter, x]
  | .identityParam i name => i.letter :: 'P' :: '(' :: (name ++ [')'])
  | .field f x => [f.letter, x]
  | .destination x => ['d', x]
  | .method => ['m']
  | .app name => 'P' :: '(' :: (name ++ [')'])
  | .header name => 'H' :: '(' :: (name ++ [')'])
  | .headerPart x name => 'H' :: x :: '(' :: (name ++ [')'])

/-- A token of a template. -/
inductive Token where
  | literal (c : Char)
  | escaped (c : Char)
  | part (l : Part)
  | modified (operation : Char) (inner : List Token)
  | encoded (inner : List Token)

mutual

def Token.render : Token → List Char
  | .literal c => [c]
  | .escaped c => ['\\', c]
  | .part l => '$' :: l.text
  | .modified operation inner => '$' :: '_' :: operation :: '(' :: (renderAll inner ++ [')'])
  | .encoded inner => '$' :: '#' :: '(' :: (renderAll inner ++ [')'])

/-- The template that a list of tokens is written as. -/
def renderAll : List Token → List Char
  | [] => []
  | t :: ts => t.render ++ renderAll ts

end

/-! ### Well-formed templates -/

/-- `skip_to_end_of_brackets` finds the closing bracket behind this content. -/
def Closes (L : Library) (content : List Char) : Prop :=
  ∀ pre rest, L.skip_to_end_of_brackets (pre ++ content ++ ')' :: rest) pre.length =
    pre.length + content.length

/-- Names do not contain the closing bracket; `rest` is the text behind the token. -/
def Part.WellFormed : Part → List Char → Prop
  | .address _ x, rest => x = 'P' → rest.head? ≠ some '('
  | .identity _ x, rest => x = 'P' → rest.head? ≠ some '('
  | .addressParam _ name, _ => ')' ∉ name
  | .identityParam _ name, _ => ')' ∉ name
  | .field _ _, _ => True
  | .destination _, _ => True
  | .method, _ => True
  | .app name, _ => ')' ∉ name
  | .header name, _ => ')' ∉ name
  | .headerPart x name, _ => x ≠ '(' ∧ ')' ∉ name

mutual

def Token.WellFormed (L : Library) : Token → List Char → Prop
  | .literal c, _ => c ≠ '\\' ∧ c ≠ '$'
  | .escaped _, _ => True
  | .part l, rest => l.WellFormed rest
  | .modified _ inner, _ => Closes L (renderAll inner) ∧ AllWellFormed L inner
  | .encoded inner, _ => Closes L (renderAll inner) ∧ AllWellFormed L inner

/-- A concatenation of well-formed tokens. -/
def AllWellFormed (L : Library) : List Token → Prop
  | [] => True
  | t :: ts => t.WellFormed L (renderAll ts) ∧ AllWellFormed L ts

end

/-! ### Values -/

/-- The URI of an address, if it can be evaluated at the start of the expansion. -/
def evaluated (L : Library) (env : Env) (st₀ : St) (k : Address) : Option AmUriParser :=
  if (use L env k st₀).1 then some ((use L env k st₀).2.parser k) else none

/-- The URI of a header, if it can be evaluated. -/
def headerUri (L : Library) (env : Env) (hdr_name : List Char) : Option AmUriParser :=
  if (L.parse_uri (headerParser L env hdr_name)).1 then
    some (L.parse_uri (headerParser L env hdr_name)).2
  else none

/-- The URI parameter of a name; without a name, all of them. -/
def paramText (L : Library) (q : AmUriParser) (name : List Char) : List Char :=
  if name.isEmpty then q.uri_param
  else (L.parse_gen_params q.uri_param).elim [] fun params => paramValue L params name

/-- The destination that the request is sent to: the next hop, or the request URI. -/
def destinationText (L : Library) (env : Env) (st₀ : St) (x : Char) : List Char :=
  if env.next_hop.isEmpty then
    (evaluated L env st₀ .ruri).elim [] fun q => destination q.uri_host q.uri_port x
  else
    ((L.parse_next_hop env.next_hop).bind List.head?).elim [] fun dest =>
      destination dest.1 (formatInt dest.2) x

/-- What a placeholder stands for. -/
def Part.value (L : Library) (env : Env) (st₀ : St) : Part → List Char
  | .address k x =>
    if x = '.' then whole L env k st₀
    else if x = 't' ∧ (env.tag k).isSome then (env.tag k).getD []
    else (evaluated L env st₀ k).elim [] fun q => q.component x
  | .addressParam k name => (evaluated L env st₀ k).elim [] fun q => paramText L q name
  | .identity i x =>
    if x = '.' then L.getHeader env.req.hdrs i.hdr_name
    else (headerUri L env i.hdr_name).elim [] fun q => q.component (if x = 'i' then 'u' else x)
  | .identityParam i name => (headerUri L env i.hdr_name).elim [] fun q => paramText L q name
  | .field f x => f.value env x
  | .destination x => destinationText L env st₀ x
  | .method => env.req.method
  | .app name => L.get_header_keyvalue env.app_param name
  | .header name => L.getHeader env.req.hdrs name
  | .headerPart x name =>
    if x = '.' then L.getHeader env.req.hdrs name
    else (headerUri L env name).elim [] fun q => q.component x

mutual

/-- What a token stands for, and the number of draws after it.  Where the operator gives
    no result the value is empty. -/
def Token.value (L : Library) (env : Env) (st₀ : St) : Token → Nat → List Char × Nat
  | .literal c, draws => ([c], draws)
  | .escaped c, draws => ([escape c], draws)
  | .part l, draws => (l.value L env st₀, draws)
  | .modified operation inner, draws =>
    let v := values L env st₀ inner draws
    (modify L operation v.1 v.2).toOption.getD ([], v.2)
  | .encoded inner, draws =>
    let v := values L env st₀ inner draws
    (url_encode v.1, v.2)

/-- The values of the tokens one after the other. -/
def values (L : Library) (env : Env) (st₀ : St) : List Token → Nat → List Char × Nat
  | [], draws => ([], draws)
  | t :: ts, draws =>
    let v := t.value L env st₀ draws
    let w := values L env st₀ ts v.2
    (v.1 ++ w.1, w.2)

end

/-! ### What the expansion of a token does -/

/-- A number of iterations of the loop. -/
def iterations (L : Library) (env : Env) (s : List Char) : Nat → Cursor → Except Fault Cursor
  | 0, k => .ok k
  | n + 1, k => iteration L env (replaceParameters L env) s k >>= iterations L env s n

/-- An escape takes two iterations. -/
def Token.steps : Token → Nat
  | .escaped _ => 2
  | _ => 1

/-- The token appends its value, and what remains to be scanned is the text behind it: none
    of its characters leaks, and no character behind it is lost. -/
structure Follows (L : Library) (env : Env) (st₀ : St) (s : List Char) (t : Token)
    (rest : List Char) (k k' : Cursor) : Prop where
  steps : iterations L env s t.steps k = .ok k'
  text : s.drop k'.p = rest
  escaped : k'.is_escaped = false
  res : k'.res = k.res ++ (t.value L env st₀ k.st.draws).1
  draws : k'.st.draws = (t.value L env st₀ k.st.draws).2

mutual

/-- The same of the tokens in its brackets. -/
def Token.InnerFollows (L : Library) (env : Env) (st₀ : St) : Token → St → Prop
  | .literal _, _ => True
  | .escaped _, _ => True
  | .part _, _ => True
  | .modified _ inner, st => Tokenwise L env st₀ inner (renderAll inner) { st := st }
  | .encoded inner, st => Tokenwise L env st₀ inner (renderAll inner) { st := st }

/-- The scan goes on token by token. -/
def Tokenwise (L : Library) (env : Env) (st₀ : St) : List Token → List Char → Cursor → Prop
  | [], _, _ => True
  | t :: ts, s, k =>
    t.InnerFollows L env st₀ k.st ∧
      ∃ k', Follows L env st₀ s t (renderAll ts) k k' ∧ Tokenwise L env st₀ ts s k'

end

/-- Template expansion is compositional on this template: it gives the values of the tokens,
    one after the other, and scans it token by token. -/
def Compositional (L : Library) (env : Env) (ts : List Token) (st : St) : Prop :=
  (∃ st', replaceParameters L env (renderAll ts) st = .ok ((values L env st ts st.draws).1, st')) ∧
    Tokenwise L env st ts (renderAll ts) { st := st }

/-! ### Where it does so -/

/-- The parser of an address as the first evaluation leaves it. -/
def left (L : Library) (env : Env) (st₀ : St) (k : Address) : AmUriParser :=
  (use L env k st₀).2.parser k

/-- The URI of the address could not be parsed, at an earlier placeholder that left it in
    the parser. -/
def Stale (L : Library) (env : Env) (st₀ : St) (seen : Address → Bool) (k : Address) : Prop :=
  seen k = true ∧ (use L env k st₀).1 = false ∧ env.uri k ≠ []

/-- The parameter list is parsed, or not looked into. -/
def ParamsParse (L : Library) (q : AmUriParser) (name : List Char) : Prop :=
  name.isEmpty = true ∨ (L.parse_gen_params q.uri_param).isSome = true

/-- The placeholder stands in front of `rest`, after placeholders that have evaluated the
    addresses `seen`. -/
def Part.Clean (L : Library) (env : Env) (st₀ : St) :
    Part → List Char → (Address → Bool) → Prop
  | .address k x, _, seen =>
    x = '.' ∨ (x = 't' ∧ (env.tag k).isSome) ∨
      (Stale L env st₀ seen k → (left L env st₀ k).component x = [])
  | .addressParam k name, _, seen =>
    ((use L env k st₀).1 = true ∨
        (Stale L env st₀ seen k ∧ paramText L (left L env st₀ k) name = [])) ∧
      ParamsParse L (left L env st₀ k) name
  | .identity _ _, _, _ => True
  | .identityParam i name, _, _ =>
    (L.parse_uri (headerParser L env i.hdr_name)).1 = true ∧
      ParamsParse L (L.parse_uri (headerParser L env i.hdr_name)).2 name
  | .field _ _, _, _ => True
  | .destination x, _, seen =>
    env.next_hop ≠ [] ∨ (Stale L env st₀ seen .ruri →
      Params.destination (left L env st₀ .ruri).uri_host (left L env st₀ .ruri).uri_port x = [])
  | .method, rest, _ => rest = []
  | .app _, _, _ => True
  | .header _, _, _ => True
  | .headerPart x name, _, _ =>
    x ≠ '.' ∧ (L.parse_uri (headerParser L env name)).1 = true ∧
      (x = 'P' → paramText L (L.parse_uri (headerParser L env name)).2 name =
        (L.parse_uri (headerParser L env name)).2.uri_param)

/-- The address that a placeholder evaluates. -/
def Part.evaluates (env : Env) : Part → Option Address
  | .address k x => if x = '.' ∨ (x = 't' ∧ (env.tag k).isSome) then none else some k
  | .addressParam k _ => some k
  | .destination _ => if env.next_hop.isEmpty then some .ruri else none
  | _ => none

/-- The addresses evaluated so far, with one more. -/
def see (seen : Address → Bool) (o : Option Address) : Address → Bool :=
  fun k => seen k || o = some k

mutual

def Token.see (env : Env) : Token → (Address → Bool) → Address → Bool
  | .literal _, seen => seen
  | .escaped _, seen => seen
  | .part l, seen => Params.see seen (l.evaluates env)
  | .modified _ inner, seen => seeAll env inner seen
  | .encoded inner, seen => seeAll env inner seen

/-- The addresses that have been evaluated behind a list of tokens. -/
def seeAll (env : Env) : List Token → (Address → Bool) → Address → Bool
  | [], seen => seen
  | t :: ts, seen => seeAll env ts (t.see env seen)

end

mutual

def Token.Clean (L : Library) (env : Env) (st₀ : St) :
    Token → List Char → (Address → Bool) → Nat → Prop
  | .literal _, _, _, _ => True
  | .escaped _, _, _, _ => True
  | .part l, rest, seen, _ => l.Clean L env st₀ rest seen
  | .modified operation inner, _, seen, draws =>
    AllClean L env st₀ inner seen draws ∧
      ¬(operation = 'r' ∧ L.str2int (values L env st₀ inner draws).1 = some 0)
  | .encoded inner, _, seen, draws => AllClean L env st₀ inner seen draws

/-- The condition for a list of tokens behind placeholders that have evaluated the
    addresses `seen`, with the number of draws so far. -/
def AllClean (L : Library) (env : Env) (st₀ : St) :
    List Token → (Address → Bool) → Nat → Prop
  | [], _, _ => True
  | t :: ts, seen, draws =>
    t.Clean L env st₀ (renderAll ts) seen draws ∧
      AllClean L env st₀ ts (t.see env seen) (t.value L env st₀ draws).2

end

end Yeti.Params
