import Yeti.Params.Tokens

/-! # Placeholders one by one

    What each placeholder does when the scan stands at its letter, and when this is what it
    stands for.  The parsers of the addresses are the only thing that a placeholder leaves
    to later ones; `Tracks` says what they hold.
-/

namespace Yeti.Params

open Decimal

variable {L : Library} {env : Env} {rec : List Char → St → Except Fault (List Char × St)}
  {s rest name : List Char} {p : Nat} {st st₀ : St} {seen : Address → Bool}

/-! ### The template in front of the scan -/

theorem getElem?_of_drop {l : List Char} (h : s.drop p = l) (i : Nat) : s[p + i]? = l[i]? := by
  rw [← h, List.getElem?_drop]

theorem charAt_of_drop {l : List Char} (h : s.drop p = l) {i : Nat} {c : Char}
    (hc : l[i]? = some c) : charAt s (p + i) = .ok c := by
  refine charAt_of_getElem? ?_
  rw [getElem?_of_drop h, hc]

theorem head_of_drop {c : Char} (h : s.drop p = c :: rest) : charAt s p = .ok c :=
  charAt_of_drop h (i := 0) rfl

theorem length_of_drop {l : List Char} (h : s.drop p = l) (hne : l ≠ []) :
    s.length = p + l.length := by
  have hlen := congrArg List.length h
  have hpos := List.length_pos_of_ne_nil hne
  rw [List.length_drop] at hlen
  omega

theorem drop_add_of_drop {l : List Char} (h : s.drop p = l) (n : Nat) :
    s.drop (p + n) = l.drop n := by
  rw [← List.drop_drop, h]

theorem findIdx_closing (hname : ')' ∉ name) :
    (name ++ ')' :: rest).findIdx (· == ')') = name.length := by
  induction name with
  | nil => rfl
  | cons c name ih =>
    have hc : (c == ')') = false := by
      rw [beq_eq_false_iff_ne]
      rintro rfl
      exact hname List.mem_cons_self
    rw [List.cons_append, List.findIdx_cons, hc, ih (fun h => hname (List.mem_cons_of_mem _ h))]
    rfl

theorem closing_of_drop (h : s.drop p = name ++ ')' :: rest) (hname : ')' ∉ name) :
    closing s p = p + name.length := by
  rw [closing, h, findIdx_closing hname]

theorem substr_of_drop (h : s.drop p = name ++ ')' :: rest) :
    substr s p name.length = .ok name := by
  have hlen := length_of_drop h (by simp)
  rw [substr_of_le _ (by omega), h, List.take_left]

/-- Behind the text of a placeholder stands what follows it. -/
theorem drop_text {text : List Char} (h : s.drop p = text ++ rest) {n : Nat}
    (hn : n = text.length) : s.drop (p + n) = rest := by
  rw [drop_add_of_drop h, hn, List.drop_left]

/-- A shorter step leaks a part of the placeholder. -/
theorem drop_text_ne {text : List Char} (h : s.drop p = text ++ rest) {n : Nat}
    (hn : n < text.length) : s.drop (p + n) ≠ rest := by
  intro heq
  rw [drop_add_of_drop h] at heq
  have hlen := congrArg List.length heq
  rw [List.length_drop, List.length_append] at hlen
  omega

/-! ### The parsers -/

/-- What the core's URI parser is relied on for: it leaves the URI itself alone, and it
    fails on an empty one. -/
structure Library.ParsesUri (L : Library) : Prop where
  keeps : ∀ q, (L.parse_uri q).2.uri = q.uri
  empty : ∀ q : AmUriParser, q.uri = [] → (L.parse_uri q).1 = false

/-- An address that is to be rebuilt has been parsed by the caller. -/
def Prepared (env : Env) (st₀ : St) : Prop :=
  ∀ k, env.rebuild k = true → (st₀.parser k).uri ≠ []

@[simp] theorem parser_setParser_self (k : Address) (q : AmUriParser) :
    (st.setParser k q).parser k = q := by
  cases k <;> rfl

theorem parser_setParser_ne {k k' : Address} (h : k' ≠ k) (q : AmUriParser) :
    (st.setParser k q).parser k' = st.parser k' := by
  cases k <;> cases k' <;> first | rfl | exact absurd rfl h

@[simp] theorem draws_setParser (k : Address) (q : AmUriParser) :
    (st.setParser k q).draws = st.draws := by
  cases k <;> rfl

/-- What the parser of an address holds, in terms of the start of the expansion. -/
structure TracksAt (L : Library) (env : Env) (st₀ : St) (k : Address) (seen : Bool)
    (q : AmUriParser) : Prop where
  unseen : seen = false → q = st₀.parser k
  filled : (st₀.parser k).uri ≠ [] → q = st₀.parser k
  left : (st₀.parser k).uri = [] → seen = true → env.uri k ≠ [] → q = left L env st₀ k
  empty : (st₀.parser k).uri = [] → env.uri k = [] → q.uri = []

/-- The parsers are those of the start, but for the addresses that have been evaluated. -/
def Tracks (L : Library) (env : Env) (st₀ : St) (seen : Address → Bool) (st : St) : Prop :=
  ∀ k, TracksAt L env st₀ k (seen k) (st.parser k)

theorem tracks_start : Tracks L env st (fun _ => false) st := by
  intro k
  exact ⟨fun _ => rfl, fun _ => rfl, fun _ h => Bool.noConfusion h, fun h _ => h⟩

theorem use_filled (L : Library) (env : Env) {k : Address} (h : (st.parser k).uri ≠ []) :
    use L env k st = (true, st) := by
  unfold use
  rw [if_neg (by simpa using h)]

theorem use_empty (L : Library) (env : Env) {k : Address} (h : (st.parser k).uri = []) :
    use L env k st =
      ((L.parse_uri { st.parser k with uri := env.uri k }).1,
        st.setParser k (L.parse_uri { st.parser k with uri := env.uri k }).2) := by
  unfold use
  rw [if_pos (by simpa using h)]

theorem left_filled (L : Library) (env : Env) {k : Address} (h : (st₀.parser k).uri ≠ []) :
    left L env st₀ k = st₀.parser k := by
  rw [left, use_filled L env h]

theorem left_empty (L : Library) (env : Env) {k : Address} (h : (st₀.parser k).uri = []) :
    left L env st₀ k = (L.parse_uri { st₀.parser k with uri := env.uri k }).2 := by
  rw [left, use_empty L env h]
  exact parser_setParser_self k _

theorem see_self (seen : Address → Bool) (k : Address) : see seen (some k) k = true := by
  simp [see]

theorem see_ne (seen : Address → Bool) {k k' : Address} (h : k' ≠ k) :
    see seen (some k) k' = seen k' := by
  simp [see, Ne.symm h]

theorem see_none (seen : Address → Bool) : see seen none = seen := by
  funext k
  simp [see]

/-- Evaluating an address keeps track of it. -/
theorem tracks_set (hT : Tracks L env st₀ seen st) {k : Address} {q : AmUriParser}
    (hq : TracksAt L env st₀ k true q) :
    Tracks L env st₀ (see seen (some k)) (st.setParser k q) := by
  intro k'
  by_cases hk : k' = k
  · subst hk
    rw [see_self, parser_setParser_self]
    exact hq
  · rw [see_ne _ hk, parser_setParser_ne hk]
    exact hT k'

theorem tracks_see (hT : Tracks L env st₀ seen st) {k : Address}
    (hk : TracksAt L env st₀ k true (st.parser k)) : Tracks L env st₀ (see seen (some k)) st := by
  intro k'
  by_cases hne : k' = k
  · subst hne
    rw [see_self]
    exact hk
  · rw [see_ne _ hne]
    exact hT k'

/-- What an evaluation finds, in terms of the start of the expansion. -/
structure Uses (L : Library) (env : Env) (st₀ : St) (seen : Address → Bool) (k : Address)
    (st : St) : Prop where
  found : (use L env k st).1 = true ↔ (use L env k st₀).1 = true ∨ Stale L env st₀ seen k
  parser : (use L env k st).1 = true → (use L env k st).2.parser k = left L env st₀ k
  tracks : Tracks L env st₀ (see seen (some k)) (use L env k st).2
  draws : (use L env k st).2.draws = st.draws

/-- The caller has filled the parser. -/
theorem uses_of_filled (hT : Tracks L env st₀ seen st) {k : Address}
    (hfilled : (st₀.parser k).uri ≠ []) : Uses L env st₀ seen k st := by
  have hq : st.parser k = st₀.parser k := (hT k).filled hfilled
  have huse := use_filled L env (hq ▸ hfilled : (st.parser k).uri ≠ [])
  have hstart := use_filled L env hfilled
  refine ⟨?_, ?_, ?_, ?_⟩
  · rw [huse, hstart]
    simp
  · rw [huse, left_filled L env hfilled]
    exact fun _ => hq
  · rw [huse]
    exact tracks_see hT ⟨fun h => Bool.noConfusion h, fun _ => hq, fun h => absurd h hfilled,
      fun h => absurd h hfilled⟩
  · rw [huse]

/-- An empty URI is parsed again each time, and fails each time. -/
theorem uses_of_empty (hparse : L.ParsesUri) (hT : Tracks L env st₀ seen st) {k : Address}
    (hstart : (st₀.parser k).uri = []) (huri : env.uri k = []) : Uses L env st₀ seen k st := by
  have hfail : ∀ q : AmUriParser, (L.parse_uri { q with uri := env.uri k }).1 = false :=
    fun q => hparse.empty _ huri
  have huse := use_empty L env ((hT k).empty hstart huri)
  have hnotstale : ¬Stale L env st₀ seen k := fun h => h.2.2 huri
  refine ⟨?_, ?_, ?_, ?_⟩
  · rw [huse, use_empty L env hstart, hfail, hfail]
    simp [hnotstale]
  · rw [huse, hfail]
    intro h
    cases h
  · rw [huse]
    refine tracks_set hT ⟨fun h => Bool.noConfusion h, fun h => absurd hstart h,
      fun _ _ h => absurd huri h, fun _ _ => ?_⟩
    rw [hparse.keeps]
    exact huri
  · rw [huse]
    exact draws_setParser _ _

/-- An earlier placeholder has filled the parser, whether it could parse the URI or not. -/
theorem uses_of_seen (hparse : L.ParsesUri) (hT : Tracks L env st₀ seen st) {k : Address}
    (hstart : (st₀.parser k).uri = []) (huri : env.uri k ≠ []) (hseen : seen k = true) :
    Uses L env st₀ seen k st := by
  have hq : st.parser k = left L env st₀ k := (hT k).left hstart hseen huri
  have hne : (st.parser k).uri ≠ [] := by
    rw [hq, left_empty L env hstart, hparse.keeps]
    exact huri
  have huse := use_filled L env hne
  refine ⟨?_, ?_, ?_, ?_⟩
  · rw [huse]
    refine iff_of_true rfl ?_
    cases hok : (use L env k st₀).1 with
    | true => exact .inl rfl
    | false => exact .inr ⟨hseen, hok, huri⟩
  · rw [huse]
    exact fun _ => hq
  · rw [huse]
    exact tracks_see hT ⟨fun h => Bool.noConfusion h, fun h => absurd hstart h,
      fun _ _ _ => hq, fun _ h => absurd h huri⟩
  · rw [huse]

theorem uses_of_unseen (hT : Tracks L env st₀ seen st) {k : Address}
    (hstart : (st₀.parser k).uri = []) (huri : env.uri k ≠ []) (hseen : seen k = false) :
    Uses L env st₀ seen k st := by
  have hq : st.parser k = st₀.parser k := (hT k).unseen hseen
  have huse := use_empty L env (hq ▸ hstart : (st.parser k).uri = [])
  rw [hq, ← left_empty L env hstart] at huse
  have hnotstale : ¬Stale L env st₀ seen k := by
    intro h
    rw [h.1] at hseen
    cases hseen
  refine ⟨?_, ?_, ?_, ?_⟩
  · rw [huse, use_empty L env hstart]
    simp [hnotstale]
  · rw [huse]
    exact fun _ => parser_setParser_self _ _
  · rw [huse]
    exact tracks_set hT ⟨fun h => Bool.noConfusion h, fun h => absurd hstart h,
      fun _ _ _ => rfl, fun _ h => absurd h huri⟩
  · rw [huse]
    exact draws_setParser _ _

theorem uses_of_tracks (hparse : L.ParsesUri) (hT : Tracks L env st₀ seen st) (k : Address) :
    Uses L env st₀ seen k st := by
  by_cases hstart : (st₀.parser k).uri = []
  · by_cases huri : env.uri k = []
    · exact uses_of_empty hparse hT hstart huri
    · cases hseen : seen k with
      | true => exact uses_of_seen hparse hT hstart huri hseen
      | false => exact uses_of_unseen hT hstart huri hseen
  · exact uses_of_filled hT hstart

/-- A text from the parser in use is that of the start, unless the parser is stale. -/
theorem use_text_iff {k : Address} (hU : Uses L env st₀ seen k st) (f : AmUriParser → List Char) :
    (if (use L env k st).1 then f ((use L env k st).2.parser k) else []) =
        (evaluated L env st₀ k).elim [] f ↔
      (Stale L env st₀ seen k → f (left L env st₀ k) = []) := by
  unfold evaluated
  by_cases hok : (use L env k st₀).1 = true
  · have hfound : (use L env k st).1 = true := hU.found.mpr (.inl hok)
    rw [if_pos hfound, if_pos hok, hU.parser hfound, Option.elim_some]
    refine iff_of_true rfl fun hstale => ?_
    rw [hstale.2.1] at hok
    cases hok
  · rw [if_neg hok, Option.elim_none]
    by_cases hstale : Stale L env st₀ seen k
    · have hfound : (use L env k st).1 = true := hU.found.mpr (.inr hstale)
      rw [if_pos hfound, hU.parser hfound]
      exact ⟨fun h _ => h, fun h => h hstale⟩
    · have hlost : ¬(use L env k st).1 = true := fun h => (hU.found.mp h).elim hok hstale
      rw [if_neg hlost]
      exact iff_of_true rfl fun h => absurd h hstale

/-- A text of the parser that is used is that of the evaluated one, unless it is stale. -/
theorem left_text_iff {k : Address} (hU : Uses L env st₀ seen k st)
    (hfound : (use L env k st).1 = true) (f : AmUriParser → List Char) :
    f (left L env st₀ k) = (evaluated L env st₀ k).elim [] f ↔
      (use L env k st₀).1 = true ∨ Stale L env st₀ seen k ∧ f (left L env st₀ k) = [] := by
  have htexts := use_text_iff hU f
  rw [if_pos hfound, hU.parser hfound] at htexts
  rw [htexts]
  constructor
  · intro hstale
    rcases hU.found.mp hfound with hok | hold
    · exact .inl hok
    · exact .inr ⟨hold, hstale hold⟩
  · rintro (hok | ⟨-, hempty⟩) hstale
    · rw [hstale.2.1] at hok
      cases hok
    · exact hempty

theorem whole_of_tracks (hprep : Prepared env st₀) (hT : Tracks L env st₀ seen st)
    (k : Address) : whole L env k st = whole L env k st₀ := by
  unfold whole
  by_cases hrebuild : env.rebuild k = true
  · have hq : st.parser k = st₀.parser k := (hT k).filled (hprep k hrebuild)
    rw [if_pos hrebuild, if_pos hrebuild]
    cases k with
    | ruri => exact congrArg L.uri_str hq
    | from_ => exact congrArg L.nameaddr_str hq
    | to_ => exact congrArg L.nameaddr_str hq
  · rw [if_neg hrebuild, if_neg hrebuild]

/-! ### Components -/

theorem component_of_drop {c x : Char} (h : s.drop p = c :: x :: rest)
    (hx : x = 'P' → rest.head? ≠ some '(') (q : AmUriParser) :
    replaceParsedParam L s p q = .ok (1, q.component x) := by
  unfold replaceParsedParam
  rw [charAt_of_drop h (i := 1) rfl, ok_bind]
  by_cases hP : x = 'P' ∧ p + 3 < s.length
  · rw [if_pos hP]
    obtain ⟨rfl, hlen⟩ := hP
    have hlength := length_of_drop h (by simp)
    cases rest with
    | nil =>
      rw [List.length_cons, List.length_cons, List.length_nil] at hlength
      omega
    | cons b rest =>
      have hb : b ≠ '(' := fun hb => hx rfl (congrArg some hb)
      rw [charAt_of_drop h (i := 2) rfl, ok_bind, if_neg hb]
      rfl
  · rw [if_neg hP]

theorem param_of_drop {c : Char} (h : s.drop p = c :: 'P' :: '(' :: (name ++ ')' :: rest))
    (hname : ')' ∉ name) (q : AmUriParser) :
    replaceParsedParam L s p q =
      if name.isEmpty then .ok (name.length + 3, q.uri_param)
      else
        (L.parse_gen_params q.uri_param).elim (.ok (1, [])) fun params =>
          .ok (name.length + 3, paramValue L params name) := by
  have hlength := length_of_drop h (by simp)
  simp only [List.length_cons, List.length_append] at hlength
  have hrest : s.drop (p + 3) = name ++ ')' :: rest := drop_add_of_drop h 3
  have hskip := closing_of_drop hrest hname
  have hend : p + 3 + name.length ≠ s.length := by omega
  have hchars : p + 3 + name.length - p = name.length + 3 := by omega
  unfold replaceParsedParam
  rw [charAt_of_drop h (i := 1) rfl, ok_bind, if_pos ⟨rfl, by omega⟩,
    charAt_of_drop h (i := 2) rfl, ok_bind, if_pos rfl]
  simp only [hskip, if_neg hend, hchars, Nat.add_sub_cancel, substr_of_drop hrest, ok_bind]
  cases L.parse_gen_params q.uri_param with
  | none => rfl
  | some params => rfl

theorem param_parsed {c : Char} (h : s.drop p = c :: 'P' :: '(' :: (name ++ ')' :: rest))
    (hname : ')' ∉ name) {q : AmUriParser} (hq : ParamsParse L q name) :
    replaceParsedParam L s p q = .ok (name.length + 3, paramText L q name) := by
  rw [param_of_drop h hname, paramText]
  by_cases hempty : name.isEmpty = true
  · rw [if_pos hempty, if_pos hempty]
  · obtain ⟨params, hparams⟩ := Option.isSome_iff_exists.mp (hq.resolve_left hempty)
    rw [if_neg hempty, if_neg hempty, hparams]
    rfl

theorem param_unparsed {c : Char} (h : s.drop p = c :: 'P' :: '(' :: (name ++ ')' :: rest))
    (hname : ')' ∉ name) {q : AmUriParser} (hq : ¬ParamsParse L q name) :
    replaceParsedParam L s p q = .ok (1, []) := by
  obtain ⟨hempty, hnone⟩ := not_or.mp hq
  rw [param_of_drop h hname, if_neg hempty, Option.not_isSome_iff_eq_none.mp hnone,
    Option.elim_none]

/-- The text of a parameter whose list cannot be parsed is empty, as that of the branch. -/
theorem paramText_unparsed {q : AmUriParser} (hq : ¬ParamsParse L q name) :
    paramText L q name = [] := by
  obtain ⟨hempty, hnone⟩ := not_or.mp hq
  rw [paramText, if_neg hempty, Option.not_isSome_iff_eq_none.mp hnone]
  rfl

/-! ### The placeholders -/

/-- What a placeholder does, and when it is what it stands for. -/
structure Does (L : Library) (env : Env) (st₀ : St) (s rest : List Char) (p : Nat)
    (seen : Address → Bool) (st : St) (l : Part) (step : Step) : Prop where
  eq : ∀ rec, placeholder L env rec s p st = .ok step
  draws : step.st.draws = st.draws
  tracks : Tracks L env st₀ (see seen (l.evaluates env)) step.st
  exact_iff : s.drop (p + (step.skip_chars + 1)) = rest ∧ step.out = l.value L env st₀ ↔
    l.Clean L env st₀ rest seen

/-- A placeholder that evaluates no address, is skipped as a whole and gives its value. -/
theorem does_of_value {l : Part} (hT : Tracks L env st₀ seen st) {step : Step}
    (heq : ∀ rec, placeholder L env rec s p st = .ok step) (hst : step.st = st)
    (hnone : l.evaluates env = none) (hdrop : s.drop p = l.text ++ rest)
    (hskip : step.skip_chars + 1 = l.text.length) (hout : step.out = l.value L env st₀)
    (hclean : l.Clean L env st₀ rest seen) : Does L env st₀ s rest p seen st l step where
  eq := heq
  draws := by rw [hst]
  tracks := by
    rw [hnone, see_none, hst]
    exact hT
  exact_iff := iff_of_true ⟨drop_text hdrop hskip, hout⟩ hclean

/-- A placeholder that is not skipped as a whole. -/
theorem does_of_leak {l : Part} (hT : Tracks L env st₀ seen st) {step : Step}
    (heq : ∀ rec, placeholder L env rec s p st = .ok step) (hst : step.st = st)
    (hnone : l.evaluates env = none) (hdrop : s.drop p = l.text ++ rest)
    (hskip : step.skip_chars + 1 < l.text.length)
    (hclean : ¬l.Clean L env st₀ rest seen) : Does L env st₀ s rest p seen st l step where
  eq := heq
  draws := by rw [hst]
  tracks := by
    rw [hnone, see_none, hst]
    exact hT
  exact_iff := iff_of_false (fun h => drop_text_ne hdrop hskip h.1) hclean

theorem field_does (f : Field) (x : Char) (hT : Tracks L env st₀ seen st)
    (hdrop : s.drop p = f.letter :: x :: rest) :
    Does L env st₀ s rest p seen st (.field f x) { out := f.value env x, st := st } := by
  have hlength := length_of_drop hdrop (by simp)
  simp only [List.length_cons] at hlength
  have hx : charAt s (p + 1) = .ok x := charAt_of_drop hdrop (i := 1) rfl
  have hletter : ∀ value : Char → List Char,
      case_letter value s p st = .ok { out := value x, st := st } := by
    intro value
    rw [case_letter, if_neg (by omega), hx, ok_bind]
  refine does_of_value hT (fun rec => ?_) rfl rfl hdrop rfl rfl trivial
  unfold placeholder
  rw [head_of_drop hdrop, ok_bind]
  cases f with
  | callid =>
    have hcase : case_c env s p st = .ok { out := env.callid x, st := st } := by
      rw [case_c, if_neg (by omega), hx, ok_bind]
      rfl
    exact hcase
  | source => exact hletter env.source
  | received => exact hletter env.received
  | outbound => exact hletter env.outbound

/-- `$m` skips a character that is not its own. -/
theorem method_does (hT : Tracks L env st₀ seen st) (hdrop : s.drop p = 'm' :: rest) :
    Does L env st₀ s rest p seen st .method { out := env.req.method, st := st } where
  eq := by
    intro rec
    unfold placeholder
    rw [head_of_drop hdrop, ok_bind]
    rfl
  draws := rfl
  tracks := by
    rw [show Part.evaluates env .method = none from rfl, see_none]
    exact hT
  exact_iff := by
    have hskip : s.drop (p + (1 + 1)) = rest.drop 1 := drop_add_of_drop hdrop 2
    show s.drop (p + (1 + 1)) = rest ∧ env.req.method = env.req.method ↔ rest = []
    rw [hskip]
    constructor
    · rintro ⟨h, -⟩
      have hlen := congrArg List.length h
      rw [List.length_drop] at hlen
      exact List.length_eq_zero_iff.mp (by omega)
    · rintro rfl
      exact ⟨rfl, rfl⟩

theorem app_does (hname : ')' ∉ name) (hT : Tracks L env st₀ seen st)
    (hdrop : s.drop p = 'P' :: '(' :: (name ++ ')' :: rest)) :
    Does L env st₀ s rest p seen st (.app name)
      { out := L.get_header_keyvalue env.app_param name, skip_chars := name.length + 2,
        st := st } := by
  have hlength := length_of_drop hdrop (by simp)
  simp only [List.length_cons, List.length_append] at hlength
  have hrest : s.drop (p + 2) = name ++ ')' :: rest := drop_add_of_drop hdrop 2
  have hskip := closing_of_drop hrest hname
  have hend : p + 2 + name.length ≠ s.length := by omega
  have hchars : p + 2 + name.length - p = name.length + 2 := by omega
  refine does_of_value hT (fun rec => ?_) rfl rfl ?_ ?_ rfl trivial
  · unfold placeholder
    rw [head_of_drop hdrop, ok_bind]
    show case_P L env s p st = _
    unfold case_P
    rw [charAt_of_drop hdrop (i := 1) rfl, ok_bind, if_neg (by decide),
      if_neg (by omega : ¬s.length < p + 3)]
    simp only [hskip, if_neg hend, hchars, Nat.add_sub_cancel, substr_of_drop hrest, ok_bind]
  · rw [hdrop]
    simp [Part.text]
  · simp [Part.text]

theorem header_does (hname : ')' ∉ name) (hT : Tracks L env st₀ seen st)
    (hdrop : s.drop p = 'H' :: '(' :: (name ++ ')' :: rest)) :
    Does L env st₀ s rest p seen st (.header name)
      { out := L.getHeader env.req.hdrs name, skip_chars := name.length + 2, st := st } := by
  have hlength := length_of_drop hdrop (by simp)
  simp only [List.length_cons, List.length_append] at hlength
  have hrest : s.drop (p + 2) = name ++ ')' :: rest := drop_add_of_drop hdrop 2
  have hskip := closing_of_drop hrest hname
  have hend : p + 2 + name.length ≠ s.length := by omega
  have hchars : p + 2 + name.length - p = name.length + 2 := by omega
  refine does_of_value hT (fun rec => ?_) rfl rfl ?_ ?_ rfl trivial
  · unfold placeholder
    rw [head_of_drop hdrop, ok_bind]
    show case_H L env s p st = _
    unfold case_H case_H_named
    rw [charAt_of_drop hdrop (i := 1) rfl, ok_bind, if_neg (by decide),
      if_neg (by omega : ¬s.length < 2 + 1)]
    simp only [hskip, if_neg hend, hchars, Nat.add_sub_cancel, substr_of_drop hrest, ok_bind,
      if_true]
  · rw [hdrop]
    simp [Part.text]
  · simp [Part.text]

/-! ### The placeholders that parse a URI -/

theorem placeholder_address {k : Address} (hdrop : s.drop p = k.letter :: rest) :
    placeholder L env rec s p st = case_address L env k s p st := by
  unfold placeholder
  rw [head_of_drop hdrop, ok_bind]
  cases k <;> rfl

theorem placeholder_identity {i : Identity} (hdrop : s.drop p = i.letter :: rest) :
    placeholder L env rec s p st = case_HDR L env i.hdr_name s p st := by
  unfold placeholder
  rw [head_of_drop hdrop, ok_bind]
  cases i <;> rfl

/-- The branch of an address, with its second character read. -/
theorem case_address_of_drop (L : Library) (env : Env) (k : Address) (st : St) {c x : Char}
    (hdrop : s.drop p = c :: x :: rest) :
    case_address L env k s p st =
      if x = '.' then .ok { out := whole L env k st, st := st }
      else if x = 't' ∧ (env.tag k).isSome then .ok { out := (env.tag k).getD [], st := st }
      else if (use L env k st).1 then
        replaceParsedParam L s p ((use L env k st).2.parser k) >>= fun r =>
          .ok { out := r.2, skip_chars := r.1, st := (use L env k st).2 }
      else .ok { st := (use L env k st).2 } := by
  have hlength := length_of_drop hdrop (by simp)
  simp only [List.length_cons] at hlength
  unfold case_address
  rw [if_neg (by omega), charAt_of_drop hdrop (i := 1) rfl, ok_bind]

theorem case_HDR_of_drop {hdr_name : List Char} {c x : Char}
    (hdrop : s.drop p = c :: x :: rest) :
    case_HDR L env hdr_name s p st =
      if x = '.' then .ok { out := L.getHeader env.req.hdrs hdr_name, st := st }
      else if (L.parse_uri (headerParser L env hdr_name)).1 then
        if x = 'i' then
          .ok { out := (L.parse_uri (headerParser L env hdr_name)).2.component 'u', st := st }
        else
          replaceParsedParam L s p (L.parse_uri (headerParser L env hdr_name)).2 >>= fun r =>
            .ok { out := r.2, skip_chars := r.1, st := st }
      else .ok { st := st } := by
  have hlength := length_of_drop hdrop (by simp)
  simp only [List.length_cons] at hlength
  unfold case_HDR
  simp only [if_neg (by omega : ¬s.length = p + 1), charAt_of_drop hdrop (i := 1) rfl, ok_bind]
  rfl

/-- A placeholder of two characters that evaluates an address. -/
theorem does_of_use {l : Part} {k : Address} (hU : Uses L env st₀ seen k st)
    (f : AmUriParser → List Char)
    (heq : ∀ rec, placeholder L env rec s p st =
      .ok { out := if (use L env k st).1 then f ((use L env k st).2.parser k) else [],
            st := (use L env k st).2 })
    (hev : l.evaluates env = some k) (hdrop : s.drop (p + 2) = rest)
    (hvalue : l.value L env st₀ = (evaluated L env st₀ k).elim [] f)
    (hclean : l.Clean L env st₀ rest seen ↔
      (Stale L env st₀ seen k → f (left L env st₀ k) = [])) :
    ∃ step, Does L env st₀ s rest p seen st l step := by
  refine ⟨_, heq, hU.draws, ?_, ?_⟩
  · rw [hev]
    exact hU.tracks
  · rw [hclean, ← use_text_iff hU f, hvalue]
    exact ⟨fun h => h.2, fun h => ⟨hdrop, h⟩⟩

theorem address_does (hparse : L.ParsesUri) (hprep : Prepared env st₀)
    (hT : Tracks L env st₀ seen st) (k : Address) (x : Char)
    (hx : x = 'P' → rest.head? ≠ some '(') (hdrop : s.drop p = k.letter :: x :: rest) :
    ∃ step, Does L env st₀ s rest p seen st (.address k x) step := by
  have hcase : ∀ rec, placeholder L env rec s p st = case_address L env k s p st :=
    fun rec => placeholder_address hdrop
  have heq := case_address_of_drop L env k st hdrop
  -- only the whole address and a known tag are given without a parser
  by_cases hdot : x = '.'
  · refine ⟨_, does_of_value hT (fun rec => (hcase rec).trans (heq.trans (if_pos hdot))) rfl ?_
      hdrop rfl ?_ (.inl hdot)⟩
    · rw [Part.evaluates, if_pos (.inl hdot)]
    · rw [Part.value, if_pos hdot]
      exact whole_of_tracks hprep hT k
  by_cases htag : x = 't' ∧ (env.tag k).isSome
  · refine ⟨_, does_of_value hT
      (fun rec => (hcase rec).trans (heq.trans ((if_neg hdot).trans (if_pos htag)))) rfl ?_
      hdrop rfl ?_ (.inr (.inl htag))⟩
    · rw [Part.evaluates, if_pos (.inr htag)]
    · rw [Part.value, if_neg hdot, if_pos htag]
  · have hU := uses_of_tracks hparse hT k
    refine does_of_use hU (fun q => q.component x) (fun rec => ?_) ?_
      (drop_add_of_drop hdrop 2) ?_ ?_
    · rw [hcase, heq, if_neg hdot, if_neg htag]
      cases hok : (use L env k st).1 with
      | true =>
        rw [if_pos rfl, component_of_drop hdrop hx, ok_bind]
        rfl
      | false => rfl
    · rw [Part.evaluates, if_neg (not_or.mpr ⟨hdot, htag⟩)]
    · rw [Part.value, if_neg hdot, if_neg htag]
    · show x = '.' ∨ _ ∨ _ ↔ _
      rw [or_iff_right hdot, or_iff_right htag]

theorem destination_does (hparse : L.ParsesUri) (hT : Tracks L env st₀ seen st) (x : Char)
    (hdrop : s.drop p = 'd' :: x :: rest) :
    ∃ step, Does L env st₀ s rest p seen st (.destination x) step := by
  have hlength := length_of_drop hdrop (by simp)
  simp only [List.length_cons] at hlength
  have hletter : ∀ (value : Char → List Char) (st : St),
      case_letter value s p st = .ok { out := value x, st := st } := by
    intro value st
    rw [case_letter, if_neg (by omega), charAt_of_drop hdrop (i := 1) rfl, ok_bind]
  have hcase : ∀ rec, placeholder L env rec s p st = case_d L env s p st := by
    intro rec
    unfold placeholder
    rw [head_of_drop hdrop, ok_bind]
    rfl
  by_cases hnext : env.next_hop = []
  · -- without a next hop the request URI is evaluated
    have hU := uses_of_tracks hparse hT .ruri
    refine does_of_use hU (fun q => Params.destination q.uri_host q.uri_port x) (fun rec => ?_) ?_
      (drop_add_of_drop hdrop 2) ?_ ?_
    · rw [hcase, case_d, if_neg (by omega), hnext, if_neg (by decide)]
      show (if (use L env .ruri st).1 then _ else _) = _
      cases hok : (use L env .ruri st).1 with
      | true =>
        rw [if_pos rfl, if_pos rfl]
        exact hletter _ _
      | false => rfl
    · rw [Part.evaluates, hnext]
      rfl
    · rw [Part.value, destinationText, hnext]
      rfl
    · show env.next_hop ≠ [] ∨ _ ↔ _
      rw [or_iff_right (not_not_intro hnext)]
  · -- the next hop is parsed on its own, so the parsers stay
    have hne : env.next_hop.isEmpty = false := by simpa using hnext
    have hstep : case_d L env s p st = .ok { out := destinationText L env st₀ x, st := st } := by
      rw [case_d, if_neg (by omega), hne, destinationText, hne]
      cases L.parse_next_hop env.next_hop with
      | none => rfl
      | some dests =>
        cases dests with
        | nil => rfl
        | cons dest dests => exact hletter _ _
    refine ⟨_, does_of_value hT (fun rec => (hcase rec).trans hstep) rfl ?_ hdrop rfl rfl
      (.inl hnext)⟩
    rw [Part.evaluates, hne]
    rfl

theorem addressParam_does (hparse : L.ParsesUri) (hT : Tracks L env st₀ seen st) (k : Address)
    (hname : ')' ∉ name) (hdrop : s.drop p = k.letter :: 'P' :: '(' :: (name ++ ')' :: rest)) :
    ∃ step, Does L env st₀ s rest p seen st (.addressParam k name) step := by
  have hU := uses_of_tracks hparse hT k
  have htext : s.drop p = (Part.addressParam k name).text ++ rest := by
    rw [hdrop]
    simp [Part.text]
  have hlen : (Part.addressParam k name).text.length = name.length + 4 := by simp [Part.text]
  have hcase : ∀ rec, placeholder L env rec s p st =
      if (use L env k st).1 then
        replaceParsedParam L s p ((use L env k st).2.parser k) >>= fun r =>
          .ok { out := r.2, skip_chars := r.1, st := (use L env k st).2 }
      else .ok { st := (use L env k st).2 } := by
    intro rec
    rw [placeholder_address hdrop, case_address_of_drop L env k st hdrop, if_neg (by decide),
      if_neg (fun h => absurd h.1 (by decide))]
  by_cases hfound : (use L env k st).1 = true
  · have hq := hU.parser hfound
    by_cases hparams : ParamsParse L (left L env st₀ k) name
    · have hstep : ∀ rec, placeholder L env rec s p st =
          .ok { out := paramText L (left L env st₀ k) name, skip_chars := name.length + 3,
                st := (use L env k st).2 } := by
        intro rec
        rw [hcase, if_pos hfound, hq, param_parsed hdrop hname hparams, ok_bind]
      refine ⟨_, hstep, hU.draws, hU.tracks, ?_⟩
      show _ ∧ paramText L (left L env st₀ k) name =
          (evaluated L env st₀ k).elim [] (fun q => paramText L q name) ↔
        (_ ∨ Stale L env st₀ seen k ∧ _) ∧ ParamsParse L (left L env st₀ k) name
      rw [and_iff_right (drop_text htext (by rw [hlen])), and_iff_left hparams]
      exact left_text_iff hU hfound fun q => paramText L q name
    · -- the list is not parsed: only the `P` is skipped
      have hstep : ∀ rec, placeholder L env rec s p st =
          .ok { out := [], skip_chars := 1, st := (use L env k st).2 } := by
        intro rec
        rw [hcase, if_pos hfound, hq, param_unparsed hdrop hname hparams, ok_bind]
      refine ⟨_, hstep, hU.draws, hU.tracks, iff_of_false (fun h => ?_) fun h => hparams h.2⟩
      exact drop_text_ne htext (by rw [hlen]; show 1 + 1 < _; omega) h.1
  · -- no URI is parsed: the brackets stay in the text
    have hstep : ∀ rec, placeholder L env rec s p st = .ok { st := (use L env k st).2 } := by
      intro rec
      rw [hcase, if_neg hfound]
    refine ⟨_, hstep, hU.draws, hU.tracks, iff_of_false (fun h => ?_) fun h => ?_⟩
    · exact drop_text_ne htext (by rw [hlen]; show 1 + 1 < _; omega) h.1
    · exact hfound (hU.found.mpr (h.1.imp_right fun hold => hold.1))

theorem identity_does (hT : Tracks L env st₀ seen st) (i : Identity) (x : Char)
    (hx : x = 'P' → rest.head? ≠ some '(') (hdrop : s.drop p = i.letter :: x :: rest) :
    ∃ step, Does L env st₀ s rest p seen st (.identity i x) step := by
  have hstep : ∀ rec, placeholder L env rec s p st =
      .ok { out := (Part.identity i x).value L env st₀, st := st } := by
    intro rec
    rw [placeholder_identity hdrop, case_HDR_of_drop hdrop, Part.value, headerUri]
    by_cases hdot : x = '.'
    · rw [if_pos hdot, if_pos hdot]
    by_cases hok : (L.parse_uri (headerParser L env i.hdr_name)).1 = true
    · rw [if_neg hdot, if_neg hdot, if_pos hok, if_pos hok]
      by_cases hi : x = 'i'
      · rw [if_pos hi, if_pos hi]
        rfl
      · rw [if_neg hi, if_neg hi, component_of_drop hdrop hx, ok_bind]
        rfl
    · rw [if_neg hdot, if_neg hdot, if_neg hok, if_neg hok]
      rfl
  exact ⟨_, does_of_value hT hstep rfl rfl hdrop rfl rfl trivial⟩

theorem identityParam_does (hT : Tracks L env st₀ seen st) (i : Identity)
    (hname : ')' ∉ name) (hdrop : s.drop p = i.letter :: 'P' :: '(' :: (name ++ ')' :: rest)) :
    ∃ step, Does L env st₀ s rest p seen st (.identityParam i name) step := by
  have htext : s.drop p = (Part.identityParam i name).text ++ rest := by
    rw [hdrop]
    simp [Part.text]
  have hlen : (Part.identityParam i name).text.length = name.length + 4 := by simp [Part.text]
  have hcase : ∀ rec, placeholder L env rec s p st =
      if (L.parse_uri (headerParser L env i.hdr_name)).1 then
        replaceParsedParam L s p (L.parse_uri (headerParser L env i.hdr_name)).2 >>= fun r =>
          .ok { out := r.2, skip_chars := r.1, st := st }
      else .ok { st := st } := by
    intro rec
    rw [placeholder_identity hdrop, case_HDR_of_drop hdrop, if_neg (by decide),
      if_neg (by decide : ¬ 'P' = 'i')]
  by_cases hok : (L.parse_uri (headerParser L env i.hdr_name)).1 = true
  · by_cases hparams : ParamsParse L (L.parse_uri (headerParser L env i.hdr_name)).2 name
    · have hstep : ∀ rec, placeholder L env rec s p st =
          .ok { out := paramText L (L.parse_uri (headerParser L env i.hdr_name)).2 name,
                skip_chars := name.length + 3, st := st } := by
        intro rec
        rw [hcase, if_pos hok, param_parsed hdrop hname hparams, ok_bind]
      refine ⟨_, does_of_value hT hstep rfl rfl htext (by rw [hlen]) ?_ ⟨hok, hparams⟩⟩
      rw [Part.value, headerUri, if_pos hok]
      rfl
    · have hstep : ∀ rec, placeholder L env rec s p st =
          .ok { out := [], skip_chars := 1, st := st } := by
        intro rec
        rw [hcase, if_pos hok, param_unparsed hdrop hname hparams, ok_bind]
      exact ⟨_, does_of_leak hT hstep rfl rfl htext (by rw [hlen]; show 1 + 1 < _; omega)
        fun h => hparams h.2⟩
  · have hstep : ∀ rec, placeholder L env rec s p st = .ok { st := st } := by
      intro rec
      rw [hcase, if_neg hok]
    exact ⟨_, does_of_leak hT hstep rfl rfl htext (by rw [hlen]; show 1 + 1 < _; omega)
      fun h => hok h.1⟩

/-- The branch of a header's component, with its letter and the name read. -/
theorem case_H_of_drop (L : Library) (env : Env) (st : St) {x : Char} (hx : x ≠ '(')
    (hname : ')' ∉ name) (hdrop : s.drop p = 'H' :: x :: '(' :: (name ++ ')' :: rest)) :
    case_H L env s p st =
      if x = '.' then .ok { out := L.getHeader env.req.hdrs name, st := st }
      else if (L.parse_uri (headerParser L env name)).1 then
        replaceParsedParam L s p (L.parse_uri (headerParser L env name)).2 >>= fun r =>
          .ok { out := r.2, skip_chars := name.length + 3, st := st }
      else .ok { st := st } := by
  have hlength := length_of_drop hdrop (by simp)
  simp only [List.length_cons, List.length_append] at hlength
  have hrest : s.drop (p + 3) = name ++ ')' :: rest := drop_add_of_drop hdrop 3
  have hskip := closing_of_drop hrest hname
  have hend : p + 3 + name.length ≠ s.length := by omega
  have hchars : p + 3 + name.length - p = name.length + 3 := by omega
  unfold case_H case_H_named
  rw [charAt_of_drop hdrop (i := 1) rfl, ok_bind, if_pos hx, charAt_of_drop hdrop (i := 2) rfl,
    ok_bind, if_neg (by decide), if_neg (by omega : ¬s.length < 3 + 1)]
  simp only [hskip, if_neg hend, hchars, Nat.add_sub_cancel, substr_of_drop hrest, ok_bind,
    if_neg (by decide : ¬3 = 2)]
  rfl

/-- The text that the branch of a header's component takes from the parsed URI. -/
theorem component_or_param {x : Char} (hname : ')' ∉ name)
    (hdrop : s.drop p = 'H' :: x :: '(' :: (name ++ ')' :: rest)) (q : AmUriParser) :
    ∃ n, replaceParsedParam L s p q =
      .ok (n, if x = 'P' then paramText L q name else q.component x) := by
  by_cases hP : x = 'P'
  · subst hP
    by_cases hparams : ParamsParse L q name
    · exact ⟨_, param_parsed hdrop hname hparams⟩
    · refine ⟨1, ?_⟩
      rw [param_unparsed hdrop hname hparams, if_pos rfl, paramText_unparsed hparams]
  · refine ⟨1, ?_⟩
    rw [component_of_drop hdrop (fun h => absurd h hP), if_neg hP]

theorem headerPart_does (hT : Tracks L env st₀ seen st) {x : Char} (hx : x ≠ '(')
    (hname : ')' ∉ name) (hdrop : s.drop p = 'H' :: x :: '(' :: (name ++ ')' :: rest)) :
    ∃ step, Does L env st₀ s rest p seen st (.headerPart x name) step := by
  have htext : s.drop p = (Part.headerPart x name).text ++ rest := by
    rw [hdrop]
    simp [Part.text]
  have hlen : (Part.headerPart x name).text.length = name.length + 4 := by simp [Part.text]
  have hcase : ∀ rec, placeholder L env rec s p st = case_H L env s p st := by
    intro rec
    unfold placeholder
    rw [head_of_drop hdrop, ok_bind]
    rfl
  have heq := case_H_of_drop L env st hx hname hdrop
  by_cases hdot : x = '.'
  · have hstep : ∀ rec, placeholder L env rec s p st =
        .ok { out := L.getHeader env.req.hdrs name, st := st } := by
      intro rec
      rw [hcase, heq, if_pos hdot]
    exact ⟨_, does_of_leak hT hstep rfl rfl htext (by rw [hlen]; show 1 + 1 < _; omega)
      fun h => h.1 hdot⟩
  by_cases hok : (L.parse_uri (headerParser L env name)).1 = true
  · obtain ⟨n, hn⟩ := component_or_param (L := L) hname hdrop
      (L.parse_uri (headerParser L env name)).2
    have hstep : ∀ rec, placeholder L env rec s p st =
        .ok { out := if x = 'P' then paramText L (L.parse_uri (headerParser L env name)).2 name
                else (L.parse_uri (headerParser L env name)).2.component x,
              skip_chars := name.length + 3, st := st } := by
      intro rec
      rw [hcase, heq, if_neg hdot, if_pos hok, hn, ok_bind]
    refine ⟨_, hstep, rfl, ?_, ?_⟩
    · rw [show Part.evaluates env (.headerPart x name) = none from rfl, see_none]
      exact hT
    · show _ ∧ (if x = 'P' then _ else _) = (if x = '.' then _ else _) ↔ x ≠ '.' ∧ _ ∧ _
      rw [and_iff_right (drop_text htext (by rw [hlen])), and_iff_right hdot, and_iff_right hok,
        if_neg hdot, headerUri, if_pos hok, Option.elim_some]
      by_cases hP : x = 'P'
      · subst hP
        rw [if_pos rfl]
        exact ⟨fun h _ => h, fun h => h rfl⟩
      · rw [if_neg hP]
        exact iff_of_true rfl fun h => absurd h hP
  · have hstep : ∀ rec, placeholder L env rec s p st = .ok { st := st } := by
      intro rec
      rw [hcase, heq, if_neg hdot, if_neg hok]
    exact ⟨_, does_of_leak hT hstep rfl rfl htext (by rw [hlen]; show 1 + 1 < _; omega)
      fun h => hok h.2.1⟩

/-- Every placeholder without a template in brackets. -/
theorem part_does (hparse : L.ParsesUri) (hprep : Prepared env st₀)
    (hT : Tracks L env st₀ seen st) (l : Part) (hwf : l.WellFormed rest)
    (hdrop : s.drop p = l.text ++ rest) : ∃ step, Does L env st₀ s rest p seen st l step := by
  cases l with
  | address k x => exact address_does hparse hprep hT k x hwf hdrop
  | addressParam k name =>
    exact addressParam_does hparse hT k hwf (by rw [hdrop]; simp [Part.text])
  | identity i x => exact identity_does hT i x hwf hdrop
  | identityParam i name => exact identityParam_does hT i hwf (by rw [hdrop]; simp [Part.text])
  | field f x => exact ⟨_, field_does f x hT hdrop⟩
  | destination x => exact destination_does hparse hT x hdrop
  | method => exact ⟨_, method_does hT hdrop⟩
  | app name => exact ⟨_, app_does hwf hT (by rw [hdrop]; simp [Part.text])⟩
  | header name => exact ⟨_, header_does hwf hT (by rw [hdrop]; simp [Part.text])⟩
  | headerPart x name =>
    exact headerPart_does hT hwf.1 hwf.2 (by rw [hdrop]; simp [Part.text])

end Yeti.Params
