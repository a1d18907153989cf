import Mathlib.Data.List.TakeWhile
import Yeti.Headers.SkipHeader

/-! # Header filters

    Model of `inplaceHeaderFilter` and `inplaceHeaderPatternFilter` in
    `HeaderFilter.cpp`.  The two differ only in how a name is looked up in the
    list of an entry, so both are `inplaceFilter` with their own `lookup`.

    The main lemma says what a filter does in terms of lines: the lines before the
    first malformed one are filtered, and that one and all lines after it stay.
    Since the function then returns at once, only the first active entry is
    applied at all.
-/

open Segments

namespace Yeti.Headers

/-! ### Filter entries -/

/-- `enum FilterType`. -/
inductive FilterType where
  | Transparent
  | Whitelist
  | Blacklist
  | Undefined
  deriving DecidableEq, Repr

/-- `struct FilterEntry`. -/
structure FilterEntry where
  filter_type : FilterType
  filter_list : List (List Char)
  deriving DecidableEq, Repr

/-- `isActiveFilter`. -/
def isActiveFilter (ft : FilterType) : Bool := ft ≠ .Undefined && ft ≠ .Transparent

/-- How a lowercased name is looked up in the list of an entry. -/
abbrev Lookup := List Char → List (List Char) → Bool

/-- `headerfilter_list.find(hdr_name) != headerfilter_list.end()`. -/
def findName : Lookup := fun name l => l.contains name

/-- `PatternMatchFunctor::match`: `*x` is a suffix, `x*` a prefix and `*` anything. -/
def patternMatch (v p : List Char) : Bool :=
  if p.head? = some '*' then
    let plen := p.length - 1
    if plen = 0 then true
    else if plen > v.length then false
    else p.drop 1 == v.drop (v.length - plen)
  else if p.getLast? = some '*' then
    let plen := p.length - 1
    if plen > v.length then false
    else p.take plen == v.take plen
  else p == v

/-- `matchListPattern`. -/
def matchListPattern : Lookup := fun s l => if s.isEmpty then false else l.any (patternMatch s)

/-- Whether the entry erases a header of this lowercased name. -/
def FilterEntry.erases (fe : FilterEntry) (lookup : Lookup) (name : List Char) : Bool :=
  match fe.filter_type with
  | .Whitelist => !lookup name fe.filter_list
  | .Blacklist => lookup name fe.filter_list
  | _ => false

/-! ### The filters -/

/-- `std::transform(.., ::tolower)`. -/
def tolower (s : List Char) : List Char := s.map Char.toLower

/-- The `while` loop of one entry.  The result tells whether it was left by
    `return`; every pass consumes a character at least. -/
def filterLoop (pc : ParseCommon) (lookup : Lookup) (fe : FilterEntry) :
    Nat → List Char → Nat → List Char × Bool
  | 0, hdrs, _ => (hdrs, false)
  | fuel + 1, hdrs, start_pos =>
    if start_pos < hdrs.length then
      let h := skip_header pc hdrs start_pos
      -- `return res`: this entry and the following ones are given up
      if h.malformed then (hdrs, true)
      else
        let hdr_name := tolower ((hdrs.drop start_pos).take (h.name_end - start_pos))
        if fe.erases lookup hdr_name then
          filterLoop pc lookup fe fuel (hdrs.take start_pos ++ hdrs.drop h.hdr_end) start_pos
        else filterLoop pc lookup fe fuel hdrs h.hdr_end
    else (hdrs, false)

/-- The `for` loop over the entries. -/
def filterEntries (pc : ParseCommon) (lookup : Lookup) :
    List FilterEntry → List Char → List Char × Bool
  | [], hdrs => (hdrs, false)
  | fe :: filter_list, hdrs =>
    if isActiveFilter fe.filter_type then
      match filterLoop pc lookup fe hdrs.length hdrs 0 with
      | (hdrs, true) => (hdrs, true)
      | (hdrs, false) => filterEntries pc lookup filter_list hdrs
    else filterEntries pc lookup filter_list hdrs

/-- The common body of the two filters: the filtered string, and whether
    `skip_header` failed. -/
def inplaceFilter (pc : ParseCommon) (lookup : Lookup) (hdrs : List Char)
    (filter_list : List FilterEntry) : List Char × Bool :=
  if hdrs.isEmpty || filter_list.isEmpty then (hdrs, false)
  else filterEntries pc lookup filter_list hdrs

/-- `inplaceHeaderFilter`. -/
def inplaceHeaderFilter (pc : ParseCommon) := inplaceFilter pc findName

/-- `inplaceHeaderPatternFilter`. -/
def inplaceHeaderPatternFilter (pc : ParseCommon) := inplaceFilter pc matchListPattern

/-! ### One entry, line by line -/

variable {pc : ParseCommon} {lookup : Lookup}

/-- Whether the entry keeps the line. -/
def FilterEntry.keeps (pc : ParseCommon) (lookup : Lookup) (fe : FilterEntry)
    (line : List Char) : Bool :=
  !fe.erases lookup (tolower (lineName pc line))

/-- The lines before the first malformed one. -/
def goodLines (pc : ParseCommon) (ls : List (List Char)) : List (List Char) :=
  ls.takeWhile (!malformed pc ·)

/-- The first malformed line and all after it. -/
def badLines (pc : ParseCommon) (ls : List (List Char)) : List (List Char) :=
  ls.dropWhile (!malformed pc ·)

variable (pc lookup) in
/-- The loop of an entry filters the lines up to the first malformed one. -/
theorem filterLoop_lines (fe : FilterEntry) {ls : List (List Char)} (h : IsSegments '\n' ls)
    (pre : List Char) {fuel : Nat} (hfuel : ls.length ≤ fuel) :
    filterLoop pc lookup fe fuel (pre ++ ls.flatten) pre.length =
      (pre ++ ((goodLines pc ls).filter (fe.keeps pc lookup) ++ badLines pc ls).flatten,
        !(badLines pc ls).isEmpty) := by
  induction ls generalizing pre fuel with
  | nil => cases fuel <;> simp [filterLoop, goodLines, badLines]
  | cons line ls ih =>
    obtain ⟨fuel, rfl⟩ : ∃ f, fuel = f + 1 := ⟨fuel - 1, by simp at hfuel; omega⟩
    have hls : ls.length ≤ fuel := by simpa using hfuel
    have hsub : IsSegments '\n' ls := h.sublist (List.sublist_cons_self _ _)
    have hne : 0 < line.length := List.length_pos_iff.mpr (h.ne_nil line (by simp))
    have hsees : SeesLine pc (pre ++ (line ++ ls.flatten)) pre.length line := seesLine h pre
    have hlt : pre.length < (pre ++ (line ++ ls.flatten)).length := by
      simp only [List.length_append]
      omega
    rw [List.flatten_cons, filterLoop, if_pos hlt]
    cases hm : malformed pc line with
    -- the loop returns with the line and all after it in place
    | true => simp [hsees.malformed_eq, hm, goodLines, badLines]
    | false =>
      have hgood : goodLines pc (line :: ls) = line :: goodLines pc ls := by
        simp [goodLines, hm]
      have hbad : badLines pc (line :: ls) = badLines pc ls := by simp [badLines, hm]
      -- the name cut out of the block is that of the line alone
      have hname : tolower (((pre ++ (line ++ ls.flatten)).drop pre.length).take
          ((skip_header pc (pre ++ (line ++ ls.flatten)) pre.length).name_end - pre.length)) =
          tolower (lineName pc line) := by
        rw [List.drop_left, hsees.name_end, Nat.add_sub_cancel_left, lineName,
          List.take_append_of_le_length (skip_header_within _ line).1]
      simp only [hsees.malformed_eq, hm, hname, hsees.hdr_end hm]
      rw [if_neg (by simp), hgood, hbad]
      cases he : fe.erases lookup (tolower (lineName pc line)) with
      | true =>
        have hkeep : fe.keeps pc lookup line = false := by simp [FilterEntry.keeps, he]
        -- erased: the same position now starts the next line
        rw [if_pos rfl, List.take_left, ← List.append_assoc, ← List.length_append,
          List.drop_left, ih hsub pre hls, List.filter_cons_of_neg (by simp [hkeep])]
      | false =>
        have hkeep : fe.keeps pc lookup line = true := by simp [FilterEntry.keeps, he]
        -- kept: the line joins what has been scanned
        rw [if_neg (by simp), ← List.append_assoc, ← List.length_append,
          ih hsub (pre ++ line) hls, List.filter_cons_of_pos hkeep]
        simp

/-! ### All entries -/

variable (pc) in
theorem goodLines_append_badLines (ls : List (List Char)) :
    goodLines pc ls ++ badLines pc ls = ls :=
  List.takeWhile_append_dropWhile

theorem badLines_eq_nil_iff {ls : List (List Char)} :
    badLines pc ls = [] ↔ ∀ line ∈ ls, malformed pc line = false := by
  simp [badLines, List.dropWhile_eq_nil_iff]

/-- An entry applied to a whole block. -/
theorem filterLoop_block (fe : FilterEntry) {ls : List (List Char)} (h : IsSegments '\n' ls) :
    filterLoop pc lookup fe ls.flatten.length ls.flatten 0 =
      (((goodLines pc ls).filter (fe.keeps pc lookup) ++ badLines pc ls).flatten,
        !(badLines pc ls).isEmpty) := by
  have hlen := h.length_le_length_flatten
  simpa using filterLoop_lines pc lookup fe h [] hlen

variable (pc lookup) in
/-- Entries that are not active keep every line. -/
theorem keeps_of_not_active {fe : FilterEntry} (h : isActiveFilter fe.filter_type = false)
    (line : List Char) : fe.keeps pc lookup line = true := by
  unfold FilterEntry.keeps FilterEntry.erases
  cases hft : fe.filter_type <;> simp_all [isActiveFilter]

variable (pc lookup) in
/-- Without a malformed line every entry is applied to every line. -/
theorem filterEntries_wellFormed (filter_list : List FilterEntry) {ls : List (List Char)}
    (h : IsSegments '\n' ls) (hok : badLines pc ls = []) :
    filterEntries pc lookup filter_list ls.flatten =
      ((ls.filter fun line => filter_list.all (·.keeps pc lookup line)).flatten, false) := by
  induction filter_list generalizing ls with
  | nil => simp [filterEntries]
  | cons fe filter_list ih =>
    have hgood : goodLines pc ls = ls := by
      have := goodLines_append_badLines pc ls
      rwa [hok, List.append_nil] at this
    rw [filterEntries]
    split_ifs with hactive
    · have hkept : IsSegments '\n' (ls.filter (fe.keeps pc lookup)) :=
        h.sublist List.filter_sublist
      have hok' : badLines pc (ls.filter (fe.keeps pc lookup)) = [] := by
        rw [badLines_eq_nil_iff] at hok ⊢
        intro line hline
        exact hok line (List.mem_filter.mp hline).1
      rw [filterLoop_block fe h, hok, hgood]
      simp only [List.append_nil, List.isEmpty_nil, Bool.not_true]
      rw [ih hkept hok', List.filter_filter]
      simp [Bool.and_comm]
    · rw [ih h hok]
      simp [keeps_of_not_active pc lookup (Bool.not_eq_true _ ▸ hactive)]

/-- With a malformed line only the first active entry is applied, up to that line. -/
theorem filterEntries_malformed {filter_list : List FilterEntry} {first : FilterEntry}
    {ls : List (List Char)} (h : IsSegments '\n' ls) (hbad : badLines pc ls ≠ [])
    (hfirst : filter_list.find? (isActiveFilter ·.filter_type) = some first) :
    filterEntries pc lookup filter_list ls.flatten =
      (((goodLines pc ls).filter (first.keeps pc lookup) ++ badLines pc ls).flatten, true) := by
  induction filter_list with
  | nil => simp at hfirst
  | cons fe filter_list ih =>
    rw [filterEntries]
    split_ifs with hactive
    · have hfe : fe = first := by simpa [List.find?_cons, hactive] using hfirst
      have hflag : (!(badLines pc ls).isEmpty) = true := by simpa using hbad
      rw [filterLoop_block fe h, hflag, hfe]
    · exact ih (by simpa [List.find?_cons, hactive] using hfirst)

variable (pc lookup) in
/-- The guard of the filters changes nothing. -/
theorem inplaceFilter_eq (hdrs : List Char) (filter_list : List FilterEntry) :
    inplaceFilter pc lookup hdrs filter_list = filterEntries pc lookup filter_list hdrs := by
  unfold inplaceFilter
  split_ifs with hempty
  · rcases Bool.or_eq_true _ _ ▸ hempty with hempty | hempty
    · rw [List.isEmpty_iff.mp hempty]
      have := filterEntries_wellFormed pc lookup filter_list IsSegments.nil rfl
      simpa using this.symm
    · rw [List.isEmpty_iff.mp hempty]
      rfl
  · rfl

/-! ### Fail-closed -/

/-- The line has a name that the list of the entry matches. -/
def FilterEntry.covers (pc : ParseCommon) (lookup : Lookup) (fe : FilterEntry)
    (line : List Char) : Prop :=
  lookup (tolower (lineName pc line)) fe.filter_list = true

/-- Every whitelist of the filter list matches every line of the string. -/
def FailClosed (pc : ParseCommon) (lookup : Lookup) (filter_list : List FilterEntry)
    (hdrs : List Char) : Prop :=
  ∀ fe ∈ filter_list, fe.filter_type = .Whitelist → ∀ line ∈ lines hdrs, fe.covers pc lookup line

/-- Either no line is malformed, or every whitelist happens to match what the
    early return leaves behind: the lines from the first malformed one on, and the
    lines before it that the first active entry keeps. -/
def LeftoverCovered (pc : ParseCommon) (lookup : Lookup) (filter_list : List FilterEntry)
    (hdrs : List Char) : Prop :=
  (∀ line ∈ lines hdrs, malformed pc line = false) ∨
    ∀ fe ∈ filter_list, fe.filter_type = .Whitelist →
      (∀ line ∈ badLines pc (lines hdrs), fe.covers pc lookup line) ∧
      ∀ first, filter_list.find? (isActiveFilter ·.filter_type) = some first →
        ∀ line ∈ goodLines pc (lines hdrs), first.keeps pc lookup line = true →
          fe.covers pc lookup line

/-- A whitelist keeps the lines that it covers. -/
theorem covers_of_keeps {fe : FilterEntry} (hfe : fe.filter_type = .Whitelist)
    {line : List Char} (h : fe.keeps pc lookup line = true) : fe.covers pc lookup line := by
  simpa [FilterEntry.keeps, FilterEntry.erases, hfe, FilterEntry.covers] using h

/-- Without a malformed line every whitelist has been applied to what is left. -/
theorem failClosed_wellFormed (filter_list : List FilterEntry) {ls : List (List Char)}
    (h : IsSegments '\n' ls) (hok : badLines pc ls = []) :
    FailClosed pc lookup filter_list (filterEntries pc lookup filter_list ls.flatten).1 := by
  rw [filterEntries_wellFormed _ _ filter_list h hok]
  intro fe hfe hwhite line hline
  -- the lines of what is left are the lines that were kept
  rw [lines, (h.sublist List.filter_sublist).splitAfter_flatten] at hline
  have hall := List.all_eq_true.mp (List.mem_filter.mp hline).2 fe hfe
  exact covers_of_keeps hwhite hall

/-- With a malformed line, what is left are the lines that the first entry keeps and those
    that it has not seen. -/
theorem failClosed_malformed_iff {filter_list : List FilterEntry} {first : FilterEntry}
    {ls : List (List Char)} (h : IsSegments '\n' ls) (hbad : badLines pc ls ≠ [])
    (hfirst : filter_list.find? (isActiveFilter ·.filter_type) = some first) :
    FailClosed pc lookup filter_list (filterEntries pc lookup filter_list ls.flatten).1 ↔
      ∀ fe ∈ filter_list, fe.filter_type = .Whitelist →
        (∀ line ∈ badLines pc ls, fe.covers pc lookup line) ∧
        ∀ line ∈ goodLines pc ls, first.keeps pc lookup line = true →
          fe.covers pc lookup line := by
  have hsub : ((goodLines pc ls).filter (first.keeps pc lookup) ++ badLines pc ls).Sublist ls := by
    conv_rhs => rw [← goodLines_append_badLines pc ls]
    exact List.filter_sublist.append (List.Sublist.refl _)
  have hlines : lines ((goodLines pc ls).filter (first.keeps pc lookup) ++
      badLines pc ls).flatten =
        (goodLines pc ls).filter (first.keeps pc lookup) ++ badLines pc ls :=
    (h.sublist hsub).splitAfter_flatten
  rw [filterEntries_malformed h hbad hfirst]
  unfold FailClosed
  rw [hlines]
  refine forall_congr' fun fe => forall_congr' fun hfe => forall_congr' fun hwhite => ?_
  constructor
  · intro hcov
    refine ⟨fun line hline => hcov line (List.mem_append.mpr (.inr hline)), ?_⟩
    intro line hline hkeep
    exact hcov line (List.mem_append.mpr (.inl (List.mem_filter.mpr ⟨hline, hkeep⟩)))
  · intro ⟨hleft, hkept⟩ line hline
    rcases List.mem_append.mp hline with hline | hline
    · obtain ⟨hline, hkeep⟩ := List.mem_filter.mp hline
      exact hkept line hline hkeep
    · exact hleft line hline

/-- **What a filter guarantees**, for either way of looking up a name. -/
theorem failClosed_iff (filter_list : List FilterEntry) (hdrs : List Char) :
    FailClosed pc lookup filter_list (inplaceFilter pc lookup hdrs filter_list).1 ↔
      LeftoverCovered pc lookup filter_list hdrs := by
  have hseg : IsSegments '\n' (lines hdrs) := isSegments_splitAfter hdrs
  have hflat : (lines hdrs).flatten = hdrs := flatten_splitAfter hdrs
  have hfilter : inplaceFilter pc lookup hdrs filter_list =
      filterEntries pc lookup filter_list (lines hdrs).flatten := by
    rw [hflat]
    exact inplaceFilter_eq pc lookup hdrs filter_list
  rw [hfilter]
  by_cases hbad : badLines pc (lines hdrs) = []
  · exact iff_of_true (failClosed_wellFormed filter_list hseg hbad)
      (.inl (badLines_eq_nil_iff.mp hbad))
  have hmal : ¬ ∀ line ∈ lines hdrs, malformed pc line = false := fun hall =>
    hbad (badLines_eq_nil_iff.mpr hall)
  cases hfirst : filter_list.find? (isActiveFilter ·.filter_type) with
  | none =>
    -- without an active entry there is no whitelist
    have hnone : ∀ fe ∈ filter_list, fe.filter_type ≠ .Whitelist := by
      intro fe hfe hwhite
      have := List.find?_eq_none.mp hfirst fe hfe
      simp [isActiveFilter, hwhite] at this
    refine iff_of_true ?_ (.inr ?_)
    · intro fe hfe hwhite
      exact absurd hwhite (hnone fe hfe)
    · intro fe hfe hwhite
      exact absurd hwhite (hnone fe hfe)
  | some first =>
    rw [failClosed_malformed_iff hseg hbad hfirst, LeftoverCovered, or_iff_right hmal, hfirst]
    simp only [Option.some.injEq, forall_eq']

/-- The two filters fail closed exactly when the early return leaves nothing
    behind that a whitelist should have caught. -/
theorem header_filters_fail_closed_iff (pc : ParseCommon) (filter_list : List FilterEntry)
    (hdrs : List Char) :
    (FailClosed pc matchListPattern filter_list
        (inplaceHeaderPatternFilter pc hdrs filter_list).1 ↔
      LeftoverCovered pc matchListPattern filter_list hdrs) ∧
    (FailClosed pc findName filter_list (inplaceHeaderFilter pc hdrs filter_list).1 ↔
      LeftoverCovered pc findName filter_list hdrs) :=
  ⟨failClosed_iff filter_list hdrs, failClosed_iff filter_list hdrs⟩

/-- A folded `Subject` lets everything after it through. -/
theorem not_fail_closed_folded :
    ¬ ∀ (pc : ParseCommon) (filter_list : List FilterEntry) (hdrs : List Char),
      FailClosed pc matchListPattern filter_list
          (inplaceHeaderPatternFilter pc hdrs filter_list).1 ∧
        FailClosed pc findName filter_list (inplaceHeaderFilter pc hdrs filter_list).1 := by
  intro hall
  have hfold := (hall .strict [⟨.Whitelist, ["subject".toList]⟩]
    "Subject: a\r\n b\r\nX-Internal: 1\r\n".toList).1 ⟨.Whitelist, ["subject".toList]⟩
    (by simp) rfl "X-Internal: 1\r\n".toList (by decide)
  revert hfold
  unfold FilterEntry.covers
  decide

end Yeti.Headers
