import Yeti.Headers.Filter

/-! # What the header filters leave

    On a block without a malformed line, either filter leaves the lines whose
    lowercased name passes every active entry, in order and unchanged.

    That the loops come to an end is a statement about their passes, `FilterRun`:
    every pass either moves past a header or erases it, and a header is never empty
    (`skip_header_progress`).

    On any block, malformed lines included, a filter depends on its lookup only
    through the lists of its entries (`inplaceFilter_congr`).  For patterns without a
    `*` at either end the two lookups agree, and so do the two filters.
-/

open Segments

namespace Yeti.Headers

variable {pc : ParseCommon} {lookup : Lookup}

/-! ### Progress -/

variable (pc) in
/-- The loop stops at or after the position it starts from. -/
theorem le_skipLoop_p (cs : List Char) (p : Nat) (s : Scan) : p ≤ (skipLoop pc cs p s).p := by
  induction cs generalizing p s with
  | nil => exact Nat.le_refl p
  | cons ch cs ih =>
    rw [skipLoop]
    split_ifs
    · cases hstep : step pc p ch s with
      | none => exact Nat.le_refl p
      | some s' => exact Nat.le_of_succ_le (ih (p + 1) s')
    · exact Nat.le_refl p

/-- A loop that goes on reads a character, or the header is malformed. -/
theorem succ_le_skipLoop_p {ch : Char} {cs : List Char} {p : Nat} {s : Scan}
    (hs : s.st.inHeader = true) (hok : (skipLoop pc (ch :: cs) p s).malformed = false) :
    p + 1 ≤ (skipLoop pc (ch :: cs) p s).p := by
  rw [skipLoop, if_pos hs] at hok ⊢
  cases hstep : step pc p ch s with
  | none => simp [hstep] at hok
  | some s' => exact le_skipLoop_p pc cs (p + 1) s'

variable (pc) in
/-- A header has a character at least, and ends within the block. -/
theorem skip_header_progress {hdr : List Char} {start_pos : Nat}
    (hpos : start_pos < hdr.length) :
    start_pos < (skip_header pc hdr start_pos).hdr_end ∧
      (skip_header pc hdr start_pos).hdr_end ≤ hdr.length := by
  have hinit : (Scan.mk .H_NAME .H_NAME start_pos start_pos start_pos).Within start_pos :=
    ⟨Nat.le_refl _, Nat.le_refl _, Nat.le_refl _⟩
  have hle := (skipLoop_within pc (hdr.drop start_pos) start_pos _ hinit).2
  rw [List.length_drop] at hle
  cases hmal : (skipLoop pc (hdr.drop start_pos) start_pos
      ⟨.H_NAME, .H_NAME, start_pos, start_pos, start_pos⟩).malformed with
  | true =>
    simp only [skip_header, hmal, if_true]
    exact ⟨hpos, Nat.le_refl _⟩
  | false =>
    simp only [skip_header, hmal, Bool.false_eq_true, if_false]
    refine ⟨?_, by omega⟩
    -- the first character is read in `H_NAME`
    rw [List.drop_eq_getElem_cons hpos] at hmal ⊢
    exact succ_le_skipLoop_p rfl hmal

/-! ### Runs of the loops -/

/-- The name of the header at a position, as the filters look it up. -/
def nameAt (pc : ParseCommon) (hdrs : List Char) (start_pos : Nat) : List Char :=
  tolower ((hdrs.drop start_pos).take ((skip_header pc hdrs start_pos).name_end - start_pos))

/-- Complete runs of the `while` loop of one entry, pass by pass: from the string
    and `start_pos` to the string left, and whether the loop was left by `return`. -/
inductive LoopRun (pc : ParseCommon) (lookup : Lookup) (fe : FilterEntry) :
    List Char → Nat → List Char × Bool → Prop where
  | done {hdrs : List Char} {start_pos : Nat} (hpos : ¬ start_pos < hdrs.length) :
      LoopRun pc lookup fe hdrs start_pos (hdrs, false)
  | malformed {hdrs : List Char} {start_pos : Nat} (hpos : start_pos < hdrs.length)
      (hm : (skip_header pc hdrs start_pos).malformed = true) :
      LoopRun pc lookup fe hdrs start_pos (hdrs, true)
  | erased {hdrs : List Char} {start_pos : Nat} {r : List Char × Bool}
      (hpos : start_pos < hdrs.length) (hm : (skip_header pc hdrs start_pos).malformed = false)
      (he : fe.erases lookup (nameAt pc hdrs start_pos) = true)
      (hrest : LoopRun pc lookup fe
        (hdrs.take start_pos ++ hdrs.drop (skip_header pc hdrs start_pos).hdr_end) start_pos r) :
      LoopRun pc lookup fe hdrs start_pos r
  | kept {hdrs : List Char} {start_pos : Nat} {r : List Char × Bool}
      (hpos : start_pos < hdrs.length) (hm : (skip_header pc hdrs start_pos).malformed = false)
      (he : fe.erases lookup (nameAt pc hdrs start_pos) = false)
      (hrest : LoopRun pc lookup fe hdrs (skip_header pc hdrs start_pos).hdr_end r) :
      LoopRun pc lookup fe hdrs start_pos r

/-- Complete runs of the `for` loop over the entries. -/
inductive FilterRun (pc : ParseCommon) (lookup : Lookup) :
    List FilterEntry → List Char → List Char × Bool → Prop where
  | nil {hdrs : List Char} : FilterRun pc lookup [] hdrs (hdrs, false)
  | skipped {fe : FilterEntry} {filter_list : List FilterEntry} {hdrs : List Char}
      {r : List Char × Bool} (hft : isActiveFilter fe.filter_type = false)
      (hrest : FilterRun pc lookup filter_list hdrs r) :
      FilterRun pc lookup (fe :: filter_list) hdrs r
  | returned {fe : FilterEntry} {filter_list : List FilterEntry} {hdrs hdrs' : List Char}
      (hft : isActiveFilter fe.filter_type = true)
      (hloop : LoopRun pc lookup fe hdrs 0 (hdrs', true)) :
      FilterRun pc lookup (fe :: filter_list) hdrs (hdrs', true)
  | applied {fe : FilterEntry} {filter_list : List FilterEntry} {hdrs hdrs' : List Char}
      {r : List Char × Bool} (hft : isActiveFilter fe.filter_type = true)
      (hloop : LoopRun pc lookup fe hdrs 0 (hdrs', false))
      (hrest : FilterRun pc lookup filter_list hdrs' r) :
      FilterRun pc lookup (fe :: filter_list) hdrs r

variable (pc lookup) in
/-- The loop ends before it runs out of fuel: every pass leaves less to scan. -/
theorem filterLoop_run (fe : FilterEntry) {fuel : Nat} {hdrs : List Char} {start_pos : Nat}
    (hfuel : hdrs.length ≤ start_pos + fuel) :
    LoopRun pc lookup fe hdrs start_pos (filterLoop pc lookup fe fuel hdrs start_pos) := by
  induction fuel generalizing hdrs start_pos with
  | zero => exact .done (by omega)
  | succ fuel ih =>
    rw [filterLoop]
    by_cases hpos : start_pos < hdrs.length
    · obtain ⟨hprogress, hend⟩ := skip_header_progress pc hpos
      rw [if_pos hpos]
      cases hm : (skip_header pc hdrs start_pos).malformed with
      | true =>
        simp only [hm, if_true]
        exact .malformed hpos hm
      | false =>
        simp only [hm, Bool.false_eq_true, if_false]
        cases he : fe.erases lookup (nameAt pc hdrs start_pos) with
        | true =>
          have hshorter : (hdrs.take start_pos ++
              hdrs.drop (skip_header pc hdrs start_pos).hdr_end).length ≤ start_pos + fuel := by
            rw [List.length_append, List.length_take, List.length_drop]
            omega
          have hrun := LoopRun.erased hpos hm he (ih hshorter)
          rw [nameAt] at he
          rwa [if_pos he]
        | false =>
          have hahead : hdrs.length ≤ (skip_header pc hdrs start_pos).hdr_end + fuel := by omega
          have hrun := LoopRun.kept hpos hm he (ih hahead)
          rw [nameAt] at he
          rwa [he, if_neg Bool.false_ne_true]
    · rw [if_neg hpos]
      exact .done hpos

variable (pc lookup) in
theorem filterEntries_run (filter_list : List FilterEntry) (hdrs : List Char) :
    FilterRun pc lookup filter_list hdrs (filterEntries pc lookup filter_list hdrs) := by
  induction filter_list generalizing hdrs with
  | nil => exact .nil
  | cons fe filter_list ih =>
    rw [filterEntries]
    cases hft : isActiveFilter fe.filter_type with
    | false => exact .skipped hft (ih hdrs)
    | true =>
      have hloop : LoopRun pc lookup fe hdrs 0 (filterLoop pc lookup fe hdrs.length hdrs 0) :=
        filterLoop_run pc lookup fe (Nat.le_add_left _ _)
      rw [if_pos rfl]
      cases hresult : filterLoop pc lookup fe hdrs.length hdrs 0 with
      | mk hdrs' left =>
        rw [hresult] at hloop
        cases left with
        | true => exact .returned hft hloop
        | false => exact .applied hft hloop (ih hdrs')

/-! ### Which lines pass -/

/-- `*x` matches the names that end with `x`, `x*` those that begin with it, and a
    pattern without `*` at either end itself. -/
def MatchesPattern (p name : List Char) : Prop :=
  if p.head? = some '*' then p.tail <:+ name
  else if p.getLast? = some '*' then p.dropLast <+: name
  else p = name

instance (p name : List Char) : Decidable (MatchesPattern p name) := by
  unfold MatchesPattern
  infer_instance

/-- The name of the line is a member of the list. -/
def NameListed (name : List Char) (l : List (List Char)) : Prop := name ∈ l

/-- The name of the line is matched by a pattern of the list; a line without a name
    is matched by none. -/
def PatternListed (name : List Char) (l : List (List Char)) : Prop :=
  name ≠ [] ∧ ∃ p ∈ l, MatchesPattern p name

instance : DecidableRel NameListed := fun name l =>
  inferInstanceAs (Decidable (name ∈ l))

instance : DecidableRel PatternListed := fun name l =>
  inferInstanceAs (Decidable (name ≠ [] ∧ ∃ p ∈ l, MatchesPattern p name))

/-- The line passes every active entry of the filter list. -/
def Passes (pc : ParseCommon) (listed : List Char → List (List Char) → Prop)
    (filter_list : List FilterEntry) (line : List Char) : Prop :=
  ∀ fe ∈ filter_list,
    (fe.filter_type = .Whitelist → listed (tolower (lineName pc line)) fe.filter_list) ∧
    (fe.filter_type = .Blacklist → ¬ listed (tolower (lineName pc line)) fe.filter_list)

instance (pc : ParseCommon) (listed : List Char → List (List Char) → Prop)
    [DecidableRel listed] (filter_list : List FilterEntry) :
    DecidablePred (Passes pc listed filter_list) := fun line =>
  inferInstanceAs (Decidable (∀ fe ∈ filter_list,
    (fe.filter_type = .Whitelist → listed (tolower (lineName pc line)) fe.filter_list) ∧
    (fe.filter_type = .Blacklist → ¬ listed (tolower (lineName pc line)) fe.filter_list)))

theorem findName_iff (name : List Char) (l : List (List Char)) :
    findName name l = true ↔ NameListed name l := by
  simp [findName, NameListed]

theorem patternMatch_iff (name p : List Char) :
    patternMatch name p = true ↔ MatchesPattern p name := by
  by_cases hhead : p.head? = some '*'
  · simp only [patternMatch, MatchesPattern, if_pos hhead]
    split_ifs with hsingle hlong
    · have htail : p.tail = [] := List.eq_nil_of_length_eq_zero (by simpa using hsingle)
      simp [htail]
    · -- the pattern is longer than the name
      have hnot : ¬ p.tail <:+ name := fun hsuffix => by
        have := hsuffix.length_le
        rw [List.length_tail] at this
        omega
      simp [hnot]
    · rw [beq_iff_eq, List.drop_one, List.suffix_iff_eq_drop, List.length_tail]
  · by_cases hlast : p.getLast? = some '*'
    · simp only [patternMatch, MatchesPattern, if_neg hhead, if_pos hlast]
      split_ifs with hlong
      · have hnot : ¬ p.dropLast <+: name := fun hstart => by
          have := hstart.length_le
          rw [List.length_dropLast] at this
          omega
        simp [hnot]
      · rw [beq_iff_eq, ← List.dropLast_eq_take, List.prefix_iff_eq_take, List.length_dropLast]
    · simp only [patternMatch, MatchesPattern, if_neg hhead, if_neg hlast]
      exact beq_iff_eq

theorem matchListPattern_iff (name : List Char) (l : List (List Char)) :
    matchListPattern name l = true ↔ PatternListed name l := by
  unfold matchListPattern PatternListed
  split_ifs with hempty
  · simp [List.isEmpty_iff.mp hempty]
  · have hne : name ≠ [] := by simpa using hempty
    simp [hne, patternMatch_iff]

/-- The entries that the code applies keep the lines that pass. -/
theorem all_keeps_iff {listed : List Char → List (List Char) → Prop}
    (hlisted : ∀ name l, lookup name l = true ↔ listed name l)
    (filter_list : List FilterEntry) (line : List Char) :
    filter_list.all (·.keeps pc lookup line) = true ↔ Passes pc listed filter_list line := by
  rw [List.all_eq_true]
  refine forall_congr' fun fe => forall_congr' fun _ => ?_
  rw [← hlisted]
  unfold FilterEntry.keeps FilterEntry.erases
  cases fe.filter_type <;> simp

/-! ### Exactness -/

/-- A filter ends with 0 and leaves the lines that pass; a second application
    changes nothing. -/
structure Exact (pc : ParseCommon) (filter : List Char → List FilterEntry → List Char × Bool)
    (lookup : Lookup) (listed : List Char → List (List Char) → Prop) [DecidableRel listed]
    (filter_list : List FilterEntry) (hdrs : List Char) : Prop where
  ends : FilterRun pc lookup filter_list hdrs (filter hdrs filter_list)
  leaves : filter hdrs filter_list =
    (((lines hdrs).filter fun line => Passes pc listed filter_list line).flatten, false)
  again : filter (filter hdrs filter_list).1 filter_list = filter hdrs filter_list

/-- Filtering a block of well-formed lines. -/
theorem inplaceFilter_wellFormed {listed : List Char → List (List Char) → Prop}
    [DecidableRel listed] (hlisted : ∀ name l, lookup name l = true ↔ listed name l)
    (filter_list : List FilterEntry) {ls : List (List Char)} (h : IsSegments '\n' ls)
    (hok : ∀ line ∈ ls, malformed pc line = false) :
    inplaceFilter pc lookup ls.flatten filter_list =
      ((ls.filter fun line => Passes pc listed filter_list line).flatten, false) := by
  have hpasses : (fun line => filter_list.all (·.keeps pc lookup line)) =
      fun line => decide (Passes pc listed filter_list line) := by
    funext line
    rw [Bool.eq_iff_iff, all_keeps_iff hlisted, decide_eq_true_iff]
  rw [inplaceFilter_eq, filterEntries_wellFormed pc lookup filter_list h
    (badLines_eq_nil_iff.mpr hok), hpasses]

/-- **Exactness**, for either way of looking up a name. -/
theorem inplaceFilter_exact {listed : List Char → List (List Char) → Prop}
    [DecidableRel listed] (hlisted : ∀ name l, lookup name l = true ↔ listed name l)
    (filter_list : List FilterEntry) {hdrs : List Char}
    (hok : ∀ line ∈ lines hdrs, malformed pc line = false) :
    Exact pc (inplaceFilter pc lookup) lookup listed filter_list hdrs := by
  have hseg : IsSegments '\n' (lines hdrs) := isSegments_splitAfter hdrs
  have hflat : (lines hdrs).flatten = hdrs := flatten_splitAfter hdrs
  have hleaves := inplaceFilter_wellFormed hlisted filter_list hseg hok
  rw [hflat] at hleaves
  refine ⟨?_, hleaves, ?_⟩
  · rw [inplaceFilter_eq]
    exact filterEntries_run pc lookup filter_list hdrs
  · -- the lines that are left are well formed, and all of them pass
    have hkept : ∀ line ∈ (lines hdrs).filter fun line => Passes pc listed filter_list line,
        malformed pc line = false := fun line hline => hok line (List.mem_filter.mp hline).1
    have htwice := inplaceFilter_wellFormed hlisted filter_list
      (hseg.sublist List.filter_sublist) hkept
    rw [hleaves, htwice, List.filter_filter]
    simp only [Bool.and_self]

/-- Both filters leave exactly the lines whose name passes the active entries. -/
theorem header_filters_exact (pc : ParseCommon) (filter_list : List FilterEntry)
    (hdrs : List Char) (hok : ∀ line ∈ lines hdrs, malformed pc line = false) :
    Exact pc (inplaceHeaderFilter pc) findName NameListed filter_list hdrs ∧
      Exact pc (inplaceHeaderPatternFilter pc) matchListPattern PatternListed filter_list hdrs :=
  ⟨inplaceFilter_exact findName_iff filter_list hok,
    inplaceFilter_exact matchListPattern_iff filter_list hok⟩

/-- A blacklist on a block whose last line has no line end. -/
theorem header_filters_exact_unterminated :
    (∀ line ∈ lines "P-A: 1\r\nnocolon\nB: 2".toList, malformed .strict line = false) ∧
    Exact .strict (inplaceHeaderFilter .strict) findName NameListed
        [⟨.Blacklist, ["p-a".toList]⟩] "P-A: 1\r\nnocolon\nB: 2".toList ∧
      Exact .strict (inplaceHeaderPatternFilter .strict) matchListPattern PatternListed
        [⟨.Blacklist, ["p-a".toList]⟩] "P-A: 1\r\nnocolon\nB: 2".toList := by
  have hok : ∀ line ∈ lines "P-A: 1\r\nnocolon\nB: 2".toList,
      malformed .strict line = false := by decide
  exact ⟨hok, header_filters_exact .strict [⟨.Blacklist, ["p-a".toList]⟩]
    "P-A: 1\r\nnocolon\nB: 2".toList hok⟩

/-! ### Patterns without a star -/

/-- Two ways of looking up a name that agree on the lists of these entries. -/
def AgreeOn (lookup lookup' : Lookup) (filter_list : List FilterEntry) : Prop :=
  ∀ fe ∈ filter_list, ∀ name, lookup name fe.filter_list = lookup' name fe.filter_list

/-- The loop of an entry makes the same passes with either lookup. -/
theorem filterLoop_congr {lookup' : Lookup} {fe : FilterEntry}
    (h : ∀ name, lookup name fe.filter_list = lookup' name fe.filter_list) (fuel : Nat)
    (hdrs : List Char) (start_pos : Nat) :
    filterLoop pc lookup fe fuel hdrs start_pos = filterLoop pc lookup' fe fuel hdrs start_pos := by
  have herases : ∀ name, fe.erases lookup name = fe.erases lookup' name := fun name => by
    unfold FilterEntry.erases
    rw [h name]
  induction fuel generalizing hdrs start_pos with
  | zero => rfl
  | succ fuel ih => simp only [filterLoop, herases, ih]

theorem inplaceFilter_congr {lookup' : Lookup} {filter_list : List FilterEntry}
    (h : AgreeOn lookup lookup' filter_list) (hdrs : List Char) :
    inplaceFilter pc lookup hdrs filter_list = inplaceFilter pc lookup' hdrs filter_list := by
  rw [inplaceFilter_eq, inplaceFilter_eq]
  induction filter_list generalizing hdrs with
  | nil => rfl
  | cons fe filter_list ih =>
    have hfe : ∀ name, lookup name fe.filter_list = lookup' name fe.filter_list :=
      h fe List.mem_cons_self
    have hrest : AgreeOn lookup lookup' filter_list :=
      fun fe' hmem => h fe' (List.mem_cons_of_mem fe hmem)
    simp only [filterEntries, filterLoop_congr hfe, ih hrest]

/-- The pattern is not empty and neither begins nor ends with `*`. -/
def Plain (p : List Char) : Prop :=
  p ≠ [] ∧ p.head? ≠ some '*' ∧ p.getLast? ≠ some '*'

instance : DecidablePred Plain := fun p =>
  inferInstanceAs (Decidable (p ≠ [] ∧ p.head? ≠ some '*' ∧ p.getLast? ≠ some '*'))

/-- A plain pattern matches its own name only. -/
theorem Plain.matchesPattern_iff {p : List Char} (h : Plain p) (name : List Char) :
    MatchesPattern p name ↔ p = name := by
  obtain ⟨-, hhead, hlast⟩ := h
  rw [MatchesPattern, if_neg hhead, if_neg hlast]

/-- In a list of plain patterns a name is matched iff it is a member. -/
theorem patternListed_iff_of_plain {l : List (List Char)} (h : ∀ p ∈ l, Plain p)
    (name : List Char) : PatternListed name l ↔ NameListed name l := by
  constructor
  · rintro ⟨-, p, hp, hmatch⟩
    rw [(h p hp).matchesPattern_iff] at hmatch
    exact hmatch ▸ hp
  · intro hmem
    -- a line without a name is matched by nothing, and the list has no empty entry
    exact ⟨(h name hmem).1, name, hmem, ((h name hmem).matchesPattern_iff name).mpr rfl⟩

theorem agreeOn_of_plain {filter_list : List FilterEntry}
    (h : ∀ fe ∈ filter_list, ∀ p ∈ fe.filter_list, Plain p) :
    AgreeOn matchListPattern findName filter_list := by
  intro fe hfe name
  rw [Bool.eq_iff_iff, matchListPattern_iff, findName_iff]
  exact patternListed_iff_of_plain (h fe hfe) name

/-- On lists of plain patterns the pattern filter is the exact filter, for every block
    and with the same result of `skip_header`. -/
theorem pattern_filter_extends_exact (pc : ParseCommon) (hdrs : List Char)
    (filter_list : List FilterEntry)
    (hplain : ∀ fe ∈ filter_list, ∀ p ∈ fe.filter_list, Plain p) :
    inplaceHeaderPatternFilter pc hdrs filter_list = inplaceHeaderFilter pc hdrs filter_list :=
  inplaceFilter_congr (agreeOn_of_plain hplain) hdrs

/-- A whitelist on a block whose second line is malformed. -/
theorem pattern_filter_extends_exact_malformed :
    (∀ fe ∈ [FilterEntry.mk .Whitelist ["p-*a".toList]], ∀ p ∈ fe.filter_list, Plain p) ∧
    inplaceHeaderPatternFilter .strict "A: 1\nb\rc\n".toList
        [⟨.Whitelist, ["p-*a".toList]⟩] =
      inplaceHeaderFilter .strict "A: 1\nb\rc\n".toList [⟨.Whitelist, ["p-*a".toList]⟩] := by
  have hplain : ∀ fe ∈ [FilterEntry.mk .Whitelist ["p-*a".toList]],
      ∀ p ∈ fe.filter_list, Plain p := by decide
  exact ⟨hplain, pattern_filter_extends_exact .strict "A: 1\nb\rc\n".toList
    [⟨.Whitelist, ["p-*a".toList]⟩] hplain⟩

end Yeti.Headers
