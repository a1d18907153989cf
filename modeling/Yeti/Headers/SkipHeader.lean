import Yeti.Framework.Segments

/-! # Scanning header lines

    Model of `skip_header` in `HeaderFilter.cpp`, the character machine that all
    readers of a header block share.  A `std::string` is the list of its
    characters.

    The two macros `case_CR_LF` and `case_ST_CR` come from `sip/parse_common.h`
    of the SIP stack: the former switches to `ST_CR` or `ST_LF`, the latter
    decides what a `CR` is followed by.  What it does with a `CR` that is not
    followed by `LF` is left open in `ParseCommon`.
-/

open Segments

namespace Yeti.Headers

/-! ### The machine -/

/-- Header states, with those of `sip/parse_common.h`. -/
inductive State where
  | H_NAME
  | H_HCOLON
  | H_VALUE_SWS
  | H_VALUE
  | ST_CR
  | ST_LF
  | ST_CRLF
  deriving DecidableEq, Repr

/-- The loop goes on in this state. -/
def State.inHeader (st : State) : Bool := st ≠ .ST_LF && st ≠ .ST_CRLF

/-- `case_ST_CR` of the SIP stack: the state after `ST_CR` for the saved state and
    the next character, `none` when it returns `MALFORMED_SIP_MSG`. -/
structure ParseCommon where
  case_ST_CR : State → Char → Option State
  /-- `CR LF` ends the header. -/
  lf : ∀ saved_st, case_ST_CR saved_st '\n' = some .ST_CRLF
  /-- A `CR` without `LF` does not. -/
  noLf : ∀ saved_st ch st, ch ≠ '\n' → case_ST_CR saved_st ch = some st → st.inHeader = true

/-- The SIP stack that takes a `CR` without `LF` as malformed. -/
def ParseCommon.strict : ParseCommon where
  case_ST_CR _ ch := if ch = '\n' then some .ST_CRLF else none
  lf _ := rfl
  noLf _ ch st hch h := by simp [hch] at h

/-- The variables of the loop. -/
structure Scan where
  st : State
  saved_st : State
  name_end : Nat
  val_begin : Nat
  val_end : Nat
  deriving DecidableEq, Repr

/-- `case_CR_LF`, with what the other cases of the switch do. -/
def case_CR_LF (ch : Char) (s other : Scan) : Scan :=
  if ch = '\r' then { s with saved_st := s.st, st := .ST_CR }
  else if ch = '\n' then { s with saved_st := s.st, st := .ST_LF }
  else other

/-- `SP` or `HTAB`. -/
def blank (ch : Char) : Bool := ch = ' ' || ch = '\t'

/-- The loop body at position `p`; `none` is `return MALFORMED_SIP_MSG`. -/
def step (pc : ParseCommon) (p : Nat) (ch : Char) (s : Scan) : Option Scan :=
  match s.st with
  | .H_NAME =>
    some <| case_CR_LF ch s <|
      if ch = ':' then { s with st := .H_VALUE_SWS, name_end := p }
      else if blank ch then { s with st := .H_HCOLON, name_end := p }
      else s
  | .H_VALUE_SWS =>
    some <| case_CR_LF ch s <|
      if blank ch then s else { s with st := .H_VALUE, val_begin := p }
  | .H_VALUE =>
    -- the source tests the state after the macro has changed it
    let s := case_CR_LF ch s s
    some (if s.st = .ST_CR ∨ s.st = .ST_LF then { s with val_end := p } else s)
  | .H_HCOLON =>
    -- blanks before the colon: `val_begin` is set, and `val_end` stays at the start
    if ch = ':' then some { s with st := .H_VALUE_SWS, val_begin := p }
    else if blank ch then some s
    else none
  | .ST_CR => (pc.case_ST_CR s.saved_st ch).map fun st => { s with st := st }
  | .ST_LF | .ST_CRLF => some s

/-- How the loop is left. -/
structure LoopEnd where
  malformed : Bool
  p : Nat
  scan : Scan

/-- The loop from position `p` on, over the characters from there. -/
def skipLoop (pc : ParseCommon) : List Char → Nat → Scan → LoopEnd
  | [], p, s => ⟨false, p, s⟩
  | ch :: cs, p, s =>
    if s.st.inHeader then
      match step pc p ch s with
      | some s' => skipLoop pc cs (p + 1) s'
      | none => ⟨true, p, s⟩
    else ⟨false, p, s⟩

/-- The result of `skip_header` with its output parameters. -/
structure Header where
  /-- `MALFORMED_SIP_MSG` was returned. -/
  malformed : Bool
  name_end : Nat
  val_begin : Nat
  val_end : Nat
  hdr_end : Nat
  deriving DecidableEq, Repr

/-- `skip_header`. -/
def skip_header (pc : ParseCommon) (hdr : List Char) (start_pos : Nat) : Header :=
  let e := skipLoop pc (hdr.drop start_pos) start_pos
    ⟨.H_NAME, .H_NAME, start_pos, start_pos, start_pos⟩
  if e.malformed then
    ⟨true, e.scan.name_end, e.scan.val_begin, e.scan.val_end, hdr.length⟩
  else
    ⟨false, e.scan.name_end, e.scan.val_begin,
      if e.p = hdr.length ∧ e.scan.st = .H_VALUE then e.p else e.scan.val_end, e.p⟩

/-! ### Lines -/

/-- The lines of a header block, each with its line end. -/
def lines (hdrs : List Char) : List (List Char) := splitAfter '\n' hdrs

/-- The header is cut short: `skip_header` gives up on the line. -/
def malformed (pc : ParseCommon) (line : List Char) : Bool := (skip_header pc line 0).malformed

/-- The name of a header line. -/
def lineName (pc : ParseCommon) (line : List Char) : List Char :=
  line.take (skip_header pc line 0).name_end

variable {pc : ParseCommon}

/-! ### Position independence -/

/-- The same variables with all positions moved. -/
def Scan.shift (d : Nat) (s : Scan) : Scan :=
  { s with name_end := d + s.name_end, val_begin := d + s.val_begin, val_end := d + s.val_end }

theorem step_shift (d p : Nat) (ch : Char) (s : Scan) :
    step pc (d + p) ch (s.shift d) = (step pc p ch s).map (Scan.shift d) := by
  obtain ⟨st, saved_st, name_end, val_begin, val_end⟩ := s
  cases st with
  | ST_CR =>
    simp only [step, Scan.shift]
    cases pc.case_ST_CR saved_st ch <;> rfl
  | H_NAME =>
    simp only [step, Scan.shift, case_CR_LF]
    split_ifs <;> rfl
  | H_HCOLON =>
    simp only [step, Scan.shift]
    split_ifs <;> rfl
  | H_VALUE_SWS =>
    simp only [step, Scan.shift, case_CR_LF]
    split_ifs <;> rfl
  | H_VALUE =>
    simp only [step, Scan.shift, case_CR_LF]
    by_cases hcr : ch = '\r'
    · simp [hcr, Scan.shift]
    · by_cases hlf : ch = '\n' <;> simp [hcr, hlf, Scan.shift]
  | ST_LF => rfl
  | ST_CRLF => rfl

variable (pc) in
theorem skipLoop_shift (d : Nat) (cs : List Char) (p : Nat) (s : Scan) :
    skipLoop pc cs (d + p) (s.shift d) =
      ⟨(skipLoop pc cs p s).malformed, d + (skipLoop pc cs p s).p,
        (skipLoop pc cs p s).scan.shift d⟩ := by
  induction cs generalizing p s with
  | nil => rfl
  | cons ch cs ih =>
    have hst : (s.shift d).st = s.st := rfl
    simp only [skipLoop, hst]
    split_ifs
    · -- one step moves with the positions, so the loop does
      rw [step_shift]
      cases step pc p ch s with
      | none => rfl
      | some s' => exact ih (p + 1) s'
    · rfl

/-! ### One line -/

/-- Only a line feed ends the header. -/
theorem step_inHeader {p : Nat} {ch : Char} {s s' : Scan} (hch : ch ≠ '\n')
    (hs : s.st.inHeader = true) (h : step pc p ch s = some s') : s'.st.inHeader = true := by
  unfold step case_CR_LF at h
  cases hst : s.st with
  | ST_CR =>
    simp only [hst, Option.map_eq_some_iff] at h
    obtain ⟨st, hcr, rfl⟩ := h
    exact pc.noLf _ _ _ hch hcr
  | H_NAME =>
    simp only [hst, hch, if_false, Option.some.injEq] at h
    subst h
    split_ifs <;> simp [State.inHeader, hst]
  | H_HCOLON =>
    simp only [hst] at h
    split_ifs at h <;> simp only [Option.some.injEq] at h <;> subst h <;>
      simp [State.inHeader, hst]
  | H_VALUE_SWS =>
    simp only [hst, hch, if_false, Option.some.injEq] at h
    subst h
    split_ifs <;> simp [State.inHeader, hst]
  | H_VALUE =>
    simp only [hst, hch, if_false, Option.some.injEq] at h
    subst h
    split_ifs <;> simp_all [State.inHeader]
  | ST_LF => simp [State.inHeader, hst] at hs
  | ST_CRLF => simp [State.inHeader, hst] at hs

/-- A line feed ends the header, unless it is malformed. -/
theorem step_lf {p : Nat} {s s' : Scan} (hs : s.st.inHeader = true)
    (h : step pc p '\n' s = some s') : s'.st.inHeader = false := by
  unfold step case_CR_LF at h
  cases hst : s.st with
  | ST_CR =>
    simp only [hst, pc.lf, Option.map_some, Option.some.injEq] at h
    subst h
    rfl
  | H_NAME =>
    simp only [hst, Option.some.injEq] at h
    subst h
    rfl
  -- a line feed before the colon is malformed
  | H_HCOLON => simp [hst, blank] at h
  | H_VALUE_SWS =>
    simp only [hst, Option.some.injEq] at h
    subst h
    rfl
  | H_VALUE =>
    simp only [hst, Option.some.injEq] at h
    subst h
    rfl
  | ST_LF => simp [State.inHeader, hst] at hs
  | ST_CRLF => simp [State.inHeader, hst] at hs

/-- The loop over a last line without a line feed reads all of it. -/
theorem skipLoop_last {body : List Char} (hbody : '\n' ∉ body) (p : Nat) (s : Scan)
    (hs : s.st.inHeader = true) (hok : (skipLoop pc body p s).malformed = false) :
    (skipLoop pc body p s).p = p + body.length := by
  induction body generalizing p s with
  | nil => rfl
  | cons ch body ih =>
    obtain ⟨hch, hbody⟩ : '\n' ≠ ch ∧ '\n' ∉ body := by simpa using hbody
    rw [skipLoop, if_pos hs] at hok ⊢
    cases hstep : step pc p ch s with
    | none => simp [hstep] at hok
    | some s' =>
      simp only [hstep] at hok ⊢
      rw [ih hbody (p + 1) s' (step_inHeader (Ne.symm hch) hs hstep) hok, List.length_cons]
      omega

variable (pc) in
/-- The loop over a line that ends with its line feed stops there, whatever follows. -/
theorem skipLoop_line {body : List Char} (hbody : '\n' ∉ body) (rest : List Char) (p : Nat)
    (s : Scan) (hs : s.st.inHeader = true) :
    skipLoop pc (body ++ '\n' :: rest) p s = skipLoop pc (body ++ ['\n']) p s ∧
      ((skipLoop pc (body ++ ['\n']) p s).malformed = false →
        (skipLoop pc (body ++ ['\n']) p s).p = p + (body.length + 1) ∧
        (skipLoop pc (body ++ ['\n']) p s).scan.st.inHeader = false) := by
  induction body generalizing p s with
  | nil =>
    simp only [List.nil_append, skipLoop, if_pos hs]
    cases hstep : step pc p '\n' s with
    | none => simp
    | some s' =>
      -- the loop tests the state before it looks at `rest`
      have hend := step_lf hs hstep
      cases rest with
      | nil => simp [skipLoop, hend]
      | cons c rest => simp [skipLoop, hend]
  | cons ch body ih =>
    obtain ⟨hch, hbody⟩ : '\n' ≠ ch ∧ '\n' ∉ body := by simpa using hbody
    simp only [List.cons_append, skipLoop, if_pos hs]
    cases hstep : step pc p ch s with
    | none => simp
    | some s' =>
      obtain ⟨heq, hend⟩ := ih hbody (p + 1) s' (step_inHeader (Ne.symm hch) hs hstep)
      refine ⟨heq, fun hok => ?_⟩
      obtain ⟨hp, hst⟩ := hend hok
      exact ⟨by simp only [hp, List.length_cons]; omega, hst⟩

/-! ### Bounds -/

/-- All positions are at most `p`. -/
structure Scan.Within (p : Nat) (s : Scan) : Prop where
  name_end : s.name_end ≤ p
  val_begin : s.val_begin ≤ p
  val_end : s.val_end ≤ p

theorem Scan.Within.mono {p q : Nat} {s : Scan} (h : s.Within p) (hpq : p ≤ q) : s.Within q :=
  ⟨Nat.le_trans h.name_end hpq, Nat.le_trans h.val_begin hpq, Nat.le_trans h.val_end hpq⟩

theorem step_within {p : Nat} {ch : Char} {s s' : Scan} (hs : s.Within p)
    (h : step pc p ch s = some s') : s'.Within p := by
  obtain ⟨hname, hbegin, hend⟩ := hs
  unfold step case_CR_LF at h
  cases hst : s.st with
  | ST_CR =>
    simp only [hst, Option.map_eq_some_iff] at h
    obtain ⟨st, -, rfl⟩ := h
    exact ⟨hname, hbegin, hend⟩
  | H_NAME =>
    simp only [hst, Option.some.injEq] at h
    subst h
    split_ifs <;> exact ⟨by simp [hname], hbegin, hend⟩
  | H_HCOLON =>
    simp only [hst] at h
    split_ifs at h <;> simp only [Option.some.injEq] at h <;> subst h <;>
      exact ⟨hname, by simp [hbegin], hend⟩
  | H_VALUE_SWS =>
    simp only [hst, Option.some.injEq] at h
    subst h
    split_ifs <;> exact ⟨hname, by simp [hbegin], hend⟩
  | H_VALUE =>
    simp only [hst, Option.some.injEq] at h
    subst h
    split_ifs <;> exact ⟨hname, hbegin, by simp [hend]⟩
  | ST_LF =>
    simp only [hst, Option.some.injEq] at h
    exact h ▸ ⟨hname, hbegin, hend⟩
  | ST_CRLF =>
    simp only [hst, Option.some.injEq] at h
    exact h ▸ ⟨hname, hbegin, hend⟩

variable (pc) in
theorem skipLoop_within (cs : List Char) (p : Nat) (s : Scan) (hs : s.Within p) :
    (skipLoop pc cs p s).scan.Within (p + cs.length) ∧
      (skipLoop pc cs p s).p ≤ p + cs.length := by
  induction cs generalizing p s with
  | nil => exact ⟨hs, Nat.le_refl p⟩
  | cons ch cs ih =>
    have hlen : p + (ch :: cs).length = p + 1 + cs.length := by
      simp only [List.length_cons]
      omega
    rw [skipLoop]
    split_ifs
    · cases hstep : step pc p ch s with
      | none => exact ⟨hs.mono (Nat.le_add_right _ _), Nat.le_add_right _ _⟩
      | some s' =>
        rw [hlen]
        exact ih (p + 1) s' ((step_within hs hstep).mono (Nat.le_succ p))
    · exact ⟨hs.mono (Nat.le_add_right _ _), Nat.le_add_right _ _⟩

variable (pc) in
/-- The output parameters point into the line. -/
theorem skip_header_within (line : List Char) :
    (skip_header pc line 0).name_end ≤ line.length ∧
      (skip_header pc line 0).val_end ≤ line.length := by
  obtain ⟨hs, hp⟩ := skipLoop_within pc line 0 ⟨.H_NAME, .H_NAME, 0, 0, 0⟩
    ⟨Nat.le_refl 0, Nat.le_refl 0, Nat.le_refl 0⟩
  rw [Nat.zero_add] at hs hp
  unfold skip_header
  simp only [List.drop_zero]
  split_ifs
  · exact ⟨hs.name_end, hs.val_end⟩
  · exact ⟨hs.name_end, hp⟩
  · exact ⟨hs.name_end, hs.val_end⟩

/-- The name of a line is as long as `skip_header` says. -/
theorem length_lineName (line : List Char) :
    (lineName pc line).length = (skip_header pc line 0).name_end := by
  rw [lineName, List.length_take, Nat.min_eq_left (skip_header_within pc line).1]

/-! ### Lines of a block -/

/-- Within a block, `skip_header` at the start of a line sees that line only. -/
structure SeesLine (pc : ParseCommon) (hdr : List Char) (start_pos : Nat) (line : List Char) :
    Prop where
  malformed_eq : (skip_header pc hdr start_pos).malformed = malformed pc line
  name_end : (skip_header pc hdr start_pos).name_end =
    start_pos + (skip_header pc line 0).name_end
  val_begin : (skip_header pc hdr start_pos).val_begin =
    start_pos + (skip_header pc line 0).val_begin
  val_end : (skip_header pc hdr start_pos).val_end = start_pos + (skip_header pc line 0).val_end
  hdr_end : malformed pc line = false →
    (skip_header pc hdr start_pos).hdr_end = start_pos + line.length

/-- The loop of `skip_header` on a line alone. -/
def lineEnd (pc : ParseCommon) (line : List Char) : LoopEnd :=
  skipLoop pc line 0 ⟨.H_NAME, .H_NAME, 0, 0, 0⟩

/-- `SeesLine` from what the loop does in the block and on the line alone. -/
theorem seesLine_of_loop {pre line rest : List Char}
    (hloop : skipLoop pc (line ++ rest) pre.length
        ⟨.H_NAME, .H_NAME, pre.length, pre.length, pre.length⟩ =
      ⟨(lineEnd pc line).malformed, pre.length + (lineEnd pc line).p,
        (lineEnd pc line).scan.shift pre.length⟩)
    (hp : (lineEnd pc line).malformed = false → (lineEnd pc line).p = line.length)
    (hend : (lineEnd pc line).malformed = false →
      rest = [] ∨ (lineEnd pc line).scan.st.inHeader = false) :
    SeesLine pc (pre ++ (line ++ rest)) pre.length line := by
  have hblock : skip_header pc (pre ++ (line ++ rest)) pre.length =
      if (lineEnd pc line).malformed then
        ⟨true, pre.length + (lineEnd pc line).scan.name_end,
          pre.length + (lineEnd pc line).scan.val_begin,
          pre.length + (lineEnd pc line).scan.val_end, (pre ++ (line ++ rest)).length⟩
      else
        ⟨false, pre.length + (lineEnd pc line).scan.name_end,
          pre.length + (lineEnd pc line).scan.val_begin,
          if pre.length + (lineEnd pc line).p = (pre ++ (line ++ rest)).length ∧
              (lineEnd pc line).scan.st = .H_VALUE then pre.length + (lineEnd pc line).p
            else pre.length + (lineEnd pc line).scan.val_end,
          pre.length + (lineEnd pc line).p⟩ := by
    unfold skip_header
    rw [List.drop_left, hloop]
    rfl
  have hline : skip_header pc line 0 =
      if (lineEnd pc line).malformed then
        ⟨true, (lineEnd pc line).scan.name_end, (lineEnd pc line).scan.val_begin,
          (lineEnd pc line).scan.val_end, line.length⟩
      else
        ⟨false, (lineEnd pc line).scan.name_end, (lineEnd pc line).scan.val_begin,
          if (lineEnd pc line).p = line.length ∧ (lineEnd pc line).scan.st = .H_VALUE
            then (lineEnd pc line).p else (lineEnd pc line).scan.val_end,
          (lineEnd pc line).p⟩ := rfl
  cases hm : (lineEnd pc line).malformed with
  | true =>
    rw [hm, if_pos rfl] at hblock hline
    exact ⟨by rw [hblock, malformed, hline], by rw [hblock, hline], by rw [hblock, hline],
      by rw [hblock, hline], fun hok => by simp [malformed, hline] at hok⟩
  | false =>
    rw [hm, if_neg (by simp)] at hblock hline
    refine ⟨by rw [hblock, malformed, hline], by rw [hblock, hline], by rw [hblock, hline], ?_,
      fun _ => by rw [hblock, ← hp hm]⟩
    rw [hblock, hline]
    simp only [hp hm]
    rcases hend hm with rfl | hst
    · by_cases hv : (lineEnd pc line).scan.st = .H_VALUE <;> simp [hv]
    · have hv : (lineEnd pc line).scan.st ≠ .H_VALUE := by
        intro hv
        simp [hv, State.inHeader] at hst
      simp [hv]

/-- The first of the lines that follow a prefix. -/
theorem seesLine {line : List Char} {ls : List (List Char)} (h : IsSegments '\n' (line :: ls))
    (pre : List Char) :
    SeesLine pc (pre ++ (line ++ ls.flatten)) pre.length line := by
  have hshift (cs : List Char) := skipLoop_shift pc pre.length cs 0
    ⟨.H_NAME, .H_NAME, 0, 0, 0⟩
  cases h with
  | last hne hsep =>
    refine seesLine_of_loop ?_ (fun hm => ?_) (fun _ => .inl rfl)
    · rw [List.flatten_nil, List.append_nil]
      exact hshift line
    · simpa [lineEnd] using skipLoop_last hsep 0 _ rfl hm
  | @cons body _ hsep h =>
    obtain ⟨heq, hend⟩ := skipLoop_line pc hsep ls.flatten 0
      ⟨.H_NAME, .H_NAME, 0, 0, 0⟩ rfl
    refine seesLine_of_loop ?_ (fun hm => ?_) (fun hm => .inr (hend hm).2)
    · rw [List.append_assoc, List.singleton_append]
      have := hshift (body ++ '\n' :: ls.flatten)
      rw [heq] at this
      exact this
    · simpa [lineEnd] using (hend hm).1

end Yeti.Headers
