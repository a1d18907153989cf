import Yeti.Headers.Exactness
import Yeti.Headers.Reading

/-! # The value slice of a header

    All readers take the value of a header as `substr(val_begin, val_end - val_begin)`.
    The slice lies in its line, except for an empty value whose colon is preceded by a
    blank: `H_HCOLON` moves `val_begin` to the colon, and nothing moves `val_end`.

    The results need the SIP stack to take a `CR` without `LF` as malformed, as
    `ParseCommon.strict` does.
-/

open Segments

namespace Yeti.Headers

/-! ### Shapes of a header -/

/-- A character that leaves the state `H_NAME` alone. -/
def nameChar (ch : Char) : Bool := ch ≠ ':' && !blank ch && ch ≠ '\r' && ch ≠ '\n'

/-- A character that leaves the state `H_VALUE` alone. -/
def valueChar (ch : Char) : Bool := ch ≠ '\r' && ch ≠ '\n'

/-- The header ends here: with the block, with `LF` or with `CR LF`. -/
def atLineEnd : List Char → Bool
  | [] => true
  | ch :: rest => ch = '\n' || (ch = '\r' && (rest.isEmpty || rest.head? = some '\n'))

/-- The header has a blank between its name and the colon, and no value. -/
def emptyAfterBlank (hdr : List Char) : Bool :=
  let afterName := hdr.dropWhile nameChar
  let afterBlanks := afterName.dropWhile blank
  afterName.head?.any blank && afterBlanks.head? == some ':' &&
    atLineEnd (afterBlanks.tail.dropWhile blank)

variable {pc : ParseCommon}

/-- The positions delimit a part of the first line without a line end. -/
def SliceAt (hdr : List Char) (val_begin val_end : Nat) : Prop :=
  ∃ before value rest, hdr = before ++ (value ++ rest) ∧ '\n' ∉ before ∧
    (∀ ch ∈ value, valueChar ch = true) ∧ val_begin = before.length ∧
    val_end = before.length + value.length

theorem SliceAt.zero (hdr : List Char) : SliceAt hdr 0 0 :=
  ⟨[], [], hdr, rfl, by simp, by simp, rfl, rfl⟩

/-! ### Phases of the loop -/

theorem skipLoop_step {ch : Char} {rest : List Char} {p : Nat} {s s' : Scan}
    (hs : s.st.inHeader = true) (hstep : step pc p ch s = some s') :
    skipLoop pc (ch :: rest) p s = skipLoop pc rest (p + 1) s' := by
  rw [skipLoop, if_pos hs, hstep]

/-- Characters that leave the scan alone are passed over. -/
theorem skipLoop_passes {good : Char → Bool} {s : Scan} (hs : s.st.inHeader = true)
    (hstep : ∀ p ch, good ch = true → step pc p ch s = some s) {skipped : List Char}
    (hgood : ∀ ch ∈ skipped, good ch = true) (rest : List Char) (p : Nat) :
    skipLoop pc (skipped ++ rest) p s = skipLoop pc rest (p + skipped.length) s := by
  induction skipped generalizing p with
  | nil => rfl
  | cons ch skipped ih =>
    obtain ⟨hch, hgood⟩ : good ch = true ∧ ∀ ch ∈ skipped, good ch = true := by
      simpa using hgood
    rw [List.cons_append, skipLoop_step hs (hstep p ch hch), ih hgood, List.length_cons]
    congr 1
    omega

theorem skipLoop_dropWhile {good : Char → Bool} {s : Scan} (hs : s.st.inHeader = true)
    (hstep : ∀ p ch, good ch = true → step pc p ch s = some s) (cs : List Char) (p : Nat) :
    skipLoop pc cs p s =
      skipLoop pc (cs.dropWhile good) (p + (cs.takeWhile good).length) s := by
  have hgood : ∀ ch ∈ cs.takeWhile good, good ch = true := fun ch h => List.mem_takeWhile_imp h
  have hpasses := skipLoop_passes hs hstep hgood (cs.dropWhile good) p
  rwa [List.takeWhile_append_dropWhile] at hpasses

/-- What stops a run of good characters is not one of them. -/
theorem stops_of_dropWhile {good : Char → Bool} {cs rest : List Char} {ch : Char}
    (h : cs.dropWhile good = ch :: rest) : good ch = false := by
  have hstop := List.head_dropWhile_not good (h ▸ List.cons_ne_nil ch rest)
  simpa [h] using hstop

theorem lf_not_mem_takeWhile (good : Char → Bool) (hlf : good '\n' = false)
    (cs : List Char) : '\n' ∉ cs.takeWhile good := by
  intro hmem
  rw [List.mem_takeWhile_imp hmem] at hlf
  cases hlf

/-- A blank is neither the colon nor part of a line end. -/
theorem ne_of_blank {ch : Char} (h : blank ch = true) : ch ≠ ':' ∧ ch ≠ '\r' ∧ ch ≠ '\n' := by
  refine ⟨?_, ?_, ?_⟩ <;> rintro rfl <;> simp [blank] at h

theorem step_name {ch : Char} (hch : nameChar ch = true) (p : Nat) :
    step pc p ch ⟨.H_NAME, .H_NAME, 0, 0, 0⟩ = some ⟨.H_NAME, .H_NAME, 0, 0, 0⟩ := by
  obtain ⟨⟨⟨hcolon, hblank⟩, hcr⟩, hlf⟩ : ((ch ≠ ':' ∧ blank ch = false) ∧ ch ≠ '\r') ∧
    ch ≠ '\n' := by simpa [nameChar] using hch
  simp [step, case_CR_LF, hcolon, hblank, hcr, hlf]

theorem step_hcolon {s : Scan} (hst : s.st = .H_HCOLON) {ch : Char} (hch : blank ch = true)
    (p : Nat) : step pc p ch s = some s := by
  have hcolon := (ne_of_blank hch).1
  simp [step, hst, hcolon, hch]

theorem step_sws {s : Scan} (hst : s.st = .H_VALUE_SWS) {ch : Char} (hch : blank ch = true)
    (p : Nat) : step pc p ch s = some s := by
  obtain ⟨-, hcr, hlf⟩ := ne_of_blank hch
  simp [step, hst, case_CR_LF, hcr, hlf, hch]

/-- The value of `val_end` that `skip_header` returns for a block of length `n`. -/
def LoopEnd.valEnd (n : Nat) (e : LoopEnd) : Nat :=
  if e.p = n ∧ e.scan.st = .H_VALUE then e.p else e.scan.val_end

/-- At the end of a line the positions stay as the line end has left them. -/
theorem skipLoop_lineEnd (hstrict : ∀ saved_st ch, ch ≠ '\n' → pc.case_ST_CR saved_st ch = none)
    {ch : Char} (rest : List Char) {p : Nat} {s s' : Scan} (hs : s.st.inHeader = true)
    (hstep : step pc p ch s = some s')
    (hch : ch = '\r' ∧ s'.st = .ST_CR ∨ ch = '\n' ∧ s'.st = .ST_LF) (n : Nat) :
    (skipLoop pc (ch :: rest) p s).malformed = !atLineEnd (ch :: rest) ∧
      ((skipLoop pc (ch :: rest) p s).malformed = false →
        (skipLoop pc (ch :: rest) p s).scan.val_begin = s'.val_begin ∧
        (skipLoop pc (ch :: rest) p s).valEnd n = s'.val_end) := by
  rw [skipLoop_step hs hstep]
  rcases hch with ⟨rfl, hst⟩ | ⟨rfl, hst⟩
  · -- what follows the `CR`
    cases rest with
    | nil => simp [skipLoop, atLineEnd, LoopEnd.valEnd, hst]
    | cons next rest =>
      have hin : s'.st.inHeader = true := by simp [hst, State.inHeader]
      rw [skipLoop, if_pos hin]
      by_cases hlf : next = '\n'
      · subst hlf
        have hnext : step pc (p + 1) '\n' s' = some { s' with st := .ST_CRLF } := by
          simp [step, hst, pc.lf]
        rw [hnext]
        cases rest <;> simp [skipLoop, atLineEnd, LoopEnd.valEnd, State.inHeader]
      · have hnext : step pc (p + 1) next s' = none := by
          simp [step, hst, hstrict _ next hlf]
        simp [hnext, atLineEnd, hlf]
  · have hout : s'.st.inHeader = false := by simp [hst, State.inHeader]
    cases rest <;> simp [skipLoop, atLineEnd, LoopEnd.valEnd, hst, State.inHeader]

section Strict

variable (hstrict : ∀ saved_st ch, ch ≠ '\n' → pc.case_ST_CR saved_st ch = none)
include hstrict

/-- In `H_VALUE` the value goes on to the line end. -/
theorem skipLoop_value {s : Scan} (hst : s.st = .H_VALUE) {cs : List Char} {p n : Nat}
    (hn : p + cs.length = n) (hok : (skipLoop pc cs p s).malformed = false) :
    (skipLoop pc cs p s).scan.val_begin = s.val_begin ∧
      (skipLoop pc cs p s).valEnd n = p + (cs.takeWhile valueChar).length := by
  have hs : s.st.inHeader = true := by simp [hst, State.inHeader]
  have hpass : ∀ p ch, valueChar ch = true → step pc p ch s = some s := by
    intro p ch hch
    obtain ⟨hcr, hlf⟩ : ch ≠ '\r' ∧ ch ≠ '\n' := by simpa [valueChar] using hch
    simp [step, hst, case_CR_LF, hcr, hlf]
  have hsplit := congrArg List.length (List.takeWhile_append_dropWhile (p := valueChar) (l := cs))
  rw [List.length_append] at hsplit
  rw [skipLoop_dropWhile hs hpass] at hok ⊢
  cases hrest : cs.dropWhile valueChar with
  | nil =>
    -- the block ends within the value
    rw [hrest, List.length_nil] at hsplit
    have hp : p + (cs.takeWhile valueChar).length = n := by omega
    simp [skipLoop, LoopEnd.valEnd, hst, hp]
  | cons ch rest =>
    rw [hrest] at hok
    have hch := stops_of_dropWhile hrest
    have hend : ch = '\r' ∨ ch = '\n' := by
      by_contra hne
      push Not at hne
      simp [valueChar, hne.1, hne.2] at hch
    rcases hend with rfl | rfl
    · have hstep : step pc (p + (cs.takeWhile valueChar).length) '\r' s =
          some { s with saved_st := .H_VALUE, st := .ST_CR,
                        val_end := p + (cs.takeWhile valueChar).length } := by
        simp [step, hst, case_CR_LF]
      exact (skipLoop_lineEnd hstrict rest hs hstep (.inl ⟨rfl, rfl⟩) n).2 hok
    · have hstep : step pc (p + (cs.takeWhile valueChar).length) '\n' s =
          some { s with saved_st := .H_VALUE, st := .ST_LF,
                        val_end := p + (cs.takeWhile valueChar).length } := by
        simp [step, hst, case_CR_LF]
      exact (skipLoop_lineEnd hstrict rest hs hstep (.inr ⟨rfl, rfl⟩) n).2 hok

/-- A line end in front of the value leaves both positions. -/
theorem skipLoop_ends {s : Scan} (hst : s.st = .H_NAME ∨ s.st = .H_VALUE_SWS) {ch : Char}
    (hch : ch = '\r' ∨ ch = '\n') (rest : List Char) (p n : Nat) :
    (skipLoop pc (ch :: rest) p s).malformed = !atLineEnd (ch :: rest) ∧
      ((skipLoop pc (ch :: rest) p s).malformed = false →
        (skipLoop pc (ch :: rest) p s).scan.val_begin = s.val_begin ∧
        (skipLoop pc (ch :: rest) p s).valEnd n = s.val_end) := by
  have hs : s.st.inHeader = true := by
    rcases hst with hst | hst <;> simp [hst, State.inHeader]
  rcases hch with rfl | rfl
  · have hstep : step pc p '\r' s = some { s with saved_st := s.st, st := .ST_CR } := by
      rcases hst with hst | hst <;> simp [step, hst, case_CR_LF]
    exact skipLoop_lineEnd hstrict rest hs hstep (.inl ⟨rfl, rfl⟩) n
  · have hstep : step pc p '\n' s = some { s with saved_st := s.st, st := .ST_LF } := by
      rcases hst with hst | hst <;> simp [step, hst, case_CR_LF]
    exact skipLoop_lineEnd hstrict rest hs hstep (.inr ⟨rfl, rfl⟩) n

/-- The first character of the value sets `val_begin`. -/
theorem skipLoop_first {s : Scan} (hst : s.st = .H_VALUE_SWS) {ch : Char} {rest : List Char}
    {p n : Nat} (hblank : blank ch = false) (hvalue : valueChar ch = true)
    (hn : p + (ch :: rest).length = n)
    (hok : (skipLoop pc (ch :: rest) p s).malformed = false) :
    (skipLoop pc (ch :: rest) p s).scan.val_begin = p ∧
      (skipLoop pc (ch :: rest) p s).valEnd n =
        p + ((ch :: rest).takeWhile valueChar).length := by
  have hs : s.st.inHeader = true := by simp [hst, State.inHeader]
  obtain ⟨hcr, hlf⟩ : ch ≠ '\r' ∧ ch ≠ '\n' := by simpa [valueChar] using hvalue
  have hstep : step pc p ch s = some { s with st := .H_VALUE, val_begin := p } := by
    simp [step, hst, case_CR_LF, hcr, hlf, hblank]
  rw [List.length_cons] at hn
  have hn' : p + 1 + rest.length = n := by omega
  rw [skipLoop_step hs hstep] at hok ⊢
  obtain ⟨hbegin, hend⟩ := skipLoop_value hstrict rfl hn' hok
  rw [hbegin, hend, List.takeWhile_cons_of_pos hvalue, List.length_cons]
  exact ⟨rfl, by omega⟩

/-- After the colon, blanks are skipped; the value begins at the next character, and
    without one the positions stay. -/
theorem skipLoop_sws {s : Scan} (hst : s.st = .H_VALUE_SWS) {cs : List Char} {p n : Nat}
    (hn : p + cs.length = n) (hok : (skipLoop pc cs p s).malformed = false) :
    (atLineEnd (cs.dropWhile blank) = true →
      (skipLoop pc cs p s).scan.val_begin = s.val_begin ∧
      (skipLoop pc cs p s).valEnd n = s.val_end) ∧
    (atLineEnd (cs.dropWhile blank) = false →
      (skipLoop pc cs p s).scan.val_begin = p + (cs.takeWhile blank).length ∧
      (skipLoop pc cs p s).valEnd n = p + (cs.takeWhile blank).length +
        ((cs.dropWhile blank).takeWhile valueChar).length) := by
  have hs : s.st.inHeader = true := by simp [hst, State.inHeader]
  have hsplit := congrArg List.length (List.takeWhile_append_dropWhile (p := blank) (l := cs))
  rw [List.length_append] at hsplit
  rw [skipLoop_dropWhile hs fun p ch hch => step_sws hst hch p] at hok ⊢
  cases hrest : cs.dropWhile blank with
  | nil => simp [skipLoop, LoopEnd.valEnd, hst, atLineEnd]
  | cons ch rest =>
    rw [hrest] at hok hsplit
    by_cases hend : ch = '\r' ∨ ch = '\n'
    · obtain ⟨hmal, hstay⟩ := skipLoop_ends hstrict (.inr hst) hend rest
        (p + (cs.takeWhile blank).length) n
      have hat : atLineEnd (ch :: rest) = true := by
        rw [hmal] at hok
        simpa using hok
      simp [hat, hstay hok]
    · obtain ⟨hcr, hlf⟩ := not_or.mp hend
      have hvalue : valueChar ch = true := by simp [valueChar, hcr, hlf]
      have hat : atLineEnd (ch :: rest) = false := by simp [atLineEnd, hcr, hlf]
      have hn' : p + (cs.takeWhile blank).length + (ch :: rest).length = n := by omega
      have hfirst := skipLoop_first hstrict hst (stops_of_dropWhile hrest) hvalue hn' hok
      exact ⟨fun h => absurd (hat.symm.trans h) Bool.false_ne_true, fun _ => hfirst⟩

/-- A header that ends after its colon is well formed. -/
theorem skipLoop_sws_ok {s : Scan} (hst : s.st = .H_VALUE_SWS) {cs : List Char} {p : Nat}
    (hat : atLineEnd (cs.dropWhile blank) = true) : (skipLoop pc cs p s).malformed = false := by
  have hs : s.st.inHeader = true := by simp [hst, State.inHeader]
  rw [skipLoop_dropWhile hs fun p ch hch => step_sws hst hch p]
  cases hrest : cs.dropWhile blank with
  | nil => rfl
  | cons ch rest =>
    rw [hrest] at hat
    have hend : ch = '\r' ∨ ch = '\n' := by
      by_contra hnone
      obtain ⟨hcr, hlf⟩ := not_or.mp hnone
      simp [atLineEnd, hlf, hcr] at hat
    rw [(skipLoop_ends hstrict (.inr hst) hend rest _ 0).1, hat]
    rfl

/-- A header with a blank before the colon and no value is well formed. -/
theorem not_malformed_of_emptyAfterBlank {hdr : List Char} (h : emptyAfterBlank hdr = true) :
    (skipLoop pc hdr 0 ⟨.H_NAME, .H_NAME, 0, 0, 0⟩).malformed = false := by
  simp only [emptyAfterBlank] at h
  rw [skipLoop_dropWhile rfl fun p ch hch => step_name hch p]
  cases hname : hdr.dropWhile nameChar with
  | nil => simp [hname] at h
  | cons ch rest =>
    have hblank : blank ch = true := by
      rw [hname] at h
      simp only [Bool.and_eq_true] at h
      simpa using h.1.1
    rw [hname, List.dropWhile_cons_of_pos hblank] at h
    obtain ⟨hcolon, hcr, hlf⟩ := ne_of_blank hblank
    have hstep (p : Nat) : step pc p ch ⟨.H_NAME, .H_NAME, 0, 0, 0⟩ =
        some ⟨.H_HCOLON, .H_NAME, p, 0, 0⟩ := by
      simp [step, case_CR_LF, hcolon, hcr, hlf, hblank]
    rw [skipLoop_step rfl (hstep _), skipLoop_dropWhile rfl fun p ch hch => step_hcolon rfl hch p]
    cases hblanks : rest.dropWhile blank with
    | nil => simp [hblanks] at h
    | cons next rest' =>
      rw [hblanks] at h
      simp only [List.head?_cons, List.tail_cons, Bool.and_eq_true, beq_iff_eq,
        Option.some.injEq] at h
      obtain ⟨⟨-, rfl⟩, hat⟩ := h
      have hstep' (p q : Nat) : step pc p ':' ⟨.H_HCOLON, .H_NAME, q, 0, 0⟩ =
          some ⟨.H_VALUE_SWS, .H_NAME, q, p, 0⟩ := by simp [step]
      rw [skipLoop_step rfl (hstep' _ _)]
      exact skipLoop_sws_ok hstrict rfl hat

/-- A value that is there lies in its line. -/
theorem sliceAt_of_sws {s : Scan} (hst : s.st = .H_VALUE_SWS) {before cs : List Char} {n : Nat}
    (hbefore : '\n' ∉ before) (hn : before.length + cs.length = n)
    (hok : (skipLoop pc cs before.length s).malformed = false)
    (hat : atLineEnd (cs.dropWhile blank) = false) :
    SliceAt (before ++ cs) (skipLoop pc cs before.length s).scan.val_begin
      ((skipLoop pc cs before.length s).valEnd n) := by
  obtain ⟨hbegin, hend⟩ := (skipLoop_sws hstrict hst hn hok).2 hat
  refine ⟨before ++ cs.takeWhile blank, (cs.dropWhile blank).takeWhile valueChar,
    (cs.dropWhile blank).dropWhile valueChar, ?_, ?_, ?_, ?_, ?_⟩
  · rw [List.append_assoc, List.takeWhile_append_dropWhile, List.takeWhile_append_dropWhile]
  · have hblanks := lf_not_mem_takeWhile blank rfl cs
    simp [hbefore, hblanks]
  · exact fun ch hch => List.mem_takeWhile_imp hch
  · rw [hbegin, List.length_append]
  · rw [hend, List.length_append]

/-- The colon behind a blank moves `val_begin`, which an empty value leaves there. -/
theorem skipLoop_late_colon {name_end : Nat} {before rest : List Char} {n : Nat}
    (hpos : 0 < before.length) (hbefore : '\n' ∉ before)
    (hn : before.length + (':' :: rest).length = n)
    (hok : (skipLoop pc (':' :: rest) before.length
      ⟨.H_HCOLON, .H_NAME, name_end, 0, 0⟩).malformed = false) :
    (atLineEnd (rest.dropWhile blank) = true →
      (skipLoop pc (':' :: rest) before.length ⟨.H_HCOLON, .H_NAME, name_end, 0, 0⟩).valEnd n <
        (skipLoop pc (':' :: rest) before.length
          ⟨.H_HCOLON, .H_NAME, name_end, 0, 0⟩).scan.val_begin) ∧
    (atLineEnd (rest.dropWhile blank) = false →
      SliceAt (before ++ ':' :: rest)
        (skipLoop pc (':' :: rest) before.length
          ⟨.H_HCOLON, .H_NAME, name_end, 0, 0⟩).scan.val_begin
        ((skipLoop pc (':' :: rest) before.length
          ⟨.H_HCOLON, .H_NAME, name_end, 0, 0⟩).valEnd n)) := by
  have hstep : step pc before.length ':' ⟨.H_HCOLON, .H_NAME, name_end, 0, 0⟩ =
      some ⟨.H_VALUE_SWS, .H_NAME, name_end, before.length, 0⟩ := by simp [step]
  have hat : before.length + 1 = (before ++ [':']).length := by simp
  have hwhole : before ++ ':' :: rest = before ++ [':'] ++ rest := by simp
  have hno : '\n' ∉ before ++ [':'] := by simp [hbefore]
  rw [List.length_cons] at hn
  have hn' : (before ++ [':']).length + rest.length = n := by omega
  rw [skipLoop_step rfl hstep, hat] at hok ⊢
  rw [hwhole]
  constructor
  · intro hempty
    obtain ⟨hbegin, hend⟩ := (skipLoop_sws hstrict rfl hn' hok).1 hempty
    rw [hbegin, hend]
    exact hpos
  · intro hvalue
    exact sliceAt_of_sws hstrict rfl hno hn' hok hvalue

/-- The loop after a blank that follows the name. -/
theorem skipLoop_hcolon {name_end : Nat} {before cs : List Char} {n : Nat}
    (hpos : 0 < before.length) (hbefore : '\n' ∉ before) (hn : before.length + cs.length = n)
    (hok : (skipLoop pc cs before.length ⟨.H_HCOLON, .H_NAME, name_end, 0, 0⟩).malformed =
      false) :
    (((cs.dropWhile blank).head? == some ':' &&
        atLineEnd ((cs.dropWhile blank).tail.dropWhile blank)) = true →
      (skipLoop pc cs before.length ⟨.H_HCOLON, .H_NAME, name_end, 0, 0⟩).valEnd n <
        (skipLoop pc cs before.length ⟨.H_HCOLON, .H_NAME, name_end, 0, 0⟩).scan.val_begin) ∧
    (((cs.dropWhile blank).head? == some ':' &&
        atLineEnd ((cs.dropWhile blank).tail.dropWhile blank)) = false →
      SliceAt (before ++ cs)
        (skipLoop pc cs before.length ⟨.H_HCOLON, .H_NAME, name_end, 0, 0⟩).scan.val_begin
        ((skipLoop pc cs before.length ⟨.H_HCOLON, .H_NAME, name_end, 0, 0⟩).valEnd n)) := by
  have hblanks := lf_not_mem_takeWhile blank rfl cs
  have hsplit := List.takeWhile_append_dropWhile (p := blank) (l := cs)
  rw [skipLoop_dropWhile rfl fun p ch hch => step_hcolon rfl hch p] at hok ⊢
  generalize cs.takeWhile blank = blanks at hok hblanks hsplit ⊢
  cases hrest : cs.dropWhile blank with
  | nil =>
    have hvals : (skipLoop pc [] (before.length + blanks.length)
        ⟨.H_HCOLON, .H_NAME, name_end, 0, 0⟩).valEnd n = 0 := by simp [skipLoop, LoopEnd.valEnd]
    rw [hvals]
    exact ⟨by simp, fun _ => SliceAt.zero (before ++ cs)⟩
  | cons ch rest =>
    rw [hrest] at hok hsplit
    by_cases hcolon : ch = ':'
    · subst hcolon
      have hwhole : before ++ cs = before ++ blanks ++ ':' :: rest := by
        rw [← hsplit, List.append_assoc]
      have hno : '\n' ∉ before ++ blanks := by simp [hbefore, hblanks]
      have hpos' : 0 < (before ++ blanks).length := by
        rw [List.length_append]
        omega
      have hn' : (before ++ blanks).length + (':' :: rest).length = n := by
        rw [← hn, ← List.length_append, ← List.length_append, hwhole]
      rw [← List.length_append] at hok ⊢
      rw [hwhole]
      exact skipLoop_late_colon hstrict hpos' hno hn' hok
    · -- `H_HCOLON` takes nothing but blanks and the colon
      have hblank := stops_of_dropWhile hrest
      have hstep : step pc (before.length + blanks.length) ch
          ⟨.H_HCOLON, .H_NAME, name_end, 0, 0⟩ = none := by
        simp [step, hcolon, hblank]
      have hin : State.H_HCOLON.inHeader = true := rfl
      simp [skipLoop, hin, hstep] at hok

/-- The colon directly behind the name: an empty value leaves both positions at the start. -/
theorem skipLoop_name_colon {name rest : List Char} {n : Nat} (hname : '\n' ∉ name)
    (hn : name.length + (':' :: rest).length = n)
    (hok : (skipLoop pc (':' :: rest) name.length ⟨.H_NAME, .H_NAME, 0, 0, 0⟩).malformed =
      false) :
    SliceAt (name ++ ':' :: rest)
      (skipLoop pc (':' :: rest) name.length ⟨.H_NAME, .H_NAME, 0, 0, 0⟩).scan.val_begin
      ((skipLoop pc (':' :: rest) name.length ⟨.H_NAME, .H_NAME, 0, 0, 0⟩).valEnd n) := by
  have hstep : step pc name.length ':' ⟨.H_NAME, .H_NAME, 0, 0, 0⟩ =
      some ⟨.H_VALUE_SWS, .H_NAME, name.length, 0, 0⟩ := by simp [step, case_CR_LF]
  have hat : name.length + 1 = (name ++ [':']).length := by simp
  have hwhole : name ++ ':' :: rest = name ++ [':'] ++ rest := by simp
  have hno : '\n' ∉ name ++ [':'] := by simp [hname]
  rw [List.length_cons] at hn
  have hn' : (name ++ [':']).length + rest.length = n := by omega
  rw [skipLoop_step rfl hstep, hat] at hok ⊢
  rw [hwhole]
  cases hvalue : atLineEnd (rest.dropWhile blank) with
  | true =>
    obtain ⟨hbegin, hend⟩ := (skipLoop_sws hstrict rfl hn' hok).1 hvalue
    rw [hbegin, hend]
    exact SliceAt.zero _
  | false => exact sliceAt_of_sws hstrict rfl hno hn' hok hvalue

/-- The loop over a header, from its name on. -/
theorem skipLoop_slices {hdr : List Char}
    (hok : (skipLoop pc hdr 0 ⟨.H_NAME, .H_NAME, 0, 0, 0⟩).malformed = false) :
    (emptyAfterBlank hdr = true →
      (skipLoop pc hdr 0 ⟨.H_NAME, .H_NAME, 0, 0, 0⟩).valEnd hdr.length <
        (skipLoop pc hdr 0 ⟨.H_NAME, .H_NAME, 0, 0, 0⟩).scan.val_begin) ∧
    (emptyAfterBlank hdr = false →
      SliceAt hdr (skipLoop pc hdr 0 ⟨.H_NAME, .H_NAME, 0, 0, 0⟩).scan.val_begin
        ((skipLoop pc hdr 0 ⟨.H_NAME, .H_NAME, 0, 0, 0⟩).valEnd hdr.length)) := by
  have hname := lf_not_mem_takeWhile nameChar rfl hdr
  have hsplit := List.takeWhile_append_dropWhile (p := nameChar) (l := hdr)
  rw [skipLoop_dropWhile rfl fun p ch hch => step_name hch p, Nat.zero_add] at hok ⊢
  unfold emptyAfterBlank
  generalize hdr.takeWhile nameChar = name at hok hname hsplit ⊢
  cases hrest : hdr.dropWhile nameChar with
  | nil =>
    -- the block ends within the name
    have hvals : (skipLoop pc [] name.length ⟨.H_NAME, .H_NAME, 0, 0, 0⟩).valEnd hdr.length =
        0 := by
      simp [skipLoop, LoopEnd.valEnd]
    rw [hvals]
    exact ⟨by simp, fun _ => SliceAt.zero hdr⟩
  | cons ch rest =>
    rw [hrest] at hok hsplit
    have hlen : name.length + (ch :: rest).length = hdr.length := by
      rw [← hsplit, List.length_append]
    by_cases hend : ch = '\r' ∨ ch = '\n'
    · -- the line ends within the name
      have hstay := (skipLoop_ends hstrict (.inl rfl) hend rest name.length hdr.length).2 hok
      have hblank : blank ch = false := by rcases hend with rfl | rfl <;> rfl
      rw [hstay.1, hstay.2]
      exact ⟨by simp [hblank], fun _ => SliceAt.zero hdr⟩
    obtain ⟨hcr, hlf⟩ := not_or.mp hend
    by_cases hcolon : ch = ':'
    · subst hcolon
      refine ⟨by simp [blank], fun _ => ?_⟩
      have hslice := skipLoop_name_colon hstrict hname hlen hok
      rwa [hsplit] at hslice
    · have hblank : blank ch = true := by
        simpa [nameChar, hcolon, hcr, hlf] using stops_of_dropWhile hrest
      have hstep : step pc name.length ch ⟨.H_NAME, .H_NAME, 0, 0, 0⟩ =
          some ⟨.H_HCOLON, .H_NAME, name.length, 0, 0⟩ := by
        simp [step, case_CR_LF, hcolon, hcr, hlf, hblank]
      have hat : name.length + 1 = (name ++ [ch]).length := by simp
      have hwhole : name ++ [ch] ++ rest = hdr := by
        rw [← hsplit]
        simp
      have hno : '\n' ∉ name ++ [ch] := by simp [hname, Ne.symm hlf]
      have hn : (name ++ [ch]).length + rest.length = hdr.length := by
        rw [← List.length_append, hwhole]
      rw [skipLoop_step rfl hstep, hat] at hok ⊢
      have hcase := skipLoop_hcolon hstrict (by simp) hno hn hok
      rw [hwhole] at hcase
      simpa [hblank] using hcase

end Strict

/-! ### Slices in a block -/

/-- The value slice of the header at `start_pos` lies in the line there, and `substr`
    returns that slice. -/
structure SliceInLine (hdr : List Char) (start_pos : Nat) (h : Header) : Prop where
  start_le : start_pos ≤ h.val_begin
  begin_le : h.val_begin ≤ h.val_end
  end_le : h.val_end ≤ h.hdr_end
  hdr_end_le : h.hdr_end ≤ hdr.length
  progress : start_pos < h.hdr_end
  /-- No line ends before the slice does. -/
  same_line : '\n' ∉ (hdr.drop start_pos).take (h.val_end - start_pos)
  no_line_end : ∀ ch ∈ (hdr.drop h.val_begin).take (h.val_end - h.val_begin),
    ch ≠ '\r' ∧ ch ≠ '\n'
  value_eq : value hdr h = (hdr.drop h.val_begin).take (h.val_end - h.val_begin)

variable (pc) in
/-- `skip_header` at a position and the loop over what follows it. -/
theorem skip_header_drop (hdr : List Char) (start_pos : Nat) :
    (skip_header pc hdr start_pos).malformed =
      (skipLoop pc (hdr.drop start_pos) 0 ⟨.H_NAME, .H_NAME, 0, 0, 0⟩).malformed ∧
    (start_pos < hdr.length → (skip_header pc hdr start_pos).malformed = false →
      (skip_header pc hdr start_pos).val_begin = start_pos +
        (skipLoop pc (hdr.drop start_pos) 0 ⟨.H_NAME, .H_NAME, 0, 0, 0⟩).scan.val_begin ∧
      (skip_header pc hdr start_pos).val_end = start_pos +
        (skipLoop pc (hdr.drop start_pos) 0 ⟨.H_NAME, .H_NAME, 0, 0, 0⟩).valEnd
          (hdr.drop start_pos).length) := by
  have hshift : skipLoop pc (hdr.drop start_pos) start_pos
      ⟨.H_NAME, .H_NAME, start_pos, start_pos, start_pos⟩ = _ :=
    skipLoop_shift pc start_pos (hdr.drop start_pos) 0 ⟨.H_NAME, .H_NAME, 0, 0, 0⟩
  generalize skipLoop pc (hdr.drop start_pos) 0 ⟨.H_NAME, .H_NAME, 0, 0, 0⟩ = e at hshift ⊢
  unfold skip_header
  rw [hshift]
  cases hm : e.malformed with
  | true => simp
  | false =>
    refine ⟨rfl, fun hpos _ => ⟨rfl, ?_⟩⟩
    have hend : start_pos + e.p = hdr.length ↔ e.p = (hdr.drop start_pos).length := by
      rw [List.length_drop]
      omega
    simp only [Scan.shift, LoopEnd.valEnd, hend, Bool.false_eq_true, if_false]
    split_ifs <;> rfl

variable (pc) in
/-- No position is set ahead of the scan. -/
theorem skipLoop_scan_le (cs : List Char) (p : Nat) (s : Scan) (hs : s.Within p) :
    (skipLoop pc cs p s).scan.Within (skipLoop pc cs p s).p := by
  induction cs generalizing p s with
  | nil => exact hs
  | cons ch cs ih =>
    rw [skipLoop]
    split_ifs
    · cases hstep : step pc p ch s with
      | none => exact hs
      | some s' => exact ih (p + 1) s' ((step_within hs hstep).mono (Nat.le_succ p))
    · exact hs

variable (pc) in
/-- The value ends where the header does, or before. -/
theorem skip_header_val_end_le (hdr : List Char) (start_pos : Nat)
    (hok : (skip_header pc hdr start_pos).malformed = false) :
    (skip_header pc hdr start_pos).val_end ≤ (skip_header pc hdr start_pos).hdr_end := by
  have hle := (skipLoop_scan_le pc (hdr.drop start_pos) start_pos
    ⟨.H_NAME, .H_NAME, start_pos, start_pos, start_pos⟩
    ⟨Nat.le_refl _, Nat.le_refl _, Nat.le_refl _⟩).val_end
  unfold skip_header at hok ⊢
  simp only at hok ⊢
  split_ifs at hok ⊢
  · exact Nat.le_refl _
  · exact hle

/-- **The value slice** of a well-formed header lies in its line, unless the value is
    empty and there is a blank before the colon. -/
theorem skip_header_slice_iff (pc : ParseCommon)
    (hstrict : ∀ saved_st ch, ch ≠ '\n' → pc.case_ST_CR saved_st ch = none)
    (hdr : List Char) (start_pos : Nat) (hpos : start_pos < hdr.length) :
    ((skip_header pc hdr start_pos).malformed = false →
      SliceInLine hdr start_pos (skip_header pc hdr start_pos)) ↔
      emptyAfterBlank (hdr.drop start_pos) = false := by
  obtain ⟨hmal, hvals⟩ := skip_header_drop pc hdr start_pos
  constructor
  · intro hslice
    by_contra hempty
    have hempty := Bool.not_eq_false _ ▸ hempty
    have hok' := not_malformed_of_emptyAfterBlank hstrict hempty
    have hok := hmal.trans hok'
    obtain ⟨hbegin, hend⟩ := hvals hpos hok
    have hlt := (skipLoop_slices hstrict hok').1 hempty
    have hle := (hslice hok).begin_le
    omega
  · intro hempty hok
    obtain ⟨hbegin, hend⟩ := hvals hpos hok
    obtain ⟨before, val, rest, hsplit, hno, hval, hb, he⟩ :=
      (skipLoop_slices hstrict (hmal ▸ hok)).2 hempty
    obtain ⟨hprogress, hle⟩ := skip_header_progress pc hpos
    rw [hb] at hbegin
    rw [he] at hend
    have hdrop : hdr.drop (skip_header pc hdr start_pos).val_begin = val ++ rest := by
      rw [hbegin, ← List.drop_drop, hsplit, List.drop_left]
    have hlen : (skip_header pc hdr start_pos).val_end -
        (skip_header pc hdr start_pos).val_begin = val.length := by omega
    have hslice : (hdr.drop (skip_header pc hdr start_pos).val_begin).take
        ((skip_header pc hdr start_pos).val_end - (skip_header pc hdr start_pos).val_begin) =
        val := by
      rw [hdrop, hlen, List.take_left]
    have hclean : ∀ ch ∈ val, ch ≠ '\r' ∧ ch ≠ '\n' := fun ch hch => by
      simpa [valueChar] using hval ch hch
    refine ⟨by omega, by omega, skip_header_val_end_le pc hdr start_pos hok, hle, hprogress, ?_,
      hslice ▸ hclean, ?_⟩
    · have htake : (hdr.drop start_pos).take
          ((skip_header pc hdr start_pos).val_end - start_pos) = before ++ val := by
        rw [hsplit, hend, Nat.add_sub_cancel_left, ← List.length_append, ← List.append_assoc,
          List.take_left]
      rw [htake, List.mem_append, not_or]
      exact ⟨hno, fun hmem => (hclean _ hmem).2 rfl⟩
    · rw [value, substr, sizeSub, if_pos (by omega)]

/-- A named header with a value, and the one after it. -/
theorem skip_header_slice_iff_accepted :
    ((skip_header .strict "A: b\r\nC: d\r\n".toList 6).malformed = false →
      SliceInLine "A: b\r\nC: d\r\n".toList 6
        (skip_header .strict "A: b\r\nC: d\r\n".toList 6)) ↔
      emptyAfterBlank ("A: b\r\nC: d\r\n".toList.drop 6) = false := by
  refine skip_header_slice_iff .strict ?_ "A: b\r\nC: d\r\n".toList 6 (by decide)
  intro saved_st ch hch
  exact if_neg hch

/-- Without a value, `Subject :` is read together with the lines after it. -/
theorem not_slice_in_line_blank_colon :
    ¬ ∀ (pc : ParseCommon),
      (∀ saved_st ch, ch ≠ '\n' → pc.case_ST_CR saved_st ch = none) →
      ∀ (hdr : List Char) (start_pos : Nat), start_pos < hdr.length →
        (skip_header pc hdr start_pos).malformed = false →
          SliceInLine hdr start_pos (skip_header pc hdr start_pos) := by
  intro hall
  have hslice := hall .strict (fun _ _ hch => if_neg hch) "Subject :\r\nTo: b\r\n".toList 0
    (by decide) (by decide)
  have hle := hslice.begin_le
  revert hle
  decide

/-- What `substr` returns there is the rest of the block. -/
example : value "Subject :\r\nTo: b\r\n".toList
    (skip_header .strict "Subject :\r\nTo: b\r\n".toList 0) =
      ":\r\nTo: b\r\n".toList := by decide

end Yeti.Headers
