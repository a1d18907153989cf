import Mathlib.Data.List.DropRight
import Yeti.Headers.SkipHeader

/-! # Headers to be appended

    Model of `assertEndCRLF` and `remove_empty_headers`, through which the headers go
    that a profile adds to a message.
-/

namespace Yeti.Headers

open Segments

/-! ### The end of the headers -/

/-- `s[s.size() - n]`, none if that is outside of the string. -/
def back (s : List Char) (n : Nat) : Option Char :=
  if n ≤ s.length then s[s.length - n]? else none

def isEol (c : Char) : Bool := c == '\r' || c == '\n'

/-- `"\r\n"`. -/
def CRLF : List Char := ['\r', '\n']

/-- The `while` loop of `assertEndCRLF` on the string read backwards; none if it looks at
    the last character of the empty string. -/
def eraseLoop : List Char → Option (List Char)
  | [] => none
  | c :: s => if isEol c then eraseLoop s else some (c :: s)

/-- `assertEndCRLF`. -/
def assertEndCRLF (s : List Char) : Option (List Char) :=
  (back s 2).bind fun cr => (back s 1).bind fun lf =>
    if cr ≠ '\r' ∨ lf ≠ '\n' then (eraseLoop s.reverse).map (·.reverse ++ CRLF) else some s

/-- The string ends with one line end in place of those that it had. -/
def Normalizes (s : List Char) : Prop := assertEndCRLF s = some (s.rdropWhile isEol ++ CRLF)

/-- The string is not made of line ends alone, and if it ends with `CRLF`, no other line
    end comes before that. -/
def SingleEnd (s : List Char) : Prop :=
  (∃ c ∈ s, isEol c = false) ∧
    ∀ body, s = body ++ CRLF → ∀ c ∈ body.getLast?, isEol c = false

theorem eraseLoop_eq (s : List Char) :
    eraseLoop s = if s.dropWhile isEol = [] then none else some (s.dropWhile isEol) := by
  induction s with
  | nil => rfl
  | cons c s ih =>
    rw [eraseLoop]
    by_cases hc : isEol c = true
    · rw [if_pos hc, List.dropWhile_cons_of_pos hc, ih]
    · rw [if_neg hc, List.dropWhile_cons_of_neg hc, if_neg (List.cons_ne_nil c s)]

theorem eraseLoop_reverse (s : List Char) :
    (eraseLoop s.reverse).map (·.reverse ++ CRLF) =
      if s.rdropWhile isEol = [] then none else some (s.rdropWhile isEol ++ CRLF) := by
  rw [eraseLoop_eq, List.rdropWhile]
  by_cases hnil : s.reverse.dropWhile isEol = []
  · rw [if_pos hnil, if_pos (List.reverse_eq_nil_iff.mpr hnil)]
    rfl
  · rw [if_neg hnil, if_neg (mt List.reverse_eq_nil_iff.mp hnil)]
    rfl

theorem back_append_two (body : List Char) (c d : Char) :
    back (body ++ [c, d]) 2 = some c ∧ back (body ++ [c, d]) 1 = some d := by
  have hlength : (body ++ [c, d]).length = body.length + 2 := by simp
  have hlast : body.length + 2 - 1 = body.length + 1 := by omega
  unfold back
  rw [hlength, if_pos (by omega), if_pos (by omega), Nat.add_sub_cancel, hlast,
    List.getElem?_append_right (by omega), List.getElem?_append_right (by omega)]
  simp

/-- A string of two characters at least ends with two. -/
theorem exists_append_two {s : List Char} (h : 2 ≤ s.length) :
    ∃ body c d, s = body ++ [c, d] := by
  rcases List.eq_nil_or_concat s with rfl | ⟨init, d, rfl⟩
  · simp at h
  rcases List.eq_nil_or_concat init with rfl | ⟨body, c, rfl⟩
  · simp at h
  exact ⟨body, c, d, by simp⟩

/-- `assertEndCRLF` on a string of two characters at least. -/
theorem assertEndCRLF_append_two (body : List Char) (c d : Char) :
    assertEndCRLF (body ++ [c, d]) =
      if [c, d] = CRLF then some (body ++ [c, d])
      else if (body ++ [c, d]).rdropWhile isEol = [] then none
      else some ((body ++ [c, d]).rdropWhile isEol ++ CRLF) := by
  obtain ⟨htwo, hone⟩ := back_append_two body c d
  have hcrlf : [c, d] = CRLF ↔ ¬ (c ≠ '\r' ∨ d ≠ '\n') := by simp [CRLF]
  unfold assertEndCRLF
  rw [htwo, Option.bind_some, hone, Option.bind_some, eraseLoop_reverse]
  by_cases hends : [c, d] = CRLF
  · rw [if_pos hends, if_neg (hcrlf.mp hends)]
  · rw [if_neg hends, if_pos (not_not.mp (mt hcrlf.mpr hends))]

/-- Behind a line end that stays, nothing is cut off. -/
theorem rdropWhile_append_crlf (body : List Char) :
    (body ++ CRLF).rdropWhile isEol = body.rdropWhile isEol := by
  have hcons : body ++ CRLF = body ++ ['\r'] ++ ['\n'] := by simp [CRLF]
  rw [hcons, List.rdropWhile_concat_pos _ _ _ (by decide),
    List.rdropWhile_concat_pos _ _ _ (by decide)]

/-- Nothing is cut off exactly from what does not end in a line end. -/
theorem rdropWhile_eq_self_iff_getLast? (body : List Char) :
    body.rdropWhile isEol = body ↔ ∀ c ∈ body.getLast?, isEol c = false := by
  rw [List.rdropWhile_eq_self_iff]
  constructor
  · intro h c hc
    have hne : body ≠ [] := by
      rintro rfl
      cases hc
    rw [Option.mem_def, List.getLast?_eq_some_getLast hne, Option.some.injEq] at hc
    simpa [hc] using h hne
  · intro h hne
    have hlast := h (body.getLast hne) (List.getLast?_eq_some_getLast hne)
    simp [hlast]

/-- All characters are line ends exactly if none is left. -/
theorem rdropWhile_eq_nil_iff_not_exists (s : List Char) :
    s.rdropWhile isEol = [] ↔ ¬ ∃ c ∈ s, isEol c = false := by
  rw [List.rdropWhile_eq_nil_iff]
  simp

theorem SingleEnd.normalizes {s : List Char} (h : SingleEnd s) (hsize : 2 ≤ s.length) :
    Normalizes s := by
  obtain ⟨body, c, d, rfl⟩ := exists_append_two hsize
  obtain ⟨hother, hlast⟩ := h
  unfold Normalizes
  rw [assertEndCRLF_append_two]
  by_cases hends : [c, d] = CRLF
  · rw [hends] at hlast ⊢
    rw [if_pos rfl, rdropWhile_append_crlf,
      (rdropWhile_eq_self_iff_getLast? body).mpr (hlast body rfl)]
  · have hleft : ¬ (body ++ [c, d]).rdropWhile isEol = [] := fun hnil =>
      (rdropWhile_eq_nil_iff_not_exists _).mp hnil hother
    rw [if_neg hends, if_neg hleft]

theorem Normalizes.singleEnd {s : List Char} (h : Normalizes s) (hsize : 2 < s.length) :
    SingleEnd s := by
  obtain ⟨body, c, d, rfl⟩ := exists_append_two (Nat.le_of_lt hsize)
  unfold Normalizes at h
  rw [assertEndCRLF_append_two] at h
  by_cases hends : [c, d] = CRLF
  · rw [hends] at h hsize ⊢
    rw [if_pos rfl, rdropWhile_append_crlf, Option.some.injEq, List.append_left_inj] at h
    have hlast := (rdropWhile_eq_self_iff_getLast? body).mp h.symm
    -- the character before the final `CRLF` is no line end
    have hne : body ≠ [] := by
      rintro rfl
      simp [CRLF] at hsize
    refine ⟨⟨body.getLast hne, List.mem_append_left _ (List.getLast_mem hne),
      hlast _ (List.getLast?_eq_some_getLast hne)⟩, ?_⟩
    intro body' heq
    obtain rfl : body = body' := List.append_cancel_right heq
    exact hlast
  · rw [if_neg hends] at h
    split_ifs at h with hnil
    refine ⟨not_not.mp (mt (rdropWhile_eq_nil_iff_not_exists _).mpr hnil), ?_⟩
    intro body' heq
    exact absurd (List.append_inj_right' heq rfl) hends

/-- **Line end.**  On a string of more than two characters `assertEndCRLF` stays inside of
    it and leaves one line end, exactly if the string is not made of line ends alone and
    has no other one before a final `CRLF`. -/
theorem assertEndCRLF_normalizes_iff (s : List Char) (hsize : 2 < s.length) :
    Normalizes s ↔ SingleEnd s :=
  ⟨fun h => h.singleEnd hsize, fun h => h.normalizes (Nat.le_of_lt hsize)⟩

/-- Two line ends of different kinds after a header. -/
theorem assertEndCRLF_normalizes_lf : Normalizes "P-A: 1\r\n\n".toList := by
  refine (assertEndCRLF_normalizes_iff "P-A: 1\r\n\n".toList (by decide)).mpr ⟨?_, ?_⟩
  · exact ⟨'P', by decide, rfl⟩
  · intro body heq
    -- the string ends with two line feeds
    have hlast := congrArg (List.drop 7) heq
    have hlength : body.length = 7 := by
      have hsum := congrArg List.length heq
      simpa [CRLF] using hsum.symm
    rw [List.drop_left' hlength] at hlast
    exact absurd hlast (by decide)

/-- A blank line is left after the header, and of line ends alone the string is read
    before its beginning. -/
theorem not_normalizes_blank_line :
    ¬ Normalizes "P-A: 1\r\n\r\n".toList ∧ assertEndCRLF "\n\n\n".toList = none := by
  constructor
  · unfold Normalizes
    decide
  · decide

/-! ### Headers without a value -/

/-- A character of the set that `remove_empty_headers` skips from the colon on. -/
def isSkipped (c : Char) : Bool := c == ':' || c == ' ' || c == '\r' || c == '\n'

/-- `col && hdr.find_first_not_of(": \r\n", col) == string::npos` for the position of the
    first colon; without a colon, `col` is `npos` and so is what is searched from there. -/
def removes (hdr : List Char) : Bool :=
  match hdr.findIdx? (· == ':') with
  | none => true
  | some col => col ≠ 0 && (hdr.drop col).all isSkipped

/-- The `do` loop of `remove_empty_headers`; every pass goes over a character at least. -/
def removeLoop : Nat → List Char → Nat → Option (List Char)
  | 0, _, _ => none
  | fuel + 1, res, start =>
    -- `end - start`
    let fin := (res.drop start).findIdx? (· == '\n')
    let len := fin.elim (res.length - start) (· + 1)
    let hdr := (res.drop start).take len
    let res' := if removes hdr then res.take start ++ res.drop (start + len) else res
    let start' := if removes hdr then start else start + len
    if fin.isSome && start' < res'.length then removeLoop fuel res' start' else some res'

/-- `remove_empty_headers`; none if it does not end. -/
def remove_empty_headers (s : List Char) : Option (List Char) :=
  if s.isEmpty then some s else removeLoop s.length s 0

/-- What comes before the first colon. -/
def nameOf (line : List Char) : List Char := line.takeWhile (· ≠ ':')

/-- What comes after the first colon. -/
def valueOf (line : List Char) : List Char := (line.dropWhile (· ≠ ':')).tail

/-- A non-empty name, a colon, and nothing but blanks and line ends. -/
def EmptyHeader (line : List Char) : Prop :=
  ':' ∈ line ∧ nameOf line ≠ [] ∧ ∀ c ∈ valueOf line, c = ' ' ∨ isEol c = true

-- the value is searched, not all characters
instance : DecidablePred EmptyHeader := fun line =>
  letI : Decidable (∀ c ∈ valueOf line, c = ' ' ∨ isEol c = true) := List.decidableBAll _ _
  inferInstanceAs (Decidable (_ ∧ _ ∧ _))

/-- The function ends, and exactly the empty headers are gone. -/
def RemovesEmpty (s : List Char) : Prop :=
  remove_empty_headers s = some ((lines s).filter fun line => ¬ EmptyHeader line).flatten

/-- The line has a colon, and if colons, blanks and line ends are all that it has after a
    name, there is no second colon. -/
def Recognised (line : List Char) : Prop :=
  ':' ∈ line ∧ (nameOf line ≠ [] → (∀ c ∈ valueOf line, isSkipped c = true) → ':' ∉ valueOf line)

instance : DecidablePred Recognised := fun line =>
  letI : Decidable (∀ c ∈ valueOf line, isSkipped c = true) := List.decidableBAll _ _
  inferInstanceAs (Decidable (_ ∧ (_ → _ → _)))

/-- A line with a colon is its name, the colon and its value. -/
theorem line_eq_of_colon {line : List Char} (h : ':' ∈ line) :
    line = nameOf line ++ ':' :: valueOf line := by
  have hdrop : line.dropWhile (· ≠ ':') ≠ [] := by
    rw [ne_eq, List.dropWhile_eq_nil_iff]
    intro hall
    simpa using hall ':' h
  have hhead : (line.dropWhile (· ≠ ':')).head hdrop = ':' := by
    simpa using List.head_dropWhile_not (fun c => decide (c ≠ ':')) hdrop
  have hcons : line.dropWhile (· ≠ ':') = ':' :: valueOf line :=
    (List.cons_head_tail hdrop).symm.trans (congrArg (· :: valueOf line) hhead)
  rw [← hcons]
  exact List.takeWhile_append_dropWhile.symm

theorem colon_notMem_nameOf (line : List Char) : ':' ∉ nameOf line := by
  intro hmem
  simpa using List.mem_takeWhile_imp hmem

/-- What the loop removes: lines without a colon, and those whose value it skips. -/
theorem removes_iff (line : List Char) :
    removes line = true ↔
      ':' ∈ line → nameOf line ≠ [] ∧ ∀ c ∈ valueOf line, isSkipped c = true := by
  unfold removes
  by_cases hcolon : ':' ∈ line
  · -- `col` is the length of the name
    have hname : (nameOf line).findIdx? (· == ':') = none := by
      rw [List.findIdx?_eq_none_iff]
      intro c hc
      have hne : c ≠ ':' := fun heq => colon_notMem_nameOf line (heq ▸ hc)
      simpa using hne
    have hidx : line.findIdx? (· == ':') = some (nameOf line).length := by
      conv => lhs; rw [line_eq_of_colon hcolon]
      rw [List.findIdx?_append, hname, List.findIdx?_cons]
      simp
    have hdrop : line.drop (nameOf line).length = ':' :: valueOf line := by
      have hline := congrArg (List.drop (nameOf line).length) (line_eq_of_colon hcolon)
      rwa [List.drop_left] at hline
    rw [hidx]
    dsimp only
    rw [hdrop]
    simp [hcolon, isSkipped]
  · -- `col` is `npos`, which the code does not tell from a position
    have hidx : line.findIdx? (· == ':') = none := by
      rw [List.findIdx?_eq_none_iff]
      intro c hc
      have hne : c ≠ ':' := fun heq => hcolon (heq ▸ hc)
      simpa using hne
    rw [hidx]
    simp [hcolon]

theorem isSkipped_iff (c : Char) : isSkipped c = true ↔ c = ':' ∨ c = ' ' ∨ isEol c = true := by
  simp [isSkipped, isEol, or_assoc]

/-- Empty headers are removed. -/
theorem EmptyHeader.removes {line : List Char} (h : EmptyHeader line) : removes line = true := by
  obtain ⟨-, hname, hvalue⟩ := h
  rw [removes_iff]
  intro _
  refine ⟨hname, ?_⟩
  intro c hc
  exact (isSkipped_iff c).mpr (.inr (hvalue c hc))

/-- A line is removed only if it is an empty header, exactly if it is recognised. -/
theorem recognised_iff (line : List Char) :
    Recognised line ↔ (removes line = true → EmptyHeader line) := by
  rw [removes_iff]
  constructor
  · intro ⟨hcolon, hvalue⟩ hremoves
    obtain ⟨hname, hskipped⟩ := hremoves hcolon
    refine ⟨hcolon, hname, ?_⟩
    intro c hc
    have hne : c ≠ ':' := fun heq => hvalue hname hskipped (heq ▸ hc)
    exact ((isSkipped_iff c).mp (hskipped c hc)).resolve_left hne
  · intro h
    by_cases hcolon : ':' ∈ line
    · refine ⟨hcolon, ?_⟩
      intro hname hskipped hmem
      obtain ⟨-, -, hvalue⟩ := h fun _ => ⟨hname, hskipped⟩
      exact absurd (hvalue ':' hmem) (by decide)
    · exact absurd (h fun hmem => absurd hmem hcolon).1 hcolon

/-- One pass over a line with what follows it. -/
theorem removeLoop_line (fuel : Nat) (pre line rest : List Char) (hne : line ≠ [])
    (hfin : ((line ++ rest).findIdx? (· == '\n')).elim (line ++ rest).length (· + 1) =
      line.length) (hsome : rest ≠ [] → ((line ++ rest).findIdx? (· == '\n')).isSome = true) :
    removeLoop (fuel + 1) (pre ++ (line ++ rest)) pre.length =
      if rest = [] then some (pre ++ if removes line then [] else line)
      else if removes line then removeLoop fuel (pre ++ rest) pre.length
      else removeLoop fuel (pre ++ line ++ rest) (pre ++ line).length := by
  have hpos := List.length_pos_iff.mpr hne
  have hlen : ((line ++ rest).findIdx? (· == '\n')).elim
      ((pre ++ (line ++ rest)).length - pre.length) (· + 1) = line.length := by
    rw [List.length_append, Nat.add_sub_cancel_left]
    exact hfin
  have hdrop : (pre ++ (line ++ rest)).drop (pre.length + line.length) = rest := by
    rw [← List.append_assoc, ← List.length_append]
    exact List.drop_left
  rw [removeLoop]
  simp only [List.drop_left, hlen, List.take_left, hdrop]
  by_cases hrest : rest = []
  · -- the last line: nothing is left to be looked at
    subst hrest
    cases hremoves : removes line with
    | true => simp
    | false => simp
  · rw [if_neg hrest, hsome hrest]
    have hlt := List.length_pos_iff.mpr hrest
    cases hremoves : removes line with
    | true =>
      -- the next line has moved to where this one was
      simp only [if_true, Bool.true_and, decide_eq_true_eq]
      rw [if_pos (by rw [List.length_append]; omega)]
    | false =>
      simp only [Bool.false_eq_true, if_false, Bool.true_and, decide_eq_true_eq]
      rw [if_pos (by simp only [List.length_append]; omega), List.append_assoc,
        List.length_append]

/-- The loop goes over the lines and leaves those that it does not remove. -/
theorem removeLoop_lines {ls : List (List Char)} (h : IsSegments '\n' ls) (hne : ls ≠ [])
    (pre : List Char) {fuel : Nat} (hfuel : ls.length ≤ fuel) :
    removeLoop fuel (pre ++ ls.flatten) pre.length =
      some (pre ++ (ls.filter (!removes ·)).flatten) := by
  induction h generalizing pre fuel with
  | nil => exact absurd rfl hne
  | @last l hl hsep =>
    obtain ⟨fuel, rfl⟩ : ∃ f, fuel = f + 1 := ⟨fuel - 1, by simp at hfuel; omega⟩
    have hidx : (l ++ []).findIdx? (· == '\n') = none := by
      rw [List.append_nil, List.findIdx?_eq_none_iff]
      intro c hc
      have hc' : c ≠ '\n' := fun heq => hsep (heq ▸ hc)
      simpa using hc'
    have hflat : [l].flatten = l ++ [] := by simp
    rw [hflat, removeLoop_line fuel pre l [] hl (by rw [hidx]; simp) (absurd rfl), if_pos rfl]
    cases hremoves : removes l <;> simp [hremoves]
  | @cons body ls hsep h ih =>
    obtain ⟨fuel, rfl⟩ : ∃ f, fuel = f + 1 := ⟨fuel - 1, by simp at hfuel; omega⟩
    have hls : ls.length ≤ fuel := by simpa using hfuel
    have hidx : (body ++ ['\n'] ++ ls.flatten).findIdx? (· == '\n') = some body.length := by
      have hbody : body.findIdx? (· == '\n') = none := by
        rw [List.findIdx?_eq_none_iff]
        intro c hc
        have hc' : c ≠ '\n' := fun heq => hsep (heq ▸ hc)
        simpa using hc'
      rw [List.append_assoc, List.findIdx?_append, hbody, List.singleton_append,
        List.findIdx?_cons]
      simp
    -- lines are not empty, so the loop stops after the last of them
    have hempty : ls.flatten = [] ↔ ls = [] := by
      constructor
      · intro hnil
        have hle := h.length_le_length_flatten
        rw [hnil] at hle
        exact List.length_eq_zero_iff.mp (Nat.le_zero.mp hle)
      · rintro rfl
        rfl
    rw [List.flatten_cons, removeLoop_line fuel pre (body ++ ['\n']) ls.flatten (by simp)
      (by rw [hidx]; simp) (fun _ => by rw [hidx]; rfl)]
    by_cases hnil : ls = []
    · rw [if_pos (hempty.mpr hnil), hnil]
      cases hremoves : removes (body ++ ['\n']) <;> simp [hremoves]
    · rw [if_neg (mt hempty.mp hnil), ih hnil pre hls, ih hnil (pre ++ (body ++ ['\n'])) hls]
      cases hremoves : removes (body ++ ['\n']) <;> simp [hremoves]

/-- The function ends and leaves the lines that its test does not remove. -/
theorem remove_empty_headers_eq (s : List Char) :
    remove_empty_headers s = some ((lines s).filter (!removes ·)).flatten := by
  unfold remove_empty_headers
  by_cases hempty : s = []
  · subst hempty
    rfl
  · have hseg : IsSegments '\n' (lines s) := isSegments_splitAfter s
    have hflat : (lines s).flatten = s := flatten_splitAfter s
    have hne : lines s ≠ [] := by
      intro hnil
      rw [hnil] at hflat
      exact hempty hflat.symm
    -- each pass takes a line
    have hfuel : (lines s).length ≤ s.length := by
      have hle := hseg.length_le_length_flatten
      rwa [hflat] at hle
    have hloop := removeLoop_lines hseg hne [] hfuel
    rw [hflat] at hloop
    rw [if_neg (by simpa using hempty)]
    exact hloop

/-- `fix_append_hdr_list` after the replacement of parameters. -/
def fix_append_hdr_list (append_hdr : List Char) : Option (List Char) :=
  (remove_empty_headers append_hdr).bind fun hdr =>
    if 2 < hdr.length then assertEndCRLF hdr else some hdr

/-- What is appended has one line end at its end, if the lines that stay do not bring
    more of them. -/
theorem fix_append_hdr_list_eq {append_hdr kept : List Char}
    (hkept : kept = ((lines append_hdr).filter (!removes ·)).flatten) (hsize : 2 < kept.length)
    (h : SingleEnd kept) :
    fix_append_hdr_list append_hdr = some (kept.rdropWhile isEol ++ CRLF) := by
  unfold fix_append_hdr_list
  rw [remove_empty_headers_eq, ← hkept, Option.bind_some, if_pos hsize]
  exact h.normalizes (Nat.le_of_lt hsize)

end Yeti.Headers
