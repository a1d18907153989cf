import Mathlib.Algebra.Group.Nat.Defs
import Yeti.Headers.SkipHeader

/-! # Reading header values

    The loop with which `OriginationPreAuth::onInvite` and
    `SBCFactory::processAuthorizedRegister` look for headers by name: it goes from
    header to header with `skip_header` and compares with `strncasecmp` over the
    length of the name found, so that a prefix of the wanted name, the empty one
    included, compares equal too.

    What such a loop reads is determined by the values of the lines it takes, in
    order (`takenValues`).  Deleting a line leaves them alone when the line is well
    formed and not taken, and no taken value runs over the end of its line.
-/

open Segments

namespace Yeti.Headers

/-! ### C strings -/

/-- `0 == strncasecmp(a, b, n)`; the strings are followed by a NUL. -/
def strncasecmp (a b : List Char) : Nat → Bool
  | 0 => true
  | n + 1 =>
    match a, b with
    | [], [] => true
    | [], cb :: _ => cb = '\x00'
    | ca :: _, [] => ca = '\x00'
    | ca :: a, cb :: b =>
      if ca.toLower = cb.toLower then
        -- both strings end here
        if ca = '\x00' then true else strncasecmp a b n
      else false

/-- Only the characters that may be compared matter. -/
theorem strncasecmp_append (a rest b : List Char) {n : Nat} (h : n ≤ a.length) :
    strncasecmp (a ++ rest) b n = strncasecmp a b n := by
  induction n generalizing a b with
  | zero => simp [strncasecmp]
  | succ n ih =>
    cases a with
    | nil => simp at h
    | cons ca a =>
      cases b with
      | nil => rfl
      | cons cb b =>
        have hrest := ih a b (by simpa using h)
        simp only [List.cons_append, strncasecmp, hrest]

/-- `a - b` for positions of type `size_t`, which wraps around. -/
def sizeSub (a b : Nat) : Nat := if b ≤ a then a - b else 2 ^ 64 - (b - a)

/-- `std::string::substr`. -/
def substr (s : List Char) (pos count : Nat) : List Char := (s.drop pos).take count

/-! ### The loop -/

/-- `0 == strncasecmp(hdrs.c_str() + start_pos, wanted.c_str(), name_end - start_pos)`. -/
def nameMatches (hdrs : List Char) (start_pos : Nat) (h : Header) (wanted : List Char) : Bool :=
  strncasecmp (hdrs.drop start_pos) wanted (h.name_end - start_pos)

/-- `hdrs.substr(val_begin, val_end - val_begin)`. -/
def value (hdrs : List Char) (h : Header) : List Char :=
  substr hdrs h.val_begin (sizeSub h.val_end h.val_begin)

variable {σ τ : Type}

/-- The `while` loop over the headers.  `body` gets the header and its position,
    and tells whether the loop is left by `break`; a malformed header also leaves
    it.  Every pass consumes a character at least. -/
def headerLoop (pc : ParseCommon) (hdrs : List Char) (body : Nat → Header → σ → σ × Bool) :
    Nat → Nat → σ → σ
  | 0, _, s => s
  | fuel + 1, start_pos, s =>
    if start_pos < hdrs.length then
      let h := skip_header pc hdrs start_pos
      if h.malformed then s
      else
        match body start_pos h s with
        | (s, true) => s
        | (s, false) => headerLoop pc hdrs body fuel h.hdr_end s
    else s

/-- The loop over a whole block. -/
def readHeaders (pc : ParseCommon) (hdrs : List Char) (body : Nat → Header → σ → σ × Bool)
    (s : σ) : σ :=
  headerLoop pc hdrs body hdrs.length 0 s

/-! ### Lines -/

variable {pc : ParseCommon}

/-- The name of the line compares equal to the wanted one. -/
def lineMatches (pc : ParseCommon) (wanted line : List Char) : Bool :=
  strncasecmp line wanted (lineName pc line).length

/-- The value of a line that is followed by `rest`. -/
def lineValue (pc : ParseCommon) (line rest : List Char) : List Char :=
  value (line ++ rest) (skip_header pc line 0)

/-- The value ends before it begins, so that its length wraps around. -/
def overruns (pc : ParseCommon) (line : List Char) : Bool :=
  (skip_header pc line 0).val_end < (skip_header pc line 0).val_begin

theorem nameMatches_line {pre line rest : List Char}
    (h : SeesLine pc (pre ++ (line ++ rest)) pre.length line) (wanted : List Char) :
    nameMatches (pre ++ (line ++ rest)) pre.length
      (skip_header pc (pre ++ (line ++ rest)) pre.length) wanted = lineMatches pc wanted line := by
  have hle := (skip_header_within pc line).1
  rw [nameMatches, lineMatches, List.drop_left, h.name_end, Nat.add_sub_cancel_left,
    length_lineName, strncasecmp_append line rest wanted hle]

theorem value_line {pre line rest : List Char}
    (h : SeesLine pc (pre ++ (line ++ rest)) pre.length line) :
    value (pre ++ (line ++ rest)) (skip_header pc (pre ++ (line ++ rest)) pre.length) =
      lineValue pc line rest := by
  -- the difference wraps around in the block as it does on the line
  have hcount (a b : Nat) : sizeSub (pre.length + a) (pre.length + b) = sizeSub a b := by
    unfold sizeSub
    simp only [Nat.add_le_add_iff_left, Nat.add_sub_add_left]
  rw [value, lineValue, value, substr, substr, h.val_begin, h.val_end, hcount, ← List.drop_drop,
    List.drop_left]

/-- A value that does not overrun its line does not depend on what follows. -/
theorem lineValue_of_not_overruns {line : List Char} (h : overruns pc line = false)
    (rest : List Char) : lineValue pc line rest = lineValue pc line [] := by
  have hend := (skip_header_within pc line).2
  have hle : (skip_header pc line 0).val_begin ≤ (skip_header pc line 0).val_end := by
    simpa [overruns] using h
  have hcount : sizeSub (skip_header pc line 0).val_end (skip_header pc line 0).val_begin ≤
      line.length - (skip_header pc line 0).val_begin := by
    rw [sizeSub, if_pos hle]
    omega
  rw [lineValue, lineValue, value, value, substr, substr, List.append_nil,
    List.drop_append_of_le_length (by omega), List.take_append_of_le_length (by simpa using hcount)]

/-- The values of the lines that are taken, up to the first malformed line. -/
def takenValues (pc : ParseCommon) (takes : List Char → Bool) :
    List (List Char) → List (List Char)
  | [] => []
  | line :: ls =>
    if malformed pc line then []
    else if takes line then lineValue pc line ls.flatten :: takenValues pc takes ls
    else takenValues pc takes ls

/-- What one pass of the loop does to the part `π` of its variables, from a state
    in which the loop goes on. -/
structure Reads (pc : ParseCommon) (hdrs : List Char) (body : Nat → Header → σ → σ × Bool)
    (goes : σ → Prop) (π : σ → τ) (takes : List Char → Bool) (upd : τ → List Char → τ) :
    Prop where
  /-- A taken line updates it with its value, another line leaves it alone. -/
  reads : ∀ pre line rest s, hdrs = pre ++ (line ++ rest) → goes s →
    SeesLine pc hdrs pre.length line →
    π (body pre.length (skip_header pc hdrs pre.length) s).1 =
      if takes line then upd (π s) (lineValue pc line rest) else π s
  /-- After `break` nothing would change it any more. -/
  stops : ∀ start_pos h s, (body start_pos h s).2 = true →
    ∀ v, upd (π (body start_pos h s).1) v = π (body start_pos h s).1
  goesOn : ∀ start_pos h s, goes s → (body start_pos h s).2 = false → goes (body start_pos h s).1

variable {hdrs : List Char} {body : Nat → Header → σ → σ × Bool} {goes : σ → Prop} {π : σ → τ}
  {takes : List Char → Bool} {upd : τ → List Char → τ}

theorem foldl_absorbing {t : τ} (h : ∀ v, upd t v = t) (vs : List (List Char)) :
    vs.foldl upd t = t := by
  induction vs with
  | nil => rfl
  | cons v vs ih => rw [List.foldl_cons, h v, ih]

/-- The loop reads the values of the taken lines in order. -/
theorem headerLoop_takenValues (hreads : Reads pc hdrs body goes π takes upd)
    {ls : List (List Char)} (h : IsSegments '\n' ls) (pre : List Char)
    (hhdrs : hdrs = pre ++ ls.flatten) {fuel : Nat} (hfuel : ls.length ≤ fuel) {s : σ}
    (hgoes : goes s) :
    π (headerLoop pc hdrs body fuel pre.length s) =
      (takenValues pc takes ls).foldl upd (π s) := by
  induction ls generalizing pre fuel s with
  | nil =>
    have hend : ¬ pre.length < hdrs.length := by simp [hhdrs]
    cases fuel with
    | zero => rfl
    | succ fuel => simp [headerLoop, hend, takenValues]
  | cons line ls ih =>
    obtain ⟨fuel, rfl⟩ : ∃ f, fuel = f + 1 := ⟨fuel - 1, by simp at hfuel; omega⟩
    have hls : ls.length ≤ fuel := by simpa using hfuel
    have hsub : IsSegments '\n' ls := h.sublist (List.sublist_cons_self _ _)
    have hne : 0 < line.length := List.length_pos_iff.mpr (h.ne_nil line (by simp))
    rw [List.flatten_cons] at hhdrs
    have hsees : SeesLine pc hdrs pre.length line := hhdrs ▸ seesLine h pre
    have hlt : pre.length < hdrs.length := by
      rw [hhdrs, List.length_append, List.length_append]
      omega
    rw [headerLoop, if_pos hlt, takenValues]
    cases hm : malformed pc line with
    | true => simp [hsees.malformed_eq, hm]
    | false =>
      have hpass := hreads.reads pre line ls.flatten s hhdrs hgoes hsees
      simp only [hsees.malformed_eq, hm, hsees.hdr_end hm]
      rw [if_neg (by simp), if_neg (by simp)]
      have hstop := hreads.stops pre.length (skip_header pc hdrs pre.length) s
      have hon := hreads.goesOn pre.length (skip_header pc hdrs pre.length) s hgoes
      -- one pass is one step of the fold, whether the line is taken or not
      have hfold : (if takes line then lineValue pc line ls.flatten :: takenValues pc takes ls
          else takenValues pc takes ls).foldl upd (π s) =
          (takenValues pc takes ls).foldl upd
            (π (body pre.length (skip_header pc hdrs pre.length) s).1) := by
        rw [hpass]
        split_ifs <;> rfl
      rw [hfold]
      split
      · -- `break`: the values after it no longer count
        next s' hbody =>
        rw [hbody] at hstop ⊢
        exact (foldl_absorbing (hstop rfl) _).symm
      · next s' hbody =>
        rw [hbody] at hon
        rw [hbody, ← List.length_append]
        exact ih hsub _ (by rw [hhdrs, List.append_assoc]) hls (hon rfl)

/-- A block is read through the values of its taken lines. -/
theorem readHeaders_takenValues (hreads : Reads pc hdrs body goes π takes upd) {s : σ}
    (hgoes : goes s) :
    π (readHeaders pc hdrs body s) = (takenValues pc takes (lines hdrs)).foldl upd (π s) := by
  have hseg : IsSegments '\n' (lines hdrs) := isSegments_splitAfter hdrs
  have hflat : (lines hdrs).flatten = hdrs := flatten_splitAfter hdrs
  have hlen : (lines hdrs).length ≤ hdrs.length := by
    have := hseg.length_le_length_flatten
    rwa [hflat] at this
  exact headerLoop_takenValues hreads hseg [] hflat.symm hlen hgoes

/-! ### Deleting a line -/

/-- The block without its `n`-th line. -/
def deleteLine (hdrs : List Char) (n : Nat) : List Char := ((lines hdrs).eraseIdx n).flatten

theorem lines_deleteLine (hdrs : List Char) (n : Nat) :
    lines (deleteLine hdrs n) = (lines hdrs).eraseIdx n :=
  ((isSegments_splitAfter hdrs).sublist (List.eraseIdx_sublist _ _)).splitAfter_flatten

/-- A line that is well formed and not taken may go, as long as no taken value
    overruns its line. -/
theorem takenValues_eraseIdx {ls : List (List Char)} {n : Nat}
    (hline : ∀ line, ls[n]? = some line → malformed pc line = false ∧ takes line = false)
    (htaken : ∀ line ∈ ls, takes line = true → overruns pc line = false) :
    takenValues pc takes (ls.eraseIdx n) = takenValues pc takes ls := by
  induction ls generalizing n with
  | nil => rfl
  | cons line ls ih =>
    cases n with
    | zero =>
      -- the line itself; it is neither taken nor does it end the scan
      obtain ⟨hm, ht⟩ := hline line rfl
      simp [takenValues, hm, ht]
    | succ n =>
      have hih := ih (n := n) (fun l hl => hline l (by simpa using hl))
        (fun l hl => htaken l (by simp [hl]))
      rw [List.eraseIdx_cons_succ, takenValues, takenValues, hih]
      split_ifs with hm ht
      · rfl
      · -- a taken value would see the deletion only through an overrun
        have hover := htaken line (by simp) ht
        rw [lineValue_of_not_overruns hover, lineValue_of_not_overruns hover ls.flatten]
      · rfl

/-- The full name of the line is the wanted one, up to case. -/
def hasName (pc : ParseCommon) (wanted line : List Char) : Bool :=
  (lineName pc line).map Char.toLower == wanted.map Char.toLower

/-- No line of another name is malformed or taken, and no taken value overruns
    its line. -/
def Genuine (pc : ParseCommon) (wanted : List Char) (takes : List Char → Bool)
    (hdrs : List Char) : Prop :=
  (∀ line ∈ lines hdrs, hasName pc wanted line = false →
    malformed pc line = false ∧ takes line = false) ∧
  ∀ line ∈ lines hdrs, takes line = true → overruns pc line = false

instance (pc : ParseCommon) (wanted : List Char) (takes : List Char → Bool) (hdrs : List Char) :
    Decidable (Genuine pc wanted takes hdrs) :=
  inferInstanceAs (Decidable ((∀ _ ∈ _, _ → _ ∧ _) ∧ ∀ _ ∈ _, _ → _))

/-- Deleting lines of another name does not change what `read` returns. -/
def ByFullName (pc : ParseCommon) (wanted : List Char) (read : List Char → τ)
    (hdrs : List Char) : Prop :=
  ∀ n line, (lines hdrs)[n]? = some line → hasName pc wanted line = false →
    read (deleteLine hdrs n) = read hdrs

/-- A function of the taken values reads by the full name where these are genuine. -/
theorem byFullName_of_genuine {wanted : List Char} {read : List Char → τ}
    (f : List (List Char) → τ) (hread : ∀ hdrs, read hdrs = f (takenValues pc takes (lines hdrs)))
    (h : Genuine pc wanted takes hdrs) : ByFullName pc wanted read hdrs := by
  obtain ⟨hother, htaken⟩ := h
  intro n line hline hname
  rw [hread, hread, lines_deleteLine, takenValues_eraseIdx _ htaken]
  intro line' hline'
  rw [hline] at hline'
  cases hline'
  exact hother line (List.mem_of_getElem? hline) hname

end Yeti.Headers
