import Mathlib.Data.List.TakeWhile

/-! # Arrays of bulk strings

    A command of the Redis protocol is an array of bulk strings: `*`, the number of
    the strings and a line end, then for each string `$`, its length, a line end, the
    string itself and a line end.  The length is announced apart from the string, so a
    writer may announce a wrong one.

    * `decode` reads a whole text as one array.
    * `readBulk_bulk_iff`: a bulk string is read back, with nothing of the text after
      it, exactly when the announced length is that of the string.
    * `decode_array_iff`: the same of a whole array.
-/

namespace Resp

/-- The end of a line. -/
def crlf : List Char := ['\r', '\n']

/-! ### Writing -/

/-- A line that announces a number. -/
def header (mark : Char) (n : ℕ) : List Char := mark :: (Nat.toDigits 10 n ++ crlf)

/-- A string under an announced length. -/
def bulk (len : ℕ) (text : List Char) : List Char := header '$' len ++ text ++ crlf

/-- Strings with their announced lengths, under an announced size. -/
def array (size : ℕ) (bulks : List (ℕ × List Char)) : List Char :=
  header '*' size ++ bulks.flatMap fun b => bulk b.1 b.2

/-! ### Reading -/

/-- The number of a line that starts with `mark`, and the text after the line. -/
def readHeader (mark : Char) : List Char → Option (ℕ × List Char)
  | [] => none
  | c :: s =>
    if c = mark ∧ s.takeWhile Char.isDigit ≠ [] ∧ (s.dropWhile Char.isDigit).take 2 = crlf then
      some (Nat.ofDigitChars 10 (s.takeWhile Char.isDigit) 0,
        (s.dropWhile Char.isDigit).drop 2)
    else none

/-- As many characters as a length announces, followed by a line end. -/
def readText (len : ℕ) (s : List Char) : Option (List Char × List Char) :=
  if len ≤ s.length ∧ (s.drop len).take 2 = crlf then some (s.take len, (s.drop len).drop 2)
  else none

/-- A bulk string. -/
def readBulk (s : List Char) : Option (List Char × List Char) :=
  (readHeader '$' s).bind fun h => readText h.1 h.2

/-- Bulk strings one after the other. -/
def readBulks : ℕ → List Char → Option (List (List Char) × List Char)
  | 0, s => some ([], s)
  | n + 1, s =>
    (readBulk s).bind fun b => (readBulks n b.2).map fun bs => (b.1 :: bs.1, bs.2)

/-- The strings of an array that takes up the whole text. -/
def decode (s : List Char) : Option (List (List Char)) :=
  ((readHeader '*' s).bind fun h => readBulks h.1 h.2).bind fun bs =>
    if bs.2 = [] then some bs.1 else none

/-! ### Numbers and strings are read back -/

theorem readHeader_header (mark : Char) (n : ℕ) (rest : List Char) :
    readHeader mark (header mark n ++ rest) = some (n, rest) := by
  have hdigits : ∀ c ∈ Nat.toDigits 10 n, Char.isDigit c = true := fun c hc =>
    Nat.isDigit_of_mem_toDigits (by decide) (by decide) hc
  have hline : header mark n ++ rest = mark :: (Nat.toDigits 10 n ++ '\r' :: '\n' :: rest) := by
    simp [header, crlf]
  have htake : (Nat.toDigits 10 n ++ '\r' :: '\n' :: rest).takeWhile Char.isDigit =
      Nat.toDigits 10 n := by
    rw [List.takeWhile_append_of_pos hdigits, List.takeWhile_cons_of_neg (by decide),
      List.append_nil]
  have hdrop : (Nat.toDigits 10 n ++ '\r' :: '\n' :: rest).dropWhile Char.isDigit =
      '\r' :: '\n' :: rest := by
    rw [List.dropWhile_append_of_pos hdigits, List.dropWhile_cons_of_neg (by decide)]
  rw [hline, readHeader, htake, hdrop, if_pos ⟨rfl, Nat.toDigits_ne_nil, rfl⟩,
    Nat.ofDigitChars_ten_toDigits]
  rfl

/-- A text is read under its own length. -/
theorem readText_length (text rest : List Char) :
    readText text.length (text ++ crlf ++ rest) = some (text, rest) := by
  have hle : text.length ≤ (text ++ crlf ++ rest).length := by
    simp only [List.length_append]
    omega
  unfold readText
  rw [List.append_assoc, List.drop_left, List.take_left]
  rw [List.append_assoc] at hle
  exact if_pos ⟨hle, rfl⟩

/-- What is read under a length has that length. -/
theorem length_of_readText {len : ℕ} {s text rest : List Char}
    (h : readText len s = some (text, rest)) : text.length = len := by
  unfold readText at h
  split at h
  · next hfits =>
    obtain ⟨htext, -⟩ := Prod.mk.inj (Option.some.inj h)
    rw [← htext, List.length_take]
    exact min_eq_left hfits.1
  · contradiction

theorem readBulk_bulk (len : ℕ) (text rest : List Char) :
    readBulk (bulk len text ++ rest) = readText len (text ++ crlf ++ rest) := by
  have hsplit : bulk len text ++ rest = header '$' len ++ (text ++ crlf ++ rest) := by
    simp only [bulk, List.append_assoc]
  rw [hsplit, readBulk, readHeader_header]
  rfl

/-- **A bulk string is read back exactly when its length was announced.** -/
theorem readBulk_bulk_iff {len : ℕ} {text rest s : List Char} :
    readBulk (bulk len text ++ rest) = some (text, s) ↔ len = text.length ∧ s = rest := by
  rw [readBulk_bulk]
  constructor
  · intro h
    have hlen := length_of_readText h
    rw [← hlen, readText_length] at h
    exact ⟨hlen.symm, (Prod.mk.inj (Option.some.inj h)).2.symm⟩
  · intro ⟨hlen, hs⟩
    rw [hlen, hs]
    exact readText_length text rest

/-! ### Arrays -/

theorem length_of_readBulks {n : ℕ} {s rest : List Char} {texts : List (List Char)}
    (h : readBulks n s = some (texts, rest)) : texts.length = n := by
  induction n generalizing s texts with
  | zero =>
    obtain ⟨htexts, -⟩ := Prod.mk.inj (Option.some.inj h)
    rw [← htexts]
    rfl
  | succ n ih =>
    obtain ⟨b, -, hmap⟩ := Option.bind_eq_some_iff.mp h
    obtain ⟨bs, hbs, heq⟩ := Option.map_eq_some_iff.mp hmap
    obtain ⟨htexts, hrest⟩ := Prod.mk.inj heq
    rw [← htexts, List.length_cons, ih (s := b.2) (hrest ▸ hbs)]

/-- Strings are read back one after the other exactly when all their lengths were
    announced. -/
theorem readBulks_bulks_iff (bulks : List (ℕ × List Char)) :
    readBulks bulks.length (bulks.flatMap fun b => bulk b.1 b.2) =
        some (bulks.map Prod.snd, []) ↔
      ∀ b ∈ bulks, b.1 = b.2.length := by
  induction bulks with
  | nil => simp [readBulks]
  | cons b bulks ih =>
    have hsplit : ((b :: bulks).flatMap fun b => bulk b.1 b.2) =
        bulk b.1 b.2 ++ bulks.flatMap fun b => bulk b.1 b.2 := List.flatMap_cons
    rw [List.forall_mem_cons, ← ih, hsplit]
    show (readBulk _).bind _ = _ ↔ _
    constructor
    · intro h
      obtain ⟨⟨text, rest⟩, hread, hmap⟩ := Option.bind_eq_some_iff.mp h
      obtain ⟨⟨texts, last⟩, hbs, heq⟩ := Option.map_eq_some_iff.mp hmap
      obtain ⟨htexts, hlast⟩ := Prod.mk.inj heq
      obtain ⟨htext, htail⟩ := List.cons.inj htexts
      rw [show text = b.2 from htext] at hread
      obtain ⟨hlen, hrest⟩ := readBulk_bulk_iff.mp hread
      rw [show texts = bulks.map Prod.snd from htail, show last = [] from hlast, hrest] at hbs
      exact ⟨hlen, hbs⟩
    · intro ⟨hlen, hrest⟩
      rw [readBulk_bulk_iff.mpr ⟨hlen, rfl⟩]
      show (readBulks _ _).map _ = _
      rw [hrest]
      rfl

/-- **An array decodes to its strings exactly when its size and all lengths were
    announced.** -/
theorem decode_array_iff (size : ℕ) (bulks : List (ℕ × List Char)) :
    decode (array size bulks) = some (bulks.map Prod.snd) ↔
      size = bulks.length ∧ ∀ b ∈ bulks, b.1 = b.2.length := by
  have hdecode : decode (array size bulks) =
      (readBulks size (bulks.flatMap fun b => bulk b.1 b.2)).bind fun bs =>
        if bs.2 = [] then some bs.1 else none := by
    rw [decode, array, readHeader_header]
    rfl
  rw [hdecode, ← readBulks_bulks_iff]
  constructor
  · intro h
    obtain ⟨⟨texts, rest⟩, hread, hwhole⟩ := Option.bind_eq_some_iff.mp h
    by_cases hrest : rest = []
    · rw [if_pos hrest] at hwhole
      have htexts : texts = bulks.map Prod.snd := Option.some.inj hwhole
      have hsize : size = bulks.length := by
        rw [← length_of_readBulks hread, htexts, List.length_map]
      rw [hrest, htexts] at hread
      exact ⟨hsize, hsize ▸ hread⟩
    · rw [if_neg hrest] at hwhole
      contradiction
  · intro ⟨hsize, hread⟩
    rw [hsize, hread]
    rfl

end Resp
