import Mathlib.Data.List.TakeWhile
import Yeti.Args.Conversion

/-! # What is written can be read back

    The reader stops exactly at the end of what the writer produced, whatever follows;
    this is the induction hypothesis for the items of arrays and the fields of structs.
    The escaping is undone from left to right, and a byte that was produced is never
    looked at again.
-/

namespace Yeti.Args

/-! ### What is assumed and claimed -/

/-- The digits of hexadecimal numbers. -/
def isHexDigit (c : UInt8) : Bool :=
  ("0123456789abcdefABCDEF".toList.map Char.toUInt8).contains c

/-- `char2hex` writes two digits, and `reverse_hex2int` reads them back. -/
structure Hex.Lawful (hex : Hex) : Prop where
  digits : ∀ c, ∃ d₁ d₀, hex.char2hex c = [d₁, d₀] ∧ isHexDigit d₁ = true ∧ isHexDigit d₀ = true ∧
    hex.reverse_hex2int [d₀, d₁] = some c.toNat

/-- The characters of the user part of a SIP URI: alphanumeric ones, marks and those that
    are reserved elsewhere. -/
def userChar (c : UInt8) : Bool :=
  (("abcdefghijklmnopqrstuvwxyz" ++ "ABCDEFGHIJKLMNOPQRSTUVWXYZ" ++ "0123456789" ++
    "-_.!~*'()" ++ "&=+$,;?/").toList.map Char.toUInt8).contains c

/-- What a value is written as can be read back, and it consists of allowed characters. -/
def RoundTrip (hex : Hex) (a : AmArg) : Prop :=
  ∃ username, arg2username hex a = .ok username ∧
    (∃ rest, username2arg hex username = .ok a rest) ∧ ∀ c ∈ username, userChar c = true

mutual

/-- No key of a struct has a NUL. -/
def AmArg.KeysOk : AmArg → Prop
  | .cstr _ => True
  | .array items => AllKeysOk items
  | .struct fields => FieldKeysOk fields
  | .other _ => True

def AllKeysOk : List AmArg → Prop
  | [] => True
  | a :: items => a.KeysOk ∧ AllKeysOk items

def FieldKeysOk : List (Bytes × AmArg) → Prop
  | [] => True
  | (key, a) :: fields => 0 ∉ key ∧ a.KeysOk ∧ FieldKeysOk fields

end

/-! ### Lengths -/

theorem toNat_of_isDigit {c : Char} (h : c.isDigit = true) :
    '0'.toNat ≤ c.toNat ∧ c.toNat ≤ '9'.toNat ∧ c.toUInt8.toNat = c.toNat := by
  unfold Char.isDigit at h
  simp only [Bool.and_eq_true, decide_eq_true_eq, ge_iff_le, UInt32.le_iff_toNat_le] at h
  obtain ⟨hlow, hhigh⟩ := h
  have hlow : '0'.toNat ≤ c.toNat := hlow
  have hhigh : c.toNat ≤ '9'.toNat := hhigh
  refine ⟨hlow, hhigh, ?_⟩
  have h9 : '9'.toNat = 57 := rfl
  have hsize : c.toUInt8.toNat = c.toNat % 2 ^ 8 := UInt32.toNat_toUInt8 c.val
  rw [hsize]
  omega

/-- A digit character is read as its value. -/
theorem readDigits_digit {c : Char} (h : c.isDigit = true) (src : Bytes) (dst : Nat) :
    readDigits (c.toUInt8 :: src) dst =
      readDigits src (toInt32 (10 * dst + (c.toNat - '0'.toNat) : Nat)) := by
  obtain ⟨hlow, hhigh, hbyte⟩ := toNat_of_isDigit h
  have hdigit : '0'.toUInt8 ≤ c.toUInt8 ∧ c.toUInt8 ≤ '9'.toUInt8 := by
    rw [UInt8.le_iff_toNat_le, UInt8.le_iff_toNat_le, hbyte]
    exact ⟨hlow, hhigh⟩
  rw [readDigits, if_pos hdigit, hbyte]
  congr 2
  omega

theorem readDigits_digits (cs : List Char) (hdigits : ∀ c ∈ cs, c.isDigit = true) (n : Nat)
    (src : Bytes) (hsmall : Nat.ofDigitChars 10 cs n < 2 ^ 31) :
    readDigits (cs.map Char.toUInt8 ++ '/'.toUInt8 :: src) n =
      some ((Nat.ofDigitChars 10 cs n : Int), src) := by
  induction cs generalizing n with
  | nil =>
    rw [Nat.ofDigitChars_nil]
    rfl
  | cons c cs ih =>
    rw [Nat.ofDigitChars_cons] at hsmall ⊢
    have hle : 10 * n + (c.toNat - '0'.toNat) < 2 ^ 31 := by
      have hgrow := @Nat.ofDigitChars_eq_ofDigitChars_zero cs (10 * n + (c.toNat - '0'.toNat))
      have hpos : 1 ≤ 10 ^ cs.length := Nat.one_le_pow _ _ (by decide)
      have hmul := Nat.mul_le_mul_right (10 * n + (c.toNat - '0'.toNat)) hpos
      omega
    rw [List.map_cons, List.cons_append, readDigits_digit (hdigits c (List.mem_cons_self ..)),
      toInt32_of_lt hle]
    exact ih (fun c' hc' => hdigits c' (List.mem_cons_of_mem _ hc')) _ hsmall

theorem read_len_lengthPrefix {n : Nat} (h : n < 2 ^ 31) (src : Bytes) :
    read_len (lengthPrefix n ++ src) = some ((n : Int), src) := by
  have hdigits : ∀ c ∈ Nat.toDigits 10 n, c.isDigit = true :=
    fun c hc => Nat.isDigit_of_mem_toDigits (by decide) (by decide) hc
  have hread := readDigits_digits (Nat.toDigits 10 n) hdigits 0 src
    (by rw [Nat.ofDigitChars_ten_toDigits]; exact h)
  rw [Nat.ofDigitChars_ten_toDigits] at hread
  unfold read_len lengthPrefix
  rw [List.append_assoc]
  cases hcs : Nat.toDigits 10 n with
  | nil => exact absurd hcs (by simp)
  | cons c cs =>
    rw [hcs] at hread hdigits
    have hc := toNat_of_isDigit (hdigits c (List.mem_cons_self ..))
    have hhead : c.toUInt8 ≠ '/'.toUInt8 := by
      intro heq
      rw [heq] at hc
      have : '/'.toUInt8.toNat = 47 := rfl
      have : '0'.toNat = 48 := rfl
      omega
    rw [if_neg]
    · exact hread
    · intro heq
      exact hhead (Option.some.inj heq)

theorem read_string_lengthPrefix {s : Bytes} (h : s.length < 2 ^ 31) (src : Bytes) :
    read_string (lengthPrefix s.length ++ s ++ src) = .ok s src := by
  unfold read_string
  rw [List.append_assoc, read_len_lengthPrefix h]
  dsimp only
  have hle : (s.length : Int) ≤ ((s ++ src).length : Int) := by
    rw [List.length_append]
    omega
  rw [if_pos hle, if_neg (by omega), Int.toNat_natCast, List.take_left, List.drop_left]

/-! ### Written values -/

theorem arg2string_array {items : List AmArg} {e : Bytes} (h : arg2string (.array items) = .ok e) :
    ∃ s, items2string items = .ok s ∧ e = ARRAY_LABEL :: (lengthPrefix items.length ++ s) := by
  rw [arg2string] at h
  cases hs : items2string items with
  | error text =>
    rw [hs] at h
    cases h
  | ok s =>
    rw [hs] at h
    cases h
    exact ⟨s, rfl, rfl⟩

theorem arg2string_struct {fields : List (Bytes × AmArg)} {e : Bytes}
    (h : arg2string (.struct fields) = .ok e) :
    ∃ s, fields2string fields = .ok s ∧ e = STRUCT_LABEL :: (lengthPrefix fields.length ++ s) := by
  rw [arg2string] at h
  cases hs : fields2string fields with
  | error text =>
    rw [hs] at h
    cases h
  | ok s =>
    rw [hs] at h
    cases h
    exact ⟨s, rfl, rfl⟩

theorem items2string_cons {a : AmArg} {items : List AmArg} {e : Bytes}
    (h : items2string (a :: items) = .ok e) :
    ∃ s rest, arg2string a = .ok s ∧ items2string items = .ok rest ∧ e = s ++ rest := by
  rw [items2string] at h
  cases hs : arg2string a with
  | error text =>
    rw [hs] at h
    cases h
  | ok s =>
    rw [hs] at h
    cases hrest : items2string items with
    | error text =>
      rw [hrest] at h
      cases h
    | ok rest =>
      rw [hrest] at h
      cases h
      exact ⟨s, rest, rfl, rfl, rfl⟩

theorem fields2string_cons {key : Bytes} {a : AmArg} {fields : List (Bytes × AmArg)} {e : Bytes}
    (h : fields2string ((key, a) :: fields) = .ok e) :
    ∃ s rest, arg2string a = .ok s ∧ fields2string fields = .ok rest ∧
      e = lengthPrefix key.length ++ key ++ s ++ rest := by
  rw [fields2string] at h
  cases hs : arg2string a with
  | error text =>
    rw [hs] at h
    cases h
  | ok s =>
    rw [hs] at h
    cases hrest : fields2string fields with
    | error text =>
      rw [hrest] at h
      cases h
    | ok rest =>
      rw [hrest] at h
      cases h
      exact ⟨s, rest, rfl, rfl, rfl⟩

theorem length_pos_of_arg2string {a : AmArg} {e : Bytes} (h : arg2string a = .ok e) :
    0 < e.length := by
  cases a with
  | cstr s =>
    rw [arg2string] at h
    cases h
    simp
  | array items =>
    obtain ⟨s, -, rfl⟩ := arg2string_array h
    simp
  | struct fields =>
    obtain ⟨s, -, rfl⟩ := arg2string_struct h
    simp
  | other type =>
    rw [arg2string] at h
    cases h

/-- Every item takes a byte at least, so the number of items is bounded by the size. -/
theorem length_le_items2string {items : List AmArg} {e : Bytes} (h : items2string items = .ok e) :
    items.length ≤ e.length := by
  induction items generalizing e with
  | nil => exact Nat.zero_le _
  | cons a items ih =>
    obtain ⟨s, rest, hs, hrest, rfl⟩ := items2string_cons h
    have hpos := length_pos_of_arg2string hs
    have hle := ih hrest
    rw [List.length_cons, List.length_append]
    omega

theorem length_le_fields2string {fields : List (Bytes × AmArg)} {e : Bytes}
    (h : fields2string fields = .ok e) : fields.length ≤ e.length := by
  induction fields generalizing e with
  | nil => exact Nat.zero_le _
  | cons field fields ih =>
    obtain ⟨key, a⟩ := field
    obtain ⟨s, rest, hs, hrest, rfl⟩ := fields2string_cons h
    have hpos := length_pos_of_arg2string hs
    have hle := ih hrest
    simp only [List.length_cons, List.length_append]
    omega

/-! ### Reading them -/

/-- A key behind all others is appended. -/
theorem setField_of_lt {fields : List (Bytes × AmArg)} {key : Bytes} (value : AmArg)
    (h : ∀ key' ∈ fields.map Prod.fst, key' < key) :
    setField fields key value = fields ++ [(key, value)] := by
  induction fields with
  | nil => rfl
  | cons field fields ih =>
    obtain ⟨key', value'⟩ := field
    rw [List.map_cons, List.forall_mem_cons] at h
    have hnot : ¬ key < key' := List.lt_asymm h.1
    rw [setField, if_neg hnot, if_pos h.1, ih h.2]
    rfl

mutual

/-- The reader gets back what was written and stops at its end. -/
theorem string2arg_arg2string (a : AmArg) (ha : a.Ok) {e : Bytes} (he : arg2string a = .ok e)
    (hsize : e.length < 2 ^ 31) (levels : Nat) (hlevels : e.length ≤ levels) (rest : Bytes) :
    string2arg levels (e ++ rest) = .ok a rest := by
  obtain ⟨levels, rfl⟩ : ∃ n, levels = n + 1 :=
    Nat.exists_eq_succ_of_ne_zero (by have := length_pos_of_arg2string he; omega)
  cases a with
  | cstr s =>
    rw [arg2string] at he
    cases he
    have hs : s.length < 2 ^ 31 := by
      simp only [List.length_cons, List.length_append] at hsize
      omega
    have hread := read_string_lengthPrefix hs rest
    have hnul : s.takeWhile (· ≠ 0) = s := by
      rw [List.takeWhile_eq_self_iff]
      intro c hc
      rw [AmArg.Ok] at ha
      have hne : c ≠ 0 := fun heq => ha (heq ▸ hc)
      simpa using hne
    show string2arg (levels + 1) (CSTR_LABEL :: (lengthPrefix s.length ++ s ++ rest)) = _
    rw [string2arg, if_pos rfl, hread, Reading.map, toCStr, hnul]
  | array items =>
    obtain ⟨s, hs, rfl⟩ := arg2string_array he
    have hcount := length_le_items2string hs
    simp only [List.length_cons, List.length_append] at hsize hlevels
    rw [AmArg.Ok] at ha
    have hitems := readItems_items2string items ha hs (by omega) levels (by omega) [] rest
    rw [List.cons_append, string2arg, if_neg (by decide), if_pos rfl, List.append_assoc,
      read_len_lengthPrefix (by omega)]
    dsimp only
    rw [Int.toNat_natCast, hitems]
    rfl
  | struct fields =>
    obtain ⟨s, hs, rfl⟩ := arg2string_struct he
    have hcount := length_le_fields2string hs
    simp only [List.length_cons, List.length_append] at hsize hlevels
    rw [AmArg.Ok] at ha
    have hfields := readFields_fields2string fields ha.2 hs (by omega) levels (by omega)
      [] ha.1 rest
    rw [List.cons_append, string2arg, if_neg (by decide), if_neg (by decide), if_pos rfl,
      List.append_assoc, read_len_lengthPrefix (by omega)]
    dsimp only
    rw [Int.toNat_natCast, hfields]
    rfl
  | other type =>
    rw [AmArg.Ok] at ha
    exact ha.elim

theorem readItems_items2string (items : List AmArg) (ha : AllOk items) {e : Bytes}
    (he : items2string items = .ok e) (hsize : e.length < 2 ^ 31) (levels : Nat)
    (hlevels : e.length ≤ levels) (dst : List AmArg) (rest : Bytes) :
    readItems (string2arg levels) items.length (e ++ rest) dst = .ok (dst ++ items) rest := by
  cases items with
  | nil =>
    rw [items2string] at he
    cases he
    simp [readItems]
  | cons a items =>
    obtain ⟨s, tail, hs, htail, rfl⟩ := items2string_cons he
    rw [List.length_append] at hsize hlevels
    rw [AllOk] at ha
    have hitem := string2arg_arg2string a ha.1 hs (by omega) levels (by omega) (tail ++ rest)
    have hitems := readItems_items2string items ha.2 htail (by omega) levels (by omega)
      (dst ++ [a]) rest
    rw [List.length_cons, readItems, List.append_assoc, hitem]
    dsimp only
    rw [hitems, List.append_assoc]
    rfl

theorem readFields_fields2string (fields : List (Bytes × AmArg)) (ha : FieldsOk fields) {e : Bytes}
    (he : fields2string fields = .ok e) (hsize : e.length < 2 ^ 31) (levels : Nat)
    (hlevels : e.length ≤ levels) (dst : List (Bytes × AmArg))
    (hsorted : ((dst ++ fields).map Prod.fst).Pairwise (· < ·)) (rest : Bytes) :
    readFields (string2arg levels) fields.length (e ++ rest) dst = .ok (dst ++ fields) rest := by
  match fields with
  | [] =>
    rw [fields2string] at he
    cases he
    simp [readFields]
  | (key, a) :: fields =>
    obtain ⟨s, tail, hs, htail, rfl⟩ := fields2string_cons he
    simp only [List.length_append] at hsize hlevels
    rw [FieldsOk] at ha
    have hitem := string2arg_arg2string a ha.1 hs (by omega) levels (by omega) (tail ++ rest)
    -- the keys read so far are smaller
    have hset : setField dst key a = dst ++ [(key, a)] := by
      apply setField_of_lt
      intro key' hkey'
      rw [List.map_append, List.pairwise_append] at hsorted
      exact hsorted.2.2 key' hkey' key (by simp)
    have hsorted' : ((dst ++ [(key, a)] ++ fields).map Prod.fst).Pairwise (· < ·) := by
      rw [List.append_assoc]
      exact hsorted
    have hfields := readFields_fields2string fields ha.2 htail (by omega) levels (by omega)
      (dst ++ [(key, a)]) hsorted' rest
    have hkey := read_string_lengthPrefix (s := key) (by omega) (s ++ (tail ++ rest))
    rw [List.length_cons, readFields]
    have hbytes : lengthPrefix key.length ++ key ++ s ++ tail ++ rest =
        lengthPrefix key.length ++ key ++ (s ++ (tail ++ rest)) := by
      simp only [List.append_assoc]
    rw [hbytes, hkey]
    dsimp only
    rw [hitem]
    dsimp only
    rw [hset, hfields, List.append_assoc]
    rfl

end

/-! ### The bytes of written values -/

mutual

theorem exists_arg2string (a : AmArg) (ha : a.Ok) : ∃ e, arg2string a = .ok e := by
  cases a with
  | cstr s => exact ⟨_, by rw [arg2string]⟩
  | array items =>
    rw [AmArg.Ok] at ha
    obtain ⟨s, hs⟩ := exists_items2string items ha
    exact ⟨_, by rw [arg2string, hs]; rfl⟩
  | struct fields =>
    rw [AmArg.Ok] at ha
    obtain ⟨s, hs⟩ := exists_fields2string fields ha.2
    exact ⟨_, by rw [arg2string, hs]; rfl⟩
  | other type =>
    rw [AmArg.Ok] at ha
    exact ha.elim

theorem exists_items2string (items : List AmArg) (ha : AllOk items) :
    ∃ e, items2string items = .ok e := by
  cases items with
  | nil => exact ⟨_, by rw [items2string]; rfl⟩
  | cons a items =>
    rw [AllOk] at ha
    obtain ⟨s, hs⟩ := exists_arg2string a ha.1
    obtain ⟨rest, hrest⟩ := exists_items2string items ha.2
    exact ⟨_, by rw [items2string, hs, hrest]; rfl⟩

theorem exists_fields2string (fields : List (Bytes × AmArg)) (ha : FieldsOk fields) :
    ∃ e, fields2string fields = .ok e := by
  match fields with
  | [] => exact ⟨_, by rw [fields2string]; rfl⟩
  | (key, a) :: fields =>
    rw [FieldsOk] at ha
    obtain ⟨s, hs⟩ := exists_arg2string a ha.1
    obtain ⟨rest, hrest⟩ := exists_fields2string fields ha.2
    exact ⟨_, by rw [fields2string, hs, hrest]; rfl⟩

end

theorem zero_notMem_lengthPrefix (n : Nat) : 0 ∉ lengthPrefix n := by
  unfold lengthPrefix
  rw [List.mem_append, not_or]
  constructor
  · intro h
    obtain ⟨c, hc, hzero⟩ := List.mem_map.mp h
    have hdigit := toNat_of_isDigit (Nat.isDigit_of_mem_toDigits (by decide) (by decide) hc)
    rw [hzero] at hdigit
    have h0 : '0'.toNat = 48 := rfl
    have hbyte : (0 : UInt8).toNat = 0 := rfl
    omega
  · decide

mutual

/-- Only keys bring a NUL into what is written. -/
theorem zero_mem_arg2string_iff (a : AmArg) (ha : a.Ok) {e : Bytes} (he : arg2string a = .ok e) :
    0 ∉ e ↔ a.KeysOk := by
  cases a with
  | cstr s =>
    rw [arg2string] at he
    cases he
    rw [AmArg.Ok] at ha
    rw [AmArg.KeysOk]
    simp [zero_notMem_lengthPrefix, ha, show (0 : UInt8) ≠ CSTR_LABEL by decide]
  | array items =>
    obtain ⟨s, hs, rfl⟩ := arg2string_array he
    rw [AmArg.Ok] at ha
    rw [AmArg.KeysOk, ← zero_mem_items2string_iff items ha hs]
    simp [zero_notMem_lengthPrefix, show (0 : UInt8) ≠ ARRAY_LABEL by decide]
  | struct fields =>
    obtain ⟨s, hs, rfl⟩ := arg2string_struct he
    rw [AmArg.Ok] at ha
    rw [AmArg.KeysOk, ← zero_mem_fields2string_iff fields ha.2 hs]
    simp [zero_notMem_lengthPrefix, show (0 : UInt8) ≠ STRUCT_LABEL by decide]
  | other type =>
    rw [AmArg.Ok] at ha
    exact ha.elim

theorem zero_mem_items2string_iff (items : List AmArg) (ha : AllOk items) {e : Bytes}
    (he : items2string items = .ok e) : 0 ∉ e ↔ AllKeysOk items := by
  cases items with
  | nil =>
    rw [items2string] at he
    cases he
    simp [AllKeysOk]
  | cons a items =>
    obtain ⟨s, tail, hs, htail, rfl⟩ := items2string_cons he
    rw [AllOk] at ha
    rw [AllKeysOk, ← zero_mem_arg2string_iff a ha.1 hs,
      ← zero_mem_items2string_iff items ha.2 htail, List.mem_append, not_or]

theorem zero_mem_fields2string_iff (fields : List (Bytes × AmArg)) (ha : FieldsOk fields)
    {e : Bytes} (he : fields2string fields = .ok e) : 0 ∉ e ↔ FieldKeysOk fields := by
  match fields with
  | [] =>
    rw [fields2string] at he
    cases he
    simp [FieldKeysOk]
  | (key, a) :: fields =>
    obtain ⟨s, tail, hs, htail, rfl⟩ := fields2string_cons he
    rw [FieldsOk] at ha
    rw [FieldKeysOk, ← zero_mem_arg2string_iff a ha.1 hs,
      ← zero_mem_fields2string_iff fields ha.2 htail]
    simp [zero_notMem_lengthPrefix]

end

/-! ### Escaping -/

variable {hex : Hex}

theorem strchr_allowed_iff (c : UInt8) : strchr allowed c = true ↔ c ∈ allowed ∨ c = 0 := by
  unfold strchr
  simp

/-- The strings are taken apart at the places where they differ. -/
theorem mem_bytes_append (a b : String) (c : UInt8) :
    c ∈ (a ++ b).toList.map Char.toUInt8 ↔
      c ∈ a.toList.map Char.toUInt8 ∨ c ∈ b.toList.map Char.toUInt8 := by
  rw [String.toList_append, List.map_append, List.mem_append]

theorem userChar_of_mem_allowed : ∀ c ∈ allowed, userChar c = true := by
  intro c hc
  have hmarks : "-_.!~*'()" = "-_.!~*'" ++ "()" := by rfl
  have hreserved : "&=+$,;?/" = "&=+$,;" ++ "?" ++ "/" := by rfl
  have hallowed : "&=+$,;/" = "&=+$,;" ++ "/" := by rfl
  unfold allowed at hc
  unfold userChar
  rw [List.contains_iff_mem, hmarks, hreserved]
  rw [hallowed] at hc
  simp only [mem_bytes_append] at hc ⊢
  exact hc.imp (Or.imp_right .inl) (Or.imp_left .inl)

theorem userChar_of_isHexDigit {c : UInt8} (h : isHexDigit c = true) : userChar c = true := by
  have hdigits : "0123456789abcdefABCDEF" = "0123456789" ++ "abcdef" ++ "ABCDEF" := by rfl
  have hlower : "abcdefghijklmnopqrstuvwxyz" = "abcdef" ++ "ghijklmnopqrstuvwxyz" := by rfl
  have hupper : "ABCDEFGHIJKLMNOPQRSTUVWXYZ" = "ABCDEF" ++ "GHIJKLMNOPQRSTUVWXYZ" := by rfl
  unfold isHexDigit at h
  unfold userChar
  rw [List.contains_iff_mem, hdigits] at h
  rw [List.contains_iff_mem, hlower, hupper]
  simp only [mem_bytes_append] at h ⊢
  rcases h with (hdigit | hlow) | hup
  · exact .inl (.inl (.inr hdigit))
  · exact .inl (.inl (.inl (.inl (.inl hlow))))
  · exact .inl (.inl (.inl (.inr (.inl hup))))

theorem userChar_zero : userChar 0 = false := by decide

/-- The only byte that is not allowed and yet not escaped is the NUL. -/
theorem userChar_escape_iff (hhex : hex.Lawful) (c : UInt8) :
    (∀ c' ∈ escape hex c, userChar c' = true) ↔ c ≠ 0 := by
  unfold escape
  by_cases hallowed : strchr allowed c = true
  · rw [if_pos hallowed, List.forall_mem_singleton]
    constructor
    · rintro huser rfl
      simp [userChar_zero] at huser
    · intro hne
      have hmem := ((strchr_allowed_iff c).mp hallowed).resolve_right hne
      exact userChar_of_mem_allowed c hmem
  · rw [if_neg hallowed]
    obtain ⟨d₁, d₀, hdigits, h₁, h₀, -⟩ := hhex.digits c
    refine iff_of_true ?_ ?_
    · rw [hdigits]
      intro c' hc'
      simp only [List.mem_cons, List.not_mem_nil, or_false] at hc'
      rcases hc' with rfl | rfl | rfl
      · decide
      · exact userChar_of_isHexDigit h₁
      · exact userChar_of_isHexDigit h₀
    · rintro rfl
      exact hallowed ((strchr_allowed_iff 0).mpr (.inr rfl))

/-! ### Undoing it -/

theorem findFrom_append (pre rest : Bytes) (c : UInt8) :
    findFrom (pre ++ rest) c pre.length = (rest.findIdx? (· = c)).map (pre.length + ·) := by
  unfold findFrom
  rw [List.drop_left]

/-- A byte that is not the one looked for is passed over. -/
theorem findFrom_ne (pre rest : Bytes) {b c : UInt8} (h : b ≠ c) :
    findFrom (pre ++ b :: rest) c pre.length =
      findFrom ((pre ++ [b]) ++ rest) c (pre ++ [b]).length := by
  rw [findFrom_append, findFrom_append, List.findIdx?_cons]
  rw [if_neg (by simpa using h), Option.map_map, List.length_append]
  congr 1
  funext i
  show pre.length + (i + 1) = pre.length + 1 + i
  omega

/-- One round: the escape is replaced, and the search goes on behind what was produced. -/
theorem unescapeLoop_round (hhex : hex.Lawful) {c : UInt8} (h : strchr allowed c = false)
    (done rest : Bytes) (rounds : Nat) :
    unescapeLoop hex (rounds + 1) (done ++ (escape hex c ++ rest))
        (findFrom (done ++ (escape hex c ++ rest)) ESCAPE_CHAR done.length) =
      unescapeLoop hex rounds ((done ++ [c]) ++ rest)
        (findFrom ((done ++ [c]) ++ rest) ESCAPE_CHAR (done ++ [c]).length) := by
  obtain ⟨d₁, d₀, hdigits, -, -, hvalue⟩ := hhex.digits c
  have hescape : escape hex c ++ rest = ESCAPE_CHAR :: d₁ :: d₀ :: rest := by
    unfold escape
    rw [h, if_neg Bool.false_ne_true, hdigits]
    rfl
  have hfind : findFrom (done ++ ESCAPE_CHAR :: d₁ :: d₀ :: rest) ESCAPE_CHAR done.length =
      some done.length := by
    rw [findFrom_append, List.findIdx?_cons]
    simp
  have hdrop : ∀ n, (done ++ ESCAPE_CHAR :: d₁ :: d₀ :: rest).drop (done.length + n) =
      (ESCAPE_CHAR :: d₁ :: d₀ :: rest).drop n := fun n => List.drop_length_add_append n
  have hlength : ¬ (done ++ ESCAPE_CHAR :: d₁ :: d₀ :: rest).length ≤ done.length + 2 := by
    simp only [List.length_append, List.length_cons]
    omega
  have hbytes : done ++ c :: rest = (done ++ [c]) ++ rest := by simp
  rw [hescape, hfind, unescapeLoop, if_neg hlength, hdrop, hdrop, hdrop, List.take_left]
  simp only [List.drop_succ_cons, List.drop_zero, List.take_succ_cons, List.take_zero,
    List.cons_append, List.nil_append, hvalue, UInt8.ofNat_toNat]
  rw [hbytes, List.length_append, List.length_singleton]

/-- With `done` behind it, the loop undoes the escaping of what is left. -/
theorem unescapeLoop_escape (hhex : hex.Lawful) (e done : Bytes) (rounds : Nat)
    (h : e.length ≤ rounds) :
    unescapeLoop hex rounds (done ++ e.flatMap (escape hex))
        (findFrom (done ++ e.flatMap (escape hex)) ESCAPE_CHAR done.length) =
      some (done ++ e) := by
  induction e generalizing done rounds with
  | nil =>
    have hnone : findFrom (done ++ []) ESCAPE_CHAR done.length = none := by
      rw [findFrom_append]
      rfl
    rw [List.flatMap_nil, hnone]
    cases rounds <;> rfl
  | cons c e ih =>
    rw [List.length_cons] at h
    have hdone : done ++ c :: e = (done ++ [c]) ++ e := by simp
    rw [List.flatMap_cons, hdone]
    by_cases hallowed : strchr allowed c = true
    · -- a byte that stands for itself is not the escape character
      have hescape : escape hex c = [c] := by
        unfold escape
        rw [if_pos hallowed]
      have hne : c ≠ ESCAPE_CHAR := by
        rintro rfl
        exact absurd hallowed (by decide)
      have hbytes : done ++ ([c] ++ e.flatMap (escape hex)) =
          (done ++ [c]) ++ e.flatMap (escape hex) := (List.append_assoc ..).symm
      have hfind := findFrom_ne done (e.flatMap (escape hex)) hne
      have hnext := ih (done ++ [c]) rounds (by omega)
      rw [hescape]
      show unescapeLoop hex rounds (done ++ ([c] ++ e.flatMap (escape hex)))
        (findFrom (done ++ c :: e.flatMap (escape hex)) ESCAPE_CHAR done.length) = _
      rw [hfind, hbytes]
      exact hnext
    · obtain ⟨rounds, rfl⟩ : ∃ n, rounds = n + 1 :=
        Nat.exists_eq_succ_of_ne_zero (by omega)
      rw [unescapeLoop_round hhex (by simpa using hallowed)]
      exact ih (done ++ [c]) rounds (by omega)

/-! ### The round trip -/

theorem length_le_flatMap_escape (hex : Hex) (e : Bytes) :
    e.length ≤ (e.flatMap (escape hex)).length := by
  induction e with
  | nil => exact Nat.le_refl _
  | cons c e ih =>
    have hpos : 1 ≤ (escape hex c).length := by
      unfold escape
      split_ifs
      · exact Nat.le_refl _
      · simp
    rw [List.flatMap_cons, List.length_append, List.length_cons]
    omega

/-- What was written is read back. -/
theorem username2arg_of_arg2string (hhex : hex.Lawful) {a : AmArg} (ha : a.Ok) {e : Bytes}
    (he : arg2string a = .ok e) (hsize : e.length < 2 ^ 31) :
    username2arg hex (e.flatMap (escape hex)) = .ok a [] := by
  have hunescape := unescapeLoop_escape hhex e [] (e.flatMap (escape hex)).length
    (length_le_flatMap_escape hex e)
  simp only [List.nil_append, List.length_nil] at hunescape
  unfold username2arg
  rw [hunescape]
  dsimp only
  rw [toInt32_of_lt hsize, Int.toNat_natCast, List.take_length]
  have hread := string2arg_arg2string a ha he hsize e.length (Nat.le_refl _) []
  rw [List.append_nil] at hread
  exact hread

/-- **Round trip.** Every value is read back as it was, and what is written for it has only
    allowed characters exactly if no key of a struct has a NUL. -/
theorem roundTrip_iff (hex : Hex) (hhex : hex.Lawful) (a : AmArg) (ha : a.Ok)
    (hsize : ∀ e, arg2string a = .ok e → e.length < 2 ^ 31) :
    (∃ username, arg2username hex a = .ok username ∧ username2arg hex username = .ok a []) ∧
      (RoundTrip hex a ↔ a.KeysOk) := by
  obtain ⟨e, he⟩ := exists_arg2string a ha
  have husername : arg2username hex a = .ok (e.flatMap (escape hex)) := by
    unfold arg2username
    rw [he]
    rfl
  have hread := username2arg_of_arg2string hhex ha he (hsize e he)
  have hchars : (∀ c ∈ e.flatMap (escape hex), userChar c = true) ↔ 0 ∉ e := by
    simp only [List.mem_flatMap, forall_exists_index, and_imp]
    constructor
    · intro hall hzero
      have hne := (userChar_escape_iff hhex 0).mp fun c hc => hall c 0 hzero hc
      exact hne rfl
    · intro hzero c c' hc' hc
      have hne : c' ≠ 0 := fun heq => hzero (heq ▸ hc')
      exact (userChar_escape_iff hhex c').mpr hne c hc
  refine ⟨⟨_, husername, hread⟩, ?_⟩
  rw [← zero_mem_arg2string_iff a ha he, ← hchars]
  constructor
  · rintro ⟨username, husername', -, hall⟩
    rw [husername] at husername'
    cases husername'
    exact hall
  · intro hall
    exact ⟨_, husername, ⟨[], hread⟩, hall⟩

/-! ### Keys with and without NUL -/

namespace RoundTripExample

def hexDigits : Bytes := "0123456789abcdef".toList.map Char.toUInt8

/-- Two lowercase digits, and their value with the low digit first. -/
def lowerHex : Hex where
  char2hex c := [hexDigits.getD (c.toNat / 16) 0, hexDigits.getD (c.toNat % 16) 0]
  reverse_hex2int s :=
    s.foldr (fun c value =>
      match value, hexDigits.findIdx? (· = c) with
      | some n, some d => some (16 * n + d)
      | _, _ => none) (some 0)

theorem hexDigits_getD : ∀ d < 16, isHexDigit (hexDigits.getD d 0) = true ∧
    hexDigits.findIdx? (· = hexDigits.getD d 0) = some d := by
  decide +kernel

theorem lawful_lowerHex : lowerHex.Lawful := by
  constructor
  intro c
  have hlt := c.toNat_lt
  obtain ⟨hhigh, hindex₁⟩ := hexDigits_getD (c.toNat / 16) (by omega)
  obtain ⟨hlow, hindex₀⟩ := hexDigits_getD (c.toNat % 16) (by omega)
  refine ⟨_, _, rfl, hhigh, hlow, ?_⟩
  show (match lowerHex.reverse_hex2int [hexDigits.getD (c.toNat / 16) 0],
      hexDigits.findIdx? (· = hexDigits.getD (c.toNat % 16) 0) with
    | some n, some d => some (16 * n + d)
    | _, _ => none) = some c.toNat
  have hfirst : lowerHex.reverse_hex2int [hexDigits.getD (c.toNat / 16) 0] =
      some (c.toNat / 16) := by
    simp only [lowerHex, List.foldr_cons, List.foldr_nil, hindex₁]
    simp
  rw [hfirst, hindex₀]
  simp only [Nat.div_add_mod]

/-- A struct with one field. -/
def oneField (key : Bytes) : AmArg := .struct [(key, .cstr [65, 32, 66])]

end RoundTripExample

open RoundTripExample

/-- The key `a b`. -/
theorem roundTrip_iff_space :
    RoundTrip lowerHex (oneField [97, 32, 98]) := by
  refine (roundTrip_iff lowerHex lawful_lowerHex (oneField [97, 32, 98]) ?_ ?_).2.mpr ?_
  · simp [oneField, AmArg.Ok, FieldsOk]
  · intro e he
    cases he
    decide
  · simp [oneField, AmArg.KeysOk, FieldKeysOk]

/-- The key of one NUL is written as it is. -/
theorem not_roundTrip_nul :
    ¬ ∀ (hex : Hex) (a : AmArg), hex.Lawful → a.Ok →
      (∀ e, arg2string a = .ok e → e.length < 2 ^ 31) → RoundTrip hex a := by
  intro hall
  have hok : (oneField [0]).Ok := by simp [oneField, AmArg.Ok, FieldsOk]
  have hround := hall lowerHex (oneField [0]) lawful_lowerHex hok (by
    intro e he
    cases he
    decide)
  obtain ⟨username, husername, -, hchars⟩ := hround
  cases husername
  have huser := hchars 0 (by decide)
  simp [userChar_zero] at huser

end Yeti.Args
