import Mathlib.Algebra.Group.Int.Defs
import Mathlib.Algebra.Group.Nat.Defs
import Yeti.Args.Conversion

/-! # Decoding with a cursor

    `string2arg` and its helpers once more, at the level of `src` and `len`: the bytes
    stay where they are, the two variables move, and every move, every number that is
    used and every range that is copied is recorded.

    Arithmetic on `int` is a parameter (`wrap`).  The code is the instance `toInt32`; the
    instance `id` reads the same numbers without a bound.  The two run in lockstep until
    a number does not fit (`Agree`), and the unbounded one makes no bad step (`Good`).
-/

namespace Yeti.Args.Decoding

/-! ### Runs -/

/-- The variables `src`, as a position in the string, and `len`. -/
structure Cursor where
  src : Nat
  len : Int
  deriving DecidableEq, Repr

/-- What a run records. -/
inductive Event where
  /-- The cursor after a move. -/
  | moved (c : Cursor)
  /-- A length or an element count: as it is written, and as it is used. -/
  | used (written : Nat) (value : Int)
  /-- `assign(src, l)`. -/
  | copied (src : Nat) (l : Int)
  deriving DecidableEq, Repr

/-- How a function ends. -/
inductive Outcome (α : Type) where
  | ok (a : α) (c : Cursor)
  /-- `return false` -/
  | failed
  /-- `std::length_error` -/
  | length_error
  /-- The levels of the recursion are used up. -/
  | unfinished

/-- A run with its record. -/
structure Run (α : Type) where
  outcome : Outcome α
  trace : List Event

variable {α β : Type}

/-- `return false`. -/
def Run.fail : Run α := ⟨.failed, []⟩

/-- One run after the other. -/
def Run.bind (x : Run α) (f : α → Cursor → Run β) : Run β :=
  match x.outcome with
  | .ok a c => ⟨(f a c).outcome, x.trace ++ (f a c).trace⟩
  | .failed => ⟨.failed, x.trace⟩
  | .length_error => ⟨.length_error, x.trace⟩
  | .unfinished => ⟨.unfinished, x.trace⟩

def Run.map (f : α → β) (x : Run α) : Run β := x.bind fun a c => ⟨.ok (f a) c, []⟩

/-! ### The decoder -/

variable (wrap : Int → Int)

/-- The loop of `read_len` over the bytes `src[i]` with `i < len`: the number and the
    position of the separator, `none` without a separator. -/
def readDigits : Bytes → Nat → Int → Option (Int × Nat)
  | [], _, _ => none
  | c :: src, i, dst =>
    if '0'.toUInt8 ≤ c ∧ c ≤ '9'.toUInt8 then
      readDigits src (i + 1) (wrap (10 * dst + (c.toNat - '0'.toNat : Int)))
    else if c = '/'.toUInt8 then some (dst, i)
    else none

/-- The number that decimal digits stand for. -/
def decimal (digits : Bytes) : Nat :=
  digits.foldl (fun n c => 10 * n + (c.toNat - '0'.toNat)) 0

/-- `read_len`. -/
def read_len (buf : Bytes) (c : Cursor) : Run Int :=
  let bytes := (buf.drop c.src).take c.len.toNat
  match readDigits wrap bytes 0 0 with
  | none => .fail
  | some (dst, i) =>
    -- no number there
    if i = 0 then .fail
    else
      let c' : Cursor := ⟨c.src + (i + 1), c.len - (i + 1)⟩
      ⟨.ok dst c', [.moved c', .used (decimal (bytes.take i)) dst]⟩

/-- `read_string`.  A negative length is converted to a huge `size_t`. -/
def read_string (buf : Bytes) (c : Cursor) : Run Bytes :=
  (read_len wrap buf c).bind fun l c =>
    if l ≤ c.len then
      if l < 0 then ⟨.length_error, [.copied c.src l]⟩
      else
        let c' : Cursor := ⟨c.src + l.toNat, c.len - l⟩
        ⟨.ok ((buf.drop c.src).take l.toNat) c', [.copied c.src l, .moved c']⟩
    else .fail

/-- `for (int i = 0; i < cnt; i++)` over the items of an array. -/
def readItems (item : Cursor → Run AmArg) : Nat → Cursor → List AmArg → Run (List AmArg)
  | 0, c, dst => ⟨.ok dst c, []⟩
  | cnt + 1, c, dst => (item c).bind fun a c => readItems item cnt c (dst ++ [a])

/-- The same over the fields of a struct. -/
def readFields (buf : Bytes) (item : Cursor → Run AmArg) :
    Nat → Cursor → List (Bytes × AmArg) → Run (List (Bytes × AmArg))
  | 0, c, dst => ⟨.ok dst c, []⟩
  | cnt + 1, c, dst =>
    (read_string wrap buf c).bind fun s c =>
      (item c).bind fun a c => readFields buf item cnt c (setField dst s a)

/-- `++src, --len` -/
def Cursor.advance (c : Cursor) : Cursor := ⟨c.src + 1, c.len - 1⟩

/-- A step past the label. -/
def pastLabel (c : Cursor) : Run Unit := ⟨.ok () c.advance, [.moved c.advance]⟩

/-- `string2arg` into a new value; the recursion goes down at most `levels` levels. -/
def string2arg (buf : Bytes) : Nat → Cursor → Run AmArg
  | levels, c =>
    if c.len < 1 then .fail
    else
      match levels with
      | 0 => ⟨.unfinished, []⟩
      | levels + 1 =>
        let label := buf.getD c.src 0
        if label = CSTR_LABEL then
          (pastLabel c).bind fun _ c => (read_string wrap buf c).map toCStr
        else if label = ARRAY_LABEL then
          (pastLabel c).bind fun _ c =>
            (read_len wrap buf c).bind fun cnt c =>
              (readItems (string2arg buf levels) cnt.toNat c []).map .array
        else if label = STRUCT_LABEL then
          (pastLabel c).bind fun _ c =>
            (read_len wrap buf c).bind fun cnt c =>
              (readFields wrap buf (string2arg buf levels) cnt.toNat c []).map .struct
        else .fail

/-- The end of `username2arg`: `len` is an `int`. -/
def decode (encoded : Bytes) : Run AmArg :=
  let c : Cursor := ⟨0, wrap encoded.length⟩
  ⟨(string2arg wrap encoded c.len.toNat c).outcome,
    .moved c :: (string2arg wrap encoded c.len.toNat c).trace⟩

/-- The lengths and element counts that are read from a string without a bound. -/
def lengths (encoded : Bytes) : List Nat :=
  (decode id encoded).trace.filterMap fun
    | .used written _ => some written
    | _ => none

variable {wrap}

/-! ### Numbers -/

theorem toInt32_step (n d : Int) : toInt32 (10 * toInt32 n + d) = toInt32 (10 * n + d) := by
  unfold toInt32
  rw [← Int.bmod_add_bmod, Int.mul_bmod_bmod, Int.bmod_add_bmod]

theorem toInt32_lt (n : Int) : toInt32 n < 2 ^ 31 := by
  have h := @Int.bmod_lt n (2 ^ 32) (by decide)
  unfold toInt32
  omega

/-- The bounded loop reads the remainder of what the unbounded one reads. -/
theorem readDigits_toInt32 (src : Bytes) (i : Nat) (n : Int) :
    readDigits toInt32 src i (toInt32 n) =
      (readDigits id src i n).map fun r => (toInt32 r.1, r.2) := by
  induction src generalizing i n with
  | nil => rfl
  | cons c src ih =>
    unfold readDigits
    split_ifs
    · rw [toInt32_step, ih]
      rfl
    · rfl
    · rfl

/-- The unbounded loop stops at a separator, with the number before it. -/
theorem readDigits_id {src : Bytes} {i n : Nat} {v : Int} {j : Nat}
    (h : readDigits id src i n = some (v, j)) :
    ∃ k, j = i + k ∧ k < src.length ∧
      v = ((src.take k).foldl (fun n c => 10 * n + (c.toNat - '0'.toNat)) n : Nat) := by
  induction src generalizing i n with
  | nil => simp [readDigits] at h
  | cons c src ih =>
    unfold readDigits at h
    split_ifs at h with hdigit hsep
    · have hlow : '0'.toNat ≤ c.toNat := by
        have := UInt8.le_iff_toNat_le.mp hdigit.1
        exact this
      have hnext : (10 * (n : Int) + (c.toNat - '0'.toNat : Int)) =
          ((10 * n + (c.toNat - '0'.toNat) : Nat) : Int) := by
        omega
      rw [id, hnext] at h
      obtain ⟨k, rfl, hk, hv⟩ := ih h
      refine ⟨k + 1, by omega, by simpa using hk, ?_⟩
      rw [List.take_succ_cons, List.foldl_cons]
      exact hv
    · obtain ⟨rfl, rfl⟩ : (n : Int) = v ∧ i = j := by simpa using h
      exact ⟨0, rfl, by simp, rfl⟩

/-! ### Good runs -/

/-- `len` is the number of bytes left after `src`. -/
def Cursor.Fits (buf : Bytes) (c : Cursor) : Prop :=
  c.src ≤ buf.length ∧ c.len = (buf.length : Int) - c.src

/-- What the record of a safe run may hold. -/
def Event.Good (buf : Bytes) : Event → Prop
  | .moved c => c.Fits buf
  | .used written value => value = written
  | .copied src l => 0 ≤ l ∧ src + l ≤ buf.length

/-- A run from a cursor that records nothing bad, ends without an exception and leaves
    the cursor in place or further on. -/
structure Good (buf : Bytes) (start : Cursor) (x : Run α) : Prop where
  trace : ∀ e ∈ x.trace, e.Good buf
  ok : ∀ a c, x.outcome = .ok a c → c.Fits buf ∧ start.src ≤ c.src
  no_error : x.outcome ≠ .length_error
  finished : x.outcome ≠ .unfinished

variable {buf : Bytes} {start : Cursor}

theorem good_fail : Good buf start (Run.fail : Run α) :=
  ⟨by simp [Run.fail], by simp [Run.fail], by simp [Run.fail], by simp [Run.fail]⟩

theorem good_ok {a : α} {c : Cursor} {trace : List Event} (htrace : ∀ e ∈ trace, e.Good buf)
    (hfits : c.Fits buf) (hle : start.src ≤ c.src) : Good buf start ⟨.ok a c, trace⟩ := by
  refine ⟨htrace, ?_, by simp, by simp⟩
  intro a' c' h
  cases h
  exact ⟨hfits, hle⟩

theorem Good.bind {x : Run α} {f : α → Cursor → Run β} (hx : Good buf start x)
    (hf : ∀ a c, x.outcome = .ok a c → c.Fits buf → start.src ≤ c.src → Good buf start (f a c)) :
    Good buf start (x.bind f) := by
  cases hout : x.outcome with
  | ok a c =>
    obtain ⟨hfits, hle⟩ := hx.ok a c hout
    have hnext := hf a c hout hfits hle
    have hbind : x.bind f = ⟨(f a c).outcome, x.trace ++ (f a c).trace⟩ := by
      simp only [Run.bind, hout]
    rw [hbind]
    refine ⟨?_, hnext.ok, hnext.no_error, hnext.finished⟩
    intro e he
    rcases List.mem_append.mp he with he | he
    · exact hx.trace e he
    · exact hnext.trace e he
  | failed =>
    have hbind : x.bind f = ⟨.failed, x.trace⟩ := by simp only [Run.bind, hout]
    rw [hbind]
    exact ⟨hx.trace, by simp, by simp, by simp⟩
  | length_error => exact absurd hout hx.no_error
  | unfinished => exact absurd hout hx.finished

theorem Good.map {x : Run α} {f : α → β} (hx : Good buf start x) : Good buf start (x.map f) :=
  hx.bind fun _ _ _ hfits hle => good_ok (by simp) hfits hle

/-- A run that starts further on. -/
theorem Good.of_le {c : Cursor} {x : Run α} (h : Good buf c x) (hle : start.src ≤ c.src) :
    Good buf start x :=
  ⟨h.trace, fun a c' hout => ⟨(h.ok a c' hout).1, Nat.le_trans hle (h.ok a c' hout).2⟩,
    h.no_error, h.finished⟩

theorem read_len_none {c : Cursor}
    (h : readDigits wrap ((buf.drop c.src).take c.len.toNat) 0 0 = none) :
    read_len wrap buf c = .fail := by
  simp only [read_len, h]

theorem read_len_some {c : Cursor} {dst : Int} {i : Nat}
    (h : readDigits wrap ((buf.drop c.src).take c.len.toNat) 0 0 = some (dst, i)) :
    read_len wrap buf c =
      if i = 0 then .fail
      else ⟨.ok dst ⟨c.src + (i + 1), c.len - (i + 1)⟩,
        [.moved ⟨c.src + (i + 1), c.len - (i + 1)⟩,
          .used (decimal (((buf.drop c.src).take c.len.toNat).take i)) dst]⟩ := by
  simp only [read_len, h]

theorem read_len_good {c : Cursor} (hc : c.Fits buf) : Good buf c (read_len id buf c) := by
  obtain ⟨hsrc, hlen⟩ := hc
  have hbytes : ((buf.drop c.src).take c.len.toNat).length = buf.length - c.src := by
    rw [List.length_take, List.length_drop]
    omega
  cases hread : readDigits id ((buf.drop c.src).take c.len.toNat) 0 0 with
  | none =>
    rw [read_len_none hread]
    exact good_fail
  | some r =>
    obtain ⟨v, j⟩ := r
    obtain ⟨k, hj, hk, hv⟩ := readDigits_id (n := 0) hread
    have hjk : j = k := by omega
    have hfits : Cursor.Fits buf ⟨c.src + (j + 1), c.len - (j + 1)⟩ := by
      rw [hbytes] at hk
      constructor
      · show c.src + (j + 1) ≤ buf.length
        omega
      · show c.len - (j + 1) = (buf.length : Int) - (c.src + (j + 1) : Nat)
        omega
    rw [read_len_some hread]
    split_ifs
    · exact good_fail
    · refine good_ok ?_ hfits (by show c.src ≤ c.src + (j + 1); omega)
      intro e he
      rcases List.mem_cons.mp he with rfl | he
      · exact hfits
      · rw [List.mem_singleton.mp he, hjk]
        exact hv

/-- A number read without a bound is no less than zero. -/
theorem read_len_nonneg {c c' : Cursor} {v : Int} (h : (read_len id buf c).outcome = .ok v c') :
    0 ≤ v := by
  cases hread : readDigits id ((buf.drop c.src).take c.len.toNat) 0 0 with
  | none => simp [read_len_none hread, Run.fail] at h
  | some r =>
    obtain ⟨w, j⟩ := r
    obtain ⟨k, -, -, hv⟩ := readDigits_id (n := 0) hread
    rw [read_len_some hread] at h
    split_ifs at h
    · simp [Run.fail] at h
    · cases h
      rw [hv]
      omega

theorem read_string_good {c : Cursor} (hc : c.Fits buf) : Good buf c (read_string id buf c) := by
  unfold read_string
  refine (read_len_good hc).bind ?_
  intro l c' hout hfits hle
  have hpos := read_len_nonneg hout
  obtain ⟨hsrc, hlen⟩ := hfits
  split_ifs with hshort
  · omega
  · -- the copied range ends before the string does
    have hnext : Cursor.Fits buf ⟨c'.src + l.toNat, c'.len - l⟩ := by
      constructor
      · show c'.src + l.toNat ≤ buf.length
        omega
      · show c'.len - l = (buf.length : Int) - (c'.src + l.toNat : Nat)
        omega
    refine good_ok ?_ hnext (by show c.src ≤ c'.src + l.toNat; omega)
    intro e he
    rcases List.mem_cons.mp he with rfl | he
    · show 0 ≤ l ∧ (c'.src : Int) + l ≤ buf.length
      omega
    · rw [List.mem_singleton.mp he]
      exact hnext
  · exact good_fail

/-- The loop over the items, when every item is read well from where it starts. -/
theorem readItems_good {item : Cursor → Run AmArg}
    (hitem : ∀ c : Cursor, c.Fits buf → start.src ≤ c.src → Good buf c (item c))
    (cnt : Nat) {c : Cursor} (hc : c.Fits buf) (hle : start.src ≤ c.src)
    (dst : List AmArg) : Good buf c (readItems item cnt c dst) := by
  induction cnt generalizing c dst with
  | zero => exact good_ok (by simp) hc (Nat.le_refl _)
  | succ cnt ih =>
    refine (hitem c hc hle).bind ?_
    intro a c' _ hfits hle'
    exact (ih hfits (Nat.le_trans hle hle') (dst ++ [a])).of_le hle'

theorem readFields_good {item : Cursor → Run AmArg}
    (hitem : ∀ c : Cursor, c.Fits buf → start.src ≤ c.src → Good buf c (item c))
    (cnt : Nat) {c : Cursor} (hc : c.Fits buf) (hle : start.src ≤ c.src)
    (dst : List (Bytes × AmArg)) : Good buf c (readFields id buf item cnt c dst) := by
  induction cnt generalizing c dst with
  | zero => exact good_ok (by simp) hc (Nat.le_refl _)
  | succ cnt ih =>
    refine (read_string_good hc).bind ?_
    intro s c' _ hfits hle'
    refine Good.bind ((hitem c' hfits (Nat.le_trans hle hle')).of_le hle') ?_
    intro a c'' _ hfits' hle''
    exact (ih hfits' (Nat.le_trans hle hle'') (setField dst s a)).of_le hle''

theorem pastLabel_good {c : Cursor} (hc : c.Fits buf) (hlen : 1 ≤ c.len) :
    Good buf c (pastLabel c) := by
  obtain ⟨hsrc, hleft⟩ := hc
  have hnext : c.advance.Fits buf := by
    constructor
    · show c.src + 1 ≤ buf.length
      omega
    · show c.len - 1 = (buf.length : Int) - (c.src + 1 : Nat)
      omega
  refine good_ok ?_ hnext (by show c.src ≤ c.src + 1; omega)
  intro e he
  rw [List.mem_singleton.mp he]
  exact hnext

/-- Without a bound on numbers nothing bad happens, and every level reads a label. -/
theorem string2arg_good {levels : Nat} {c : Cursor} (hc : c.Fits buf)
    (hlevels : c.len ≤ levels) : Good buf c (string2arg id buf levels c) := by
  induction levels generalizing c with
  | zero =>
    have hempty : c.len < 1 := by omega
    rw [string2arg, if_pos hempty]
    exact good_fail
  | succ levels ih =>
    by_cases hempty : c.len < 1
    · rw [string2arg, if_pos hempty]
      exact good_fail
    · have hlabel := pastLabel_good hc (by omega)
      -- past the label, one level less is enough
      have hitem : ∀ c' : Cursor, c'.Fits buf → c.advance.src ≤ c'.src →
          Good buf c' (string2arg id buf levels c') := by
        intro c' hc' hle
        have hsrc : c.src + 1 ≤ c'.src := hle
        exact ih hc' (by have := hc.2; have := hc'.2; omega)
      have hadvance : ∀ a c', (pastLabel c).outcome = .ok a c' → c.advance.src ≤ c'.src := by
        intro a c' hout
        cases hout
        exact Nat.le_refl _
      rw [string2arg, if_neg hempty]
      simp only
      split_ifs
      · refine hlabel.bind ?_
        intro _ c' _ hfits hle
        exact (read_string_good hfits).map.of_le hle
      · refine hlabel.bind ?_
        intro _ c' hout hfits hle
        refine ((read_len_good hfits).of_le hle).bind ?_
        intro cnt c'' hcnt hfits' hle'
        have hmove := (read_len_good hfits).ok cnt c'' hcnt
        have hstart := Nat.le_trans (hadvance _ c' hout) hmove.2
        exact (readItems_good hitem cnt.toNat hfits' hstart []).map.of_le hle'
      · refine hlabel.bind ?_
        intro _ c' hout hfits hle
        refine ((read_len_good hfits).of_le hle).bind ?_
        intro cnt c'' hcnt hfits' hle'
        have hmove := (read_len_good hfits).ok cnt c'' hcnt
        have hstart := Nat.le_trans (hadvance _ c' hout) hmove.2
        exact (readFields_good hitem cnt.toNat hfits' hstart []).map.of_le hle'
      · exact good_fail

/-! ### Lockstep -/

/-- No number of the record is used with another value than it is written with. -/
def Exact (trace : List Event) : Prop :=
  ∀ (written : Nat) (value : Int), .used written value ∈ trace → value = written

/-- All numbers of the record are below `2 ^ 31`. -/
def Small (trace : List Event) : Prop :=
  ∀ (written : Nat) (value : Int), .used written value ∈ trace → written < 2 ^ 31

/-- The bounded run `x` and the unbounded run `y` are the same, and their numbers small,
    as soon as the one is exact or the numbers of the other are small. -/
def Agree (x y : Run α) : Prop := Exact x.trace ∨ Small y.trace → x = y ∧ Small y.trace

theorem agree_same {x : Run α}
    (h : ∀ (written : Nat) (value : Int), .used written value ∉ x.trace) :
    Agree x x := fun _ => ⟨rfl, fun written value hmem => absurd hmem (h written value)⟩

theorem trace_subset_bind (x : Run α) (f : α → Cursor → Run β) :
    ∀ e ∈ x.trace, e ∈ (x.bind f).trace := by
  intro e he
  unfold Run.bind
  cases x.outcome <;> simp [he]

theorem Agree.bind {x y : Run α} {f g : α → Cursor → Run β} (hxy : Agree x y)
    (hfg : ∀ a c, Agree (f a c) (g a c)) : Agree (x.bind f) (y.bind g) := by
  intro h
  have hfirst : Exact x.trace ∨ Small y.trace := by
    rcases h with h | h
    · exact .inl fun written value hmem => h written value (trace_subset_bind x f _ hmem)
    · exact .inr fun written value hmem => h written value (trace_subset_bind y g _ hmem)
  obtain ⟨rfl, hsmall⟩ := hxy hfirst
  unfold Run.bind at h ⊢
  cases hout : x.outcome with
  | ok a c =>
    simp only [hout] at h ⊢
    have hsecond : Exact (f a c).trace ∨ Small (g a c).trace := by
      rcases h with h | h
      · exact .inl fun written value hmem => h written value (List.mem_append_right _ hmem)
      · exact .inr fun written value hmem => h written value (List.mem_append_right _ hmem)
    obtain ⟨heq, hsmall'⟩ := hfg a c hsecond
    rw [heq]
    refine ⟨rfl, fun written value hmem => ?_⟩
    rcases List.mem_append.mp hmem with hmem | hmem
    · exact hsmall written value hmem
    · exact hsmall' written value hmem
  | failed => exact ⟨rfl, hsmall⟩
  | length_error => exact ⟨rfl, hsmall⟩
  | unfinished => exact ⟨rfl, hsmall⟩

theorem Agree.map {x y : Run α} {f : α → β} (h : Agree x y) : Agree (x.map f) (y.map f) :=
  h.bind fun _ _ => agree_same (by simp)

theorem read_len_agree (buf : Bytes) (c : Cursor) :
    Agree (read_len toInt32 buf c) (read_len id buf c) := by
  have hzero : readDigits toInt32 ((buf.drop c.src).take c.len.toNat) 0 0 = _ :=
    readDigits_toInt32 ((buf.drop c.src).take c.len.toNat) 0 0
  cases hread : readDigits id ((buf.drop c.src).take c.len.toNat) 0 0 with
  | none =>
    rw [hread] at hzero
    rw [read_len_none hzero, read_len_none hread]
    exact agree_same (by simp [Run.fail])
  | some r =>
    obtain ⟨v, j⟩ := r
    obtain ⟨k, hj, -, hv⟩ := readDigits_id (n := 0) hread
    have hjk : j = k := by omega
    rw [hread] at hzero
    rw [read_len_some hzero, read_len_some hread]
    split_ifs
    · exact agree_same (by simp [Run.fail])
    · -- the number in question
      have hv : v = decimal (((buf.drop c.src).take c.len.toNat).take j) := by
        rw [hv, hjk]
        rfl
      generalize decimal (((buf.drop c.src).take c.len.toNat).take j) = w at hv
      intro h
      have hw : w < 2 ^ 31 := by
        rcases h with h | h
        · have hexact : toInt32 v = w := h w (toInt32 v) (by simp)
          have hlt := toInt32_lt v
          omega
        · exact h w v (by simp)
      have hsame : toInt32 v = v := by rw [hv, toInt32_of_lt hw]
      rw [hsame]
      refine ⟨rfl, fun written value hmem => ?_⟩
      obtain ⟨rfl, -⟩ : written = w ∧ value = v := by simpa using hmem
      exact hw

theorem read_string_agree (buf : Bytes) (c : Cursor) :
    Agree (read_string toInt32 buf c) (read_string id buf c) := by
  refine (read_len_agree buf c).bind fun l c => ?_
  split_ifs
  · exact agree_same (by simp)
  · exact agree_same (by simp)
  · exact agree_same (by simp [Run.fail])

theorem readItems_agree {item item' : Cursor → Run AmArg}
    (hitem : ∀ c, Agree (item c) (item' c)) (cnt : Nat) (c : Cursor) (dst : List AmArg) :
    Agree (readItems item cnt c dst) (readItems item' cnt c dst) := by
  induction cnt generalizing c dst with
  | zero => exact agree_same (by simp [readItems])
  | succ cnt ih => exact (hitem c).bind fun a c => ih c (dst ++ [a])

theorem readFields_agree {item item' : Cursor → Run AmArg}
    (hitem : ∀ c, Agree (item c) (item' c)) (cnt : Nat) (c : Cursor)
    (dst : List (Bytes × AmArg)) :
    Agree (readFields toInt32 buf item cnt c dst) (readFields id buf item' cnt c dst) := by
  induction cnt generalizing c dst with
  | zero => exact agree_same (by simp [readFields])
  | succ cnt ih =>
    exact (read_string_agree buf c).bind fun s c =>
      (hitem c).bind fun a c => ih c (setField dst s a)

variable (buf) in
theorem string2arg_agree (levels : Nat) (c : Cursor) :
    Agree (string2arg toInt32 buf levels c) (string2arg id buf levels c) := by
  induction levels generalizing c with
  | zero =>
    unfold string2arg
    split_ifs
    · exact agree_same (by simp [Run.fail])
    · exact agree_same (by simp)
  | succ levels ih =>
    have hlabel : Agree (pastLabel c) (pastLabel c) := agree_same (by simp [pastLabel])
    unfold string2arg
    split_ifs
    · exact agree_same (by simp [Run.fail])
    · simp only
      split_ifs
      · exact hlabel.bind fun _ c => (read_string_agree buf c).map
      · exact hlabel.bind fun _ c => (read_len_agree buf c).bind fun cnt c =>
          (readItems_agree ih cnt.toNat c []).map
      · exact hlabel.bind fun _ c => (read_len_agree buf c).bind fun cnt c =>
          (readFields_agree ih cnt.toNat c []).map
      · exact agree_same (by simp [Run.fail])

/-! ### The decoder without a cursor -/

/-- The bytes that are left. -/
def Cursor.left (buf : Bytes) (c : Cursor) : Bytes := (buf.drop c.src).take c.len.toNat

/-- `len` does not reach past the end of the string. -/
def Cursor.Inside (buf : Bytes) (c : Cursor) : Prop :=
  0 ≤ c.len ∧ (c.src : Int) + c.len ≤ buf.length

/-- What a run gives when the record is dropped and the cursor is replaced by the bytes
    that are left. -/
def Outcome.reading (buf : Bytes) : Outcome α → Reading α
  | .ok a c => .ok a (c.left buf)
  | .failed => .failed
  | .length_error => .length_error
  | .unfinished => .failed

/-- The run stays inside and gives the reading. -/
structure Gives (buf : Bytes) (x : Run α) (r : Reading α) : Prop where
  reading : x.outcome.reading buf = r
  inside : ∀ a c, x.outcome = .ok a c → c.Inside buf

theorem gives_fail : Gives buf (Run.fail : Run α) .failed :=
  ⟨rfl, fun a c h => by simp [Run.fail] at h⟩

theorem gives_ok {a : α} {c : Cursor} {trace : List Event} (hc : c.Inside buf) :
    Gives buf ⟨.ok a c, trace⟩ (.ok a (c.left buf)) := by
  refine ⟨rfl, ?_⟩
  intro a' c' h
  cases h
  exact hc

/-- One reading after the other: both go on after a value, and else end alike. -/
theorem Gives.bind {x : Run α} {f : α → Cursor → Run β} {r : Reading α} {r' : Reading β}
    (h : Gives buf x r)
    (hok : ∀ a c, c.Inside buf → r = .ok a (c.left buf) → Gives buf (f a c) r')
    (hfailed : r = .failed → r' = .failed) (herror : r = .length_error → r' = .length_error) :
    Gives buf (x.bind f) r' := by
  obtain ⟨hreading, hinside⟩ := h
  unfold Run.bind
  cases hout : x.outcome with
  | ok a c =>
    rw [hout] at hreading
    have hnext := hok a c (hinside a c hout) hreading.symm
    exact ⟨hnext.reading, hnext.inside⟩
  | failed =>
    rw [hout] at hreading
    rw [hfailed hreading.symm]
    exact ⟨rfl, by simp⟩
  | length_error =>
    rw [hout] at hreading
    rw [herror hreading.symm]
    exact ⟨rfl, by simp⟩
  | unfinished =>
    rw [hout] at hreading
    rw [hfailed hreading.symm]
    exact ⟨rfl, by simp⟩

theorem Gives.map {x : Run α} {f : α → β} {r : Reading α} (h : Gives buf x r) :
    Gives buf (x.map f) (r.map f) := by
  refine h.bind ?_ ?_ ?_
  · rintro a c hc rfl
    exact gives_ok hc
  · rintro rfl
    rfl
  · rintro rfl
    rfl

theorem readDigits_eq (src : Bytes) (i : Nat) (dst : Int) :
    Args.readDigits src dst =
        (readDigits toInt32 src i dst).map (fun r => (r.1, src.drop (r.2 - i + 1))) ∧
      ∀ r, readDigits toInt32 src i dst = some r → i ≤ r.2 ∧ r.2 < i + src.length := by
  induction src generalizing i dst with
  | nil => exact ⟨rfl, by simp [readDigits]⟩
  | cons c src ih =>
    unfold Args.readDigits readDigits
    split_ifs
    · obtain ⟨heq, hle⟩ := ih (i + 1) (toInt32 (10 * dst + (c.toNat - '0'.toNat : Int)))
      constructor
      · rw [heq]
        cases hr : readDigits toInt32 src (i + 1)
            (toInt32 (10 * dst + (c.toNat - '0'.toNat : Int))) with
        | none => rfl
        | some r =>
          obtain ⟨v, j⟩ := r
          have hj : i + 1 ≤ j := (hle _ hr).1
          have hdrop : j - i + 1 = (j - (i + 1) + 1) + 1 := by omega
          rw [Option.map_some, Option.map_some, hdrop, List.drop_succ_cons]
      · intro r hr
        have := hle r hr
        rw [List.length_cons]
        omega
    · refine ⟨by simp, ?_⟩
      intro r hr
      cases hr
      simp
    · exact ⟨rfl, by simp⟩

theorem length_left {c : Cursor} (hc : c.Inside buf) : (c.left buf).length = c.len.toNat := by
  obtain ⟨hpos, hend⟩ := hc
  rw [Cursor.left, List.length_take, List.length_drop]
  omega

theorem left_drop {c : Cursor} (k : Nat) (l : Int) (hk : l = k) :
    Cursor.left buf ⟨c.src + k, c.len - l⟩ = (c.left buf).drop k := by
  rw [Cursor.left, Cursor.left, List.drop_take, List.drop_drop]
  congr 1
  simp only
  omega

theorem inside_move {c : Cursor} (hc : c.Inside buf) {k : Nat} {l : Int} (hl : l = k)
    (hk : l ≤ c.len) : Cursor.Inside buf ⟨c.src + k, c.len - l⟩ := by
  obtain ⟨hpos, hend⟩ := hc
  constructor
  · show 0 ≤ c.len - l
    omega
  · show ((c.src + k : Nat) : Int) + (c.len - l) ≤ buf.length
    omega

/-- `read_len` as a reading. -/
def lenReading (src : Bytes) : Reading Int :=
  match Args.read_len src with
  | none => .failed
  | some (l, src) => .ok l src

theorem read_len_gives {c : Cursor} (hc : c.Inside buf) :
    Gives buf (read_len toInt32 buf c) (lenReading (c.left buf)) := by
  obtain ⟨heq, hle⟩ := readDigits_eq (c.left buf) 0 0
  cases hread : readDigits toInt32 (c.left buf) 0 0 with
  | none =>
    have hnone : Args.read_len (c.left buf) = none := by
      rw [Args.read_len, heq, hread]
      simp
    rw [read_len_none hread, lenReading, hnone]
    exact gives_fail
  | some r =>
    obtain ⟨dst, i⟩ := r
    have hi := (hle _ hread).2
    rw [length_left hc] at hi
    rw [read_len_some hread]
    split_ifs with hzero
    · -- the separator comes first
      have hhead : (c.left buf).head? = some '/'.toUInt8 := by
        cases hleft : c.left buf with
        | nil => simp [hleft, readDigits] at hread
        | cons b src =>
          rw [hleft, readDigits] at hread
          split_ifs at hread with hdigit hsep
          · have hmore := ((readDigits_eq src 1 _).2 _ hread).1
            simp only [hzero] at hmore
            omega
          · rw [hsep]
            rfl
      rw [lenReading, Args.read_len, if_pos hhead]
      exact gives_fail
    · have hhead : (c.left buf).head? ≠ some '/'.toUInt8 := by
        intro hhead
        obtain ⟨src, hleft⟩ := List.head?_eq_some_iff.mp hhead
        rw [hleft] at hread
        have hdigit : ¬ ('0'.toUInt8 ≤ '/'.toUInt8 ∧ '/'.toUInt8 ≤ '9'.toUInt8) := by decide
        rw [readDigits, if_neg hdigit, if_pos rfl] at hread
        cases hread
        exact hzero rfl
      have hlen : lenReading (c.left buf) = .ok dst ((c.left buf).drop (i + 1)) := by
        rw [lenReading, Args.read_len, if_neg hhead, heq, hread]
        rfl
      rw [hlen, ← left_drop (c := c) (i + 1) (i + 1 : Int) (by omega)]
      exact gives_ok (inside_move hc (by omega) (by simp only at hi; omega))

/-- What follows a number that has been read. -/
theorem read_len_bind_gives {c : Cursor} (hc : c.Inside buf) {f : Int → Cursor → Run β}
    {r : Reading β} (hnone : Args.read_len (c.left buf) = none → r = .failed)
    (hsome : ∀ l c', c'.Inside buf → Args.read_len (c.left buf) = some (l, c'.left buf) →
      Gives buf (f l c') r) : Gives buf ((read_len toInt32 buf c).bind f) r := by
  have hlen := read_len_gives hc
  unfold lenReading at hlen
  cases hread : Args.read_len (c.left buf) with
  | none =>
    rw [hread] at hlen
    exact hlen.bind (fun _ _ _ h => by cases h) (fun _ => hnone hread) (fun h => by cases h)
  | some p =>
    obtain ⟨l, src⟩ := p
    rw [hread] at hlen
    refine hlen.bind ?_ (fun h => by cases h) (fun h => by cases h)
    intro l' c' hc' h
    obtain ⟨rfl, rfl⟩ : l = l' ∧ src = c'.left buf := by simpa using h
    exact hsome l c' hc' hread

theorem read_string_gives {c : Cursor} (hc : c.Inside buf) :
    Gives buf (read_string toInt32 buf c) (Args.read_string (c.left buf)) := by
  refine read_len_bind_gives hc ?_ ?_
  · intro hread
    rw [Args.read_string, hread]
  · intro l c' hc' hread
    have hleft : ((c'.left buf).length : Int) = c'.len := by
      have := hc'.1
      rw [length_left hc']
      omega
    rw [Args.read_string, hread]
    simp only [hleft]
    split_ifs with hshort hneg
    · exact ⟨rfl, by simp⟩
    · have htake : (buf.drop c'.src).take l.toNat = (c'.left buf).take l.toNat := by
        rw [Cursor.left, List.take_take]
        congr 1
        omega
      rw [htake, ← left_drop (c := c') l.toNat l (by omega)]
      exact gives_ok (inside_move hc' (by omega) hshort)
    · exact gives_fail

theorem readItems_gives {item : Cursor → Run AmArg} {item' : Bytes → Reading AmArg}
    (hitem : ∀ c : Cursor, c.Inside buf → Gives buf (item c) (item' (c.left buf)))
    (cnt : Nat) {c : Cursor} (hc : c.Inside buf) (dst : List AmArg) :
    Gives buf (readItems item cnt c dst) (Args.readItems item' cnt (c.left buf) dst) := by
  induction cnt generalizing c dst with
  | zero => exact gives_ok hc
  | succ cnt ih =>
    unfold readItems Args.readItems
    refine (hitem c hc).bind ?_ ?_ ?_
    · intro a c' hc' h
      rw [h]
      exact ih hc' (dst ++ [a])
    · intro h
      rw [h]
    · intro h
      rw [h]

theorem readFields_gives {item : Cursor → Run AmArg} {item' : Bytes → Reading AmArg}
    (hitem : ∀ c : Cursor, c.Inside buf → Gives buf (item c) (item' (c.left buf)))
    (cnt : Nat) {c : Cursor} (hc : c.Inside buf) (dst : List (Bytes × AmArg)) :
    Gives buf (readFields toInt32 buf item cnt c dst)
      (Args.readFields item' cnt (c.left buf) dst) := by
  induction cnt generalizing c dst with
  | zero => exact gives_ok hc
  | succ cnt ih =>
    unfold readFields Args.readFields
    refine (read_string_gives hc).bind ?_ ?_ ?_
    · intro s c' hc' h
      rw [h]
      refine (hitem c' hc').bind ?_ ?_ ?_
      · intro a c'' hc'' h'
        simp only [h']
        exact ih hc'' (setField dst s a)
      · intro h'
        simp only [h']
      · intro h'
        simp only [h']
    · intro h
      rw [h]
    · intro h
      rw [h]

/-- The label is the first of the bytes that are left. -/
theorem left_eq_cons {c : Cursor} (hc : c.Inside buf) (hone : 1 ≤ c.len) :
    c.left buf = buf.getD c.src 0 :: c.advance.left buf := by
  have hsrc : c.src < buf.length := by
    have := hc.2
    omega
  have htail : c.advance.left buf = (c.left buf).drop 1 := left_drop 1 1 rfl
  have hhead : (c.left buf).head? = some (buf.getD c.src 0) := by
    rw [Cursor.left, List.head?_take, if_neg (by omega), List.head?_drop,
      List.getElem?_eq_getElem hsrc, List.getD_eq_getElem?_getD, List.getElem?_eq_getElem hsrc]
    rfl
  obtain ⟨rest, hcons⟩ := List.head?_eq_some_iff.mp hhead
  rw [htail, hcons]
  rfl

theorem pastLabel_bind_gives {c : Cursor} {f : Unit → Cursor → Run β} {r : Reading β}
    (h : Gives buf (f () c.advance) r) : Gives buf ((pastLabel c).bind f) r :=
  ⟨h.reading, h.inside⟩

/-- The decoder with a cursor is the one of `Yeti.Args.Conversion`. -/
theorem string2arg_gives (levels : Nat) {c : Cursor} (hc : c.Inside buf) :
    Gives buf (string2arg toInt32 buf levels c) (Args.string2arg levels (c.left buf)) := by
  induction levels generalizing c with
  | zero =>
    unfold string2arg
    split_ifs
    · exact gives_fail
    · exact ⟨rfl, by simp⟩
  | succ levels ih =>
    unfold string2arg
    have hlength := length_left hc
    split_ifs with hempty
    · have hnil : c.left buf = [] := List.length_eq_zero_iff.mp (by omega)
      rw [hnil]
      exact gives_fail
    · have hone : 1 ≤ c.len := by omega
      have hadvance : c.advance.Inside buf := inside_move hc (k := 1) rfl hone
      rw [left_eq_cons hc hone, Args.string2arg]
      simp only
      split_ifs
      · exact pastLabel_bind_gives (read_string_gives hadvance).map
      · refine pastLabel_bind_gives (read_len_bind_gives hadvance ?_ ?_)
        · intro hread
          rw [hread]
        · -- the elements are one level down
          intro cnt c' hc' hread
          rw [hread]
          exact (readItems_gives (fun c hc => ih hc) cnt.toNat hc' []).map
      · refine pastLabel_bind_gives (read_len_bind_gives hadvance ?_ ?_)
        · intro hread
          rw [hread]
        · intro cnt c' hc' hread
          rw [hread]
          exact (readFields_gives (fun c hc => ih hc) cnt.toNat hc' []).map
      · exact gives_fail

/-! ### `username2arg` -/

/-- Complete runs of the unescaping loop, round by round. -/
inductive UnescapeRun (hex : Hex) : Bytes → Option Nat → Option Bytes → Prop where
  | done {encoded : Bytes} : UnescapeRun hex encoded none (some encoded)
  | short {encoded : Bytes} {pos : Nat} (h : encoded.length ≤ pos + 2) :
      UnescapeRun hex encoded (some pos) none
  | noHex {encoded : Bytes} {pos : Nat} (h : ¬ encoded.length ≤ pos + 2)
      (hhex : hex.reverse_hex2int
        ((encoded.drop (pos + 2)).take 1 ++ (encoded.drop (pos + 1)).take 1) = none) :
      UnescapeRun hex encoded (some pos) none
  | replaced {encoded : Bytes} {pos c : Nat} {r : Option Bytes} (h : ¬ encoded.length ≤ pos + 2)
      (hhex : hex.reverse_hex2int
        ((encoded.drop (pos + 2)).take 1 ++ (encoded.drop (pos + 1)).take 1) = some c)
      (hrest : UnescapeRun hex (encoded.take pos ++ UInt8.ofNat c :: encoded.drop (pos + 3))
        (findFrom (encoded.take pos ++ UInt8.ofNat c :: encoded.drop (pos + 3)) ESCAPE_CHAR
          (pos + 1)) r) :
      UnescapeRun hex encoded (some pos) r

theorem findFrom_lt {s : Bytes} {c : UInt8} {from_ pos : Nat} (h : findFrom s c from_ = some pos) :
    pos < s.length := by
  unfold findFrom at h
  obtain ⟨i, hi, rfl⟩ := Option.map_eq_some_iff.mp h
  have hlt := (List.findIdx?_eq_some_iff_findIdx_eq.mp hi).1
  rw [List.length_drop] at hlt
  omega

/-- Every round takes two bytes away, so the rounds are enough. -/
theorem unescapeLoop_run (hex : Hex) {rounds : Nat} {encoded : Bytes} {pos : Option Nat}
    (hpos : ∀ p, pos = some p → p < encoded.length) (hrounds : encoded.length ≤ rounds) :
    UnescapeRun hex encoded pos (unescapeLoop hex rounds encoded pos) := by
  induction rounds generalizing encoded pos with
  | zero =>
    cases pos with
    | none => exact .done
    | some p =>
      have := hpos p rfl
      omega
  | succ rounds ih =>
    cases pos with
    | none => exact .done
    | some p =>
      rw [unescapeLoop]
      split_ifs with hshort
      · exact .short hshort
      · cases hhex : hex.reverse_hex2int
            ((encoded.drop (p + 2)).take 1 ++ (encoded.drop (p + 1)).take 1) with
        | none => exact .noHex hshort hhex
        | some c =>
          refine .replaced hshort hhex (ih (fun q hq => findFrom_lt hq) ?_)
          simp only [List.length_append, List.length_take, List.length_cons, List.length_drop]
          omega

/-- The string that is decoded, `none` when an escape is malformed. -/
def unescaped (hex : Hex) (src : Bytes) : Option Bytes :=
  unescapeLoop hex src.length src (findFrom src ESCAPE_CHAR 0)

theorem toInt32_le (n : Nat) : toInt32 n ≤ n := by
  by_cases h : n < 2 ^ 31
  · exact Int.le_of_eq (toInt32_of_lt h)
  · have := toInt32_lt n
    omega

/-- The decoder from the first byte on. -/
theorem string2arg_from_start (encoded : Bytes) {len : Int} (hle : len ≤ encoded.length) :
    (string2arg toInt32 encoded len.toNat ⟨0, len⟩).outcome.reading encoded =
      Args.string2arg (encoded.take len.toNat).length (encoded.take len.toNat) := by
  have hlength : (encoded.take len.toNat).length = len.toNat := by
    rw [List.length_take]
    omega
  rw [hlength]
  by_cases hneg : len < 0
  · have hzero : len.toNat = 0 := by omega
    have hempty : len < 1 := by omega
    rw [hzero, string2arg, if_pos hempty, Args.string2arg]
    rfl
  · have hinside : Cursor.Inside encoded ⟨0, len⟩ := ⟨by simpa using hneg, by simpa using hle⟩
    exact (string2arg_gives _ hinside).reading

theorem decode_outcome (encoded : Bytes) :
    (decode wrap encoded).outcome =
      (string2arg wrap encoded (wrap encoded.length).toNat ⟨0, wrap encoded.length⟩).outcome :=
  rfl

/-- `username2arg` decodes what is unescaped. -/
theorem username2arg_eq (hex : Hex) (src : Bytes) :
    username2arg hex src = (unescaped hex src).elim .failed fun encoded =>
      (decode toInt32 encoded).outcome.reading encoded := by
  unfold username2arg unescaped
  cases unescapeLoop hex src.length src (findFrom src ESCAPE_CHAR 0) with
  | none => rfl
  | some encoded =>
    have hstart := string2arg_from_start encoded (toInt32_le encoded.length)
    rw [Option.elim_some, decode_outcome, hstart]

/-- `username2arg` comes to an end, with every number as it is written, every copy within
    the string, `len` the number of bytes left, and without an exception. -/
structure SafeDecoding (hex : Hex) (src : Bytes) : Prop where
  unescape_ends : UnescapeRun hex src (findFrom src ESCAPE_CHAR 0) (unescaped hex src)
  decode_ends : ∀ encoded, unescaped hex src = some encoded →
    (decode toInt32 encoded).outcome ≠ .unfinished
  record : ∀ encoded, unescaped hex src = some encoded →
    ∀ e ∈ (decode toInt32 encoded).trace, e.Good encoded
  no_exception : ∀ encoded, unescaped hex src = some encoded →
    (decode toInt32 encoded).outcome ≠ .length_error

/-- The string has less than `2 ^ 31` bytes, and so do the numbers that are read from it. -/
def FitsInt (encoded : Bytes) : Prop :=
  encoded.length < 2 ^ 31 ∧ ∀ n ∈ lengths encoded, n < 2 ^ 31

theorem small_iff (encoded : Bytes) :
    Small (decode id encoded).trace ↔ ∀ n ∈ lengths encoded, n < 2 ^ 31 := by
  unfold Small lengths
  constructor
  · intro h n hn
    obtain ⟨e, he, hen⟩ := List.mem_filterMap.mp hn
    cases e with
    | used written value =>
      cases hen
      exact h _ value he
    | moved c => cases hen
    | copied src l => cases hen
  · intro h written value hmem
    exact h written (List.mem_filterMap.mpr ⟨.used written value, hmem, rfl⟩)

theorem fits_zero (encoded : Bytes) : Cursor.Fits encoded ⟨0, encoded.length⟩ :=
  ⟨Nat.zero_le _, by simp⟩

theorem decode_id (encoded : Bytes) :
    decode id encoded =
      ⟨(string2arg id encoded (encoded.length : Int).toNat ⟨0, encoded.length⟩).outcome,
        .moved ⟨0, encoded.length⟩ ::
          (string2arg id encoded (encoded.length : Int).toNat ⟨0, encoded.length⟩).trace⟩ := by
  simp only [decode, id]

/-- The two decoders on a string whose length is an `int`. -/
theorem decode_agree {encoded : Bytes} (h : encoded.length < 2 ^ 31) :
    Agree (decode toInt32 encoded) (decode id encoded) := by
  have hagree := string2arg_agree encoded (encoded.length : Int).toNat ⟨0, encoded.length⟩
  unfold decode
  rw [toInt32_of_lt h]
  intro hor
  have hinner :
      Exact (string2arg toInt32 encoded (encoded.length : Int).toNat ⟨0, encoded.length⟩).trace ∨
      Small (string2arg id encoded (encoded.length : Int).toNat ⟨0, encoded.length⟩).trace := by
    rcases hor with hor | hor
    · exact .inl fun written value hmem => hor written value (List.mem_cons_of_mem _ hmem)
    · exact .inr fun written value hmem => hor written value (List.mem_cons_of_mem _ hmem)
  obtain ⟨heq, hsmall⟩ := hagree hinner
  simp only [id]
  rw [heq]
  refine ⟨rfl, fun written value hmem => ?_⟩
  rcases List.mem_cons.mp hmem with hmem | hmem
  · cases hmem
  · exact hsmall written value hmem

/-- **Decoder safety**: decoding is safe exactly when no length overflows an `int`. -/
theorem username2arg_safe_iff (hex : Hex) (src : Bytes) :
    SafeDecoding hex src ↔ ∀ encoded, unescaped hex src = some encoded → FitsInt encoded := by
  have hunescape : UnescapeRun hex src (findFrom src ESCAPE_CHAR 0) (unescaped hex src) :=
    unescapeLoop_run hex (fun p hp => findFrom_lt hp) (Nat.le_refl _)
  constructor
  · intro hsafe encoded hencoded
    have hrecord := hsafe.record encoded hencoded
    have hstart : Cursor.Fits encoded ⟨0, toInt32 encoded.length⟩ :=
      hrecord _ List.mem_cons_self
    have hlen : encoded.length < 2 ^ 31 := by
      have hbound := toInt32_lt encoded.length
      have := hstart.2
      simp only at this
      omega
    have hexact : Exact (decode toInt32 encoded).trace := fun written value hmem =>
      hrecord _ hmem
    exact ⟨hlen, (small_iff encoded).mp (decode_agree hlen (.inl hexact)).2⟩
  · intro hfits
    have hrun : ∀ encoded, unescaped hex src = some encoded →
        decode toInt32 encoded = decode id encoded ∧
          Good encoded ⟨0, encoded.length⟩
            (string2arg id encoded (encoded.length : Int).toNat ⟨0, encoded.length⟩) := by
      intro encoded hencoded
      obtain ⟨hlen, hsmall⟩ := hfits encoded hencoded
      exact ⟨(decode_agree hlen (.inr ((small_iff encoded).mpr hsmall))).1,
        string2arg_good (fits_zero encoded) (Int.self_le_toNat _)⟩
    refine ⟨hunescape, ?_, ?_, ?_⟩
    · intro encoded hencoded
      obtain ⟨heq, hgood⟩ := hrun encoded hencoded
      rw [heq, decode_id]
      exact hgood.finished
    · intro encoded hencoded e he
      obtain ⟨heq, hgood⟩ := hrun encoded hencoded
      rw [heq, decode_id] at he
      rcases List.mem_cons.mp he with rfl | he
      · exact fits_zero encoded
      · exact hgood.trace e he
    · intro encoded hencoded
      obtain ⟨heq, hgood⟩ := hrun encoded hencoded
      rw [heq, decode_id]
      exact hgood.no_error

/-- A length of `2 ^ 32 - 1` is taken for `-1`, and the copy throws. -/
theorem not_safe_huge_length :
    ¬ ∀ (hex : Hex) (src : Bytes), SafeDecoding hex src := by
  intro hall
  have hsafe := hall ⟨fun _ => [], fun _ => none⟩ ("s4294967295/".toList.map Char.toUInt8)
  have hthrown : (decode toInt32 ("s4294967295/".toList.map Char.toUInt8)).outcome =
      .length_error := rfl
  exact hsafe.no_exception _ rfl hthrown

/-- An array of `2 ^ 32` elements is taken for an empty one. -/
example : (decode toInt32 ("a4294967296/".toList.map Char.toUInt8)).outcome =
    .ok (.array []) ⟨12, 0⟩ := rfl

end Yeti.Args.Decoding
