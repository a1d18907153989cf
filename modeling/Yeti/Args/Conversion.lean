import Mathlib.Algebra.Group.Nat.Defs
import Mathlib.Data.List.Basic

/-! # Arguments in user names

    Model of `arg_conversion.cpp`: a value is written with lengths in front of its parts,
    and the result is escaped so that it can stand in the user part of a SIP URI.
    Strings are byte lists.  `char2hex` and `reverse_hex2int` belong to the core and are
    parameters.
-/

namespace Yeti.Args

/-- The bytes of a `std::string`. -/
abbrev Bytes := List UInt8

/-! ### Values -/

/-- `class AmArg`.  A struct is a map, its fields stand in the order of their keys; `other`
    are the values of all other types. -/
inductive AmArg where
  | cstr (s : Bytes)
  | array (items : List AmArg)
  | struct (fields : List (Bytes × AmArg))
  | other (type : Nat)

mutual

/-- Built from strings without NUL, arrays and structs, which are sorted by key. -/
def AmArg.Ok : AmArg → Prop
  | .cstr s => 0 ∉ s
  | .array items => AllOk items
  | .struct fields => (fields.map Prod.fst).Pairwise (· < ·) ∧ FieldsOk fields
  | .other _ => False

def AllOk : List AmArg → Prop
  | [] => True
  | a :: items => a.Ok ∧ AllOk items

def FieldsOk : List (Bytes × AmArg) → Prop
  | [] => True
  | (_, a) :: fields => a.Ok ∧ FieldsOk fields

end

/-- `dst[key] = value` for a map of fields. -/
def setField (fields : List (Bytes × AmArg)) (key : Bytes) (value : AmArg) :
    List (Bytes × AmArg) :=
  match fields with
  | [] => [(key, value)]
  | (key', value') :: fields =>
    if key < key' then (key, value) :: (key', value') :: fields
    else if key' < key then (key', value') :: setField fields key value
    else (key, value) :: fields

/-! ### `arg2string` -/

def CSTR_LABEL : UInt8 := 's'.toUInt8
def ARRAY_LABEL : UInt8 := 'a'.toUInt8
def STRUCT_LABEL : UInt8 := 'x'.toUInt8

/-- `sprintf(tmp, "%zd/", n)`. -/
def lengthPrefix (n : Nat) : Bytes :=
  (Nat.toDigits 10 n).map Char.toUInt8 ++ ['/'.toUInt8]

mutual

/-- `arg2string`. -/
def arg2string : AmArg → Except String Bytes
  | .cstr s => .ok (CSTR_LABEL :: lengthPrefix s.length ++ s)
  | .array items => do
    let s ← items2string items
    return ARRAY_LABEL :: lengthPrefix items.length ++ s
  | .struct fields => do
    let s ← fields2string fields
    return STRUCT_LABEL :: lengthPrefix fields.length ++ s
  | .other _ => .error "arg2string not fully implenmented!"

/-- The loop over the items of an array. -/
def items2string : List AmArg → Except String Bytes
  | [] => return []
  | a :: items => do
    let s ← arg2string a
    let rest ← items2string items
    return s ++ rest

/-- The loop over the fields of a struct. -/
def fields2string : List (Bytes × AmArg) → Except String Bytes
  | [] => return []
  | (key, a) :: fields => do
    let s ← arg2string a
    let rest ← fields2string fields
    return lengthPrefix key.length ++ key ++ s ++ rest

end

/-! ### `string2arg` -/

/-- How a reading function ends: with a value and the bytes that are left, with `false`, or
    with an exception of the string class. -/
inductive Reading (α : Type) where
  | ok (a : α) (rest : Bytes)
  | failed
  | length_error
  deriving Repr

/-- Conversion to a 32-bit `int`. -/
def toInt32 (n : Int) : Int := n.bmod (2 ^ 32)

theorem toInt32_of_lt {n : Nat} (h : n < 2 ^ 31) : toInt32 n = n := by
  unfold toInt32
  apply Int.bmod_eq_of_le_mul_two
  · omega
  · omega

/-- The loop of `read_len`: `none` where the separator is missing. -/
def readDigits : Bytes → Int → Option (Int × Bytes)
  | [], _ => none
  | c :: src, dst =>
    if '0'.toUInt8 ≤ c ∧ c ≤ '9'.toUInt8 then
      readDigits src (toInt32 (10 * dst + (c.toNat - '0'.toNat : Int)))
    else if c = '/'.toUInt8 then some (dst, src)
    else none

/-- `read_len`. -/
def read_len (src : Bytes) : Option (Int × Bytes) :=
  if src.head? = some '/'.toUInt8 then none else readDigits src 0

/-- `read_string`.  A negative length is converted to a huge `size_t`. -/
def read_string (src : Bytes) : Reading Bytes :=
  match read_len src with
  | none => .failed
  | some (l, src) =>
    if l ≤ src.length then
      if l < 0 then .length_error else .ok (src.take l.toNat) (src.drop l.toNat)
    else .failed

/-- `for (int i = 0; i < cnt; i++)` over the items of an array. -/
def readItems (item : Bytes → Reading AmArg) : Nat → Bytes → List AmArg → Reading (List AmArg)
  | 0, src, dst => .ok dst src
  | cnt + 1, src, dst =>
    match item src with
    | .failed => .failed
    | .length_error => .length_error
    | .ok a src => readItems item cnt src (dst ++ [a])

/-- The same over the fields of a struct. -/
def readFields (item : Bytes → Reading AmArg) :
    Nat → Bytes → List (Bytes × AmArg) → Reading (List (Bytes × AmArg))
  | 0, src, dst => .ok dst src
  | cnt + 1, src, dst =>
    match read_string src with
    | .failed => .failed
    | .length_error => .length_error
    | .ok key src =>
      match item src with
      | .failed => .failed
      | .length_error => .length_error
      | .ok a src => readFields item cnt src (setField dst key a)

def Reading.map {α β : Type} (f : α → β) : Reading α → Reading β
  | .ok a rest => .ok (f a) rest
  | .failed => .failed
  | .length_error => .length_error

/-- `dst = s`: a value holds a C string, which ends at the first NUL. -/
def toCStr (s : Bytes) : AmArg := .cstr (s.takeWhile (· ≠ 0))

/-- `string2arg` into a new value.  Every level reads a label, so the number of levels is
    bounded by the number of bytes. -/
def string2arg : Nat → Bytes → Reading AmArg
  | 0, _ => .failed
  | _ + 1, [] => .failed
  | levels + 1, label :: src =>
    if label = CSTR_LABEL then (read_string src).map toCStr
    else if label = ARRAY_LABEL then
      match read_len src with
      | none => .failed
      | some (cnt, src) => (readItems (string2arg levels) cnt.toNat src []).map .array
    else if label = STRUCT_LABEL then
      match read_len src with
      | none => .failed
      | some (cnt, src) => (readFields (string2arg levels) cnt.toNat src []).map .struct
    else .failed

/-! ### Escaping -/

/-- The conversions of the core. -/
structure Hex where
  char2hex : UInt8 → Bytes
  /-- `none` where the conversion reports an error -/
  reverse_hex2int : Bytes → Option Nat

def ESCAPE_CHAR : UInt8 := '?'.toUInt8

def allowed : Bytes :=
  ("abcdefghijklmnopqrstuvwxyz" ++ "ABCDEFGHIJKLMNOPQRSTUVWXYZ" ++ "0123456789" ++
    "-_.!~*'" ++ "&=+$,;/").toList.map Char.toUInt8

/-- `strchr(s, c)`, which also finds the NUL at the end of the string. -/
def strchr (s : Bytes) (c : UInt8) : Bool := (s ++ [0]).contains c

/-- The loop body of `arg2username`. -/
def escape (hex : Hex) (c : UInt8) : Bytes :=
  if strchr allowed c then [c] else ESCAPE_CHAR :: hex.char2hex c

/-- `arg2username`. -/
def arg2username (hex : Hex) (a : AmArg) : Except String Bytes :=
  (arg2string a).map fun encoded => encoded.flatMap (escape hex)

/-- `s.find(c, pos)`. -/
def findFrom (s : Bytes) (c : UInt8) (pos : Nat) : Option Nat :=
  ((s.drop pos).findIdx? (· = c)).map (pos + ·)

/-- The loop of `username2arg`, which replaces escapes in place: `none` where it returns
    `false`.  Every round takes two bytes away, so the length bounds their number. -/
def unescapeLoop (hex : Hex) : Nat → Bytes → Option Nat → Option Bytes
  | _, encoded, none => some encoded
  | 0, _, some _ => none
  | rounds + 1, encoded, some pos =>
    if encoded.length ≤ pos + 2 then none
    else
      match hex.reverse_hex2int ((encoded.drop (pos + 2)).take 1 ++ (encoded.drop (pos + 1)).take 1) with
      | none => none
      | some c =>
        let encoded := encoded.take pos ++ UInt8.ofNat c :: encoded.drop (pos + 3)
        unescapeLoop hex rounds encoded (findFrom encoded ESCAPE_CHAR (pos + 1))

/-- `username2arg` into a new value.  The length is stored in an `int`. -/
def username2arg (hex : Hex) (src : Bytes) : Reading AmArg :=
  match unescapeLoop hex src.length src (findFrom src ESCAPE_CHAR 0) with
  | none => .failed
  | some encoded =>
    let s := encoded.take (toInt32 encoded.length).toNat
    string2arg s.length s

end Yeti.Args
