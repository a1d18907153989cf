import Mathlib.Analysis.SpecialFunctions.Log.Base
import Mathlib.Data.Finset.Sort
import Yeti.Framework.Decimal
import Yeti.Framework.Resp

/-! # Requests for the addresses of users

    `resolve_aors` and `rpc_resolve_aors_blocking` write the same command by hand: the
    script, the number of the ids and the ids, each under a length that `len_in_chars`
    computes from the logarithm and not from the text.

    The logarithm of a positive number gives the number of its digits.  That of a
    negative number does not exist, and the sign is not counted either, so a negative
    id gets a length that need not be that of its text.
-/

namespace Yeti.Registrar

open Decimal

/-! ### Lengths -/

/-- `castLog10 s` stands for `static_cast<unsigned int>(log10(s) + 1)`. -/
def len_in_chars (castLog10 : ℤ → ℕ) (s : ℤ) : ℕ := if s = 0 then 1 else castLog10 s

/-- The logarithm of a positive number is exact.  Of a negative number `log10` gives no
    number, and what its conversion gives is undefined. -/
def ExactLog10 (castLog10 : ℤ → ℕ) : Prop :=
  ∀ s : ℤ, 0 < s → castLog10 s = ⌊Real.logb 10 s + 1⌋₊

/-! ### Commands -/

/-- The text of the stream. -/
def aorCommand (castLog10 : ℤ → ℕ) (hash : List Char) (ids : List ℤ) : List Char :=
  '*' :: Nat.toDigits 10 (ids.length + 3) ++ Resp.crlf ++
    "$7\r\nEVALSHA\r\n$40\r\n".toList ++ hash ++ Resp.crlf ++
    -- args count
    '$' :: Nat.toDigits 10 (len_in_chars castLog10 ids.length) ++ Resp.crlf ++
    Nat.toDigits 10 ids.length ++ Resp.crlf ++
    -- args
    ids.flatMap fun id =>
      '$' :: Nat.toDigits 10 (len_in_chars castLog10 id) ++ Resp.crlf ++ formatInt id ++ Resp.crlf

/-- What a call hands over to `postRedisRequest` and what it throws. -/
structure AorCall where
  command : Option (List Char)
  thrown : Option (ℕ × String)
  deriving DecidableEq, Repr

/-- The set is written in ascending order. -/
def resolve_aors (castLog10 : ℤ → ℕ) (hash : List Char) (posted : Bool) (aor_ids : Finset ℤ) :
    AorCall :=
  if hash = [] then { command := none, thrown := some (500, "Server Internal Error") }
  else
    { command := some (aorCommand castLog10 hash aor_ids.sort)
      thrown := if posted then none else some (500, "Server Internal Error") }

def rpc_resolve_aors_blocking (castLog10 : ℤ → ℕ) (hash : List Char) (posted : Bool)
    (arg : List ℤ) : AorCall :=
  if hash = [] then { command := none, thrown := some (500, "registrar is not enabled") }
  else
    { command := some (aorCommand castLog10 hash arg)
      thrown :=
        if posted then none
        else some (500, "failed to post yeti_rpc_aor_lookup request") }

/-- The strings the command stands for. -/
def aorArgs (hash : List Char) (ids : List ℤ) : List (List Char) :=
  "EVALSHA".toList :: hash :: Nat.toDigits 10 ids.length :: ids.map formatInt

/-- The call hands over a command, and the whole text of it is an array of `args`. -/
def AorCall.Decodes (call : AorCall) (args : List (List Char)) : Prop :=
  call.command.bind Resp.decode = some args

/-! ### Lengths of the texts -/

/-- The logarithm gives the number of the digits. -/
theorem floor_logb (n : ℕ) (h : 0 < n) : ⌊Real.logb 10 n + 1⌋₊ = Nat.log 10 n + 1 := by
  have hnonneg : 0 ≤ Real.logb 10 n :=
    Real.logb_nonneg (by norm_num) (Nat.one_le_cast.mpr h)
  have hfloor : ⌊Real.logb 10 n⌋₊ = Nat.log 10 n := by
    exact_mod_cast Real.natFloor_logb_natCast 10 n
  rw [Nat.floor_add_one hnonneg, hfloor]

variable {castLog10 : ℤ → ℕ} {hash : List Char}

/-- A number that is not negative has the announced length. -/
theorem len_in_chars_natCast (hexact : ExactLog10 castLog10) (n : ℕ) :
    len_in_chars castLog10 n = (Nat.toDigits 10 n).length := by
  unfold len_in_chars
  rw [length_toDigits]
  rcases Nat.eq_zero_or_pos n with hzero | hpos
  · rw [if_pos (by exact_mod_cast hzero), hzero]
    rfl
  · rw [if_neg (by omega), hexact n (by exact_mod_cast hpos), ← floor_logb n hpos]
    rfl

/-- A negative number has it only if the conversion happens to give it. -/
theorem len_in_chars_eq_iff (hexact : ExactLog10 castLog10) (id : ℤ) :
    len_in_chars castLog10 id = (formatInt id).length ↔
      0 ≤ id ∨ castLog10 id = (formatInt id).length := by
  rcases le_or_gt 0 id with hid | hid
  · obtain ⟨n, hn⟩ := Int.eq_ofNat_of_zero_le hid
    have hlength : len_in_chars castLog10 id = (formatInt id).length := by
      rw [hn]
      exact len_in_chars_natCast hexact n
    exact iff_of_true hlength (.inl hid)
  · rw [len_in_chars, if_neg hid.ne]
    exact ⟨.inr, fun h => h.resolve_left (not_le.mpr hid)⟩

/-! ### Texts of the commands -/

/-- The strings with their announced lengths. -/
def aorBulks (castLog10 : ℤ → ℕ) (hash : List Char) (ids : List ℤ) : List (ℕ × List Char) :=
  (7, "EVALSHA".toList) :: (40, hash) ::
    (len_in_chars castLog10 ids.length, Nat.toDigits 10 ids.length) ::
    ids.map fun id => (len_in_chars castLog10 id, formatInt id)

theorem aorCommand_eq (castLog10 : ℤ → ℕ) (hash : List Char) (ids : List ℤ) :
    aorCommand castLog10 hash ids =
      Resp.array (ids.length + 3) (aorBulks castLog10 hash ids) := by
  have hids : (ids.flatMap fun id => '$' :: Nat.toDigits 10 (len_in_chars castLog10 id) ++
        Resp.crlf ++ formatInt id ++ Resp.crlf) =
      (ids.map fun id => (len_in_chars castLog10 id, formatInt id)).flatMap
        fun b => Resp.bulk b.1 b.2 := by
    rw [List.flatMap_map]
    rfl
  have hscript : "$7\r\nEVALSHA\r\n$40\r\n".toList =
      Resp.bulk 7 "EVALSHA".toList ++ Resp.header '$' 40 := by decide
  unfold aorCommand Resp.array aorBulks
  rw [hids, hscript]
  simp only [List.flatMap_cons, Resp.bulk, Resp.header, List.append_assoc, List.cons_append]

theorem forall_aorBulks (hexact : ExactLog10 castLog10) (hhash : hash.length = 40)
    (ids : List ℤ) :
    (∀ b ∈ aorBulks castLog10 hash ids, b.1 = b.2.length) ↔
      ∀ id ∈ ids, 0 ≤ id ∨ castLog10 id = (formatInt id).length := by
  unfold aorBulks
  rw [List.forall_mem_cons, List.forall_mem_cons, List.forall_mem_cons, List.forall_mem_map]
  constructor
  · intro ⟨_, _, _, hlengths⟩ id hid
    exact (len_in_chars_eq_iff hexact id).mp (hlengths id hid)
  · intro hids
    have hlengths : ∀ id ∈ ids, len_in_chars castLog10 id = (formatInt id).length :=
      fun id hid => (len_in_chars_eq_iff hexact id).mpr (hids id hid)
    exact ⟨rfl, hhash.symm, len_in_chars_natCast hexact ids.length, hlengths⟩

/-- **The command decodes exactly when every negative id happens to get the length of
    its text.** -/
theorem decode_aorCommand_iff (hexact : ExactLog10 castLog10) (hhash : hash.length = 40)
    (ids : List ℤ) :
    Resp.decode (aorCommand castLog10 hash ids) = some (aorArgs hash ids) ↔
      ∀ id ∈ ids, 0 ≤ id ∨ castLog10 id = (formatInt id).length := by
  have hargs : aorArgs hash ids = (aorBulks castLog10 hash ids).map Prod.snd := by
    unfold aorArgs aorBulks
    simp only [List.map_cons, List.map_map]
    rfl
  have hsize : ids.length + 3 = (aorBulks castLog10 hash ids).length := by
    unfold aorBulks
    simp only [List.length_cons, List.length_map]
  rw [aorCommand_eq, hargs, Resp.decode_array_iff, forall_aorBulks hexact hhash]
  exact and_iff_right hsize

/-! ### Any conversion -/

/-- The conversion as x86-64 does it: what is not a number becomes 0. -/
def x86CastLog10 (s : ℤ) : ℕ := if s < 0 then 0 else Nat.log 10 s.toNat + 1

theorem exactLog10_x86 : ExactLog10 x86CastLog10 := by
  intro s hs
  obtain ⟨n, rfl⟩ := Int.eq_ofNat_of_zero_le hs.le
  have hfloor := floor_logb n (by exact_mod_cast hs)
  unfold x86CastLog10
  rw [if_neg (not_lt.mpr hs.le)]
  exact hfloor.symm

/-- Whatever the conversion of a negative number gives: all commands decode exactly
    when no id is negative. -/
theorem forall_decode_aorCommand_iff (hhash : hash.length = 40) (ids : List ℤ) :
    (∀ castLog10, ExactLog10 castLog10 →
        Resp.decode (aorCommand castLog10 hash ids) = some (aorArgs hash ids)) ↔
      ∀ id ∈ ids, 0 ≤ id := by
  constructor
  · intro h id hid
    have hlengths := (decode_aorCommand_iff exactLog10_x86 hhash ids).mp (h _ exactLog10_x86)
    by_contra hneg
    have hlength : x86CastLog10 id = (formatInt id).length :=
      (hlengths id hid).resolve_left hneg
    -- the length 0 is that of no text
    rw [x86CastLog10, if_pos (not_le.mp hneg)] at hlength
    exact formatInt_ne_nil id (List.eq_nil_of_length_eq_zero hlength.symm)
  · intro hids castLog10 hexact
    exact (decode_aorCommand_iff hexact hhash ids).mpr fun id hid => .inl (hids id hid)

/-! ### Calls -/

theorem resolve_aors_decodes (castLog10 : ℤ → ℕ) (hne : hash ≠ []) (posted : Bool)
    (aor_ids : Finset ℤ) (args : List (List Char)) :
    (resolve_aors castLog10 hash posted aor_ids).Decodes args ↔
      Resp.decode (aorCommand castLog10 hash aor_ids.sort) = some args := by
  unfold resolve_aors
  rw [if_neg hne]
  rfl

theorem rpc_resolve_aors_blocking_decodes (castLog10 : ℤ → ℕ) (hne : hash ≠ []) (posted : Bool)
    (arg : List ℤ) (args : List (List Char)) :
    (rpc_resolve_aors_blocking castLog10 hash posted arg).Decodes args ↔
      Resp.decode (aorCommand castLog10 hash arg) = some args := by
  unfold rpc_resolve_aors_blocking
  rw [if_neg hne]
  rfl

/-- **Both calls hand over a decodable command exactly when no id is negative**, whether
    or not the request can be posted. -/
theorem aor_requests_decode_iff (hhash : hash.length = 40) (posted : Bool)
    (aor_ids : Finset ℤ) (arg : List ℤ) :
    ((∀ castLog10, ExactLog10 castLog10 →
        (resolve_aors castLog10 hash posted aor_ids).Decodes (aorArgs hash aor_ids.sort)) ↔
      ∀ id ∈ aor_ids, 0 ≤ id) ∧
    ((∀ castLog10, ExactLog10 castLog10 →
        (rpc_resolve_aors_blocking castLog10 hash posted arg).Decodes (aorArgs hash arg)) ↔
      ∀ id ∈ arg, 0 ≤ id) := by
  have hne : hash ≠ [] := fun hnil => by simp [hnil] at hhash
  have hset := forall_decode_aorCommand_iff hhash aor_ids.sort
  have hlist := forall_decode_aorCommand_iff hhash arg
  simp only [Finset.mem_sort] at hset
  simp only [resolve_aors_decodes _ hne, rpc_resolve_aors_blocking_decodes _ hne]
  exact ⟨hset, hlist⟩

/-- A script hash. -/
def someHash : List Char := List.replicate 40 'f'

theorem aor_requests_decode_iff_three :
    someHash.length = 40 ∧
    ((∀ castLog10, ExactLog10 castLog10 →
        (resolve_aors castLog10 someHash true {7, 12345, 0}).Decodes
          (aorArgs someHash (Finset.sort {7, 12345, 0}))) ↔
      ∀ id ∈ ({7, 12345, 0} : Finset ℤ), 0 ≤ id) ∧
    ((∀ castLog10, ExactLog10 castLog10 →
        (rpc_resolve_aors_blocking castLog10 someHash true [100, -1]).Decodes
          (aorArgs someHash [100, -1])) ↔
      ∀ id ∈ ([100, -1] : List ℤ), 0 ≤ id) :=
  ⟨List.length_replicate,
    aor_requests_decode_iff List.length_replicate true {7, 12345, 0} [100, -1]⟩

/-- The id -5 is announced with the length 0 and written with two characters. -/
theorem aor_requests_negative :
    ExactLog10 x86CastLog10 ∧ someHash.length = 40 ∧
    ¬ (resolve_aors x86CastLog10 someHash true {-5}).Decodes
        (aorArgs someHash (Finset.sort {-5})) ∧
    ¬ (rpc_resolve_aors_blocking x86CastLog10 someHash true [-5]).Decodes
        (aorArgs someHash [-5]) := by
  have hlength : someHash.length = 40 := List.length_replicate
  have hne : someHash ≠ [] := List.cons_ne_nil _ _
  have hnot : ¬ Resp.decode (aorCommand x86CastLog10 someHash [-5]) =
      some (aorArgs someHash [-5]) := by
    rw [decode_aorCommand_iff exactLog10_x86 hlength]
    decide
  have hset : ¬ (resolve_aors x86CastLog10 someHash true {-5}).Decodes
      (aorArgs someHash (Finset.sort {-5})) := by
    rw [resolve_aors_decodes _ hne, Finset.sort_singleton]
    exact hnot
  have hlist : ¬ (rpc_resolve_aors_blocking x86CastLog10 someHash true [-5]).Decodes
      (aorArgs someHash [-5]) := by
    rw [rpc_resolve_aors_blocking_decodes _ hne]
    exact hnot
  exact ⟨exactLog10_x86, hlength, hset, hlist⟩

end Yeti.Registrar
