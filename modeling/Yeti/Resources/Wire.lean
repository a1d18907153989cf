import Mathlib.Algebra.Group.Int.Defs
import Mathlib.Algebra.Group.Nat.Defs
import Yeti.Framework.Decimal
import Yeti.Resources.Parsing
import Yeti.Resources.Sequences

/-! # Commands on the wire

    The text of the `HINCRBY` commands that `OperationResources::processRedisReply`
    formats, and the integers that Redis reads from it.  The sign of a put is written in
    front of the number: the text is an integer exactly when the number is positive.

    `string2ll_text` connects the text to the abstract argument `IncrArg` that the
    connection models work with.
-/

namespace Yeti.Resources

open Decimal

/-! ### Formatting -/

/-- The string that `get_key` returns. -/
def Key.text (k : Key) : List Char :=
  "r:".toList ++ formatInt k.type ++ ":".toList ++ formatInt k.id

/-- The increment as its format string writes it. -/
def IncrArg.text : IncrArg → List Char
  | .plain takes => formatInt takes
  | .negated takes => '-' :: formatInt takes

/-- The arguments of a command `HINCRBY key field increment`. -/
structure HIncrBy where
  key : List Char
  field : List Char
  increment : List Char
  deriving DecidableEq, Repr

/-- The command that is posted for one element of `res_list`. -/
def hincrbyText (node_id : Int) (r : ResourceOperation) : Option HIncrBy :=
  match OperationResources.hincrby r with
  | some (.HINCRBY key arg) => some ⟨key.text, formatInt node_id, arg.text⟩
  | _ => none

/-! ### Reading -/

/-- `string2ll`, with which Redis reads the increment: a signed integer of 64 bits. -/
def string2ll (s : List Char) : Option Int :=
  if s = ['0'] then some 0
  else if s.head? = some '-' then
    (readDigits s.tail).bind fun n => if n ≤ 2 ^ 63 then some (-(n : Int)) else none
  else (readDigits s).bind fun n => if n < 2 ^ 63 then some (n : Int) else none

theorem string2ll_toDigits {n : Nat} (h : 0 < n) (hlt : n < 2 ^ 63) :
    string2ll (Nat.toDigits 10 n) = some (n : Int) := by
  unfold string2ll
  rw [if_neg (toDigits_ne_zero h), if_neg (toDigits_ne_minus n), readDigits_toDigits h,
    Option.bind_some, if_pos hlt]

theorem string2ll_minus_toDigits {n : Nat} (h : 0 < n) (hle : n ≤ 2 ^ 63) :
    string2ll ('-' :: Nat.toDigits 10 n) = some (-(n : Int)) := by
  have hhead : ('-' :: Nat.toDigits 10 n).head? = some '-' := rfl
  unfold string2ll
  rw [if_neg (by simp), if_pos hhead, List.tail_cons, readDigits_toDigits h, Option.bind_some,
    if_pos hle]

/-- A second minus sign is no digit. -/
theorem string2ll_minus_minus (s : List Char) : string2ll ('-' :: '-' :: s) = none := by
  have hhead : ('-' :: '-' :: s).head? = some '-' := rfl
  have hnone : readDigits ('-' :: s) = none := by
    unfold readDigits
    rw [if_pos (by simp)]
  unfold string2ll
  rw [if_neg (by simp), if_pos hhead, List.tail_cons, hnone, Option.bind_none]

/-- Redis reads what the abstract argument means. -/
theorem string2ll_text (arg : IncrArg)
    (hrange : ∀ takes, arg = .plain takes ∨ arg = .negated takes →
      -2 ^ 31 ≤ takes ∧ takes < 2 ^ 31) :
    string2ll arg.text = arg.value := by
  cases arg with
  | plain takes =>
    obtain ⟨hlow, hhigh⟩ := hrange takes (.inl rfl)
    cases takes with
    | ofNat n =>
      rw [Int.ofNat_eq_natCast] at hhigh
      rcases Nat.eq_zero_or_pos n with rfl | hpos
      · rfl
      · exact string2ll_toDigits hpos (by omega)
    | negSucc n =>
      have hread := string2ll_minus_toDigits (Nat.succ_pos n) (by omega)
      rw [IncrArg.text, formatInt, hread]
      rfl
  | negated takes =>
    obtain ⟨hlow, hhigh⟩ := hrange takes (.inr rfl)
    cases takes with
    | ofNat n =>
      rw [Int.ofNat_eq_natCast] at hhigh
      rcases Nat.eq_zero_or_pos n with rfl | hpos
      · rfl
      · have hread := string2ll_minus_toDigits hpos (by omega)
        have htakes : (0 : Int) < Int.ofNat n := by
          rw [Int.ofNat_eq_natCast]
          omega
        rw [IncrArg.text, formatInt, hread, IncrArg.value, if_pos htakes]
        rfl
    | negSucc n =>
      have htakes : ¬ (0 : Int) < .negSucc n := by omega
      rw [IncrArg.text, formatInt, string2ll_minus_minus, IncrArg.value, if_neg htakes]

/-! ### Put and get -/

/-- The commands of a get and of a put of the resource address the same field, and carry
    opposite increments that Redis accepts. -/
def PutUndoesGet (node_id : Int) (r : Resource) : Prop :=
  ∃ get put v,
    hincrbyText node_id { toResource := { r with active := true }, op := .RES_GET } = some get ∧
    hincrbyText node_id { toResource := { r with taken := true }, op := .RES_PUT } = some put ∧
    get.key = put.key ∧ get.field = put.field ∧
    string2ll get.increment = some v ∧ string2ll put.increment = some (-v)

/-- A put undoes its get for positive quantities, and for no others. -/
theorem put_undoes_get_iff (u : AmUtils) (rs : List Char) (rl : List Resource)
    (hparse : ResList.parse u rs = .ok rl) (r : Resource) (hr : r ∈ rl) (node_id : Int) :
    PutUndoesGet node_id r ↔ 0 < r.takes := by
  have hfresh : Fresh r := by
    rw [parse_eq hparse] at hr
    obtain ⟨g, hg, hrg⟩ := List.mem_flatten.mp hr
    exact (groups_spec hg).2 r hrg
  have hget : string2ll (IncrArg.plain r.takes).text = some r.takes :=
    string2ll_text _ fun takes h => by
      rcases h with h | h <;> cases h
      exact hfresh.takes_range
  have hput : string2ll (IncrArg.negated r.takes).text = (IncrArg.negated r.takes).value :=
    string2ll_text _ fun takes h => by
      rcases h with h | h <;> cases h
      exact hfresh.takes_range
  constructor
  · rintro ⟨get, put, v, hg, hp, -, -, -, hv⟩
    by_contra hneg
    have htext : put.increment = (IncrArg.negated r.takes).text := by
      have := Option.some.inj hp
      rw [← this]
    rw [htext, hput, IncrArg.value, if_neg hneg] at hv
    cases hv
  · intro hpos
    refine ⟨⟨(get_key r).text, formatInt node_id, (IncrArg.plain r.takes).text⟩,
      ⟨(get_key r).text, formatInt node_id, (IncrArg.negated r.takes).text⟩, r.takes,
      rfl, rfl, rfl, rfl, hget, ?_⟩
    rw [hput, IncrArg.value, if_pos hpos]

/-- An ordinary resource. -/
theorem put_undoes_get_iff_positive :
    PutUndoesGet 1 ⟨472, 1, 3, 2, false, false, false⟩ ↔ (0 : Int) < 3 :=
  put_undoes_get_iff .decimal "1:472:2:3".toList [⟨472, 1, 3, 2, false, false, false⟩] rfl
    ⟨472, 1, 3, 2, false, false, false⟩ (by simp) 1

/-- A negative quantity passes the parser, and its put carries `--3`. -/
theorem not_put_undoes_get_negative :
    ¬ ∀ (u : AmUtils) (rs : List Char) (rl : List Resource), ResList.parse u rs = .ok rl →
      ∀ r ∈ rl, ∀ node_id : Int, PutUndoesGet node_id r := by
  intro hall
  obtain ⟨get, put, v, -, hp, -, -, -, hv⟩ := hall .decimal "1:472:2:-3".toList
    [⟨472, 1, -3, 2, false, false, false⟩] rfl ⟨472, 1, -3, 2, false, false, false⟩ (by simp) 1
  have htext : put.increment = "--3".toList := by
    have := Option.some.inj hp
    rw [← this]
    rfl
  rw [htext, show string2ll "--3".toList = none from string2ll_minus_minus ['3']] at hv
  cases hv

end Yeti.Resources
