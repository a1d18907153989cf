import Yeti.Config.Atomicity

/-! # The two tables of refusing codes

    `load_disconnect_code_refuse` and `load_disconnect_code_refuse_overrides` read the same
    columns, one for all calls and one for those of a policy.  Each table has for a code
    what the first row says; `translate_db_code` looks into the overrides first.
-/

namespace Yeti.Config

open Call

/-! ### What is claimed -/

/-- The global row for a code. -/
def rowFor (rows : List AmArg) (code : Nat) : Option AmArg :=
  rows.find? fun row => (refuseRow row).1 = code

/-- The row of a policy for a code. -/
def overrideFor (rows : List AmArg) (policy_id : Int) (code : Nat) : Option AmArg :=
  rows.find? fun row => row.hash_get_int "policy_id" 0 = policy_id ∧ (icodeRow row).1 = code

/-- The columns `o_*` of a code. -/
def icodeColumns : List String :=
  ["o_id", "o_code", "o_reason", "o_rewrited_code", "o_rewrited_reason", "o_store_cdr",
    "o_silently_drop"]

/-- The rows have the same columns `o_*`. -/
def SameColumns (row row' : AmArg) : Prop :=
  ∀ key ∈ icodeColumns, row'.member? key = row.member? key

/-- The row has a rewritten reason, or no reason at all. -/
def ReasonGiven (row : AmArg) : Prop :=
  row.hash_get_str "o_rewrited_reason" ≠ "" ∨ row.hash_get_str "o_reason" = ""

/-! ### Tables -/

section Tables

variable {K V : Type} [DecidableEq K]

theorem lookup_singleton (e : K × V) (key : K) :
    [e].lookup key = if key = e.1 then some e.2 else none := by
  obtain ⟨k, v⟩ := e
  by_cases hkey : key = k
  · simp [hkey]
  · simp [hkey, List.lookup_cons, beq_eq_false_iff_ne.mpr hkey]

theorem lookup_try_emplace (m : List (K × V)) (e : K × V) (key : K) :
    (try_emplace m e).lookup key = (m.lookup key).or (if key = e.1 then some e.2 else none) := by
  unfold try_emplace
  by_cases hold : (m.lookup e.1).isSome
  · rw [if_pos hold]
    by_cases hkey : key = e.1
    · -- the earlier entry stays
      obtain ⟨v, hv⟩ := Option.isSome_iff_exists.mp hold
      rw [hkey, hv, Option.some_or]
    · rw [if_neg hkey, Option.or_none]
  · rw [if_neg hold, List.lookup_append, lookup_singleton]

theorem lookup_foldl_try_emplace (es m : List (K × V)) (key : K) :
    (es.foldl try_emplace m).lookup key = (m.lookup key).or (es.lookup key) := by
  induction es generalizing m with
  | nil => exact (Option.or_none).symm
  | cons e es ih =>
    obtain ⟨k, v⟩ := e
    rw [List.foldl_cons, ih, lookup_try_emplace, Option.or_assoc]
    by_cases hkey : key = k
    · simp [hkey]
    · simp [hkey, List.lookup_cons, beq_eq_false_iff_ne.mpr hkey]

/-- The entries of one list looked up by a key that each entry is made with. -/
theorem lookup_map_eq_find? {R : Type} (entry : R → K × V) (rows : List R) (key : K) :
    (rows.map entry).lookup key = (rows.find? fun r => (entry r).1 = key).map (entry · |>.2) := by
  induction rows with
  | nil => rfl
  | cons r rows ih =>
    rw [List.map_cons, List.find?_cons, List.lookup_cons, ih]
    by_cases hkey : key = (entry r).1
    · simp [hkey]
    · simp [beq_eq_false_iff_ne.mpr hkey, Ne.symm hkey]

end Tables

section Overrides

variable {V : Type}

/-- What the overrides have for a policy and a code. -/
def findOverride (m : List (Int × List (Nat × V))) (policy_id : Int) (code : Nat) : Option V :=
  (m.lookup policy_id).bind (·.lookup code)

theorem lookup_map_of_key {W : Type} (m : List (Int × W)) (policy_id : Int) (f : W → W)
    (key : Int) :
    (m.map fun p => if p.1 = policy_id then (p.1, f p.2) else p).lookup key =
      (m.lookup key).map fun w => if key = policy_id then f w else w := by
  induction m with
  | nil => rfl
  | cons p m ih =>
    obtain ⟨k, w⟩ := p
    rw [List.map_cons, List.lookup_cons]
    by_cases hk : k = policy_id
    · by_cases hkey : key = k
      · simp [hk, hkey]
      · simp [hk, hk ▸ hkey, List.lookup_cons, ih, beq_eq_false_iff_ne.mpr (hk ▸ hkey)]
    · by_cases hkey : key = k
      · simp [hk, hkey]
      · simp [hk, List.lookup_cons, ih, beq_eq_false_iff_ne.mpr hkey]

theorem findOverride_emplace (m : List (Int × List (Nat × V))) (e : Int × Nat × V)
    (policy_id : Int) (code : Nat) :
    findOverride (override_emplace m e) policy_id code =
      (findOverride m policy_id code).or
        (if e.1 = policy_id ∧ e.2.1 = code then some e.2.2 else none) := by
  obtain ⟨p, c, v⟩ := e
  have hmap := lookup_map_of_key (try_emplace m (p, [])) p (try_emplace · (c, v)) policy_id
  unfold findOverride override_emplace
  rw [hmap, lookup_try_emplace]
  by_cases hp : policy_id = p
  · -- an entry that the policy has for the code stays
    subst hp
    cases m.lookup policy_id with
    | none => simp [lookup_try_emplace, eq_comm]
    | some codes => simp [lookup_try_emplace, eq_comm]
  · simp only [if_neg hp, Option.or_none, Ne.symm hp, false_and, if_false]
    cases m.lookup policy_id <;> rfl

theorem findOverride_foldl (es : List (Int × Nat × V)) (m : List (Int × List (Nat × V)))
    (policy_id : Int) (code : Nat) :
    findOverride (es.foldl override_emplace m) policy_id code =
      (findOverride m policy_id code).or
        ((es.find? fun e => e.1 = policy_id ∧ e.2.1 = code).map (·.2.2)) := by
  induction es generalizing m with
  | nil => exact (Option.or_none).symm
  | cons e es ih =>
    rw [List.foldl_cons, ih, findOverride_emplace, Option.or_assoc, List.find?_cons]
    by_cases he : e.1 = policy_id ∧ e.2.1 = code
    · simp [he]
    · simp [he]

end Overrides

/-! ### Rows -/

theorem SameColumns.icodeRow_eq {row row' : AmArg} (h : SameColumns row row') :
    icodeRow row' = icodeRow row := by
  simp only [SameColumns, icodeColumns, List.forall_mem_cons] at h
  obtain ⟨hid, hcode, hreason, hrewrited, hresponse, hstore, hdrop, -⟩ := h
  unfold icodeRow AmArg.hash_get_int AmArg.hash_get_str AmArg.hash_get_bool
  rw [hid, hcode, hreason, hrewrited, hresponse, hstore, hdrop]

/-- The empty reason is what the loaders differ in. -/
theorem refuseRow_eq_iff (row : AmArg) : refuseRow row = icodeRow row ↔ ReasonGiven row := by
  have hresponse : (icodeRow row).2.response_reason = row.hash_get_str "o_rewrited_reason" := rfl
  have hinternal : (icodeRow row).2.internal_reason = row.hash_get_str "o_reason" := rfl
  unfold refuseRow ReasonGiven
  rw [← hresponse, ← hinternal]
  obtain ⟨code, internal_code, response_code, internal_reason, response_reason, store, drop⟩ :=
    icodeRow row
  by_cases hempty : response_reason = ""
  · simp [hempty]
  · simp [hempty]

section Loaders

variable {Cert Key Subnet Tree : Type} (c : Configuration Cert Key Subnet Tree)

/-- Both tables filled from answers of the database. -/
def reloaded (data overrides : AmArg) : Configuration Cert Key Subnet Tree :=
  ((c.load_disconnect_code_refuse data).1.load_disconnect_code_refuse_overrides overrides).1

theorem swapIn_of_ok {E C : Type} (entry : AmArg → E) (add : C → E → C) (empty : C) (data : AmArg)
    (swap : C → Configuration Cert Key Subnet Tree) :
    (c.swapIn (fun row => .ok (some (entry row))) add empty data swap).1 =
      swap ((data.rows.map entry).foldl add empty) := by
  have hfill : ∀ (rows : List AmArg) (tmp : C),
      fill (fun row => .ok (some (entry row))) add tmp rows =
        ((rows.map entry).foldl add tmp, none) := by
    intro rows
    induction rows with
    | nil => exact fun tmp => rfl
    | cons row rows ih => exact fun tmp => ih (add tmp (entry row))
  unfold Configuration.swapIn
  rw [hfill]

theorem reloaded_codes (data overrides : AmArg) :
    (reloaded c data overrides).codes = { c.codes with
      icode2resp := (data.rows.map refuseRow).foldl try_emplace []
      icode2resp_overrides := (overrides.rows.map fun row =>
        (row.hash_get_int "policy_id" 0, icodeRow row)).foldl override_emplace [] } := by
  unfold reloaded Configuration.load_disconnect_code_refuse_overrides
    Configuration.load_disconnect_code_refuse
  rw [swapIn_of_ok, swapIn_of_ok]

/-! ### Translations -/

variable {data overrides : AmArg} {policy_id : Int} {code : Nat} {row row' : AmArg}

theorem translate_db_code_of_row (hrow : rowFor data.rows code = some row) :
    (reloaded c data overrides).codes.translate_db_code code 0 =
      c.codes.apply_internal_code_translation (refuseRow row).2 := by
  have hfind : (data.rows.map refuseRow).lookup code = some (refuseRow row).2 := by
    rw [lookup_map_eq_find?, show (data.rows.find? _) = some row from hrow, Option.map_some]
  have hlookup : ((data.rows.map refuseRow).foldl try_emplace []).lookup code =
      some (refuseRow row).2 := by
    rw [lookup_foldl_try_emplace, List.lookup_nil, Option.none_or, hfind]
  rw [reloaded_codes]
  unfold CodesTranslator.translate_db_code
  simp only [ne_eq, not_true_eq_false, if_false, Option.none_or, hlookup]
  rfl

theorem translate_db_code_of_override (hpolicy : policy_id ≠ 0)
    (hrow : overrideFor overrides.rows policy_id code = some row') :
    (reloaded c data overrides).codes.translate_db_code code policy_id =
      c.codes.apply_internal_code_translation (icodeRow row').2 := by
  have hfind : findOverride ((overrides.rows.map fun row =>
      (row.hash_get_int "policy_id" 0, icodeRow row)).foldl override_emplace []) policy_id code =
      some (icodeRow row').2 := by
    rw [findOverride_foldl, List.find?_map]
    simp only [Function.comp_def]
    rw [show overrides.rows.find? _ = some row' from hrow]
    rfl
  rw [reloaded_codes]
  unfold CodesTranslator.translate_db_code
  unfold findOverride at hfind
  simp only [ne_eq, hpolicy, not_false_eq_true, if_true, hfind, Option.some_or]
  rfl

/-! ### Main result -/

/-- A row for all calls and one of a policy with the same columns: the entries and the
    translations are the same when a reason is given. -/
theorem refuse_tables_agree_iff (hrow : rowFor data.rows code = some row)
    (hrow' : overrideFor overrides.rows policy_id code = some row')
    (hsame : SameColumns row row') :
    (refuseRow row = icodeRow row' ∧
      (reloaded c data overrides).codes.translate_db_code code policy_id =
        (reloaded c data overrides).codes.translate_db_code code 0) ↔ ReasonGiven row := by
  rw [hsame.icodeRow_eq, refuseRow_eq_iff]
  refine and_iff_left_of_imp fun hgiven => ?_
  by_cases hpolicy : policy_id = 0
  · rw [hpolicy]
  · have hentry := (refuseRow_eq_iff row).mpr hgiven
    rw [translate_db_code_of_override c hpolicy hrow', translate_db_code_of_row c hrow,
      hsame.icodeRow_eq, hentry]

end Loaders

/-! ### A row without a rewritten reason -/

namespace RefuseExample

/-- The columns of the code 7, for the calls of a policy. -/
def row (reason : String) : AmArg := .struct
  [("policy_id", .int 5), ("o_id", .int 7), ("o_code", .int 403), ("o_reason", .cstr "Forbidden"),
    ("o_rewrited_code", .undef), ("o_rewrited_reason", .cstr reason)]

/-- An answer with that row only. -/
def answer (reason : String) : AmArg := .array [row reason]

end RefuseExample

open RefuseExample in
theorem refuse_tables_agree_given :
    (rowFor (answer "Sorry").rows 7 = some (row "Sorry") ∧
      overrideFor (answer "Sorry").rows 5 7 = some (row "Sorry") ∧
      SameColumns (row "Sorry") (row "Sorry")) ∧
      ((refuseRow (row "Sorry") = icodeRow (row "Sorry") ∧
        (reloaded AnswerExample.loaded (answer "Sorry") (answer "Sorry")).codes.translate_db_code 7 5 =
          (reloaded AnswerExample.loaded (answer "Sorry") (answer "Sorry")).codes.translate_db_code
            7 0) ↔ ReasonGiven (row "Sorry")) :=
  ⟨⟨rfl, rfl, fun _ _ => rfl⟩, refuse_tables_agree_iff _ rfl rfl fun _ _ => rfl⟩

open RefuseExample in
/-- Globally the call is refused with the reason of the internal code, with the policy without
    any. -/
theorem not_refuse_tables_agree :
    ¬ ∀ (c : Configuration UInt8 String String (List (String × Nat))) (data overrides : AmArg)
      (policy_id : Int) (code : Nat) (row row' : AmArg), rowFor data.rows code = some row →
      overrideFor overrides.rows policy_id code = some row' → SameColumns row row' →
      refuseRow row = icodeRow row' ∧
        (reloaded c data overrides).codes.translate_db_code code policy_id =
          (reloaded c data overrides).codes.translate_db_code code 0 := by
  intro hall
  obtain ⟨-, htranslated⟩ := hall AnswerExample.loaded (answer "") (answer "") 5 7 (row "") (row "")
    rfl rfl fun _ _ => rfl
  have hreason := congrArg Translation.response_reason htranslated
  exact absurd hreason (by decide)

end Yeti.Config
