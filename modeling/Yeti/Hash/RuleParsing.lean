import Yeti.Hash.Rules

/-! # Parsing of rules

    Model of `get_operator_pos` and of `parse_fields`, which reads names of fields and, after
    `WHERE`, rules: a field, an operator and a value, with nothing in between.

    A string is a list of its characters, that is of bytes.  A pointer into it is its position;
    reading at a position outside of the string is an outcome of its own.
-/

namespace Yeti.Hash

/-! ### `get_operator_pos` -/

/-- What `get_operator_pos` gives. -/
inductive OperatorPos where
  /-- A pointer to the operator, and its length. -/
  | found (pos op_len : Nat)
  | null
  /-- A character outside of the string was read. -/
  | overread
  deriving DecidableEq, Repr

/-- The loop, with `rest` more characters from the position `i` on. -/
def operatorFrom (s : List Char) (i : Nat) : Nat → OperatorPos
  | 0 => .null
  | rest + 1 =>
    match s[i]? with
    | none => .overread
    | some c =>
      if c = '=' then
        -- no characters after the operator
        if s.length ≤ i + 1 then .null else .found i 1
      else if c = '!' then
        if s.length ≤ i + 2 then .null
        else
          match s[i + 1]? with
          | none => .overread
          | some d => if d = '=' then .found i 2 else .null
      else if c = '<' ∨ c = '>' then
        if s.length ≤ i + 1 then .null
        else
          match s[i + 1]? with
          | none => .overread
          | some d =>
            if d = '=' then if s.length ≤ i + 2 then .null else .found i 2
            else .found i 1
      else operatorFrom s (i + 1) rest

/-- `get_operator_pos`. -/
def get_operator_pos (s : List Char) : OperatorPos :=
  if s.length < 3 then .null else operatorFrom s 0 s.length

/-! ### `parse_fields` -/

/-- What a `const char *` reads: the characters before the first NUL. -/
def cStr (s : List Char) : List Char := s.takeWhile (· ≠ '\x00')

/-- The strings that a rule is split into, at the operator. -/
def splitRule (entry : List Char) : Option (List Char × List Char × List Char) :=
  match get_operator_pos entry with
  | .found pos op_len =>
    some (entry.take pos, (entry.drop pos).take op_len, cStr (entry.drop (pos + op_len)))
  | _ => none

section ParseFields

variable {D : Type} (scan : Scanner) (maps : FilterMaps) (now : Timeval)

/-- An entry after `WHERE`. -/
def parseRule (rules : List CmpFunctor) (entry : List Char) : Except String (List CmpFunctor) :=
  match splitRule entry with
  | none => .error ("can't parse rule: " ++ String.ofList entry)
  | some (field, op, value) =>
    insert_rule scan maps now rules (String.ofList field) (String.ofList op) (String.ofList value)

/-- The loop of `parse_fields`, with the number of entries that were read and the state. -/
def parseEntries (i : Nat) (state : Bool) (rules : List CmpFunctor) (fields : List String) :
    List (AmArg D) → Except String (Bool × List CmpFunctor × List String)
  | [] => .ok (state, rules, fields)
  | .cstr arg :: params =>
    let entry := cStr arg.toList
    match state with
    | false =>
      if entry = "WHERE".toList then
        if i = 0 then .error "found WHERE in wrong place"
        else parseEntries (i + 1) true rules fields params
      else parseEntries (i + 1) false rules (fields ++ [String.ofList entry]) params
    | true => do
      let rules ← parseRule scan maps now rules entry
      parseEntries (i + 1) true rules fields params
  | _ :: _ => .error "unexpected input"

/-- `parse_fields`. -/
def parse_fields (rules : List CmpFunctor) (params : List (AmArg D)) (fields : List String) :
    Except String (List CmpFunctor × List String) := do
  let (state, rules, fields) ← parseEntries scan maps now 0 false rules fields params
  if state && rules.isEmpty then .error "no rules defined after WHERE"
  else return (rules, fields)

end ParseFields

/-! ### Rules -/

/-- The characters that operators start with. -/
def operatorChars : List Char := ['=', '!', '<', '>']

/-- `= != < > <= >=` -/
def operators : List (List Char) := [['='], ['!', '='], ['<'], ['>'], ['<', '='], ['>', '=']]

/-- The text is a field, an operator, as long as possible, and a value. -/
structure IsRule (entry field op value : List Char) : Prop where
  entry_eq : entry = field ++ op ++ value
  field_free : ∀ c ∈ field, c ∉ operatorChars
  op_mem : op ∈ operators
  longest : ∀ op' ∈ operators, op' <+: op ++ value → op'.length ≤ op.length
  value_ne : value ≠ []

/-- The length of the operator at the start of a text, where a value follows. -/
def operatorLength : List Char → Option Nat
  | c :: d :: value =>
    if c = '=' then some 1
    else if d = '=' then if value.isEmpty then none else some 2
    else if c = '!' then none
    else some 1
  | _ => none

/-! ### The loop -/

/-- No operator starts with the character. -/
def isPlain (c : Char) : Bool := c ∉ operatorChars

/-- At an operator the loop ends. -/
theorem operatorFrom_of_operator (pre rest : List Char) {c : Char} (hc : c ∈ operatorChars) :
    operatorFrom (pre ++ c :: rest) pre.length (c :: rest).length =
      (operatorLength (c :: rest)).elim .null (.found pre.length) := by
  have hget : (pre ++ c :: rest)[pre.length]? = some c := by simp
  have hnext : (pre ++ c :: rest)[pre.length + 1]? = rest[0]? := by
    rw [List.getElem?_append_right (by omega)]
    simp
  rw [List.length_cons, operatorFrom, hget, hnext]
  simp only [operatorChars, List.mem_cons, List.not_mem_nil, or_false] at hc
  -- the code looks at the next character, and at whether one is left after it
  rcases rest with _ | ⟨d, _ | ⟨e, rest⟩⟩
  · rcases hc with rfl | rfl | rfl | rfl <;> simp [operatorLength]
  · by_cases hd : d = '='
    · rcases hc with rfl | rfl | rfl | rfl <;> simp [operatorLength, hd]
    · rcases hc with rfl | rfl | rfl | rfl <;> simp [operatorLength, hd]
  · by_cases hd : d = '='
    · rcases hc with rfl | rfl | rfl | rfl <;> simp [operatorLength, hd]
    · rcases hc with rfl | rfl | rfl | rfl <;> simp [operatorLength, hd]

/-- The loop passes the characters before the first operator. -/
theorem operatorFrom_append (pre rest : List Char) :
    operatorFrom (pre ++ rest) pre.length rest.length =
      (operatorLength (rest.dropWhile isPlain)).elim .null
        (.found (pre.length + (rest.takeWhile isPlain).length)) := by
  induction rest generalizing pre with
  | nil => rfl
  | cons c rest ih =>
    by_cases hc : c ∈ operatorChars
    · have hplain : isPlain c = false := by simp [isPlain, hc]
      rw [operatorFrom_of_operator pre rest hc, List.dropWhile_cons_of_neg (by simp [hplain]),
        List.takeWhile_cons_of_neg (by simp [hplain])]
      rfl
    · have hplain : isPlain c = true := by simp [isPlain, hc]
      have hpass : operatorFrom (pre ++ c :: rest) pre.length (c :: rest).length =
          operatorFrom (pre ++ c :: rest) (pre.length + 1) rest.length := by
        simp only [operatorChars, List.mem_cons, List.not_mem_nil, or_false, not_or] at hc
        obtain ⟨heq, hbang, hlt, hgt⟩ := hc
        rw [List.length_cons, operatorFrom]
        simp [heq, hbang, hlt, hgt]
      -- the character passed belongs to what is behind the loop
      have hih := ih (pre ++ [c])
      rw [List.append_assoc, List.singleton_append, List.length_append,
        List.length_singleton] at hih
      rw [hpass, hih, List.dropWhile_cons_of_pos hplain, List.takeWhile_cons_of_pos hplain,
        List.length_cons, Nat.add_assoc, Nat.add_comm 1]

theorem get_operator_pos_eq {entry : List Char} (hlen : 3 ≤ entry.length) :
    get_operator_pos entry = (operatorLength (entry.dropWhile isPlain)).elim .null
      (.found (entry.takeWhile isPlain).length) := by
  have hloop := operatorFrom_append [] entry
  rw [List.nil_append, List.length_nil, Nat.zero_add] at hloop
  rw [get_operator_pos, if_neg (by omega), hloop]

/-! ### Operators -/

/-- The three forms of an operator with a value. -/
theorem cases_of_operatorLength {text : List Char} {k : Nat} (h : operatorLength text = some k) :
    ∃ c d value, text = c :: d :: value ∧
      (c = '=' ∧ k = 1 ∨ c ≠ '=' ∧ d = '=' ∧ value ≠ [] ∧ k = 2 ∨
        c ≠ '=' ∧ c ≠ '!' ∧ d ≠ '=' ∧ k = 1) := by
  rcases text with _ | ⟨c, _ | ⟨d, value⟩⟩
  · cases h
  · cases h
  · refine ⟨c, d, value, rfl, ?_⟩
    simp only [operatorLength, List.isEmpty_iff] at h
    split_ifs at h with heq hd hvalue hbang
    · exact Or.inl ⟨heq, (Option.some.inj h).symm⟩
    · exact Or.inr (Or.inl ⟨heq, hd, hvalue, (Option.some.inj h).symm⟩)
    · exact Or.inr (Or.inr ⟨heq, hbang, hd, (Option.some.inj h).symm⟩)

/-- The operators of one character are the shorter ones. -/
theorem length_le_one {c d : Char} {value op : List Char} (hop : op ∈ operators)
    (hpre : op <+: c :: d :: value) (hd : c = '=' ∨ d ≠ '=') : op.length ≤ 1 := by
  simp only [operators, List.mem_cons, List.not_mem_nil, or_false] at hop
  rcases hop with rfl | rfl | rfl | rfl | rfl | rfl <;> simp at hpre ⊢
  · obtain ⟨rfl, rfl⟩ := hpre
    simp at hd
  · obtain ⟨rfl, rfl⟩ := hpre
    simp at hd
  · obtain ⟨rfl, rfl⟩ := hpre
    simp at hd

theorem length_le_two {op : List Char} (hop : op ∈ operators) : op.length ≤ 2 := by
  simp only [operators, List.mem_cons, List.not_mem_nil, or_false] at hop
  rcases hop with rfl | rfl | rfl | rfl | rfl | rfl <;> simp

/-- What stands before the value is the longest operator. -/
theorem operator_of_operatorLength {op value : List Char}
    (hhead : ∀ c ∈ (op ++ value).head?, c ∈ operatorChars)
    (h : operatorLength (op ++ value) = some op.length) :
    op ∈ operators ∧ (∀ op' ∈ operators, op' <+: op ++ value → op'.length ≤ op.length) ∧
      value ≠ [] := by
  obtain ⟨c, d, value', htext, hforms⟩ := cases_of_operatorLength h
  have hc : c ∈ operatorChars := hhead c (by rw [htext]; rfl)
  simp only [operatorChars, List.mem_cons, List.not_mem_nil, or_false] at hc
  -- a single character: two of the three forms of text
  have hone (hlength : op.length = 1) (hd : c = '=' ∨ d ≠ '=') (hbang : c ≠ '!') :
      op ∈ operators ∧ (∀ op' ∈ operators, op' <+: op ++ value → op'.length ≤ op.length) ∧
        value ≠ [] := by
    have hsplit : op ++ value = [c] ++ (d :: value') := htext
    obtain ⟨rfl, rfl⟩ := List.append_inj hsplit hlength
    refine ⟨?_, fun op' hop' hpre => length_le_one hop' hpre hd, List.cons_ne_nil d value'⟩
    rcases hc with rfl | rfl | rfl | rfl
    · decide
    · exact absurd rfl hbang
    · decide
    · decide
  rcases hforms with ⟨heq, hlength⟩ | ⟨hne, rfl, hvalue, hlength⟩ | ⟨hne, hbang, hd, hlength⟩
  · exact hone hlength (Or.inl heq) (by rw [heq]; decide)
  · -- two characters, the second of which is `=`
    have hsplit : op ++ value = [c, '='] ++ value' := htext
    obtain ⟨rfl, rfl⟩ := List.append_inj hsplit hlength
    refine ⟨?_, fun op' hop' _ => length_le_two hop', hvalue⟩
    rcases hc with rfl | rfl | rfl | rfl
    · exact absurd rfl hne
    · decide
    · decide
    · decide
  · exact hone hlength (Or.inr hd) hbang

theorem operatorLength_of_operator {op value : List Char} (hop : op ∈ operators)
    (hlongest : ∀ op' ∈ operators, op' <+: op ++ value → op'.length ≤ op.length)
    (hvalue : value ≠ []) : operatorLength (op ++ value) = some op.length := by
  obtain ⟨c, value, rfl⟩ := List.exists_cons_of_ne_nil hvalue
  have hnext (b : Char) (hb : [b, '='] ∈ operators) (hone : op = [b]) : c ≠ '=' := by
    rintro rfl
    rw [hone] at hlongest
    exact absurd (hlongest [b, '='] hb (by simp)) (by simp)
  simp only [operators, List.mem_cons, List.not_mem_nil, or_false] at hop
  rcases hop with rfl | rfl | rfl | rfl | rfl | rfl <;> simp [operatorLength]
  · exact hnext '<' (by decide) rfl
  · exact hnext '>' (by decide) rfl

/-! ### Rules and their parts -/

theorem head_of_operator {op : List Char} (hop : op ∈ operators) (value : List Char) :
    ∃ c rest, op ++ value = c :: rest ∧ c ∈ operatorChars := by
  simp only [operators, List.mem_cons, List.not_mem_nil, or_false] at hop
  rcases hop with rfl | rfl | rfl | rfl | rfl | rfl
  all_goals exact ⟨_, _, rfl, by decide⟩

/-- The field ends where the first operator starts. -/
theorem IsRule.parts {entry field op value : List Char} (h : IsRule entry field op value) :
    entry.takeWhile isPlain = field ∧ entry.dropWhile isPlain = op ++ value := by
  obtain ⟨c, rest, hrest, hc⟩ := head_of_operator h.op_mem value
  have hplain : ∀ a ∈ field, isPlain a = true := fun a ha => decide_eq_true (h.field_free a ha)
  have hstop : ¬ isPlain c = true := by simp [isPlain, hc]
  rw [h.entry_eq, List.append_assoc, List.takeWhile_append_of_pos hplain,
    List.dropWhile_append_of_pos hplain, hrest, List.takeWhile_cons_of_neg hstop,
    List.dropWhile_cons_of_neg hstop, List.append_nil]
  exact ⟨rfl, rfl⟩

theorem IsRule.operatorLength_eq {entry field op value : List Char}
    (h : IsRule entry field op value) :
    operatorLength (entry.dropWhile isPlain) = some op.length := by
  rw [h.parts.2]
  exact operatorLength_of_operator h.op_mem h.longest h.value_ne

theorem isRule_of_operatorLength {entry : List Char} {k : Nat}
    (h : operatorLength (entry.dropWhile isPlain) = some k) :
    IsRule entry (entry.takeWhile isPlain) ((entry.dropWhile isPlain).take k)
      ((entry.dropWhile isPlain).drop k) := by
  have hparts : (entry.dropWhile isPlain).take k ++ (entry.dropWhile isPlain).drop k =
      entry.dropWhile isPlain := List.take_append_drop k _
  have hk : ((entry.dropWhile isPlain).take k).length = k := by
    obtain ⟨c, d, value, htext, hforms⟩ := cases_of_operatorLength h
    rw [List.length_take, htext, List.length_cons, List.length_cons]
    omega
  have hhead : ∀ c ∈ (entry.dropWhile isPlain).head?, c ∈ operatorChars := by
    intro c hc
    have hstop := List.head?_dropWhile_not isPlain entry
    rw [Option.mem_def.mp hc] at hstop
    simpa [isPlain] using hstop
  obtain ⟨hop, hlongest, hvalue⟩ := operator_of_operatorLength (hparts.symm ▸ hhead)
    (by rw [hparts, hk, h])
  refine ⟨?_, ?_, hop, hlongest, hvalue⟩
  · rw [List.append_assoc, hparts, List.takeWhile_append_dropWhile]
  · intro c hc
    have hplain : isPlain c = true := List.mem_takeWhile_imp hc
    exact of_decide_eq_true hplain

/-- A rule has one decomposition. -/
theorem IsRule.unique {entry field op value field' op' value' : List Char}
    (h : IsRule entry field op value) (h' : IsRule entry field' op' value') :
    field' = field ∧ op' = op ∧ value' = value := by
  have hlength := Option.some.inj (h'.operatorLength_eq.symm.trans h.operatorLength_eq)
  obtain ⟨hop, hvalue⟩ := List.append_inj (h'.parts.2.symm.trans h.parts.2) hlength
  exact ⟨h'.parts.1.symm.trans h.parts.1, hop, hvalue⟩

theorem IsRule.get_operator_pos_eq {entry field op value : List Char} (hlen : 3 ≤ entry.length)
    (h : IsRule entry field op value) :
    get_operator_pos entry = .found field.length op.length := by
  rw [Hash.get_operator_pos_eq hlen, h.operatorLength_eq, h.parts.1]
  rfl

theorem get_operator_pos_found_iff {entry : List Char} (hlen : 3 ≤ entry.length) :
    (∃ pos op_len, get_operator_pos entry = .found pos op_len) ↔
      ∃ field op value, IsRule entry field op value := by
  constructor
  · intro ⟨pos, op_len, hfound⟩
    rw [get_operator_pos_eq hlen] at hfound
    cases hoperator : operatorLength (entry.dropWhile isPlain) with
    | none =>
      rw [hoperator] at hfound
      cases hfound
    | some k => exact ⟨_, _, _, isRule_of_operatorLength hoperator⟩
  · intro ⟨field, op, value, h⟩
    exact ⟨_, _, h.get_operator_pos_eq hlen⟩

theorem get_operator_pos_ne_overread (entry : List Char) : get_operator_pos entry ≠ .overread := by
  by_cases hlen : 3 ≤ entry.length
  · rw [get_operator_pos_eq hlen]
    cases operatorLength (entry.dropWhile isPlain) <;> exact nofun
  · rw [get_operator_pos, if_pos (by omega)]
    exact nofun

/-- The strings that are handed on are those of the rule. -/
theorem IsRule.splitRule_eq {entry field op value : List Char} (hlen : 3 ≤ entry.length)
    (hnul : '\x00' ∉ entry) (h : IsRule entry field op value) :
    splitRule entry = some (field, op, value) := by
  have hvalue : cStr value = value := by
    refine List.takeWhile_eq_self_iff.mpr fun c hc => decide_eq_true ?_
    rintro rfl
    exact hnul (h.entry_eq ▸ List.mem_append_right _ hc)
  unfold splitRule
  rw [h.get_operator_pos_eq hlen]
  have hentry := h.entry_eq
  subst hentry
  simp [hvalue]

theorem nul_not_mem_cStr (s : List Char) : '\x00' ∉ cStr s := fun h => by
  have hne := List.mem_takeWhile_imp h
  simp at hne

/-! ### Main result -/

/-- The operator of a rule is found exactly when there is one, and the rule is split there. -/
theorem get_operator_pos_iff (scan : Scanner) (maps : FilterMaps) (now : Timeval) (arg : String)
    (hlen : 3 ≤ (cStr arg.toList).length) :
    get_operator_pos (cStr arg.toList) ≠ .overread ∧
      ((∃ pos op_len, get_operator_pos (cStr arg.toList) = .found pos op_len) ↔
        ∃ field op value, IsRule (cStr arg.toList) field op value) ∧
      ∀ field op value, IsRule (cStr arg.toList) field op value →
        (∀ field' op' value', IsRule (cStr arg.toList) field' op' value' →
          field' = field ∧ op' = op ∧ value' = value) ∧
        get_operator_pos (cStr arg.toList) = .found field.length op.length ∧
        ∀ rules, parseRule scan maps now rules (cStr arg.toList) =
          insert_rule scan maps now rules (String.ofList field) (String.ofList op)
            (String.ofList value) := by
  refine ⟨get_operator_pos_ne_overread _, get_operator_pos_found_iff hlen,
    fun field op value h => ⟨fun _ _ _ h' => h.unique h', h.get_operator_pos_eq hlen, ?_⟩⟩
  intro rules
  rw [parseRule, h.splitRule_eq hlen (nul_not_mem_cStr _)]

open RuleExample in
theorem get_operator_pos_iff_duration :
    3 ≤ (cStr "duration>=8".toList).length ∧
      get_operator_pos (cStr "duration>=8".toList) ≠ .overread ∧
      ∃ field op value, IsRule (cStr "duration>=8".toList) field op value := by
  have hlen : 3 ≤ (cStr "duration>=8".toList).length := by decide
  obtain ⟨hread, hfound, -⟩ := get_operator_pos_iff scanner staticMaps ⟨10, 0⟩ "duration>=8" hlen
  exact ⟨hlen, hread, hfound.mp ⟨8, 2, by decide⟩⟩

end Yeti.Hash
