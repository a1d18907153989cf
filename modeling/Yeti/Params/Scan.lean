import Yeti.Params.Replacer

/-! # The scan as a sequence of steps

    What one iteration of `replaceParameters` can do: it reads behind the template, it
    goes forward without a recursive call, or it expands the content of a bracket that is
    shorter than the rest of the template.  `run` does therefore not depend on its bound,
    and `scan` satisfies the equations of the loop.
-/

namespace Yeti.Params

/-! ### Results -/

@[simp] theorem ok_bind {ε α β : Type} (a : α) (f : α → Except ε β) : (.ok a >>= f) = f a := rfl

@[simp] theorem error_bind {ε α β : Type} (e : ε) (f : α → Except ε β) :
    ((.error e : Except ε α) >>= f) = .error e := rfl

/-- The computation ends without a fault. -/
def Returns {α : Type} (r : Except Fault α) : Prop := ∃ a, r = .ok a

theorem returns_ok {α : Type} (a : α) : Returns (.ok a) := ⟨a, rfl⟩

theorem returns_bind {α β : Type} {r : Except Fault α} {f : α → Except Fault β}
    (hr : Returns r) (hf : ∀ a, Returns (f a)) : Returns (r >>= f) := by
  obtain ⟨a, rfl⟩ := hr
  exact hf a

theorem returns_ite {α : Type} {c : Prop} [Decidable c] {r r' : Except Fault α}
    (ht : c → Returns r) (he : ¬c → Returns r') : Returns (if c then r else r') := by
  by_cases hc : c
  · rw [if_pos hc]
    exact ht hc
  · rw [if_neg hc]
    exact he hc

/-! ### Reading the template -/

theorem charAt_of_lt {s : List Char} {i : Nat} (h : i < s.length) : charAt s i = .ok s[i] := by
  rw [charAt, dif_pos h]

theorem charAt_of_getElem? {s : List Char} {i : Nat} {c : Char} (h : s[i]? = some c) :
    charAt s i = .ok c := by
  obtain ⟨hi, rfl⟩ := List.getElem?_eq_some_iff.mp h
  exact charAt_of_lt hi

theorem charAt_length (s : List Char) : charAt s s.length = .ok '\x00' := by
  rw [charAt, dif_neg (Nat.lt_irrefl _), if_pos rfl]

theorem charAt_beyond {s : List Char} {i : Nat} (h : s.length < i) :
    charAt s i = .error .out_of_range := by
  rw [charAt, dif_neg (by omega), if_neg (by omega)]

theorem charAt_returns {s : List Char} {i : Nat} (h : i ≤ s.length) : Returns (charAt s i) := by
  rcases Nat.lt_or_eq_of_le h with hlt | rfl
  · exact ⟨_, charAt_of_lt hlt⟩
  · exact ⟨_, charAt_length s⟩

theorem substr_of_le {s : List Char} {pos : Nat} (count : Nat) (h : pos ≤ s.length) :
    substr s pos count = .ok ((s.drop pos).take count) := by
  rw [substr, if_pos h]

theorem substr_returns {s : List Char} {pos : Nat} (count : Nat) (h : pos ≤ s.length) :
    Returns (substr s pos count) :=
  ⟨_, substr_of_le count h⟩

/-! ### Branches without a recursive call -/

variable {L : Library} {env : Env} {rec : List Char → St → Except Fault (List Char × St)}
  {s : List Char} {p : Nat} {st : St}

theorem replaceParsedParam_returns (parsed : AmUriParser) (hp : p < s.length) :
    Returns (replaceParsedParam L s p parsed) := by
  unfold replaceParsedParam
  refine returns_bind (charAt_returns (by omega)) fun c => returns_ite (fun hc => ?_) fun _ =>
    returns_ok _
  have hlen : p + 3 < s.length := hc.2
  refine returns_bind (charAt_returns (by omega)) fun b => returns_ite (fun _ => ?_) fun _ =>
    returns_ok _
  refine returns_ite (fun _ => returns_ok _) fun _ => ?_
  refine returns_bind (substr_returns _ (by omega)) fun name => returns_ite (fun _ => returns_ok _)
    fun _ => ?_
  cases L.parse_gen_params parsed.uri_param with
  | none => exact returns_ok _
  | some params => exact returns_ok _

theorem case_address_returns (k : Address) (hp : p < s.length) :
    Returns (case_address L env k s p st) := by
  unfold case_address
  refine returns_ite (fun _ => returns_ok _) fun _ => ?_
  refine returns_bind (charAt_returns (by omega)) fun c => returns_ite (fun _ => returns_ok _)
    fun _ => returns_ite (fun _ => returns_ok _) fun _ => returns_ite (fun _ => ?_) fun _ =>
    returns_ok _
  exact returns_bind (replaceParsedParam_returns _ hp) fun _ => returns_ok _

theorem case_c_returns (hp : p < s.length) : Returns (case_c env s p st) := by
  unfold case_c
  refine returns_ite (fun _ => returns_ok _) fun _ => ?_
  exact returns_bind (charAt_returns (by omega)) fun _ => returns_ok _

theorem case_letter_returns (value : Char → List Char) (hp : p < s.length) :
    Returns (case_letter value s p st) := by
  unfold case_letter
  refine returns_ite (fun _ => returns_ok _) fun _ => ?_
  exact returns_bind (charAt_returns (by omega)) fun _ => returns_ok _

theorem case_d_returns (hp : p < s.length) : Returns (case_d L env s p st) := by
  unfold case_d
  refine returns_ite (fun _ => returns_ok _) fun _ => returns_ite (fun _ => ?_) fun _ =>
    returns_ite (fun _ => case_letter_returns _ hp) fun _ => returns_ok _
  match L.parse_next_hop env.next_hop with
  | none => exact returns_ok _
  | some [] => exact returns_ok _
  | some (dest :: _) => exact case_letter_returns _ hp

theorem case_HDR_returns (hdr_name : List Char) (hp : p < s.length) :
    Returns (case_HDR L env hdr_name s p st) := by
  unfold case_HDR
  refine returns_ite (fun _ => returns_ok _) fun _ => ?_
  refine returns_bind (charAt_returns (by omega)) fun c => returns_ite (fun _ => returns_ok _)
    fun _ => returns_ite (fun _ => returns_ite (fun _ => returns_ok _) fun _ => ?_) fun _ =>
    returns_ok _
  exact returns_bind (replaceParsedParam_returns _ hp) fun _ => returns_ok _

theorem case_P_returns (hp : p < s.length) : Returns (case_P L env s p st) := by
  unfold case_P
  refine returns_bind (charAt_returns (by omega)) fun c => returns_ite (fun _ => returns_ok _)
    fun _ => returns_ite (fun _ => returns_ok _) fun hlen => ?_
  refine returns_ite (fun _ => returns_ok _) fun _ => ?_
  exact returns_bind (substr_returns _ (by omega)) fun _ => returns_ok _

theorem case_H_named_returns {name_offset : Nat} (hp : p + name_offset ≤ s.length)
    (hoff : 0 < name_offset) : Returns (case_H_named L env name_offset s p st) := by
  unfold case_H_named
  refine returns_ite (fun _ => returns_ok _) fun _ => returns_ite (fun _ => returns_ok _)
    fun _ => ?_
  refine returns_bind (substr_returns _ (by omega)) fun hdr_name =>
    returns_ite (fun _ => returns_ok _) fun _ => ?_
  refine returns_bind (charAt_returns (by omega)) fun c => returns_ite (fun _ => returns_ok _)
    fun _ => returns_ite (fun _ => ?_) fun _ => returns_ok _
  exact returns_bind (replaceParsedParam_returns _ (by omega)) fun _ => returns_ok _

/-- `$H` looks two characters ahead: it needs one character behind its letter. -/
theorem case_H_returns (hp : p + 1 < s.length) : Returns (case_H L env s p st) := by
  unfold case_H
  rw [charAt_of_lt hp, ok_bind]
  refine returns_ite (fun hc => ?_) fun hc => case_H_named_returns (by omega) (by omega)
  by_cases hnext : p + 2 < s.length
  · rw [charAt_of_lt hnext, ok_bind]
    exact returns_ite (fun _ => returns_ok _) fun _ => case_H_named_returns (by omega) (by omega)
  · -- the terminating zero is read: it is not the letter that is looked for
    have hend : p + 2 = s.length := by omega
    rw [hend, charAt_length, ok_bind, if_pos (by decide)]
    exact returns_ok _

theorem case_H_overreads (hp : p + 1 = s.length) :
    case_H L env s p st = .error .out_of_range := by
  unfold case_H
  rw [hp, charAt_length, ok_bind, if_pos (by decide), charAt_beyond (by omega), error_bind]

theorem case_unknown_returns (hp : p < s.length) : Returns (case_unknown s p st) := by
  unfold case_unknown
  exact returns_bind (charAt_returns (by omega)) fun _ => returns_ok _

/-! ### Branches with a recursive call -/

/-- Where the bracket content of `$_o(...)` and `$#(...)` starts; `p` is the position of the
    letter. -/
def contentStart (s : List Char) (p : Nat) : Option Nat :=
  if s[p]? = some '_' ∧ s[p + 2]? = some '(' ∧ p + 4 ≤ s.length then some (p + 3)
  else if s[p]? = some '#' ∧ s[p + 1]? = some '(' ∧ p + 3 ≤ s.length then some (p + 2)
  else none

/-- The content that is expanded by a recursive call. -/
def bracketContent (L : Library) (s : List Char) (p : Nat) : Option (List Char) :=
  (contentStart s p).bind fun start =>
    if L.skip_to_end_of_brackets s start = s.length then none
    else some ((s.drop start).take (L.skip_to_end_of_brackets s start - start))

/-- What becomes of the expanded content of `$_o(...)`. -/
def applied (L : Library) (operation : Char) (skip_chars : Nat) (r : List Char × St) :
    Except Fault Step := do
  let m ← modify L operation r.1 r.2.draws
  .ok { out := m.1, skip_chars := skip_chars, st := { r.2 with draws := m.2 } }

/-- What becomes of the expanded content of `$#(...)`. -/
def encoded (skip_chars : Nat) (r : List Char × St) : Except Fault Step :=
  .ok { out := url_encode r.1, skip_chars := skip_chars, st := r.2 }

theorem case_modify_short (h : s.length < p + 4) :
    case_modify L rec s p st = .ok { st := st } := by
  unfold case_modify
  rw [if_pos h]

theorem case_modify_eq (h : p + 4 ≤ s.length) :
    case_modify L rec s p st =
      if s[p + 2] ≠ '(' then .ok { st := st }
      else
        let skip_p := L.skip_to_end_of_brackets s (p + 3)
        if skip_p = s.length then .ok { skip_chars := skip_p - p, st := st }
        else rec ((s.drop (p + 3)).take (skip_p - (p + 3))) st >>=
          applied L s[p + 1] (skip_p - p) := by
  unfold case_modify
  rw [if_neg (by omega), charAt_of_lt (i := p + 1) (by omega),
    charAt_of_lt (i := p + 2) (by omega), ok_bind, ok_bind]
  have hstart : p + 3 ≤ s.length := by omega
  simp only [substr_of_le _ hstart, ok_bind, Nat.sub_sub]
  rfl

theorem case_url_encode_eq (h : p + 3 ≤ s.length) :
    case_url_encode L rec s p st =
      if s[p + 1] ≠ '(' then .ok { st := st }
      else
        let skip_p := L.skip_to_end_of_brackets s (p + 2)
        if skip_p = s.length then .ok { skip_chars := skip_p - p, st := st }
        else rec ((s.drop (p + 2)).take (skip_p - (p + 2))) st >>= encoded (skip_p - p) := by
  unfold case_url_encode
  rw [charAt_of_lt (i := p + 1) (by omega), ok_bind, if_neg (by omega : ¬s.length < p + 3)]
  have hstart : p + 2 ≤ s.length := by omega
  simp only [substr_of_le _ hstart, ok_bind, Nat.sub_sub]
  rfl

theorem case_url_encode_short (h : s.length < p + 3) (hp : p < s.length) :
    case_url_encode L rec s p st = .ok { st := st } := by
  unfold case_url_encode
  obtain ⟨c, hc⟩ := charAt_returns (s := s) (i := p + 1) (by omega)
  rw [hc, ok_bind, if_pos h, ite_self]

theorem random_cases (br_str : List Char) (draws : Nat) :
    Returns (random L br_str draws) ∨ random L br_str draws = .error .division_by_zero := by
  unfold random
  cases L.str2int br_str with
  | none => exact .inl (returns_ok _)
  | some r_max =>
    by_cases hzero : r_max = 0
    · exact .inr (if_pos hzero)
    · exact .inl ⟨_, if_neg hzero⟩

theorem modify_returns {operation : Char} (h : operation ≠ 'r') (br_str : List Char)
    (draws : Nat) : Returns (modify L operation br_str draws) := by
  unfold modify
  rw [if_neg h]
  split_ifs <;> exact returns_ok _

/-- A fault in the work on expanded content is a division by zero. -/
theorem applied_cases (operation : Char) (skip_chars : Nat) (r : List Char × St) :
    Returns (applied L operation skip_chars r) ∨
      applied L operation skip_chars r = .error .division_by_zero := by
  have hmodify : Returns (modify L operation r.1 r.2.draws) ∨
      modify L operation r.1 r.2.draws = .error .division_by_zero := by
    by_cases hr : operation = 'r'
    · subst hr
      exact random_cases r.1 r.2.draws
    · exact .inl (modify_returns hr _ _)
  rcases hmodify with hm | hm
  · exact .inl (returns_bind hm fun _ => returns_ok _)
  · refine .inr ?_
    rw [applied, hm, error_bind]

/-! ### One placeholder -/

/-- The placeholder with its letter at `p` is read within the template. -/
def InBounds (s : List Char) (p : Nat) : Prop :=
  p < s.length ∧ ¬(s[p]? = some 'H' ∧ p + 1 = s.length)

/-- What the computation of a step does with its recursive call: it reads behind the
    template, it makes no call, or the result of its only call, on `br`, is handed on. -/
inductive Evaluates {β : Type} (good : β → Prop) (overreads : Prop) (br : Option (List Char))
    (size : Nat) (st : St) (f : (List Char → St → Except Fault (List Char × St)) → Except Fault β) :
    Prop where
  | overread (hover : overreads) (h : ∀ rec, f rec = .error .out_of_range)
  | plain (hover : ¬overreads) (hbr : br = none) (b : β) (hb : good b) (h : ∀ rec, f rec = .ok b)
  | nested (hover : ¬overreads) (content : List Char) (hbr : br = some content)
      (hsize : content.length < size) (finish : List Char × St → Except Fault β)
      (hfinish : ∀ r, (∃ b, finish r = .ok b ∧ good b) ∨ finish r = .error .division_by_zero)
      (h : ∀ rec, f rec = rec content st >>= finish)

theorem placeholder_of_char {c : Char} (hc : s[p]? = some c) (h_ : c ≠ '_') (hurl : c ≠ '#')
    (rec' : List Char → St → Except Fault (List Char × St)) :
    placeholder L env rec s p st = placeholder L env rec' s p st := by
  unfold placeholder
  simp only [charAt_of_getElem? hc, ok_bind, if_neg h_, if_neg hurl]

theorem placeholder_modify (hc : s[p]? = some '_') :
    placeholder L env rec s p st = case_modify L rec s p st := by
  unfold placeholder
  rw [charAt_of_getElem? hc, ok_bind]
  rfl

theorem placeholder_url_encode (hc : s[p]? = some '#') :
    placeholder L env rec s p st = case_url_encode L rec s p st := by
  unfold placeholder
  rw [charAt_of_getElem? hc, ok_bind]
  rfl

/-- The terminating zero is no letter of a placeholder. -/
theorem placeholder_end : placeholder L env rec s s.length st = .error .out_of_range := by
  unfold placeholder
  have hunknown : case_unknown s s.length st = .error .out_of_range := by
    rw [case_unknown, charAt_beyond (by omega), error_bind]
  rw [charAt_length, ok_bind, ← hunknown]
  rfl

theorem placeholder_H_end (hc : s[p]? = some 'H') (hp : p + 1 = s.length) :
    placeholder L env rec s p st = .error .out_of_range := by
  unfold placeholder
  have hH : case_H L env s p st = .error .out_of_range := case_H_overreads hp
  rw [charAt_of_getElem? hc, ok_bind, ← hH]
  rfl

/-- The letters without a bracket content of their own. -/
theorem placeholder_returns (hb : InBounds s p) (hc : s[p]? ≠ some '_') (hurl : s[p]? ≠ some '#') :
    Returns (placeholder L env rec s p st) := by
  obtain ⟨hp, hH⟩ := hb
  have hget : s[p]? = some s[p] := List.getElem?_eq_getElem hp
  rw [hget] at hc hurl hH
  unfold placeholder
  rw [charAt_of_lt hp, ok_bind]
  -- the cases of the switch, in its order
  refine returns_ite (fun _ => case_address_returns _ hp) fun _ => ?_
  refine returns_ite (fun _ => case_address_returns _ hp) fun _ => ?_
  refine returns_ite (fun _ => case_address_returns _ hp) fun _ => ?_
  refine returns_ite (fun _ => case_c_returns hp) fun _ => ?_
  refine returns_ite (fun _ => case_letter_returns _ hp) fun _ => ?_
  refine returns_ite (fun _ => case_d_returns hp) fun _ => ?_
  refine returns_ite (fun _ => case_letter_returns _ hp) fun _ => ?_
  refine returns_ite (fun _ => case_letter_returns _ hp) fun _ => ?_
  refine returns_ite (fun _ => case_HDR_returns _ hp) fun _ => ?_
  refine returns_ite (fun _ => case_HDR_returns _ hp) fun _ => ?_
  refine returns_ite (fun _ => case_P_returns hp) fun _ => ?_
  refine returns_ite (fun h => case_H_returns ?_) fun _ => ?_
  · have hend : p + 1 ≠ s.length := fun hend => hH ⟨congrArg some h, hend⟩
    omega
  refine returns_ite (fun h => absurd (congrArg some h) hc) fun _ => ?_
  refine returns_ite (fun _ => returns_ok _) fun _ => ?_
  exact returns_ite (fun h => absurd (congrArg some h) hurl) fun _ => case_unknown_returns hp

theorem bracketContent_none (h : contentStart s p = none) : bracketContent L s p = none := by
  rw [bracketContent, h, Option.bind_none]

theorem bracketContent_some {start : Nat} (h : contentStart s p = some start) :
    bracketContent L s p =
      if L.skip_to_end_of_brackets s start = s.length then none
      else some ((s.drop start).take (L.skip_to_end_of_brackets s start - start)) := by
  rw [bracketContent, h, Option.bind_some]

theorem length_content_lt (hL : L.SkipsWithin) {start : Nat} (hstart : start ≤ s.length)
    (hp : p < start) :
    ((s.drop start).take (L.skip_to_end_of_brackets s start - start)).length < s.length - p := by
  have hlen := List.length_take_le (L.skip_to_end_of_brackets s start - start) (s.drop start)
  have hbound := (hL s start hstart).2
  omega

/-- A bracketed placeholder expands its content, unless the bracket is not closed. -/
theorem evaluates_bracket (hL : L.SkipsWithin) {start : Nat}
    (hcontent : contentStart s p = some start) (hstart : start ≤ s.length) (hp : p < start)
    {beyond : Prop} (hover : ¬beyond) {finish : List Char × St → Except Fault Step}
    (hfinish : ∀ r, Returns (finish r) ∨ finish r = .error .division_by_zero)
    {f : (List Char → St → Except Fault (List Char × St)) → Except Fault Step} {step : Step}
    (hf : ∀ rec, f rec =
      if L.skip_to_end_of_brackets s start = s.length then .ok step
      else rec ((s.drop start).take (L.skip_to_end_of_brackets s start - start)) st >>= finish) :
    Evaluates (fun _ => True) beyond (bracketContent L s p) (s.length - p) st f := by
  have hbr := bracketContent_some (L := L) hcontent
  by_cases hend : L.skip_to_end_of_brackets s start = s.length
  · -- an open bracket is skipped to the end of the template
    rw [if_pos hend] at hbr
    refine .plain hover hbr step trivial fun rec => ?_
    rw [hf, if_pos hend]
  · rw [if_neg hend] at hbr
    refine .nested hover _ hbr (length_content_lt hL hstart hp) finish ?_ fun rec => ?_
    · intro r
      rcases hfinish r with ⟨b, hb⟩ | hdiv
      · exact .inl ⟨b, hb, trivial⟩
      · exact .inr hdiv
    · rw [hf, if_neg hend]

theorem case_modify_evaluates (hL : L.SkipsWithin) (hc : s[p]? = some '_') {beyond : Prop}
    (hover : ¬beyond) :
    Evaluates (fun _ => True) beyond (bracketContent L s p) (s.length - p) st
      fun rec => case_modify L rec s p st := by
  by_cases hlen : p + 4 ≤ s.length
  · have hget : s[p + 2]? = some s[p + 2] := List.getElem?_eq_getElem (by omega)
    by_cases hopen : s[p + 2] = '('
    · have hstart : contentStart s p = some (p + 3) := by
        rw [contentStart, if_pos ⟨hc, by rw [hget, hopen], hlen⟩]
      have hf : ∀ rec, case_modify L rec s p st =
          if L.skip_to_end_of_brackets s (p + 3) = s.length then
            .ok { skip_chars := L.skip_to_end_of_brackets s (p + 3) - p, st := st }
          else rec ((s.drop (p + 3)).take (L.skip_to_end_of_brackets s (p + 3) - (p + 3))) st >>=
            applied L s[p + 1] (L.skip_to_end_of_brackets s (p + 3) - p) := by
        intro rec
        rw [case_modify_eq hlen, if_neg (not_not_intro hopen)]
      exact evaluates_bracket hL hstart (by omega) (by omega) hover (applied_cases _ _) hf
    · have hnone : contentStart s p = none := by
        unfold contentStart
        rw [hget, hc, if_neg (by simp [hopen]), if_neg (by simp)]
      refine .plain hover (bracketContent_none hnone) { st := st } trivial fun rec => ?_
      rw [case_modify_eq hlen, if_pos hopen]
  · have hnone : contentStart s p = none := by
      unfold contentStart
      rw [if_neg (fun h => hlen h.2.2), hc, if_neg (by simp)]
    exact .plain hover (bracketContent_none hnone) { st := st } trivial
      fun rec => case_modify_short (by omega)

theorem case_url_encode_evaluates (hL : L.SkipsWithin) (hc : s[p]? = some '#') {beyond : Prop}
    (hover : ¬beyond) :
    Evaluates (fun _ => True) beyond (bracketContent L s p) (s.length - p) st
      fun rec => case_url_encode L rec s p st := by
  have hp : p < s.length := (List.getElem?_eq_some_iff.mp hc).1
  by_cases hlen : p + 3 ≤ s.length
  · have hget : s[p + 1]? = some s[p + 1] := List.getElem?_eq_getElem (by omega)
    by_cases hopen : s[p + 1] = '('
    · have hstart : contentStart s p = some (p + 2) := by
        unfold contentStart
        rw [if_neg (by simp [hc]), if_pos ⟨hc, by rw [hget, hopen], hlen⟩]
      have hf : ∀ rec, case_url_encode L rec s p st =
          if L.skip_to_end_of_brackets s (p + 2) = s.length then
            .ok { skip_chars := L.skip_to_end_of_brackets s (p + 2) - p, st := st }
          else rec ((s.drop (p + 2)).take (L.skip_to_end_of_brackets s (p + 2) - (p + 2))) st >>=
            encoded (L.skip_to_end_of_brackets s (p + 2) - p) := by
        intro rec
        rw [case_url_encode_eq hlen, if_neg (not_not_intro hopen)]
      exact evaluates_bracket hL hstart (by omega) (by omega) hover
        (fun r => .inl (returns_ok _)) hf
    · have hnone : contentStart s p = none := by
        unfold contentStart
        rw [if_neg (by simp [hc]), hget, if_neg (by simp [hopen])]
      refine .plain hover (bracketContent_none hnone) { st := st } trivial fun rec => ?_
      rw [case_url_encode_eq hlen, if_pos hopen]
  · have hnone : contentStart s p = none := by
      unfold contentStart
      rw [if_neg (by simp [hc]), if_neg (fun h => hlen h.2.2)]
    exact .plain hover (bracketContent_none hnone) { st := st } trivial
      fun rec => case_url_encode_short (by omega) hp

/-- What a placeholder can do. -/
theorem placeholder_cases (env : Env) (st : St) (hL : L.SkipsWithin) (hp : p ≤ s.length) :
    Evaluates (fun _ => True) (¬InBounds s p) (bracketContent L s p) (s.length - p) st
      fun rec => placeholder L env rec s p st := by
  by_cases hb : InBounds s p
  · have hover := not_not_intro hb
    by_cases hc : s[p]? = some '_'
    · simp only [placeholder_modify hc]
      exact case_modify_evaluates hL hc hover
    by_cases hurl : s[p]? = some '#'
    · simp only [placeholder_url_encode hurl]
      exact case_url_encode_evaluates hL hurl hover
    · -- no other letter makes a recursive call, so any `rec` shows what it does
      have hreturns : Returns (placeholder L env (fun _ _ => .error .unfinished) s p st) :=
        placeholder_returns hb hc hurl
      obtain ⟨step, hstep⟩ := hreturns
      have hnone : contentStart s p = none := by
        unfold contentStart
        rw [if_neg (fun h => hc h.1), if_neg (fun h => hurl h.1)]
      have hlt : p < s.length := hb.1
      have hget : s[p]? = some s[p] := List.getElem?_eq_getElem hlt
      rw [hget] at hc hurl
      refine .plain hover (bracketContent_none hnone) step trivial fun rec => ?_
      rw [← hstep]
      exact placeholder_of_char hget (fun h => hc (congrArg some h))
        (fun h => hurl (congrArg some h)) _
  · -- either the letter is missing, or what is behind an `H`
    refine .overread hb fun rec => ?_
    by_cases hlt : p < s.length
    · have hH : s[p]? = some 'H' ∧ p + 1 = s.length := by
        by_contra hcontra
        exact hb ⟨hlt, hcontra⟩
      exact placeholder_H_end hH.1 hH.2
    · have hend : p = s.length := by omega
      subst hend
      exact placeholder_end

/-! ### One iteration -/

variable {k : Cursor}

/-- The scan is at a placeholder. -/
def AtPlaceholder (s : List Char) (k : Cursor) : Prop :=
  k.is_escaped = false ∧ s[k.p]? = some '$'

/-- The scan is at a placeholder that is not read within the template. -/
def Overreads (s : List Char) (k : Cursor) : Prop :=
  AtPlaceholder s k ∧ ¬InBounds s (k.p + 1)

/-- The bracket content that the next iteration expands. -/
def nextContent (L : Library) (s : List Char) (k : Cursor) : Option (List Char) :=
  if k.is_escaped = false ∧ s[k.p]? = some '$' then bracketContent L s (k.p + 1) else none

/-- The loop's variables behind a placeholder. -/
def Cursor.after (k : Cursor) (step : Step) : Cursor where
  p := k.p + 1 + step.skip_chars + 1
  is_escaped := false
  res := k.res ++ step.out
  st := step.st

/-- The loop's variables behind a character that is no placeholder. -/
def Cursor.pass (s : List Char) (k : Cursor) (c : Char) : Cursor :=
  if k.is_escaped then
    { k with p := k.p + 1, is_escaped := false, res := k.res ++ [escape c] }
  else if c = '\\' then
    if k.p = s.length - 1 then { k with p := k.p + 1, res := k.res ++ ['\\'] }
    else { k with p := k.p + 1, is_escaped := true }
  else { k with p := k.p + 1, res := k.res ++ [c] }

theorem Cursor.pass_p (c : Char) : (k.pass s c).p = k.p + 1 := by
  unfold Cursor.pass
  split_ifs <;> rfl

theorem iteration_placeholder (h : AtPlaceholder s k) :
    iteration L env rec s k =
      placeholder L env rec s (k.p + 1) k.st >>= fun step => .ok (k.after step) := by
  obtain ⟨hesc, hget⟩ := h
  have hp : k.p < s.length := (List.getElem?_eq_some_iff.mp hget).1
  unfold iteration
  rw [charAt_of_getElem? hget, ok_bind, hesc, if_neg (by decide), if_neg (by decide),
    if_pos ⟨rfl, hp⟩]
  rfl

theorem iteration_pass (hp : k.p < s.length) (h : ¬AtPlaceholder s k) :
    iteration L env rec s k = .ok (k.pass s s[k.p]) := by
  have hdollar : k.is_escaped = false → s[k.p] ≠ '$' := by
    intro hesc hchar
    exact h ⟨hesc, by rw [List.getElem?_eq_getElem hp, hchar]⟩
  unfold iteration Cursor.pass
  rw [charAt_of_lt hp, ok_bind]
  cases hesc : k.is_escaped with
  | true => simp
  | false =>
    have hchar := hdollar hesc
    simp only [Bool.false_eq_true, if_false, hchar, false_and]
    split_ifs <;> rfl

/-- What an iteration can do. -/
theorem iteration_cases (env : Env) (hL : L.SkipsWithin) (hp : k.p < s.length) :
    Evaluates (fun k' => k.p < k'.p) (Overreads s k) (nextContent L s k) (s.length - k.p) k.st
      fun rec => iteration L env rec s k := by
  by_cases hat : AtPlaceholder s k
  · have hnext : nextContent L s k = bracketContent L s (k.p + 1) := if_pos hat
    have hprogress : ∀ step, k.p < (k.after step).p := by
      intro step
      show k.p < k.p + 1 + step.skip_chars + 1
      omega
    simp only [iteration_placeholder hat]
    cases placeholder_cases env k.st hL (Nat.succ_le_of_lt hp) with
    | overread hover h =>
      refine .overread ⟨hat, hover⟩ fun rec => ?_
      rw [show placeholder L env rec s (k.p + 1) k.st = _ from h rec, error_bind]
    | plain hover hbr step _ h =>
      refine .plain (fun ho => hover ho.2) (hnext.trans hbr) (k.after step) (hprogress step)
        fun rec => ?_
      rw [show placeholder L env rec s (k.p + 1) k.st = _ from h rec, ok_bind]
    | nested hover content hbr hsize finish hfinish h =>
      refine .nested (fun ho => hover ho.2) content (hnext.trans hbr) (by omega)
        (fun r => finish r >>= fun step => .ok (k.after step)) (fun r => ?_) fun rec => ?_
      · rcases hfinish r with ⟨step, hstep, -⟩ | hdiv
        · exact .inl ⟨k.after step, by rw [hstep, ok_bind], hprogress step⟩
        · exact .inr (by rw [hdiv, error_bind])
      · rw [show placeholder L env rec s (k.p + 1) k.st = _ from h rec, bind_assoc]
  · refine .plain (fun ho => hat ho.1) (if_neg hat) (k.pass s s[k.p]) ?_ fun rec =>
      iteration_pass hp hat
    rw [Cursor.pass_p]
    omega

/-! ### The loop -/

theorem run_done {n : Nat} (hp : ¬k.p < s.length) :
    run L env (n + 1) s k = .ok (k.res, k.st) := by
  rw [run, if_neg hp]

theorem run_step {n : Nat} (hp : k.p < s.length) :
    run L env (n + 1) s k =
      iteration L env (fun br st => run L env n br { st := st }) s k >>= run L env n s := by
  rw [run, if_pos hp]

/-- Enough fuel is enough: the bound on the steps does not show in the result. -/
theorem run_fuel (hL : L.SkipsWithin) {n m : Nat} (hn : s.length - k.p < n)
    (hm : s.length - k.p < m) : run L env n s k = run L env m s k := by
  induction n generalizing m s k with
  | zero => omega
  | succ n ih =>
    obtain ⟨m, rfl⟩ : ∃ m', m = m' + 1 := ⟨m - 1, by omega⟩
    by_cases hp : k.p < s.length
    · rw [run_step hp, run_step hp]
      cases iteration_cases env hL hp with
      | overread hover h =>
        rw [h (fun br st => run L env n br { st := st }),
          h (fun br st => run L env m br { st := st }),
          error_bind, error_bind]
      | plain hover hbr k' hk' h =>
        rw [h (fun br st => run L env n br { st := st }),
          h (fun br st => run L env m br { st := st }),
          ok_bind, ok_bind]
        exact ih (by omega) (by omega)
      | nested hover content hbr hsize finish hfinish h =>
        -- the content is shorter than the rest of the template, so its bounds suffice as well
        have hcontent : run L env n content { st := k.st } = run L env m content { st := k.st } :=
          ih (by show content.length - 0 < n; omega) (by show content.length - 0 < m; omega)
        rw [h (fun br st => run L env n br { st := st }),
          h (fun br st => run L env m br { st := st }),
          hcontent]
        cases run L env m content { st := k.st } with
        | error f => rfl
        | ok r =>
          rw [ok_bind]
          rcases hfinish r with ⟨k', hk', hprogress⟩ | hdiv
          · rw [hk', ok_bind, ok_bind]
            exact ih (by omega) (by omega)
          · rw [hdiv, error_bind, error_bind]
    · rw [run_done hp, run_done hp]

/-- The loop of `replaceParameters` from a state of its variables on. -/
def scan (L : Library) (env : Env) (s : List Char) (k : Cursor) : Except Fault (List Char × St) :=
  run L env (s.length + 1) s k

theorem replaceParameters_eq_scan :
    replaceParameters L env s st = scan L env s { st := st } := rfl

theorem scan_done (hp : ¬k.p < s.length) : scan L env s k = .ok (k.res, k.st) := run_done hp

/-- The equation of the loop. -/
theorem scan_step (hL : L.SkipsWithin) (hp : k.p < s.length) :
    scan L env s k = iteration L env (replaceParameters L env) s k >>= scan L env s := by
  rw [scan, run_step hp]
  cases iteration_cases env hL hp with
  | overread hover h =>
    rw [h (replaceParameters L env), h (fun br st => run L env s.length br { st := st })]
    rfl
  | plain hover hbr k' hk' h =>
    rw [h (replaceParameters L env), h (fun br st => run L env s.length br { st := st }), ok_bind,
      ok_bind]
    exact run_fuel hL (by omega) (by omega)
  | nested hover content hbr hsize finish hfinish h =>
    have hcontent : run L env s.length content { st := k.st } =
        replaceParameters L env content k.st :=
      run_fuel hL (by show content.length - 0 < s.length; omega)
        (by show content.length - 0 < content.length + 1; omega)
    rw [h (replaceParameters L env), h (fun br st => run L env s.length br { st := st }), hcontent]
    cases replaceParameters L env content k.st with
    | error f => rfl
    | ok r =>
      rw [ok_bind]
      rcases hfinish r with ⟨k', hk', hprogress⟩ | hdiv
      · rw [hk', ok_bind, ok_bind]
        exact run_fuel hL (by omega) (by omega)
      · rw [hdiv]
        rfl

end Yeti.Params
