import Yeti.Params.Parts

/-! # Composition of templates

    A template that is written from tokens is scanned token by token, each giving its own
    value, exactly under the condition `AllClean`.  The scan is followed by induction on the
    tokens; the content of a bracket is a template of its own, expanded from the parsers that
    the tokens in front of it have left.
-/

namespace Yeti.Params

variable {L : Library} {env : Env} {s rest : List Char} {k k' : Cursor} {st st₀ : St}
  {seen : Address → Bool}

/-! ### Characters and escapes -/

theorem iterations_one :
    iterations L env s 1 k = iteration L env (replaceParameters L env) s k := by
  show (iteration L env (replaceParameters L env) s k >>= fun k => .ok k) = _
  cases iteration L env (replaceParameters L env) s k with
  | error f => rfl
  | ok k => rfl

/-- What the scan has to do at a token, and what it leaves. -/
structure Expands (L : Library) (env : Env) (st₀ : St) (s : List Char) (t : Token)
    (rest : List Char) (seen : Address → Bool) (k : Cursor) : Prop where
  follows_iff : (t.InnerFollows L env st₀ k.st ∧ ∃ k', Follows L env st₀ s t rest k k') ↔
    t.Clean L env st₀ rest seen k.st.draws
  tracks : ∀ k', t.InnerFollows L env st₀ k.st → Follows L env st₀ s t rest k k' →
    Tracks L env st₀ (t.see env seen) k'.st
  scan : ∀ k', Follows L env st₀ s t rest k k' → scan L env s k = scan L env s k'

/-- The state behind the only possible result of the iterations. -/
theorem follows_unique {t : Token} {k₁ k₂ : Cursor} (h : Follows L env st₀ s t rest k k₁)
    (h₂ : iterations L env s t.steps k = .ok k₂) : k₁ = k₂ :=
  Except.ok.inj (h.steps.symm.trans h₂)

theorem iteration_literal (L : Library) (env : Env) {c : Char} (hesc : k.is_escaped = false)
    (hback : c ≠ '\\') (hdollar : c ≠ '$') (hdrop : s.drop k.p = c :: rest) :
    iteration L env (replaceParameters L env) s k =
      .ok { k with p := k.p + 1, res := k.res ++ [c] } := by
  have hget : s[k.p]? = some c := getElem?_of_drop hdrop 0
  obtain ⟨hp, hc⟩ := List.getElem?_eq_some_iff.mp hget
  have hat : ¬AtPlaceholder s k := by
    intro h
    exact hdollar (Option.some.inj (hget.symm.trans h.2))
  rw [iteration_pass hp hat, hc, Cursor.pass, hesc, if_neg (by decide), if_neg hback]

theorem iteration_backslash (L : Library) (env : Env) {c : Char} (hesc : k.is_escaped = false)
    (hdrop : s.drop k.p = '\\' :: c :: rest) :
    iteration L env (replaceParameters L env) s k =
      .ok { k with p := k.p + 1, is_escaped := true } := by
  have hget : s[k.p]? = some '\\' := getElem?_of_drop hdrop 0
  obtain ⟨hp, hc⟩ := List.getElem?_eq_some_iff.mp hget
  have hlength := length_of_drop hdrop (by simp)
  simp only [List.length_cons] at hlength
  have hat : ¬AtPlaceholder s k := by
    intro h
    exact absurd (Option.some.inj (hget.symm.trans h.2)) (by decide)
  rw [iteration_pass hp hat, hc, Cursor.pass, hesc, if_neg (by decide), if_pos rfl,
    if_neg (by omega)]

theorem iteration_escaped {c : Char} (hesc : k.is_escaped = true)
    (hdrop : s.drop k.p = c :: rest) :
    iteration L env (replaceParameters L env) s k =
      .ok { k with p := k.p + 1, is_escaped := false, res := k.res ++ [escape c] } := by
  have hget : s[k.p]? = some c := getElem?_of_drop hdrop 0
  obtain ⟨hp, hc⟩ := List.getElem?_eq_some_iff.mp hget
  have hat : ¬AtPlaceholder s k := by
    intro h
    rw [h.1] at hesc
    cases hesc
  rw [iteration_pass hp hat, hc, Cursor.pass, hesc, if_pos rfl]

theorem lt_of_drop {c : Char} (h : s.drop k.p = c :: rest) : k.p < s.length := by
  have hlength := length_of_drop h (by simp)
  simp only [List.length_cons] at hlength
  omega

theorem literal_expands (hL : L.SkipsWithin) {c : Char} (hesc : k.is_escaped = false)
    (hback : c ≠ '\\') (hdollar : c ≠ '$') (hdrop : s.drop k.p = c :: rest)
    (hT : Tracks L env st₀ seen k.st) : Expands L env st₀ s (.literal c) rest seen k := by
  have hit := iteration_literal L env hesc hback hdollar hdrop
  have hsteps : iterations L env s (Token.literal c).steps k =
      .ok { k with p := k.p + 1, res := k.res ++ [c] } := iterations_one.trans hit
  refine ⟨iff_of_true ⟨trivial, _, hsteps, ?_, hesc, rfl, rfl⟩ trivial, ?_, ?_⟩
  · exact drop_add_of_drop hdrop 1
  · intro k' _ hf
    rw [follows_unique hf hsteps]
    exact hT
  · intro k' hf
    rw [follows_unique hf hsteps, scan_step hL (lt_of_drop hdrop), hit, ok_bind]

theorem escaped_expands (hL : L.SkipsWithin) {c : Char} (hesc : k.is_escaped = false)
    (hdrop : s.drop k.p = '\\' :: c :: rest) (hT : Tracks L env st₀ seen k.st) :
    Expands L env st₀ s (.escaped c) rest seen k := by
  -- one iteration for the backslash, one for the character behind it
  have hfirst := iteration_backslash L env hesc hdrop
  have hnext : s.drop (k.p + 1) = c :: rest := drop_add_of_drop hdrop 1
  have hsecond : iteration L env (replaceParameters L env) s
      { k with p := k.p + 1, is_escaped := true } =
      .ok { k with p := k.p + 2, is_escaped := false, res := k.res ++ [escape c] } :=
    iteration_escaped rfl hnext
  have hsteps : iterations L env s (Token.escaped c).steps k =
      .ok { k with p := k.p + 2, is_escaped := false, res := k.res ++ [escape c] } := by
    show (iteration L env (replaceParameters L env) s k >>= iterations L env s 1) = _
    rw [hfirst, ok_bind, iterations_one, hsecond]
  refine ⟨iff_of_true ⟨trivial, _, hsteps, ?_, rfl, rfl, rfl⟩ trivial, ?_, ?_⟩
  · exact drop_add_of_drop hdrop 2
  · intro k' _ hf
    rw [follows_unique hf hsteps]
    exact hT
  · intro k' hf
    have hlt : k.p + 1 < s.length := lt_of_drop (k := { k with p := k.p + 1 }) hnext
    rw [follows_unique hf hsteps, scan_step hL (lt_of_drop hdrop), hfirst, ok_bind,
      scan_step hL hlt, hsecond, ok_bind]

/-! ### Placeholders -/

/-- A placeholder that takes one step to `k.after step`. -/
theorem expands_of_step (hL : L.SkipsWithin) {t : Token} {text : List Char} (hone : t.steps = 1)
    {step : Step} (hdrop : s.drop k.p = '$' :: text) (hesc : k.is_escaped = false)
    (hstep : placeholder L env (replaceParameters L env) s (k.p + 1) k.st = .ok step)
    (hiff : t.InnerFollows L env st₀ k.st ∧
        (s.drop (k.p + 1 + (step.skip_chars + 1)) = rest ∧
          step.out = (t.value L env st₀ k.st.draws).1 ∧
          step.st.draws = (t.value L env st₀ k.st.draws).2) ↔
      t.Clean L env st₀ rest seen k.st.draws)
    (hT : t.InnerFollows L env st₀ k.st → Tracks L env st₀ (t.see env seen) step.st) :
    Expands L env st₀ s t rest seen k := by
  have hat : AtPlaceholder s k := ⟨hesc, getElem?_of_drop hdrop 0⟩
  have hit : iteration L env (replaceParameters L env) s k = .ok (k.after step) := by
    rw [iteration_placeholder hat, hstep, ok_bind]
  have hsteps : iterations L env s t.steps k = .ok (k.after step) := by
    rw [hone, iterations_one, hit]
  refine ⟨?_, ?_, ?_⟩
  · rw [← hiff]
    refine and_congr_right fun _ => ⟨?_, ?_⟩
    · intro ⟨k', hf⟩
      have hk := follows_unique hf hsteps
      subst hk
      exact ⟨hf.text, List.append_cancel_left hf.res, hf.draws⟩
    · intro ⟨htext, hout, hdraws⟩
      refine ⟨_, hsteps, htext, rfl, ?_, hdraws⟩
      show k.res ++ step.out = _
      rw [hout]
  · intro k' hinner hf
    rw [follows_unique hf hsteps]
    exact hT hinner
  · intro k' hf
    rw [follows_unique hf hsteps, scan_step hL (lt_of_drop hdrop), hit, ok_bind]

theorem part_expands (hL : L.SkipsWithin) (hparse : L.ParsesUri) (hprep : Prepared env st₀)
    (l : Part) (hwf : l.WellFormed rest) (hesc : k.is_escaped = false)
    (hdrop : s.drop k.p = '$' :: (l.text ++ rest)) (hT : Tracks L env st₀ seen k.st) :
    Expands L env st₀ s (.part l) rest seen k := by
  obtain ⟨step, hstep⟩ := part_does hparse hprep hT l hwf (drop_add_of_drop hdrop 1)
  refine expands_of_step hL rfl hdrop hesc (hstep.eq _) ?_ fun _ => hstep.tracks
  show True ∧ (_ ∧ step.out = l.value L env st₀ ∧ step.st.draws = k.st.draws) ↔ _
  rw [true_and, and_iff_left hstep.draws]
  exact hstep.exact_iff

/-! ### Brackets -/

/-- What the scan of a list of tokens gives. -/
structure Runs (L : Library) (env : Env) (st₀ : St) (s : List Char) (ts : List Token)
    (seen : Address → Bool) (k : Cursor) : Prop where
  tokenwise_iff : Tokenwise L env st₀ ts s k ↔ AllClean L env st₀ ts seen k.st.draws
  result : Tokenwise L env st₀ ts s k → ∃ st',
    scan L env s k = .ok (k.res ++ (values L env st₀ ts k.st.draws).1, st') ∧
      st'.draws = (values L env st₀ ts k.st.draws).2 ∧ Tracks L env st₀ (seeAll env ts seen) st'

theorem scan_of_follows (hL : L.SkipsWithin) {t : Token} (hone : t.steps = 1)
    (hp : k.p < s.length) (hf : Follows L env st₀ s t rest k k') :
    scan L env s k = scan L env s k' := by
  have hsteps := hf.steps
  rw [hone, iterations_one] at hsteps
  rw [scan_step hL hp, hsteps, ok_bind]

/-- The brackets of a well-formed token close where its content ends. -/
theorem skip_of_drop {content : List Char} {q : Nat} (hclose : Closes L content)
    (h : s.drop q = content ++ ')' :: rest) :
    L.skip_to_end_of_brackets s q = q + content.length := by
  have hlength := length_of_drop h (by simp)
  have hs : s.take q ++ content ++ ')' :: rest = s := by
    rw [List.append_assoc, ← h, List.take_append_drop]
  have hq : (s.take q).length = q := by
    rw [List.length_take]
    omega
  have hskip := hclose (s.take q) rest
  rw [hs, hq] at hskip
  exact hskip

theorem placeholder_modified {operation : Char} {content : List Char}
    (hclose : Closes L content) {p : Nat}
    (hdrop : s.drop p = '_' :: operation :: '(' :: (content ++ ')' :: rest)) :
    placeholder L env (replaceParameters L env) s p st =
      replaceParameters L env content st >>= applied L operation (content.length + 3) := by
  have hlength := length_of_drop hdrop (by simp)
  simp only [List.length_cons, List.length_append] at hlength
  have hcontent : s.drop (p + 3) = content ++ ')' :: rest := drop_add_of_drop hdrop 3
  have hskip := skip_of_drop hclose hcontent
  have hend : p + 3 + content.length ≠ s.length := by omega
  have hchars : p + 3 + content.length - p = content.length + 3 := by omega
  have hcount : p + 3 + content.length - (p + 3) = content.length := by omega
  have hop : s[p + 1] = operation :=
    (List.getElem?_eq_some_iff.mp (getElem?_of_drop hdrop 1)).2
  have hopen : s[p + 2] = '(' := (List.getElem?_eq_some_iff.mp (getElem?_of_drop hdrop 2)).2
  have hletter : s[p]? = some '_' := getElem?_of_drop hdrop 0
  rw [placeholder_modify hletter, case_modify_eq (by omega),
    if_neg (not_not_intro hopen)]
  simp only [hskip, if_neg hend, hchars, hcount, hcontent, List.take_left, hop]

theorem placeholder_encoded {content : List Char} (hclose : Closes L content) {p : Nat}
    (hdrop : s.drop p = '#' :: '(' :: (content ++ ')' :: rest)) :
    placeholder L env (replaceParameters L env) s p st =
      replaceParameters L env content st >>= encoded (content.length + 2) := by
  have hlength := length_of_drop hdrop (by simp)
  simp only [List.length_cons, List.length_append] at hlength
  have hcontent : s.drop (p + 2) = content ++ ')' :: rest := drop_add_of_drop hdrop 2
  have hskip := skip_of_drop hclose hcontent
  have hend : p + 2 + content.length ≠ s.length := by omega
  have hchars : p + 2 + content.length - p = content.length + 2 := by omega
  have hcount : p + 2 + content.length - (p + 2) = content.length := by omega
  have hopen : s[p + 1] = '(' := (List.getElem?_eq_some_iff.mp (getElem?_of_drop hdrop 1)).2
  have hletter : s[p]? = some '#' := getElem?_of_drop hdrop 0
  rw [placeholder_url_encode hletter, case_url_encode_eq (by omega),
    if_neg (not_not_intro hopen)]
  simp only [hskip, if_neg hend, hchars, hcount, hcontent, List.take_left]

theorem random_fails_iff {text : List Char} {draws : Nat} :
    (∃ f, random L text draws = .error f) ↔ L.str2int text = some 0 := by
  unfold random
  constructor
  · intro ⟨f, hf⟩
    cases hread : L.str2int text with
    | none =>
      rw [hread] at hf
      cases hf
    | some n =>
      by_cases hn : n = 0
      · rw [hn]
      · simp only [hread, if_neg hn] at hf
        cases hf
  · intro hread
    rw [hread]
    exact ⟨.division_by_zero, rfl⟩

/-- An operator fails only where it divides by zero. -/
theorem modify_fails_iff {operation : Char} {text : List Char} {draws : Nat} :
    (∃ f, modify L operation text draws = .error f) ↔
      operation = 'r' ∧ L.str2int text = some 0 := by
  by_cases hr : operation = 'r'
  · subst hr
    rw [and_iff_right rfl]
    exact random_fails_iff
  · refine iff_of_false ?_ fun h => hr h.1
    intro ⟨f, hf⟩
    obtain ⟨m, hm⟩ := modify_returns (L := L) hr text draws
    rw [hm] at hf
    cases hf

/-- The content is expanded by the recursive call. -/
theorem replaceParameters_content {inner : List Token}
    (hinner : Runs L env st₀ (renderAll inner) inner seen { st := st })
    (htokens : Tokenwise L env st₀ inner (renderAll inner) { st := st }) :
    ∃ st', replaceParameters L env (renderAll inner) st =
        .ok ((values L env st₀ inner st.draws).1, st') ∧
      st'.draws = (values L env st₀ inner st.draws).2 ∧
      Tracks L env st₀ (seeAll env inner seen) st' := by
  rw [replaceParameters_eq_scan]
  exact hinner.result htokens

/-- A token whose content is not scanned token by token. -/
theorem expands_of_inner (hL : L.SkipsWithin) {t : Token} (hone : t.steps = 1)
    (hp : k.p < s.length) (hinner : ¬t.InnerFollows L env st₀ k.st)
    (hclean : ¬t.Clean L env st₀ rest seen k.st.draws) : Expands L env st₀ s t rest seen k where
  follows_iff := iff_of_false (fun h => hinner h.1) hclean
  tracks := fun _ h => absurd h hinner
  scan := fun _ hf => scan_of_follows hL hone hp hf

/-- A token whose placeholder faults. -/
theorem expands_of_fault {t : Token} (hone : t.steps = 1) {f : Fault}
    (hit : iteration L env (replaceParameters L env) s k = .error f)
    (hclean : ¬t.Clean L env st₀ rest seen k.st.draws) : Expands L env st₀ s t rest seen k := by
  have hnone : ∀ k', ¬Follows L env st₀ s t rest k k' := by
    intro k' hf
    have hsteps := hf.steps
    rw [hone, iterations_one, hit] at hsteps
    cases hsteps
  exact ⟨iff_of_false (fun h => h.2.elim hnone) hclean, fun k' _ hf => absurd hf (hnone k'),
    fun k' hf => absurd hf (hnone k')⟩

theorem modified_expands (hL : L.SkipsWithin) {operation : Char} {inner : List Token}
    (hclose : Closes L (renderAll inner))
    (hinner : Runs L env st₀ (renderAll inner) inner seen { st := k.st })
    (hesc : k.is_escaped = false)
    (hdrop : s.drop k.p =
      '$' :: '_' :: operation :: '(' :: (renderAll inner ++ ')' :: rest)) :
    Expands L env st₀ s (.modified operation inner) rest seen k := by
  have hnext : s.drop (k.p + 1) = '_' :: operation :: '(' :: (renderAll inner ++ ')' :: rest) :=
    drop_add_of_drop hdrop 1
  by_cases htokens : Tokenwise L env st₀ inner (renderAll inner) { st := k.st }
  · obtain ⟨st', hexp, hdraws, hT⟩ := replaceParameters_content hinner htokens
    have hclean : AllClean L env st₀ inner seen k.st.draws := hinner.tokenwise_iff.mp htokens
    have hcase : placeholder L env (replaceParameters L env) s (k.p + 1) k.st =
        applied L operation ((renderAll inner).length + 3)
          ((values L env st₀ inner k.st.draws).1, st') := by
      rw [placeholder_modified hclose hnext, hexp, ok_bind]
    rw [applied, hdraws] at hcase
    -- the operator is applied to the value of the content
    cases hm : modify L operation (values L env st₀ inner k.st.draws).1
        (values L env st₀ inner k.st.draws).2 with
    | ok m =>
      rw [hm, ok_bind] at hcase
      have hvalue : (Token.modified operation inner).value L env st₀ k.st.draws = m := by
        rw [Token.value, hm]
        rfl
      refine expands_of_step hL rfl hdrop hesc hcase ?_ fun _ => hT
      rw [hvalue]
      refine iff_of_true ⟨htokens, ?_, rfl, rfl⟩ ⟨hclean, fun hzero => ?_⟩
      · have htext : s.drop (k.p + 1) =
            ('_' :: operation :: '(' :: (renderAll inner ++ [')'])) ++ rest := by
          rw [hnext]
          simp
        exact drop_text htext (by simp)
      · obtain ⟨f, hf⟩ := modify_fails_iff.mpr hzero
        rw [hm] at hf
        cases hf
    | error f =>
      -- a division by zero takes the whole expansion with it
      rw [hm, error_bind] at hcase
      have hat : AtPlaceholder s k := ⟨hesc, getElem?_of_drop hdrop 0⟩
      have hit : iteration L env (replaceParameters L env) s k = .error f := by
        rw [iteration_placeholder hat, hcase, error_bind]
      exact expands_of_fault rfl hit fun h => h.2 (modify_fails_iff.mp ⟨f, hm⟩)
  · exact expands_of_inner hL rfl (lt_of_drop hdrop) htokens
      fun h => htokens (hinner.tokenwise_iff.mpr h.1)

theorem encoded_expands (hL : L.SkipsWithin) {inner : List Token}
    (hclose : Closes L (renderAll inner))
    (hinner : Runs L env st₀ (renderAll inner) inner seen { st := k.st })
    (hesc : k.is_escaped = false)
    (hdrop : s.drop k.p = '$' :: '#' :: '(' :: (renderAll inner ++ ')' :: rest)) :
    Expands L env st₀ s (.encoded inner) rest seen k := by
  have hnext : s.drop (k.p + 1) = '#' :: '(' :: (renderAll inner ++ ')' :: rest) :=
    drop_add_of_drop hdrop 1
  by_cases htokens : Tokenwise L env st₀ inner (renderAll inner) { st := k.st }
  · obtain ⟨st', hexp, hdraws, hT⟩ := replaceParameters_content hinner htokens
    have hclean : AllClean L env st₀ inner seen k.st.draws := hinner.tokenwise_iff.mp htokens
    have hcase : placeholder L env (replaceParameters L env) s (k.p + 1) k.st =
        encoded ((renderAll inner).length + 2)
          ((values L env st₀ inner k.st.draws).1, st') := by
      rw [placeholder_encoded hclose hnext, hexp, ok_bind]
    refine expands_of_step hL rfl hdrop hesc hcase ?_ fun _ => hT
    refine iff_of_true ⟨htokens, ?_, rfl, hdraws⟩ hclean
    have htext : s.drop (k.p + 1) = ('#' :: '(' :: (renderAll inner ++ [')'])) ++ rest := by
      rw [hnext]
      simp
    exact drop_text htext (by simp)
  · exact expands_of_inner hL rfl (lt_of_drop hdrop) htokens
      fun h => htokens (hinner.tokenwise_iff.mpr h)

/-! ### Templates -/

theorem runs_nil (hdrop : s.drop k.p = []) (hT : Tracks L env st₀ seen k.st) :
    Runs L env st₀ s [] seen k := by
  refine ⟨Iff.rfl, fun _ => ⟨k.st, ?_, rfl, hT⟩⟩
  have hend : ¬k.p < s.length := by
    have hlen := List.drop_eq_nil_iff.mp hdrop
    omega
  rw [scan_done hend]
  show _ = Except.ok (k.res ++ [], k.st)
  rw [List.append_nil]

/-- One token and the tokens behind it. -/
theorem runs_cons {t : Token} {ts : List Token}
    (ht : Expands L env st₀ s t (renderAll ts) seen k)
    (hts : ∀ k', s.drop k'.p = renderAll ts → k'.is_escaped = false →
      Tracks L env st₀ (t.see env seen) k'.st → Runs L env st₀ s ts (t.see env seen) k') :
    Runs L env st₀ s (t :: ts) seen k := by
  -- the rest is scanned from where the token has left the variables
  have hnext : ∀ k', t.InnerFollows L env st₀ k.st →
      Follows L env st₀ s t (renderAll ts) k k' → Runs L env st₀ s ts (t.see env seen) k' :=
    fun k' hinner hf => hts k' hf.text hf.escaped (ht.tracks k' hinner hf)
  refine ⟨⟨?_, ?_⟩, ?_⟩
  · intro ⟨hinner, k', hf, hrest⟩
    refine ⟨ht.follows_iff.mp ⟨hinner, k', hf⟩, ?_⟩
    rw [← hf.draws]
    exact (hnext k' hinner hf).tokenwise_iff.mp hrest
  · intro ⟨hclean, hrest⟩
    obtain ⟨hinner, k', hf⟩ := ht.follows_iff.mpr hclean
    rw [← hf.draws] at hrest
    exact ⟨hinner, k', hf, (hnext k' hinner hf).tokenwise_iff.mpr hrest⟩
  · intro ⟨hinner, k', hf, hrest⟩
    obtain ⟨st', hscan, hdraws, hT⟩ := (hnext k' hinner hf).result hrest
    rw [hf.draws] at hscan hdraws
    refine ⟨st', ?_, hdraws, hT⟩
    rw [ht.scan k' hf, hscan, hf.res, List.append_assoc]
    rfl

mutual

theorem token_expands (hL : L.SkipsWithin) (hparse : L.ParsesUri) (hprep : Prepared env st₀)
    (t : Token) :
    ∀ (s rest : List Char) (k : Cursor) (seen : Address → Bool), t.WellFormed L rest →
      k.is_escaped = false → s.drop k.p = t.render ++ rest → Tracks L env st₀ seen k.st →
      Expands L env st₀ s t rest seen k := by
  intro s rest k seen hwf hesc hdrop hT
  cases t with
  | literal c => exact literal_expands hL hesc hwf.1 hwf.2 hdrop hT
  | escaped c => exact escaped_expands hL hesc hdrop hT
  | part l => exact part_expands hL hparse hprep l hwf hesc hdrop hT
  | modified operation inner =>
    have hinner := tokens_run hL hparse hprep inner (renderAll inner) { st := k.st } seen hwf.2 rfl
      rfl hT
    refine modified_expands hL hwf.1 hinner hesc ?_
    rw [hdrop, Token.render]
    simp
  | encoded inner =>
    have hinner := tokens_run hL hparse hprep inner (renderAll inner) { st := k.st } seen hwf.2 rfl
      rfl hT
    refine encoded_expands hL hwf.1 hinner hesc ?_
    rw [hdrop, Token.render]
    simp

theorem tokens_run (hL : L.SkipsWithin) (hparse : L.ParsesUri) (hprep : Prepared env st₀)
    (ts : List Token) :
    ∀ (s : List Char) (k : Cursor) (seen : Address → Bool), AllWellFormed L ts →
      k.is_escaped = false → s.drop k.p = renderAll ts → Tracks L env st₀ seen k.st →
      Runs L env st₀ s ts seen k := by
  intro s k seen hwf hesc hdrop hT
  cases ts with
  | nil => exact runs_nil hdrop hT
  | cons t ts =>
    refine runs_cons (token_expands hL hparse hprep t s _ k seen hwf.1 hesc hdrop hT) ?_
    intro k' hdrop' hesc' hT'
    exact tokens_run hL hparse hprep ts s k' _ hwf.2 hesc' hdrop' hT'

end

/-- Template expansion gives the values of the tokens, scanning them one by one, exactly for
    the templates that are `AllClean` in front of the request. -/
theorem expansion_compositional_iff (L : Library) (hL : L.SkipsWithin) (hparse : L.ParsesUri)
    (env : Env) (st : St) (hprep : Prepared env st) (ts : List Token)
    (hwf : AllWellFormed L ts) :
    Compositional L env ts st ↔ AllClean L env st ts (fun _ => false) st.draws := by
  have hrun : Runs L env st (renderAll ts) ts (fun _ => false) { st := st } :=
    tokens_run hL hparse hprep ts _ _ _ hwf rfl rfl tracks_start
  rw [← hrun.tokenwise_iff]
  constructor
  · exact fun h => h.2
  · intro htokens
    obtain ⟨st', hexp, -⟩ := replaceParameters_content hrun htokens
    exact ⟨⟨st', hexp⟩, htokens⟩

theorem Library.small_parsesUri : Library.small.ParsesUri := by
  constructor
  · intro q
    show (userAtHost q).2.uri = q.uri
    unfold userAtHost
    split_ifs <;> rfl
  · intro q hq
    show (userAtHost q).1 = false
    unfold userAtHost
    rw [hq]
    rfl

theorem Library.small_closes {content : List Char} (h : ')' ∉ content) :
    Closes .small content := by
  intro pre rest
  have hdrop : (pre ++ content ++ ')' :: rest).drop pre.length = content ++ ')' :: rest := by
    rw [List.append_assoc, List.drop_left]
  exact closing_of_drop hdrop h

theorem expansion_compositional_iff_upper :
    Compositional .small .small [.modified 'u' [.literal 'b', .part (.address .from_ 'U')]] {} ↔
      AllClean .small .small {} [.modified 'u' [.literal 'b', .part (.address .from_ 'U')]]
        (fun _ => false) 0 :=
  expansion_compositional_iff .small Library.small_skipsWithin Library.small_parsesUri .small {}
    (fun _ h => Bool.noConfusion h) _
    ⟨⟨Library.small_closes (by decide), ⟨by decide, by decide⟩, fun h => absurd h (by decide),
      trivial⟩, trivial⟩

/-- `$m` swallows the character behind it. -/
theorem not_expansion_compositional_method :
    ¬∀ (L : Library) (env : Env) (st : St) (ts : List Token), L.SkipsWithin → L.ParsesUri →
      Prepared env st → AllWellFormed L ts → Compositional L env ts st := by
  intro hall
  have hwf : AllWellFormed .small [.part .method, .literal 'x'] :=
    ⟨trivial, ⟨by decide, by decide⟩, trivial⟩
  obtain ⟨⟨st', hexp⟩, -⟩ := hall .small .small {} [.part .method, .literal 'x']
    Library.small_skipsWithin Library.small_parsesUri (fun _ h => Bool.noConfusion h) hwf
  have hlost : replaceParameters .small .small "$mx".toList {} = .ok ("INVITE".toList, {}) := rfl
  have htext : "INVITE".toList =
      (values .small .small {} [.part .method, .literal 'x'] 0).1 :=
    congrArg Prod.fst (Except.ok.inj (hlost.symm.trans hexp))
  exact absurd htext (by decide)

end Yeti.Params
