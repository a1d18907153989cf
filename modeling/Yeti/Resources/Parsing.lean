import Mathlib.Algebra.Group.Int.Defs
import Mathlib.Data.List.Basic
import Yeti.Resources.Resource

/-! # Resource strings

    Model of `ResList::parse` in `resources/Resource.cpp`.  `;` separates the groups
    of a resource string, `|` the options of a group and `:` the four fields of an
    option.  Options without quantity are dropped, and the failover flags are set so
    that the last resource of a group is the one without.

    Group boundaries are not stored.  `parse_eq` says what the flags encode: the list
    is the concatenation of the groups that retain a resource (`groups`), each of
    which `IsGroup`.
-/

namespace Yeti.Resources

/-! ### The parser -/

/-- The functions of `AmUtils.h` that resources use. -/
structure AmUtils where
  explode : List Char → String → List (List Char)
  str2int : List Char → Option Int
  str2long : List Char → Option Int
  /-- The result is an `int`. -/
  str2int_range : ∀ s v, str2int s = some v → -2 ^ 31 ≤ v ∧ v < 2 ^ 31

/-- An integer with an optional minus sign, and nothing else. -/
def readInt (s : List Char) : Option Int :=
  let digits := if s.head? = some '-' then s.tail else s
  if digits.isEmpty || !digits.all Char.isDigit then none
  else
    let value : Int := Nat.ofDigitChars 10 digits 0
    some (if s.head? = some '-' then -value else value)

/-- `AmUtils` on resource strings without surrounding white space. -/
def AmUtils.decimal : AmUtils where
  explode s delim := (s.splitOn delim.front).filter (!·.isEmpty)
  str2int s := (readInt s).filter fun v => -2 ^ 31 ≤ v ∧ v < 2 ^ 31
  str2long s := (readInt s).filter fun v => -2 ^ 63 ≤ v ∧ v < 2 ^ 63
  str2int_range s v h := by simpa using (Option.filter_eq_some_iff.mp h).2

def RES_ATOM_SEPARATOR : String := ";"
def RES_OPTION_SEPARATOR : String := "|"
def RES_FIELDS_SEPARATOR : String := ":"

/-- `struct ResourceParseException`. -/
structure ResourceParseException where
  what : String
  ctx : List Char
  deriving DecidableEq, Repr

namespace ResList

/-- One option of the group `ri`; `none` when it has no quantity. -/
def parseOption (u : AmUtils) (ri ai : List Char) :
    Except ResourceParseException (Option Resource) :=
  match u.explode ai RES_FIELDS_SEPARATOR with
  | [type, id, limit, takes] =>
    match u.str2int type, u.str2int id, u.str2int limit, u.str2int takes with
    | some type, some id, some limit, some takes =>
      -- resources without quantity are skipped
      if takes ≠ 0 then .ok (some ⟨id, type, takes, limit, false, false, true⟩) else .ok none
    | _, _, _, _ => .error ⟨"invalid format: str2int conversion", ri⟩
  | _ => .error ⟨"invalid format: params count", ai⟩

/-- The loop over the options of the group `ri`. -/
def parseOptions (u : AmUtils) (ri : List Char) :
    List (List Char) → List Resource → Except ResourceParseException (List Resource)
  | [], rl => .ok rl
  | ai :: ac, rl =>
    match parseOption u ri ai with
    | .ok (some r) => parseOptions u ri ac (rl ++ [r])
    | .ok none => parseOptions u ri ac rl
    | .error e => .error e

/-- `if(!this->empty()) this->back().failover_to_next = false`. -/
def endGroup (rl : List Resource) : List Resource :=
  match rl.getLast? with
  | some r => rl.dropLast ++ [{ r with failover_to_next := false }]
  | none => rl

/-- The loop over the groups. -/
def parseAtoms (u : AmUtils) :
    List (List Char) → List Resource → Except ResourceParseException (List Resource)
  | [], rl => .ok rl
  | ri :: lc, rl =>
    match parseOptions u ri (u.explode ri RES_OPTION_SEPARATOR) rl with
    | .ok rl => parseAtoms u lc (endGroup rl)
    | .error e => .error e

/-- `ResList::parse`. -/
def parse (u : AmUtils) (rs : List Char) : Except ResourceParseException (List Resource) :=
  parseAtoms u (u.explode rs RES_ATOM_SEPARATOR) []

end ResList

open ResList

/-! ### Groups -/

/-- The resource of an option, if it is retained. -/
def optionResource (u : AmUtils) (ai : List Char) : Option Resource :=
  (parseOption u [] ai).toOption.join

/-- The resources that the group `ri` retains. -/
def group (u : AmUtils) (ri : List Char) : List Resource :=
  endGroup ((u.explode ri RES_OPTION_SEPARATOR).filterMap (optionResource u))

/-- The groups of a resource string that retain a resource. -/
def groups (u : AmUtils) (rs : List Char) : List (List Resource) :=
  ((u.explode rs RES_ATOM_SEPARATOR).map (group u)).filter (!·.isEmpty)

/-- Every resource fails over to the next one, except the last. -/
inductive IsGroup : List Resource → Prop where
  | last {r : Resource} (h : r.failover_to_next = false) : IsGroup [r]
  | cons {r : Resource} {g : List Resource} (h : r.failover_to_next = true) (hg : IsGroup g) :
      IsGroup (r :: g)

theorem isGroup_cons {r : Resource} {g : List Resource} :
    IsGroup (r :: g) ↔
      g = [] ∧ r.failover_to_next = false ∨ r.failover_to_next = true ∧ IsGroup g := by
  constructor
  · intro h
    cases h with
    | last h => exact .inl ⟨rfl, h⟩
    | cons h hg => exact .inr ⟨h, hg⟩
  · rintro (⟨rfl, h⟩ | ⟨h, hg⟩)
    · exact .last h
    · exact .cons h hg

/-- A resource as `parse` makes it. -/
structure Fresh (r : Resource) : Prop where
  active : r.active = false
  taken : r.taken = false
  takes_ne_zero : r.takes ≠ 0
  takes_range : -2 ^ 31 ≤ r.takes ∧ r.takes < 2 ^ 31

variable {u : AmUtils}

/-- A retained option gives a fresh resource that fails over to the next one. -/
theorem parseOption_fresh {ri ai : List Char} {r : Resource}
    (h : parseOption u ri ai = .ok (some r)) : Fresh r ∧ r.failover_to_next = true := by
  unfold parseOption at h
  split at h
  · split at h
    · next htakes =>
      split_ifs at h with hzero
      · cases h
        exact ⟨⟨rfl, rfl, hzero, u.str2int_range _ _ htakes⟩, rfl⟩
      · cases h
    · cases h
  · cases h

/-- The group `ri` only matters for the text of the exception. -/
theorem optionResource_of_ok {ri ai : List Char} {o : Option Resource}
    (h : parseOption u ri ai = .ok o) : optionResource u ai = o := by
  unfold optionResource
  unfold parseOption at h ⊢
  split at h
  · split at h
    · split_ifs at h with hzero
      · cases h
        simp_all [Except.toOption]
      · cases h
        simp_all [Except.toOption]
    · cases h
  · cases h

theorem parseOptions_eq {ri : List Char} {ac : List (List Char)} {rl rl' : List Resource}
    (h : parseOptions u ri ac rl = .ok rl') : rl' = rl ++ ac.filterMap (optionResource u) := by
  induction ac generalizing rl with
  | nil =>
    cases h
    simp
  | cons ai ac ih =>
    rw [parseOptions] at h
    cases hoption : parseOption u ri ai with
    | error e => simp [hoption] at h
    | ok o =>
      have ho := optionResource_of_ok hoption
      cases o with
      | none =>
        rw [hoption] at h
        rw [ih h, List.filterMap_cons_none ho]
      | some r =>
        rw [hoption] at h
        rw [ih h, List.filterMap_cons_some ho, List.append_assoc, List.singleton_append]

theorem endGroup_append (rl : List Resource) {g : List Resource} (hg : g ≠ []) :
    endGroup (rl ++ g) = rl ++ endGroup g := by
  obtain ⟨g, r, rfl⟩ := List.eq_nil_or_concat g |>.resolve_left hg
  simp [endGroup, ← List.append_assoc]

theorem endGroup_eq_nil {g : List Resource} : endGroup g = [] ↔ g = [] := by
  unfold endGroup
  cases hlast : g.getLast? with
  | none => simp
  | some r =>
    have hne : g ≠ [] := by
      rintro rfl
      simp at hlast
    simp [hne]

/-- An emptied group ends the one before it once more. -/
theorem endGroup_endGroup (g : List Resource) : endGroup (endGroup g) = endGroup g := by
  rcases List.eq_nil_or_concat g with rfl | ⟨g, r, rfl⟩
  · rfl
  · simp [endGroup]

/-- Ending a list that ends with a group, or is empty. -/
theorem endGroup_of_groups {gs : List (List Resource)} (hgs : ∀ g ∈ gs, endGroup g = g ∧ g ≠ []) :
    endGroup gs.flatten = gs.flatten := by
  rcases List.eq_nil_or_concat gs with rfl | ⟨gs, g, rfl⟩
  · rfl
  · obtain ⟨hend, hne⟩ := hgs g (by simp)
    rw [List.concat_eq_append, List.flatten_append, List.flatten_singleton,
      endGroup_append _ hne, hend]

theorem parseAtoms_eq {lc : List (List Char)} {gs : List (List Resource)} {rl : List Resource}
    (hgs : ∀ g ∈ gs, endGroup g = g ∧ g ≠ []) (h : parseAtoms u lc gs.flatten = .ok rl) :
    rl = (gs ++ (lc.map (group u)).filter (!·.isEmpty)).flatten := by
  induction lc generalizing gs with
  | nil =>
    cases h
    simp
  | cons ri lc ih =>
    rw [parseAtoms] at h
    cases hoptions : parseOptions u ri (u.explode ri RES_OPTION_SEPARATOR) gs.flatten with
    | error e => simp [hoptions] at h
    | ok rl' =>
      simp only [hoptions] at h
      have hrl' := parseOptions_eq hoptions
      by_cases hempty : (u.explode ri RES_OPTION_SEPARATOR).filterMap (optionResource u) = []
      · -- nothing retained: the previous group is ended again
        have hgroup : group u ri = [] := by rw [group, hempty]; rfl
        rw [hempty, List.append_nil] at hrl'
        rw [hrl', endGroup_of_groups hgs] at h
        rw [ih hgs h, List.map_cons, hgroup]
        rfl
      · have hne : group u ri ≠ [] := fun hnil => hempty (endGroup_eq_nil.mp hnil)
        have hended : endGroup (group u ri) = group u ri := endGroup_endGroup _
        have hnext : endGroup rl' = (gs ++ [group u ri]).flatten := by
          rw [hrl', endGroup_append _ hempty, List.flatten_append, List.flatten_singleton, group]
        rw [hnext] at h
        have hgs' : ∀ g ∈ gs ++ [group u ri], endGroup g = g ∧ g ≠ [] := by
          intro g hg
          rcases List.mem_append.mp hg with hg | hg
          · exact hgs g hg
          · rw [List.mem_singleton.mp hg]
            exact ⟨hended, hne⟩
        have hkeep : (group u ri).isEmpty = false := by simpa using hne
        rw [ih hgs' h, List.map_cons, List.filter_cons_of_pos (by simp [hkeep]),
          List.append_assoc, List.singleton_append]

/-- **What is parsed**: the groups that retain a resource, one after the other. -/
theorem parse_eq {rs : List Char} {rl : List Resource} (h : parse u rs = .ok rl) :
    rl = (groups u rs).flatten := by
  have hnone : ∀ g ∈ ([] : List (List Resource)), endGroup g = g ∧ g ≠ [] := by simp
  simpa [groups] using parseAtoms_eq hnone h

theorem isGroup_endGroup {g : List Resource} (hne : g ≠ [])
    (h : ∀ r ∈ g, r.failover_to_next = true) : IsGroup (endGroup g) := by
  induction g with
  | nil => exact absurd rfl hne
  | cons r g ih =>
    cases g with
    | nil => exact .last rfl
    | cons r' g =>
      have hcons : endGroup ([r] ++ (r' :: g)) = [r] ++ endGroup (r' :: g) :=
        endGroup_append [r] (by simp)
      rw [List.singleton_append] at hcons
      rw [hcons]
      exact .cons (h r (by simp)) (ih (by simp) fun r hr => h r (by simp [hr]))

/-- The retained resource of an option. -/
theorem optionResource_fresh {ai : List Char} {r : Resource} (h : optionResource u ai = some r) :
    Fresh r ∧ r.failover_to_next = true := by
  unfold optionResource at h
  cases hoption : parseOption u [] ai with
  | error e => simp [hoption, Except.toOption] at h
  | ok o =>
    cases o with
    | none => simp [hoption, Except.toOption] at h
    | some r' =>
      have hr : r' = r := by simpa [hoption, Except.toOption] using h
      exact hr ▸ parseOption_fresh hoption

/-- The groups are groups, of fresh resources. -/
theorem groups_spec {rs : List Char} {g : List Resource} (hg : g ∈ groups u rs) :
    IsGroup g ∧ ∀ r ∈ g, Fresh r := by
  obtain ⟨hmem, hkeep⟩ := List.mem_filter.mp hg
  obtain ⟨ri, -, rfl⟩ := List.mem_map.mp hmem
  have hne : (u.explode ri RES_OPTION_SEPARATOR).filterMap (optionResource u) ≠ [] := by
    intro hnil
    simp [group, hnil, endGroup] at hkeep
  have hretained : ∀ r ∈ (u.explode ri RES_OPTION_SEPARATOR).filterMap (optionResource u),
      Fresh r ∧ r.failover_to_next = true := by
    intro r hr
    obtain ⟨ai, -, hai⟩ := List.mem_filterMap.mp hr
    exact optionResource_fresh hai
  refine ⟨isGroup_endGroup hne fun r hr => (hretained r hr).2, ?_⟩
  intro r hr
  -- ending the group changes a failover flag only
  rcases List.eq_nil_or_concat
    ((u.explode ri RES_OPTION_SEPARATOR).filterMap (optionResource u)) with hnil | ⟨g, last, hg⟩
  · exact absurd hnil hne
  · rw [group, hg] at hr
    rw [hg] at hretained
    have hlast := (hretained last (by simp)).1
    simp only [List.concat_eq_append, endGroup, List.getLast?_concat, List.dropLast_concat,
      List.mem_append, List.mem_singleton] at hr
    rcases hr with hr | rfl
    · exact (hretained r (by simp [hr])).1
    · exact ⟨hlast.active, hlast.taken, hlast.takes_ne_zero, hlast.takes_range⟩

end Yeti.Resources
