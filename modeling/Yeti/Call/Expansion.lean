import Yeti.Framework.Lists
import Yeti.Call.AorResolving

/-! # What the profiles are resolved to

    `expand` says what resolving is for: a profile whose user is registered with
    several contacts is replaced by one profile per contact, each of them the
    original with its ruri and route rewritten to that contact.  The loop of
    `onRedisReply` rewrites a clone that is not the element of the list, so that
    all profiles of a user lead to the first contact.
-/

namespace Yeti.Call

variable (up : UriParser) (aors : List (Int × AorList))

/-- The profiles that are to stand for one profile. -/
def expandProfile (p : SqlCallProfile) : List SqlCallProfile :=
  if !needsAor p then [p]
  else
    match aors.lookup p.registered_aor_id with
    | none => [{ p with skip_code_id := SC_NOT_REGISTERED }]
    | some aors_list => aors_list.contacts.map fun d => d.replace_profile_fields up p

/-- The profiles that are to stand for a list of profiles, in the same order. -/
def expand (profiles : List SqlCallProfile) : List SqlCallProfile :=
  profiles.flatMap (expandProfile up aors)

/-- All contacts of the profile lead to the same ruri and route. -/
def SameTarget (p : SqlCallProfile) : Prop :=
  needsAor p = true → ∀ aors_list, aors.lookup p.registered_aor_id = some aors_list →
    ∀ d ∈ aors_list.others,
      d.replace_profile_fields up p = aors_list.first.replace_profile_fields up p

/-! ### One profile -/

variable {up aors}

/-- The elements put into the list are copies of the rewritten profile. -/
theorem cloneLoop_inserted (p : SqlCallProfile) (ds : List AorData) :
    (cloneLoop up p ds).map Prod.fst = ds.map fun _ => p := by
  induction ds with
  | nil => rfl
  | cons d ds ih =>
    rw [cloneLoop, List.map_cons, List.map_cons, ih]
    rfl

/-- What the loop puts in the place of one profile. -/
def resolveProfile (up : UriParser) (aors : List (Int × AorList)) (p : SqlCallProfile) :
    List SqlCallProfile :=
  if !needsAor p then [p]
  else
    match aors.lookup p.registered_aor_id with
    | none => [{ p with skip_code_id := SC_NOT_REGISTERED }]
    | some aors_list =>
      aors_list.contacts.map fun _ => aors_list.first.replace_profile_fields up p

theorem resolveLoop_cons (p : SqlCallProfile) (profiles : List SqlCallProfile) :
    resolveLoop up aors (p :: profiles) =
      resolveProfile up aors p ++ resolveLoop up aors profiles := by
  unfold resolveProfile
  rw [resolveLoop]
  cases hneeds : needsAor p with
  | false => rfl
  | true =>
    cases hl : aors.lookup p.registered_aor_id with
    | none => rfl
    -- each further contact adds a copy of the rewritten profile
    | some aors_list => simp [cloneLoop_inserted, AorList.contacts]

theorem resolveLoop_eq_flatMap (profiles : List SqlCallProfile) :
    resolveLoop up aors profiles = profiles.flatMap (resolveProfile up aors) := by
  induction profiles with
  | nil => rfl
  | cons p profiles ih => rw [resolveLoop_cons, List.flatMap_cons, ih]

theorem length_resolveProfile (p : SqlCallProfile) :
    (resolveProfile up aors p).length = (expandProfile up aors p).length := by
  unfold resolveProfile expandProfile
  split_ifs
  · rfl
  · split
    · rfl
    · simp only [List.length_map]

/-- One profile is resolved as it should be when its contacts do not differ. -/
theorem resolveProfile_eq_iff (p : SqlCallProfile) :
    resolveProfile up aors p = expandProfile up aors p ↔ SameTarget up aors p := by
  unfold resolveProfile expandProfile SameTarget
  cases hneeds : needsAor p with
  | false => simp
  | true =>
    rw [if_neg (by simp), if_neg (by simp)]
    cases hl : aors.lookup p.registered_aor_id with
    | none => simp
    | some aors_list =>
      -- the first profiles agree, so only the further contacts can differ
      simp only [AorList.contacts, List.map_cons, List.cons.injEq, true_and, Option.some.injEq,
        forall_eq', forall_const]
      rw [List.map_inj_left]
      constructor
      · intro h d hd
        exact (h d hd).symm
      · intro h d hd
        exact (h d hd).symm

/-! ### All profiles -/

/-- **Expansion**: the loop of `onRedisReply` resolves the profiles as it should
    exactly when, for every profile that is resolved, all contacts lead to the ruri
    and the route of the first one. -/
theorem resolveLoop_eq_expand_iff (up : UriParser) (aors : List (Int × AorList))
    (profiles : List SqlCallProfile) :
    resolveLoop up aors profiles = expand up aors profiles ↔
      ∀ p ∈ profiles, SameTarget up aors p := by
  -- both put as many profiles in the place of each, so they can be compared one by one
  rw [resolveLoop_eq_flatMap, expand, List.flatMap_inj_of_length length_resolveProfile]
  exact forall₂_congr fun p _ => resolveProfile_eq_iff p

/-- Two devices of one user: both profiles lead to the first. -/
theorem not_expand_two_contacts :
    ¬ ∀ (up : UriParser) (aors : List (Int × AorList)) (profiles : List SqlCallProfile),
      resolveLoop up aors profiles = expand up aors profiles := by
  intro hall
  have htwo := hall noParser
    [(7, ⟨⟨"sip:u@192.0.2.1", ""⟩, [⟨"sip:u@192.0.2.2", "<sip:edge>"⟩]⟩)]
    [{ ruri := "sip:u@example.com", registered_aor_id := 7 }]
  revert htwo
  decide

end Yeti.Call
