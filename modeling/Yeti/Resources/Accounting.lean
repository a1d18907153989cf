import Mathlib.Algebra.BigOperators.Group.List.Lemmas
import Mathlib.Algebra.Group.Pi.Lemmas
import Mathlib.Algebra.Order.BigOperators.Group.List
import Mathlib.Tactic.Abel
import Yeti.Resources.Control

/-! # What the counters stand for

    Amounts are functions `Key → Int`, added pointwise.  `held` is what the valid
    handlers hold, `net` what a list of operations adds to the counters, and the
    lemmas below say what the commands of the two sequences do to this node's
    fields in these terms.
-/

namespace Yeti.Resources

/-! ### Amounts -/

/-- What a resource counts for while a valid handler lists it. -/
def Resource.held (r : Resource) : Key → Int :=
  Pi.single (get_key r) (if r.taken then r.takes else 0)

/-- What a handler holds. -/
def HandlersEntry.held (e : HandlersEntry) : Key → Int :=
  if e.valid then (e.resources.map Resource.held).sum else 0

/-- What all handlers hold together. -/
def heldBy (handlers : List (Nat × HandlersEntry)) : Key → Int :=
  (handlers.map fun h => h.2.held).sum

/-- What an operation adds to the counters. -/
def ResourceOperation.delta (o : ResourceOperation) : Key → Int :=
  Pi.single (get_key o.toResource)
    (match o.op with
    | .RES_GET => if o.active then o.takes else 0
    | .RES_PUT => if o.taken then -o.takes else 0
    | .RES_NONE => 0)

/-- What a list of operations adds to the counters. -/
def net (ol : List ResourceOperation) : Key → Int := (ol.map (·.delta)).sum

@[simp] theorem net_nil : net [] = 0 := rfl

@[simp] theorem net_cons (o : ResourceOperation) (ol : List ResourceOperation) :
    net (o :: ol) = o.delta + net ol := by
  simp [net]

@[simp] theorem net_append (ol ol' : List ResourceOperation) :
    net (ol ++ ol') = net ol + net ol' := by
  simp [net]

/-- Operations that issue no command add nothing. -/
theorem delta_of_not_effective {o : ResourceOperation} (h : o.effective = false) :
    o.delta = 0 := by
  unfold ResourceOperation.effective at h
  unfold ResourceOperation.delta
  cases hop : o.op <;> simp_all

theorem net_filter_effective (ol : List ResourceOperation) :
    net (ol.filter (·.effective)) = net ol := by
  induction ol with
  | nil => rfl
  | cons o ol ih =>
    cases h : o.effective with
    | true => simp [h, ih]
    | false => simp [h, ih, delta_of_not_effective h]

/-- A list of operations that adds nothing at the keys it names adds nothing. -/
theorem net_eq_zero {ol : List ResourceOperation}
    (h : ∀ o ∈ ol, net ol (get_key o.toResource) = 0) : net ol = 0 := by
  funext k
  by_cases hk : ∃ o ∈ ol, get_key o.toResource = k
  · obtain ⟨o, ho, rfl⟩ := hk
    exact h o ho
  · push Not at hk
    -- no operation names `k`
    have aux : ∀ l : List ResourceOperation, (∀ o ∈ l, get_key o.toResource ≠ k) →
        net l k = 0 := by
      intro l hl
      induction l with
      | nil => rfl
      | cons o l ih =>
        have ho : get_key o.toResource ≠ k := hl o (by simp)
        rw [net_cons, Pi.add_apply, ih (fun o ho => hl o (by simp [ho])),
          ResourceOperation.delta, Pi.single_eq_of_ne (Ne.symm ho), add_zero]
    exact aux ol hk

/-! ### What a get and a put hand over -/

/-- What the operation of one loop pass adds is what the resource then counts for. -/
theorem delta_getOperation {r : Resource} (h : r.taken = false) :
    net r.getOperation.toList = r.markTaken.held := by
  cases ha : r.active with
  | false => simp [Resource.getOperation, Resource.markTaken, Resource.held, ha, h]
  | true =>
    simp [Resource.getOperation, Resource.markTaken, Resource.held, ResourceOperation.delta,
      ha, h]

theorem delta_putOperation (r : Resource) : net r.putOperation.toList = -r.held := by
  cases ht : r.taken with
  | false => simp [Resource.putOperation, Resource.held, ht]
  | true =>
    simp [Resource.putOperation, Resource.held, ResourceOperation.delta, ht, Pi.single_neg]

theorem net_filterMap_cons (f : Resource → Option ResourceOperation) (r : Resource)
    (rl : List Resource) :
    net ((r :: rl).filterMap f) = net (f r).toList + net (rl.filterMap f) := by
  cases h : f r <;> simp [h]

/-- A `get` on a list without taken resources hands over exactly what its
    handler will hold. -/
theorem net_getOperations (rl : List Resource) (h : ∀ r ∈ rl, r.taken = false) :
    net (getOperations rl) = ((rl.map (·.markTaken)).map Resource.held).sum := by
  induction rl with
  | nil => rfl
  | cons r rl ih =>
    rw [getOperations, net_filterMap_cons, delta_getOperation (h r (by simp)),
      ← getOperations, ih (fun r hr => h r (by simp [hr]))]
    simp

/-- A `put` hands over the opposite of what the handler holds. -/
theorem net_putOperations (rl : List Resource) :
    net (putOperations rl) = -(rl.map Resource.held).sum := by
  induction rl with
  | nil => rfl
  | cons r rl ih =>
    rw [putOperations, net_filterMap_cons, delta_putOperation, ← putOperations, ih]
    simp [add_comm]

/-- No operation of the list takes a negative number of units. -/
def Nonneg (ol : List ResourceOperation) : Prop := ∀ o ∈ ol, 0 ≤ o.takes

theorem takes_markTaken (r : Resource) : r.markTaken.takes = r.takes := by
  unfold Resource.markTaken
  split <;> rfl

theorem nonneg_getOperations {rl : List Resource} (h : ∀ r ∈ rl, 0 ≤ r.takes) :
    Nonneg (getOperations rl) := by
  intro o ho
  obtain ⟨r, hr, hro⟩ := List.mem_filterMap.mp ho
  unfold Resource.getOperation at hro
  split at hro
  · cases hro
  · cases hro
    exact takes_markTaken r ▸ h r hr

theorem nonneg_putOperations {rl : List Resource} (h : ∀ r ∈ rl, 0 ≤ r.takes) :
    Nonneg (putOperations rl) := by
  intro o ho
  obtain ⟨r, hr, hro⟩ := List.mem_filterMap.mp ho
  unfold Resource.putOperation at hro
  split at hro
  · cases hro
  · cases hro
    exact h r hr

/-! ### What the commands do to the fields -/

namespace Redis

/-- Every key with a field of this node exists. -/
def Keyed (r : Redis) : Prop := ∀ k, r.field k ≠ 0 → k ∈ r.keys

@[simp] theorem field_hset (r : Redis) (k : Key) :
    (r.apply (.HSET k)).field = Function.update r.field k 0 := rfl

@[simp] theorem keys_hset (r : Redis) (k : Key) :
    (r.apply (.HSET k)).keys = r.keys.insert k := rfl

theorem keyed_apply {r : Redis} (h : r.Keyed) (cmd : Command) : (r.apply cmd).Keyed := by
  intro k hk
  cases cmd with
  | KEYS => exact h k hk
  | MULTI => exact h k hk
  | EXEC => exact h k hk
  | HSET k' =>
    rw [keys_hset, List.mem_insert_iff]
    by_cases hkk : k = k'
    · exact Or.inl hkk
    · rw [field_hset, Function.update_of_ne hkk] at hk
      exact Or.inr (h k hk)
  | HINCRBY k' arg =>
    simp only [apply] at hk ⊢
    cases hv : arg.value with
    | none => rw [hv] at hk; exact h k hk
    | some v =>
      rw [hv] at hk
      simp only at hk ⊢
      rw [List.mem_insert_iff]
      by_cases hkk : k = k'
      · exact Or.inl hkk
      · rw [Function.update_of_ne hkk] at hk
        exact Or.inr (h k hk)

theorem keyed_foldl {r : Redis} (h : r.Keyed) (cmds : List Command) :
    (cmds.foldl apply r).Keyed := by
  induction cmds generalizing r with
  | nil => exact h
  | cons cmd cmds ih => exact ih (keyed_apply h cmd)

theorem keyed_exec {r : Redis} (h : r.Keyed) (multi : Option (List Command)) (cmd : Command) :
    (r.exec multi cmd).2.1.Keyed := by
  cases multi with
  | none =>
    cases cmd with
    | KEYS => exact h
    | MULTI => exact h
    | EXEC => exact h
    | HSET k => exact keyed_apply h (.HSET k)
    | HINCRBY k arg => exact keyed_apply h (.HINCRBY k arg)
  | some queued =>
    cases cmd with
    | EXEC => exact keyed_foldl h queued
    | KEYS => exact h
    | MULTI => exact h
    | HSET k => exact h
    | HINCRBY k arg => exact h

theorem keyed_execAll {r : Redis} (h : r.Keyed) (multi : Option (List Command))
    (cmds : List Command) : (r.execAll multi cmds).Keyed := by
  induction cmds generalizing r multi with
  | nil => exact h
  | cons cmd cmds ih => exact ih (keyed_exec h multi cmd) _

/-- `HINCRBY` adds its argument to the field. -/
theorem field_hincrby (r : Redis) (k : Key) (arg : IncrArg) (v : Int) (h : arg.value = some v) :
    (r.apply (.HINCRBY k arg)).field = r.field + Pi.single k v := by
  funext k'
  simp only [apply, h, Pi.add_apply]
  by_cases hk : k' = k
  · subst hk; simp
  · simp [hk]

/-- The commands of one effective operation add its amount. -/
theorem field_operation (r : Redis) {o : ResourceOperation} (ho : o.effective = true)
    (hpos : 0 ≤ o.takes) :
    ∃ k arg, OperationResources.hincrby o = some (.HINCRBY k arg) ∧
      (r.apply (.HINCRBY k arg)).field = r.field + o.delta := by
  unfold ResourceOperation.effective at ho
  cases hop : o.op with
  | RES_GET =>
    rw [hop] at ho
    refine ⟨get_key o.toResource, .plain o.takes, by simp_all [OperationResources.hincrby], ?_⟩
    rw [field_hincrby r _ _ o.takes rfl]
    simp_all [ResourceOperation.delta]
  | RES_PUT =>
    rw [hop] at ho
    refine ⟨get_key o.toResource, .negated o.takes, by simp_all [OperationResources.hincrby], ?_⟩
    rcases hpos.lt_or_eq with hlt | hzero
    · rw [field_hincrby r _ _ (-o.takes) (by simp [IncrArg.value, hlt])]
      simp_all [ResourceOperation.delta]
    · -- Redis refuses the increment `-0`
      simp [ResourceOperation.delta, hop, apply, IncrArg.value, ← hzero]
  | RES_NONE => simp [hop] at ho

/-- The commands of a batch add what the batch adds. -/
theorem field_operations (ol : List ResourceOperation) (r : Redis)
    (heff : ∀ o ∈ ol, o.effective = true) (hpos : Nonneg ol) :
    ((ol.filterMap OperationResources.hincrby).foldl apply r).field = r.field + net ol := by
  induction ol generalizing r with
  | nil => simp
  | cons o ol ih =>
    obtain ⟨k, arg, hcmd, hfield⟩ :=
      field_operation r (heff o (by simp)) (hpos o (by simp))
    -- one command for the first operation, then the others from there
    rw [List.filterMap_cons_some hcmd, List.foldl_cons,
      ih _ (fun o ho => heff o (by simp [ho])) (fun o ho => hpos o (by simp [ho])), hfield,
      net_cons, add_assoc]

/-- Resetting every key with a field of this node leaves all fields zero. -/
theorem field_clean (ks : List Key) (r : Redis) (h : ∀ k, r.field k ≠ 0 → k ∈ ks) :
    ((ks.map Command.HSET).foldl apply r).field = 0 := by
  induction ks generalizing r with
  | nil =>
    funext k
    by_contra hk
    simpa using h k hk
  | cons k ks ih =>
    rw [List.map_cons, List.foldl_cons]
    -- a key that is still not zero is not `k`, hence one of the others
    apply ih
    intro k' hk'
    by_cases hkk : k' = k
    · subst hkk; simp at hk'
    · rw [field_hset, Function.update_of_ne hkk] at hk'
      exact (List.mem_cons.mp (h k' hk')).resolve_left hkk

end Redis

end Yeti.Resources
