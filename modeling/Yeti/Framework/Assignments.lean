import Mathlib.Logic.Function.Basic

/-! # Stores that are filled from rows

    Straight-line programs that set the variables of a store from the columns of a row and
    from variables that were set before.  A statement names what it reads, and carries the
    proof that its value depends on nothing else.

    `cols` gives the columns that each variable may depend on.  When every statement stays
    within it, a run keeps the dependences: two runs from rows that agree on the columns of a
    variable give it the same value (`run_agree`).
-/

namespace Assignments

variable {Row Col Cell Var : Type} {Val : Var → Type}

abbrev Store (Val : Var → Type) := ∀ x, Val x

/-- A variable is set from the store and the row.  Where `ok` does not hold, the program
    ends without a result. -/
structure Stmt (cell : Row → Col → Cell) (Val : Var → Type) where
  var : Var
  reads : List Col
  uses : List Var
  value : Store Val → Row → Val var
  ok : Store Val → Row → Bool := fun _ _ => true
  /-- The value depends on what is read and used only. -/
  locality : ∀ s s' r r', (∀ x ∈ uses, s x = s' x) → (∀ c ∈ reads, cell r c = cell r' c) →
    value s r = value s' r'

variable {cell : Row → Col → Cell}

/-- A statement under a condition on a variable. -/
def Stmt.guard (a : Stmt cell Val) (x : Var) (test : Val x → Bool) : Stmt cell Val where
  var := a.var
  reads := a.reads
  uses := x :: a.var :: a.uses
  value s r := if test (s x) then a.value s r else s a.var
  ok s r := !test (s x) || a.ok s r
  locality s s' r r' hs hr := by
    have hx := hs x List.mem_cons_self
    have hvar := hs a.var (List.mem_cons_of_mem _ List.mem_cons_self)
    rw [hx, hvar, a.locality s s' r r'
      (fun y hy => hs y (List.mem_cons_of_mem _ (List.mem_cons_of_mem _ hy))) hr]

/-! ### Runs -/

variable [DecidableEq Var]

/-- The store after a statement. -/
def Stmt.apply (a : Stmt cell Val) (r : Row) (s : Store Val) : Store Val :=
  Function.update s a.var (a.value s r)

/-- The store after all statements. -/
def run (stmts : List (Stmt cell Val)) (r : Row) (s : Store Val) : Store Val :=
  stmts.foldl (fun s a => a.apply r s) s

/-- The program with its checks. -/
def exec : List (Stmt cell Val) → Row → Store Val → Option (Store Val)
  | [], _, s => some s
  | a :: stmts, r, s => if a.ok s r then exec stmts r (a.apply r s) else none

variable {stmts : List (Stmt cell Val)} {a : Stmt cell Val} {x : Var}

theorem run_cons (a : Stmt cell Val) (stmts : List (Stmt cell Val)) (r : Row) (s : Store Val) :
    run (a :: stmts) r s = run stmts r (a.apply r s) := rfl

theorem run_append (stmts stmts' : List (Stmt cell Val)) (r : Row) (s : Store Val) :
    run (stmts ++ stmts') r s = run stmts' r (run stmts r s) := List.foldl_append

theorem apply_of_ne (h : a.var ≠ x) (r : Row) (s : Store Val) : a.apply r s x = s x :=
  Function.update_of_ne h.symm _ _

theorem apply_self (a : Stmt cell Val) (r : Row) (s : Store Val) :
    a.apply r s a.var = a.value s r := Function.update_self _ _ _

/-- A program that ends has passed its checks. -/
theorem exec_eq_some {r : Row} {s s' : Store Val} (h : exec stmts r s = some s') :
    s' = run stmts r s := by
  induction stmts generalizing s with
  | nil => exact (Option.some.inj h).symm
  | cons a stmts ih =>
    unfold exec at h
    by_cases hok : a.ok s r = true
    · rw [if_pos hok] at h
      exact ih h
    · rw [if_neg hok] at h
      cases h

/-- A variable that is not set keeps its value. -/
theorem run_of_notMem (h : x ∉ stmts.map Stmt.var) (r : Row) (s : Store Val) :
    run stmts r s x = s x := by
  induction stmts generalizing s with
  | nil => rfl
  | cons a stmts ih =>
    rw [List.map_cons, List.mem_cons, not_or] at h
    rw [run_cons, ih h.2, apply_of_ne (Ne.symm h.1)]

/-! ### Dependences -/

/-- The statement gives its variable no other columns than `cols` does. -/
def Stmt.Within (cols : Var → List Col) (a : Stmt cell Val) : Prop :=
  a.reads ⊆ cols a.var ∧ ∀ y ∈ a.uses, cols y ⊆ cols a.var

section Agreement

variable {cols : Var → List Col} {same : Col → Prop} {r r' : Row}

theorem apply_agree (ha : a.Within cols) (hr : ∀ c, same c → cell r c = cell r' c)
    {s s' : Store Val} (hs : ∀ y, (∀ c ∈ cols y, same c) → s y = s' y)
    (hx : ∀ c ∈ cols x, same c) : a.apply r s x = a.apply r' s' x := by
  by_cases h : a.var = x
  · subst h
    rw [apply_self, apply_self]
    refine a.locality s s' r r' ?_ ?_
    · intro y hy
      exact hs y fun c hc => hx c (ha.2 y hy hc)
    · intro c hc
      exact hr c (hx c (ha.1 hc))
  · rw [apply_of_ne h, apply_of_ne h]
    exact hs x hx

/-- **Two runs**: a variable whose columns are the same in both rows gets the same value. -/
theorem run_agree (hin : ∀ a ∈ stmts, a.Within cols) (hr : ∀ c, same c → cell r c = cell r' c)
    {s s' : Store Val} (hs : ∀ y, (∀ c ∈ cols y, same c) → s y = s' y)
    (hx : ∀ c ∈ cols x, same c) : run stmts r s x = run stmts r' s' x := by
  induction stmts generalizing s s' with
  | nil => exact hs x hx
  | cons a stmts ih =>
    rw [run_cons, run_cons]
    refine ih (fun b hb => hin b (List.mem_cons_of_mem a hb)) ?_
    intro y hy
    exact apply_agree (hin a List.mem_cons_self) hr hs hy

end Agreement

end Assignments
