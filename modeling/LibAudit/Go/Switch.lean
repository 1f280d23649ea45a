import Mathlib.Data.List.Basic

/-!
# Chains of comparisons

Go code that picks what to do by a name writes it as a chain
`if name == k₁ { return r₁ } else if name == k₂ { return r₂ } …; return otherwise`, and often
nests the chain under tests such as `strings.HasPrefix(name, p)` that skip a whole group of
names at once.  Such a chain is the lookup of the name in a table of cases.  This module gives
the table its meaning, and the rules that take a chain apart into it: one comparison at a time
(`switchOn_cons`), and one guarded group at a time (`switchOn_append_of_guard`).

## Main definitions

* `Go.switchOn` — the result of the case of a key in a table of cases, or a default.

## Main statements

* `Go.switchOn_append_of_guard` — a group of cases whose keys all pass a test that no later key
  passes is the branch of that test.
* `Go.switchOn_of_forall` — what holds of every case and of the default holds of the result.
-/

namespace Go

variable {κ ρ : Type} [BEq κ]

/-- The result of the first case of `table` whose key is `key`, or `otherwise` when there is
none. -/
def switchOn (table : List (κ × ρ)) (otherwise : ρ) (key : κ) : ρ :=
  (table.lookup key).getD otherwise

@[simp] theorem switchOn_nil (otherwise : ρ) (key : κ) :
    switchOn ([] : List (κ × ρ)) otherwise key = otherwise := rfl

/-- One comparison of the chain. -/
theorem switchOn_cons [LawfulBEq κ] [DecidableEq κ] (k : κ) (r : ρ) (table : List (κ × ρ))
    (otherwise : ρ) (key : κ) :
    switchOn ((k, r) :: table) otherwise key =
      if key = k then r else switchOn table otherwise key := by
  unfold switchOn
  rw [List.lookup_cons]
  by_cases same : key = k
  · simp [same]
  · have differ : (key == k) = false := beq_false_of_ne same
    simp only [differ, same, if_false]

/-- A group of cases whose keys all pass `guard`, in front of cases whose keys all fail it, is
the branch `if guard key` of the chain. -/
theorem switchOn_append_of_guard [LawfulBEq κ] (guard : κ → Bool) {group rest : List (κ × ρ)}
    (inGroup : ∀ k ∈ group.map Prod.fst, guard k)
    (outside : ∀ k ∈ rest.map Prod.fst, guard k = false) (otherwise : ρ) (key : κ) :
    switchOn (group ++ rest) otherwise key =
      if guard key then switchOn group otherwise key else switchOn rest otherwise key := by
  by_cases passes : guard key
  · have absent : ∀ c ∈ rest, c.1 ≠ key := by
      rintro c mem rfl
      simp [outside c.1 (List.mem_map_of_mem mem)] at passes
    have none : rest.lookup key = none :=
      List.lookup_eq_none_iff.mpr fun c mem => bne_iff_ne.mpr (absent c mem).symm
    rw [if_pos passes, switchOn, switchOn, List.lookup_append, none, Option.or_none]
  · have absent : ∀ c ∈ group, c.1 ≠ key := by
      rintro c mem rfl
      exact passes (inGroup c.1 (List.mem_map_of_mem mem))
    have none : group.lookup key = none :=
      List.lookup_eq_none_iff.mpr fun c mem => bne_iff_ne.mpr (absent c mem).symm
    rw [if_neg passes, switchOn, switchOn, List.lookup_append, none, Option.none_or]

/-- What holds of the result of every case and of the default holds of the chain. -/
theorem switchOn_of_forall {P : ρ → Prop} {table : List (κ × ρ)} {otherwise : ρ}
    (cases : ∀ c ∈ table, P c.2) (fallback : P otherwise) (key : κ) :
    P (switchOn table otherwise key) := by
  induction table with
  | nil => exact fallback
  | cons c table ih =>
    obtain ⟨k, r⟩ := c
    unfold switchOn
    rw [List.lookup_cons]
    split
    · exact cases (k, r) List.mem_cons_self
    · exact ih fun c mem => cases c (List.mem_cons_of_mem _ mem)

end Go
