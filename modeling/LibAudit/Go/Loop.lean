import Mathlib.Data.List.Basic

/-!
# Go loops whose body may return

A `for … range` loop whose body may `return` from the function around it: each iteration goes
on with a new state, or ends the function with its results.  A body may also block for good,
on a read that never completes.

## Main definitions

* `Go.Flow` — how an iteration, or a whole loop, ends.
* `Go.Flow.loop` — the loop over a list.
* `Go.Flow.batches` — the loop over the batches a receive hands out, each walked by `loop`.

## Main statements

* `Go.Flow.loop_invariant` — what every iteration keeps, and what every return it makes
  satisfies, holds of how the whole loop ends.
* `Go.Flow.batches_invariant` — the same of the loop over batches, which leaves the last of
  the batches it was given.
-/

namespace Go

/-- How an iteration or a loop ends: it goes on with `state`, or the function returns
`result`. -/
inductive Flow (σ ρ : Type) where
  | next (state : σ)
  | exit (result : ρ)

namespace Flow

variable {σ ρ α : Type}

/-- The loop over `items` with body `step`; `none` when an iteration blocks for good. -/
def loop (step : σ → α → Option (Flow σ ρ)) : σ → List α → Option (Flow σ ρ)
  | state, [] => some (.next state)
  | state, item :: items =>
    match step state item with
    | some (.next state) => loop step state items
    | flow => flow

/-- A property of how a loop ends: `inv` of the state it goes on with, `returned` of what it
returns. -/
def Holds (inv : σ → Prop) (returned : ρ → Prop) : Flow σ ρ → Prop
  | .next state => inv state
  | .exit result => returned result

variable {step : σ → α → Option (Flow σ ρ)} {state state' : σ} {item : α} {items : List α}

theorem loop_cons_of_next (stepped : step state item = some (.next state')) :
    loop step state (item :: items) = loop step state' items := by
  rw [loop, stepped]

theorem loop_cons_of_exit {result : ρ} (returned : step state item = some (.exit result)) :
    loop step state (item :: items) = some (.exit result) := by
  rw [loop, returned]

/-- A loop over one item ends as its one iteration does. -/
theorem loop_singleton : loop step state [item] = step state item := by
  rw [loop]
  split
  · next state' stepped =>
      rw [stepped, loop]
  · rfl

/-- A loop over `items ++ rest` whose run over `items` goes on, goes on over `rest`. -/
theorem loop_append_of_next {rest : List α} (looped : loop step state items = some (.next state')) :
    loop step state (items ++ rest) = loop step state' rest := by
  induction items generalizing state with
  | nil =>
      cases looped
      rfl
  | cons item items inductionHypothesis =>
      rw [loop] at looped
      rw [List.cons_append, loop]
      rcases stepped : step state item with _ | flow
      · rw [stepped] at looped
        cases looped
      · rw [stepped] at looped
        cases flow with
        | next state'' => exact inductionHypothesis looped
        | exit result => cases looped

/-- **The loop invariant.**  If every iteration from a state satisfying `inv` goes on in such a
state or returns a result satisfying `returned`, so does the whole loop. -/
theorem loop_invariant {inv : σ → Prop} {returned : ρ → Prop}
    (kept : ∀ state item flow, inv state → step state item = some flow → flow.Holds inv returned) :
    ∀ (items : List α) {state : σ} {flow : Flow σ ρ},
      inv state → loop step state items = some flow → flow.Holds inv returned
  | [], state, flow, holds, ended => by
      cases ended
      exact holds
  | item :: items, state, flow, holds, ended => by
      rw [loop] at ended
      rcases stepped : step state item with _ | flow'
      · rw [stepped] at ended
        cases ended
      · have holds' := kept state item flow' holds stepped
        rw [stepped] at ended
        cases flow' with
        | next state' => exact loop_invariant kept items holds' ended
        | exit result =>
            cases ended
            exact holds'

/-! ## Loops over received batches -/

section Batches

variable {β ε : Type} {parse : β → Except ε (List α)} {failed : ε → σ → ρ} {batch : β}
  {rest : List β}

/-- `for { batch, err := receive(); if err != nil { return … }; for _, item := range batch
{ … } }`: the loop over the batches a receive hands out, each decoded by `parse`, with the
batches left when it returns; `none` when it waits for good for one more batch. -/
def batches (parse : β → Except ε (List α)) (step : σ → α → Option (Flow σ ρ))
    (failed : ε → σ → ρ) : σ → List β → Option (ρ × List β)
  | _, [] => none
  | state, batch :: rest =>
    match parse batch with
    | .error err => some (failed err state, rest)
    | .ok items =>
      match loop step state items with
      | some (.next state) => batches parse step failed state rest
      | some (.exit result) => some (result, rest)
      | none => none

theorem batches_cons_of_error {err : ε} (parsed : parse batch = .error err) :
    batches parse step failed state (batch :: rest) = some (failed err state, rest) := by
  rw [batches, parsed]

theorem batches_cons_of_next {items : List α} (parsed : parse batch = .ok items)
    (looped : loop step state items = some (.next state')) :
    batches parse step failed state (batch :: rest) = batches parse step failed state' rest := by
  rw [batches, parsed]
  simp only [looped]

theorem batches_cons_of_exit {items : List α} {result : ρ} (parsed : parse batch = .ok items)
    (looped : loop step state items = some (.exit result)) :
    batches parse step failed state (batch :: rest) = some (result, rest) := by
  rw [batches, parsed]
  simp only [looped]

/-- **The invariant of the loop over batches.**  If every iteration from a state satisfying
`inv` goes on in such a state or returns a result satisfying `returned`, and so does a failed
receive, then whatever the whole loop returns satisfies `returned`, and the batches it leaves
are the last of those it was given. -/
theorem batches_invariant {inv : σ → Prop} {returned : ρ → Prop}
    (kept : ∀ state item flow, inv state → step state item = some flow → flow.Holds inv returned)
    (failedHolds : ∀ err state, inv state → returned (failed err state)) :
    ∀ (batchList : List β) {state : σ} {result : ρ} {left : List β}, inv state →
      batches parse step failed state batchList = some (result, left) →
        returned result ∧ left <:+ batchList
  | [], _, _, _, _, ended => by cases ended
  | batch :: rest, state, result, left, holds, ended => by
      rw [batches] at ended
      rcases parsed : parse batch with err | items
      · rw [parsed] at ended
        cases ended
        exact ⟨failedHolds err state holds, List.suffix_cons batch rest⟩
      · rw [parsed] at ended
        dsimp only at ended
        rcases looped : loop step state items with _ | (state' | result')
        · rw [looped] at ended
          cases ended
        · rw [looped] at ended
          -- the loop went on: the rest of the batches, from the state it went on with
          obtain ⟨returnedHolds, suffix⟩ :=
            batches_invariant kept failedHolds rest (loop_invariant kept items holds looped) ended
          exact ⟨returnedHolds, suffix.trans (List.suffix_cons batch rest)⟩
        · rw [looped] at ended
          cases ended
          exact ⟨loop_invariant kept items holds looped, List.suffix_cons batch rest⟩

/-- The loop over batches leaves the last of the batches it was given, whatever it returns. -/
theorem batches_suffix {batchList left : List β} {result : ρ}
    (ended : batches parse step failed state batchList = some (result, left)) :
    left <:+ batchList := by
  have kept : ∀ state item (flow : Flow σ ρ), True → step state item = some flow →
      flow.Holds (fun _ => True) (fun _ => True) := by
    intro _ _ flow _ _
    cases flow <;> trivial
  exact (batches_invariant kept (fun _ _ _ => trivial) batchList trivial ended).2

end Batches

end Flow

end Go
