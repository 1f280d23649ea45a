import Mathlib.Data.List.Basic

/-!
# Go run-time semantics: panics, strings and slices

The library under study is written in Go, and what decides most of its safety properties is
how Go's slice expressions behave at run time.  This module models that, and nothing of the
library itself.

## Main definitions

* `Go.Panic` — the run-time panics the modelled code can raise.
* `Go.sliceFrom`, `Go.sliceTo` — `s[low:]` and `s[:high]` on a `string`.
* `Go.Slice` — a `[]T` value: the elements it shows, and the rest of its backing array.
* `Go.Slice.sliceFrom`, `Go.Slice.sliceTo`, `Go.Slice.slice` — `s[low:]`, `s[:high]` and
  `s[low:high]` on a slice.
* `Go.Fault.wrap`, `Go.wrap` — `errors.Wrap` of `github.com/pkg/errors`.
* `Go.NoPanic` — a computation that returns a value or an error, but does not panic.
* `Go.mapIndex` — `m[key]` on a `map[K]string`.

## Design notes

A Go `string` is a sequence of bytes, and `len`, indexing and slicing count bytes.  The model
holds a string as a `List Char` with one `Char` per byte (the character of the same code), so
that every length and index below is the one Go computes.

A slice expression is checked against different bounds on the two sides.  `s[low:]` stands
for `s[low:len(s)]` and panics as soon as `low > len(s)`; `s[:high]` may reach past `len(s)`,
up to `cap(s)`, and then shows elements of the backing array that the slice did not show
before.  `Go.Slice` keeps those elements in its `spare` field, so that a model of code that
slices past the length reads exactly the bytes Go reads there.
-/

namespace Go

/-- A run-time panic of the modelled Go code. -/
inductive Panic where
  /-- A slice expression `s[low:high]` outside `0 ≤ low ≤ high ≤ bound`, where `bound` is
  `len(s)` for a string and for an omitted upper index, and `cap(s)` otherwise. -/
  | sliceBounds (low high bound : Nat)
  /-- An index expression `s[index]` outside `0 ≤ index < len(s)`. -/
  | indexOutOfRange (index length : Nat)
  /-- A failed type assertion `x.(T)` on an interface value. -/
  | typeAssertion
  deriving DecidableEq, Repr

/-- How a call of a function returning `(…, error)` can end without its result: a non-`nil`
error, with its message, or a run-time panic. -/
inductive Fault where
  | error (msg : String)
  | panic (p : Panic)
  deriving DecidableEq, Repr

/-- `errors.Wrap(err, message)` of `github.com/pkg/errors` on a non-`nil` error: the message in
front of the error's own.  A panic is not an error value and goes on as it is. -/
def Fault.wrap (message : String) : Fault → Fault
  | .error msg => .error (message ++ ": " ++ msg)
  | .panic p => .panic p

@[simp] theorem Fault.wrap_error (message msg : String) :
    Fault.wrap message (.error msg) = .error (message ++ ": " ++ msg) := rfl

/-- `errors.Wrap(err, message)` on an error that may be `nil`: `nil` when `err` is. -/
def wrap (err : Option Fault) (message : String) : Except Fault Unit :=
  match err with
  | none => .ok ()
  | some err => .error (err.wrap message)

/-- A computation that can only panic, as one of a function that also returns errors. -/
def liftPanic {α : Type} (x : Except Panic α) : Except Fault α := x.mapError .panic

@[simp] theorem liftPanic_ok {α : Type} (a : α) : liftPanic (.ok a) = .ok a := rfl

@[simp] theorem liftPanic_error {α : Type} (p : Panic) :
    liftPanic (.error p : Except Panic α) = .error (.panic p) := rfl

variable {α : Type}

/-! ## Peeling a computation apart

A model of Go code is a chain of steps that may each panic or fail.  What a successful chain
did is read back with these lemmas, one bind at a time. -/

@[simp] theorem ok_bind {ε β : Type} (a : α) (f : α → Except ε β) :
    (Except.ok a >>= f) = f a := rfl

@[simp] theorem error_bind {ε β : Type} (e : ε) (f : α → Except ε β) :
    (Except.error e >>= f) = .error e := rfl

theorem bind_eq_ok {ε β : Type} {x : Except ε α} {f : α → Except ε β} {b : β} :
    x >>= f = .ok b ↔ ∃ a, x = .ok a ∧ f a = .ok b := by
  cases x <;> simp [bind, Except.bind]

theorem map_eq_ok {ε β : Type} {x : Except ε α} {f : α → β} {b : β} :
    x.map f = .ok b ↔ ∃ a, x = .ok a ∧ f a = b := by
  cases x <;> simp [Except.map]

theorem mapError_eq_ok {ε ε' : Type} {x : Except ε α} {f : ε → ε'} {a : α} :
    x.mapError f = .ok a ↔ x = .ok a := by
  cases x <;> simp [Except.mapError]

/-- A computation that wraps the error of `x` and then only builds its result succeeds exactly
when `x` does. -/
theorem exists_mapError_bind_pure_eq_ok {ε ε' β : Type} (x : Except ε α) (f : ε → ε')
    (g : α → β) : (∃ b, (x.mapError f >>= fun a => pure (g a)) = .ok b) ↔ ∃ a, x = .ok a := by
  cases x with
  | error e => simp [Except.mapError]
  | ok a => exact iff_of_true ⟨g a, rfl⟩ ⟨a, rfl⟩

/-- A loop over `as` that succeeds on each element with the value `g b` of the element `b` it
stands for in `bs` returns those values in order. -/
theorem mapM_eq_ok_of_forall₂ {ε β γ : Type} {R : α → β → Prop} {P : β → Prop}
    {f : α → Except ε γ} {g : β → γ} (step : ∀ a b, R a b → P b → f a = .ok (g b)) :
    ∀ {as : List α} {bs : List β}, List.Forall₂ R as bs → (∀ b ∈ bs, P b) →
      as.mapM f = .ok (bs.map g)
  | _, _, .nil, _ => rfl
  | _, _, .cons (a := a) (b := b) related rest, holds => by
      have later := mapM_eq_ok_of_forall₂ step rest fun b' mem =>
        holds b' (List.mem_cons_of_mem b mem)
      rw [List.mapM_cons, step a b related (holds b List.mem_cons_self), ok_bind, later, ok_bind]
      rfl

/-! ## Computations that do not panic

A function that returns `(…, error)` can still end in a run-time panic.  That it does not is
shown one bind at a time, with the rules below. -/

/-- The computation ends with a value or an error, not with a run-time panic. -/
def NoPanic (x : Except Fault α) : Prop := ∀ p, x ≠ .error (.panic p)

@[simp] theorem noPanic_ok (a : α) : NoPanic (.ok a : Except Fault α) := by
  intro p h
  cases h

@[simp] theorem noPanic_pure (a : α) : NoPanic (pure a : Except Fault α) := noPanic_ok a

@[simp] theorem noPanic_error (msg : String) :
    NoPanic (.error (.error msg) : Except Fault α) := by
  intro p h
  cases h

@[simp] theorem noPanic_liftPanic_iff (x : Except Panic α) :
    NoPanic (liftPanic x) ↔ ∃ a, x = .ok a := by
  cases x with
  | ok a => simp
  | error p => exact ⟨fun h => absurd rfl (h p), fun ⟨_, h⟩ => by cases h⟩

@[simp] theorem noPanic_ite {c : Prop} [Decidable c] {x y : Except Fault α} :
    NoPanic (if c then x else y) ↔ (c → NoPanic x) ∧ (¬ c → NoPanic y) := by
  by_cases h : c <;> simp [h]

theorem NoPanic.bind {β : Type} {x : Except Fault α} {f : α → Except Fault β} (first : NoPanic x)
    (rest : ∀ a, x = .ok a → NoPanic (f a)) : NoPanic (x >>= f) := by
  cases x with
  | error e =>
    intro p failed
    rw [error_bind] at failed
    cases failed
    exact first p rfl
  | ok a => exact rest a rfl

/-- `errors.Wrap` turns an error into an error and lets nothing else through. -/
theorem NoPanic.mapError_wrap (message : String) {x : Except Fault α} (hx : NoPanic x) :
    NoPanic (x.mapError (Fault.wrap message)) := by
  cases x with
  | ok a => exact noPanic_ok a
  | error e =>
    cases e with
    | error msg => exact noPanic_error _
    | panic p => exact absurd rfl (hx p)

/-- A loop whose every iteration does not panic does not panic. -/
theorem NoPanic.foldlM {β : Type} {f : β → α → Except Fault β}
    (step : ∀ acc a, NoPanic (f acc a)) (l : List α) (init : β) : NoPanic (l.foldlM f init) := by
  induction l generalizing init with
  | nil => exact noPanic_pure init
  | cons a l ih =>
    rw [List.foldlM_cons]
    exact (step init a).bind fun acc _ => ih acc

/-- A fold in `Except` fails when its step fails at one of the elements, whatever has been
accumulated when it gets there; by induction on the elements before it. -/
theorem foldlM_error_of_mem {ε β : Type} {f : β → α → Except ε β} {a : α}
    (fails : ∀ acc, ∃ e, f acc a = .error e) {l : List α} (mem : a ∈ l) (init : β) :
    ∃ e, l.foldlM f init = .error e := by
  induction l generalizing init with
  | nil => exact absurd mem List.not_mem_nil
  | cons b l ih =>
    rw [List.foldlM_cons]
    cases step : f init b with
    | error e => exact ⟨e, rfl⟩
    | ok acc =>
      rw [ok_bind]
      rcases List.mem_cons.mp mem with here | later
      · obtain ⟨e, failed⟩ := fails init
        rw [← here, failed] at step
        cases step
      · exact ih later acc

/-! ## Strings -/

/-- `string(rune(r))`: the character of code `r`, or `U+FFFD` when `r` is not one. -/
def runeString (r : Nat) : String :=
  if r < 0xD800 ∨ (0xDFFF < r ∧ r < 0x110000) then String.singleton (Char.ofNat r) else "\uFFFD"

/-- `s[low:]` on a string: in range when `low ≤ len(s)`. -/
def sliceFrom (s : List α) (low : Nat) : Except Panic (List α) :=
  if low ≤ s.length then .ok (s.drop low) else .error (.sliceBounds low s.length s.length)

/-- `s[:high]` on a string: in range when `high ≤ len(s)`. -/
def sliceTo (s : List α) (high : Nat) : Except Panic (List α) :=
  if high ≤ s.length then .ok (s.take high) else .error (.sliceBounds 0 high s.length)

/-- `s[low:high]` on a string: in range when `low ≤ high ≤ len(s)`. -/
def slice (s : List α) (low high : Nat) : Except Panic (List α) :=
  if low ≤ high ∧ high ≤ s.length then .ok ((s.take high).drop low)
  else .error (.sliceBounds low high s.length)

theorem sliceFrom_of_le {s : List α} {low : Nat} (h : low ≤ s.length) :
    sliceFrom s low = .ok (s.drop low) := by
  simp [sliceFrom, h]

theorem sliceFrom_of_lt {s : List α} {low : Nat} (h : s.length < low) :
    sliceFrom s low = .error (.sliceBounds low s.length s.length) := by
  simp [sliceFrom, Nat.not_le.mpr h]

/-- Dropping a prefix and the separator after it: the step every tokenizer loop takes. -/
@[simp] theorem sliceFrom_append_cons (t : List α) (c : α) (rest : List α) :
    sliceFrom (t ++ c :: rest) (t.length + 1) = .ok rest := by
  rw [sliceFrom_of_le (by simp)]
  simp

theorem sliceFrom_eq_ok {s r : List α} {low : Nat} (h : sliceFrom s low = .ok r) :
    low ≤ s.length ∧ r = s.drop low := by
  unfold sliceFrom at h
  split at h
  · exact ⟨‹_›, (Except.ok.inj h).symm⟩
  · cases h

theorem length_lt_of_sliceFrom_eq_ok {s r : List α} {low : Nat} (h : sliceFrom s low = .ok r)
    (pos : 0 < low) : r.length < s.length ∨ s = [] := by
  obtain ⟨hle, rfl⟩ := sliceFrom_eq_ok h
  rcases s with _ | ⟨a, s⟩
  · exact .inr rfl
  · left
    simp only [List.length_drop, List.length_cons] at hle ⊢
    omega

theorem sliceTo_of_le {s : List α} {high : Nat} (h : high ≤ s.length) :
    sliceTo s high = .ok (s.take high) := by
  simp [sliceTo, h]

/-- Cutting a prefix off at its own length. -/
@[simp] theorem sliceTo_append (t rest : List α) : sliceTo (t ++ rest) t.length = .ok t := by
  rw [sliceTo_of_le (by simp)]
  simp

theorem slice_of_le {s : List α} {low high : Nat} (hlow : low ≤ high) (hhigh : high ≤ s.length) :
    slice s low high = .ok ((s.take high).drop low) := by
  simp [slice, hlow, hhigh]

/-- `strings.Index(t + sep + rest, sep)` is `len(t)` when `t` has no `sep`. -/
theorem idxOf?_append_cons_of_not_mem [BEq α] [LawfulBEq α] {sep : α} {t : List α}
    (rest : List α) (absent : sep ∉ t) : (t ++ sep :: rest).idxOf? sep = some t.length := by
  induction t with
  | nil => simp [List.idxOf?_cons]
  | cons c t ih =>
    have other : ¬ (c == sep) = true := by
      intro same
      exact absent (by simp [(beq_iff_eq.mp same).symm])
    rw [List.cons_append, List.idxOf?_cons, if_neg other, ih (fun mem => absent (by simp [mem]))]
    rfl

/-- Cutting `s` at the first `sep`, as `s[:strings.Index(s, sep)]` does when the separator is
there and `s` itself otherwise, keeps the longest prefix without `sep`. -/
theorem take_idxOf?_eq_takeWhile [BEq α] [LawfulBEq α] (sep : α) (s : List α) :
    (match s.idxOf? sep with
      | some index => (s.take index, index)
      | none => (s, s.length)) =
      (s.takeWhile (· != sep), (s.takeWhile (· != sep)).length) := by
  induction s with
  | nil => simp
  | cons c s ih =>
    rw [List.idxOf?_cons, List.takeWhile_cons]
    by_cases found : c == sep
    · simp [found, bne]
    · have keep : (c != sep) = true := by simp [bne, found]
      rw [if_neg found, if_pos keep]
      cases found' : s.idxOf? sep with
      | none =>
        rw [found'] at ih
        obtain ⟨whole, -⟩ := Prod.mk.inj ih
        simp only [Option.map_none]
        rw [← whole]
      | some index =>
        rw [found'] at ih
        obtain ⟨taken, counted⟩ := Prod.mk.inj ih
        simp only [Option.map_some, List.take_succ_cons, List.length_cons, taken, ← counted]

/-! ## Maps -/

/-- `m[key]` on a `map[K]string` given by its entries: the value of `key`, or `""` when the map
has none. -/
def mapIndex {κ : Type} [BEq κ] (m : List (κ × List Char)) (key : κ) : List Char := (m.lookup key).getD []

/-! ## Slices -/

/-- A Go slice `[]T`: the `len(s)` elements it shows, and the elements of its backing array
after them, which `s[:high]` can still reach up to `cap(s)`. -/
structure Slice (α : Type) where
  /-- The elements `s[0]`, …, `s[len(s)-1]`. -/
  elems : List α
  /-- The backing array from index `len(s)` up to `cap(s)`. -/
  spare : List α
  deriving DecidableEq, Repr

namespace Slice

/-- `len(s)`. -/
def len (s : Slice α) : Nat := s.elems.length

/-- `cap(s)`. -/
def cap (s : Slice α) : Nat := s.elems.length + s.spare.length

/-- A slice with no room beyond its elements, as `make([]T, n)` or a fresh `append` gives. -/
def ofList (l : List α) : Slice α := ⟨l, []⟩

/-- `s[low:]`, that is `s[low:len(s)]`: in range when `low ≤ len(s)`; the capacity beyond the
length is kept. -/
def sliceFrom (s : Slice α) (low : Nat) : Except Panic (Slice α) :=
  if low ≤ s.len then .ok ⟨s.elems.drop low, s.spare⟩ else .error (.sliceBounds low s.len s.len)

/-- `s[:high]`: in range when `high ≤ cap(s)`, so that it may show elements of the backing
array past `len(s)`. -/
def sliceTo (s : Slice α) (high : Nat) : Except Panic (Slice α) :=
  if high ≤ s.cap then .ok ⟨(s.elems ++ s.spare).take high, (s.elems ++ s.spare).drop high⟩
  else .error (.sliceBounds 0 high s.cap)

/-- `s[low:high]`: in range when `low ≤ high ≤ cap(s)`. -/
def slice (s : Slice α) (low high : Nat) : Except Panic (Slice α) :=
  if low ≤ high ∧ high ≤ s.cap then
    .ok ⟨((s.elems ++ s.spare).take high).drop low, (s.elems ++ s.spare).drop high⟩
  else .error (.sliceBounds low high s.cap)

@[simp] theorem len_ofList (l : List α) : (ofList l).len = l.length := rfl

@[simp] theorem elems_ofList (l : List α) : (ofList l).elems = l := rfl

theorem sliceFrom_of_le {s : Slice α} {low : Nat} (h : low ≤ s.len) :
    s.sliceFrom low = .ok ⟨s.elems.drop low, s.spare⟩ := by
  simp [sliceFrom, h]

theorem sliceFrom_of_lt {s : Slice α} {low : Nat} (h : s.len < low) :
    s.sliceFrom low = .error (.sliceBounds low s.len s.len) := by
  simp [sliceFrom, Nat.not_le.mpr h]

theorem len_of_sliceFrom_eq_ok {s r : Slice α} {low : Nat} (h : s.sliceFrom low = .ok r) :
    low ≤ s.len ∧ r.len = s.len - low := by
  unfold sliceFrom at h
  split at h
  · cases h
    exact ⟨‹_›, by simp [len]⟩
  · cases h

theorem sliceTo_of_le_cap {s : Slice α} {high : Nat} (h : high ≤ s.cap) :
    s.sliceTo high = .ok ⟨(s.elems ++ s.spare).take high, (s.elems ++ s.spare).drop high⟩ := by
  simp [sliceTo, h]

end Slice

end Go
