import Mathlib.Data.List.Basic

/-!
# Go's `regexp` package: leftmost-first matching

The package documents its semantics as leftmost-first: of the matches that begin as early as
possible in the text, it reports the one a backtracking implementation would find first.  This
module gives that semantics for the syntax trees of the operators the modelled code uses, and
the functions `FindStringSubmatch`, `FindAllStringSubmatch` and `MatchString` on top of it.

## Main definitions

* `Go.Regexp` — a parsed regular expression: classes of one byte, the empty text, `$`,
  concatenation, alternation, greedy repetition and capturing groups.
* `Go.Regexp.backtrack` — every way an expression matches at the start of a text, in the order
  of a backtracking search.
* `Go.Regexp.search`, `Go.Regexp.findStringSubmatch`, `Go.Regexp.findAllStringSubmatch`,
  `Go.Regexp.matchString` — the package's functions.

## Main statements

* `firstMatch_concat`, `firstMatch_star_charClass`, `firstMatch_star_plus_charClass` — the
  first match of the composite expressions, from the first matches of their parts.
* `search_of_firstMatch`, `search_cons_of_backtrack_nil`, `search_eq_none` — where the search
  stops.

## Design notes

A match is the text after it and the groups it captured.  `backtrack` lists every match in the
order a backtracking search tries them: the left alternative before the right one, and in a
repetition one more iteration before stopping.  The first of the list is the match Go reports.
An iteration of a repetition that matches the empty text ends the repetition; the expressions
of the library never reach that case.

A group records its text when its match ends, in front of the earlier records, so that a
group matched again inside a repetition reports its last text, as Go does.

Texts are lists of bytes.  The classes the library uses are ASCII sets and their complements:
they match a text byte by byte exactly where Go, which decodes UTF-8, matches it rune by rune.
-/

namespace Go

/-- The texts of the capturing groups matched so far, the latest first. -/
abbrev Captures := List (Nat × List Char)

/-- A parsed regular expression. -/
inductive Regexp where
  /-- One byte of a class, given by its membership test. -/
  | charClass (test : Char → Bool)
  /-- The empty text. -/
  | empty
  /-- `$` without the multi-line flag: the end of the text. -/
  | endText
  | concat (first second : Regexp)
  | alternate (left right : Regexp)
  /-- `x*`, greedy. -/
  | star (sub : Regexp)
  /-- `(x)`: the group of the given index. -/
  | capture (index : Nat) (sub : Regexp)

namespace Regexp

/-- The byte `c`. -/
def char (c : Char) : Regexp := charClass (· == c)

/-- `x+`, greedy: one iteration, then a repetition. -/
def plus (sub : Regexp) : Regexp := concat sub (star sub)

/-- The expressions one after the other. -/
def seq : List Regexp → Regexp
  | [] => empty
  | r :: rs => concat r (seq rs)

/-- The bytes of a text one after the other. -/
def literal (s : List Char) : Regexp := seq (s.map char)

/-- The matches of a repetition of `sub` from `text`: an iteration that consumes something,
then the repetition again from where it ended, before stopping here. -/
def starMatches (sub : List Char → Captures → List (List Char × Captures)) (text : List Char)
    (caps : Captures) : List (List Char × Captures) :=
  (sub text caps).flatMap (fun m =>
    if m.1.length < text.length then starMatches sub m.1 m.2 else []) ++ [(text, caps)]
termination_by text.length

/-- Every match of `r` at the start of `text`, in the order of a backtracking search: the text
after the match and the groups captured. -/
def backtrack : Regexp → List Char → Captures → List (List Char × Captures)
  | charClass test, c :: rest, caps => if test c then [(rest, caps)] else []
  | charClass _, [], _ => []
  | empty, text, caps => [(text, caps)]
  | endText, text, caps => if text = [] then [(text, caps)] else []
  | concat first second, text, caps =>
    (first.backtrack text caps).flatMap fun m => second.backtrack m.1 m.2
  | alternate left right, text, caps => left.backtrack text caps ++ right.backtrack text caps
  | star sub, text, caps => starMatches sub.backtrack text caps
  | capture index sub, text, caps =>
    (sub.backtrack text caps).map fun m =>
      (m.1, (index, text.take (text.length - m.1.length)) :: m.2)

/-- The match Go reports at the start of a text: the first in the order of the search. -/
def firstMatch (r : Regexp) (text : List Char) (caps : Captures) :
    Option (List Char × Captures) :=
  (r.backtrack text caps).head?

/-- The leftmost start at which `r` matches in `text`, as the number of bytes before it, and
the first match there. -/
def search (r : Regexp) : List Char → Option (Nat × List Char × Captures)
  | [] => (r.firstMatch [] []).map fun found => (0, found)
  | c :: tail =>
    match r.firstMatch (c :: tail) [] with
    | some found => some (0, found)
    | none => (r.search tail).map fun (skip, found) => (skip + 1, found)

/-- The number of capturing groups, numbered from one. -/
def numSubexp : Regexp → Nat
  | charClass _ | empty | endText => 0
  | concat first second | alternate first second => max first.numSubexp second.numSubexp
  | star sub => sub.numSubexp
  | capture index sub => max index sub.numSubexp

/-- The texts Go reports for a match: the whole match, then the text of each group, empty for
a group that took no part. -/
def submatches (r : Regexp) (whole : List Char) (caps : Captures) : List (List Char) :=
  whole :: (List.range r.numSubexp).map fun i => (caps.lookup (i + 1)).getD []

/-- The text of a match `skip` bytes into `text` that ends before `rest`. -/
def matchedText (text : List Char) (skip : Nat) (rest : List Char) : List Char :=
  (text.drop skip).take ((text.drop skip).length - rest.length)

/-- `re.FindStringSubmatch(s)`: the texts of the leftmost match, or nothing. -/
def findStringSubmatch (r : Regexp) (text : List Char) : List (List Char) :=
  match r.search text with
  | some (skip, rest, caps) => r.submatches (matchedText text skip rest) caps
  | none => []

/-- `re.MatchString(s)`: whether `r` matches somewhere in the text. -/
def matchString (r : Regexp) (text : List Char) : Bool :=
  (r.search text).isSome

/-- The loop of `re.allMatches` from the text after the position `pos`: search from `pos`; a
match ending at `pos` is empty and is dropped when the previous match also ended there, and the
next search starts one byte further; after any other match, at its end.  `afterMatch` says
whether the previous match ended at `pos`.  Each round moves `pos` forward, so that `fuel`
one more than the length of the text is never exhausted. -/
def allMatchesFrom (r : Regexp) : Nat → List Char → Bool → List (List (List Char))
  | 0, _, _ => []
  | fuel + 1, text, afterMatch =>
    match r.search text with
    | none => []
    | some (skip, rest, caps) =>
      let found := r.submatches (matchedText text skip rest) caps
      -- the match ends at `pos`
      if rest.length = text.length then
        let later := match text with
          | [] => []
          | _ :: tail => r.allMatchesFrom fuel tail false
        if afterMatch then later else found :: later
      else found :: r.allMatchesFrom fuel rest true

/-- `re.FindAllStringSubmatch(s, -1)`: the texts of every successive match. -/
def findAllStringSubmatch (r : Regexp) (text : List Char) : List (List (List Char)) :=
  r.allMatchesFrom (text.length + 1) text false

/-! ## The matches of each operator -/

section Backtrack

variable {test : Char → Bool} {a b sub : Regexp} {text rest : List Char} {caps : Captures}

@[simp] theorem backtrack_charClass_cons (test : Char → Bool) (c : Char) (rest : List Char)
    (caps : Captures) :
    (charClass test).backtrack (c :: rest) caps = if test c then [(rest, caps)] else [] := rfl

@[simp] theorem backtrack_charClass_nil (test : Char → Bool) (caps : Captures) :
    (charClass test).backtrack [] caps = [] := rfl

@[simp] theorem backtrack_empty (text : List Char) (caps : Captures) :
    empty.backtrack text caps = [(text, caps)] := rfl

theorem backtrack_concat (a b : Regexp) (text : List Char) (caps : Captures) :
    (concat a b).backtrack text caps =
      (a.backtrack text caps).flatMap fun m => b.backtrack m.1 m.2 := rfl

@[simp] theorem backtrack_alternate (a b : Regexp) (text : List Char) (caps : Captures) :
    (alternate a b).backtrack text caps = a.backtrack text caps ++ b.backtrack text caps := rfl

theorem backtrack_star (sub : Regexp) (text : List Char) (caps : Captures) :
    (star sub).backtrack text caps = starMatches sub.backtrack text caps := rfl

theorem backtrack_capture (index : Nat) (sub : Regexp) (text : List Char) (caps : Captures) :
    (capture index sub).backtrack text caps = (sub.backtrack text caps).map fun m =>
      (m.1, (index, text.take (text.length - m.1.length)) :: m.2) := rfl

@[simp] theorem seq_nil : seq [] = empty := rfl

@[simp] theorem seq_cons (r : Regexp) (rs : List Regexp) : seq (r :: rs) = concat r (seq rs) :=
  rfl

/-- A repetition: its iterations that consume something, each followed by the repetition from
where it ended, and then the empty match. -/
theorem starMatches_eq (step : List Char → Captures → List (List Char × Captures))
    (text : List Char) (caps : Captures) :
    starMatches step text caps = (step text caps).flatMap (fun m =>
      if m.1.length < text.length then starMatches step m.1 m.2 else []) ++ [(text, caps)] := by
  rw [starMatches]

theorem starMatches_ne_nil (step : List Char → Captures → List (List Char × Captures))
    (text : List Char) (caps : Captures) : starMatches step text caps ≠ [] := by
  rw [starMatches_eq]
  simp

/-- A repetition whose body does not match stops at once. -/
theorem starMatches_of_nil {step : List Char → Captures → List (List Char × Captures)}
    (noMatch : step text caps = []) : starMatches step text caps = [(text, caps)] := by
  rw [starMatches_eq, noMatch]
  rfl

/-- A concatenation whose first part does not match does not match. -/
theorem backtrack_concat_of_nil (noMatch : a.backtrack text caps = []) :
    (concat a b).backtrack text caps = [] := by
  rw [backtrack_concat, noMatch]
  rfl

/-- A first part with one match only: the concatenation goes on from it. -/
theorem backtrack_concat_of_single {m : List Char × Captures}
    (single : a.backtrack text caps = [m]) :
    (concat a b).backtrack text caps = b.backtrack m.1 m.2 := by
  rw [backtrack_concat, single, List.flatMap_singleton]

/-- The bytes of a text, then an expression, on that text and more. -/
theorem backtrack_seq_chars (s : List Char) (rs : List Regexp) (rest : List Char)
    (caps : Captures) :
    (seq (s.map char ++ rs)).backtrack (s ++ rest) caps = (seq rs).backtrack rest caps := by
  induction s with
  | nil => rfl
  | cons c s inductionHypothesis =>
    rw [List.map_cons, List.cons_append, seq_cons, List.cons_append,
      backtrack_concat_of_single (m := (s ++ rest, caps)) (by simp [char])]
    exact inductionHypothesis

/-! ## The first match -/

/-- The text a group captures when its match leaves `rest`. -/
@[simp] theorem take_length_sub_append (w rest : List Char) :
    (w ++ rest).take ((w ++ rest).length - rest.length) = w := by
  simp

theorem firstMatch_seq_chars (s : List Char) (rs : List Regexp) (rest : List Char)
    (caps : Captures) :
    (seq (s.map char ++ rs)).firstMatch (s ++ rest) caps = (seq rs).firstMatch rest caps := by
  rw [firstMatch, backtrack_seq_chars]
  rfl

theorem firstMatch_eq_some_iff {r : Regexp} {m : List Char × Captures} :
    r.firstMatch text caps = some m ↔ ∃ more, r.backtrack text caps = m :: more :=
  List.head?_eq_some_iff

/-- **The first match of a concatenation**: the first match of the second part after the
first match of the first part, when there is one. -/
theorem firstMatch_concat {m₁ m₂ : List Char × Captures} (first : a.firstMatch text caps = some m₁)
    (second : b.firstMatch m₁.1 m₁.2 = some m₂) : (concat a b).firstMatch text caps = some m₂ := by
  obtain ⟨more₁, listed₁⟩ := firstMatch_eq_some_iff.mp first
  obtain ⟨more₂, listed₂⟩ := firstMatch_eq_some_iff.mp second
  apply firstMatch_eq_some_iff.mpr
  rw [backtrack_concat, listed₁, List.flatMap_cons, listed₂]
  exact ⟨_, rfl⟩

theorem firstMatch_alternate_left {m : List Char × Captures}
    (left : a.firstMatch text caps = some m) : (alternate a b).firstMatch text caps = some m := by
  obtain ⟨more, listed⟩ := firstMatch_eq_some_iff.mp left
  apply firstMatch_eq_some_iff.mpr
  rw [backtrack_alternate, listed]
  exact ⟨_, rfl⟩

theorem firstMatch_alternate_of_nil (left : a.backtrack text caps = []) :
    (alternate a b).firstMatch text caps = b.firstMatch text caps := by
  rw [firstMatch, backtrack_alternate, left, List.nil_append]
  rfl

theorem firstMatch_capture (index : Nat) {m : List Char × Captures}
    (first : sub.firstMatch text caps = some m) :
    (capture index sub).firstMatch text caps =
      some (m.1, (index, text.take (text.length - m.1.length)) :: m.2) := by
  obtain ⟨more, listed⟩ := firstMatch_eq_some_iff.mp first
  apply firstMatch_eq_some_iff.mpr
  rw [backtrack_capture, listed, List.map_cons]
  exact ⟨_, rfl⟩

/-- A group around a first match that takes `w` from the front of the text records `w`. -/
theorem firstMatch_capture_append (index : Nat) {w : List Char} {caps' : Captures}
    (first : sub.firstMatch (w ++ rest) caps = some (rest, caps')) :
    (capture index sub).firstMatch (w ++ rest) caps = some (rest, (index, w) :: caps') := by
  rw [firstMatch_capture index first]
  dsimp only
  rw [take_length_sub_append]

theorem firstMatch_charClass {c : Char} (member : test c = true) :
    (charClass test).firstMatch (c :: rest) caps = some (rest, caps) := by
  simp [firstMatch, member]

theorem firstMatch_empty : empty.firstMatch text caps = some (text, caps) := rfl

theorem firstMatch_endText : endText.firstMatch [] caps = some ([], caps) := rfl

/-- A repetition whose body first matches a shorter text goes on from that match. -/
theorem firstMatch_starMatches_of_first {step : List Char → Captures → List (List Char × Captures)}
    {m : List Char × Captures} (first : (step text caps).head? = some m)
    (shorter : m.1.length < text.length) :
    (starMatches step text caps).head? = (starMatches step m.1 m.2).head? := by
  obtain ⟨more, listed⟩ := List.head?_eq_some_iff.mp first
  obtain ⟨m', more', again⟩ := List.exists_cons_of_ne_nil (starMatches_ne_nil step m.1 m.2)
  rw [starMatches_eq, listed, List.flatMap_cons, if_pos shorter, again]
  rfl

/-- The bytes a class rejects at the front of a text: a repetition of the class stops there. -/
def Stops (test : Char → Bool) (rest : List Char) : Prop := ∀ c ∈ rest.head?, test c = false

theorem backtrack_charClass_of_stops (stops : Stops test rest) :
    (charClass test).backtrack rest caps = [] := by
  cases rest with
  | nil => rfl
  | cons c rest => simp [stops c rfl]

/-- **A greedy repetition of a class takes every byte of the class**, and stops at the first
byte out of it. -/
theorem firstMatch_star_charClass {w : List Char} (inClass : ∀ c ∈ w, test c = true)
    (stops : Stops test rest) :
    (star (charClass test)).firstMatch (w ++ rest) caps = some (rest, caps) := by
  induction w with
  | nil =>
    rw [firstMatch, backtrack_star, List.nil_append,
      starMatches_of_nil (backtrack_charClass_of_stops stops)]
    rfl
  | cons c w inductionHypothesis =>
    have first : ((charClass test).backtrack (c :: w ++ rest) caps).head? = some (w ++ rest, caps) :=
      firstMatch_charClass (inClass c List.mem_cons_self)
    rw [firstMatch, backtrack_star, firstMatch_starMatches_of_first first (by simp)]
    exact inductionHypothesis fun d mem => inClass d (List.mem_cons_of_mem c mem)

theorem firstMatch_plus_charClass {c : Char} {w : List Char}
    (inClass : ∀ d ∈ c :: w, test d = true) (stops : Stops test rest) :
    (plus (charClass test)).firstMatch (c :: w ++ rest) caps = some (rest, caps) :=
  firstMatch_concat (firstMatch_charClass (inClass c List.mem_cons_self))
    (firstMatch_star_charClass (fun d mem => inClass d (List.mem_cons_of_mem c mem)) stops)

theorem backtrack_plus_charClass_of_stops (stops : Stops test rest) :
    (plus (charClass test)).backtrack rest caps = [] :=
  backtrack_concat_of_nil (backtrack_charClass_of_stops stops)

/-- A greedy repetition of `x+` for a class `x` takes every byte of the class, as `x*` does. -/
theorem firstMatch_star_plus_charClass {w : List Char} (inClass : ∀ c ∈ w, test c = true)
    (stops : Stops test rest) :
    (star (plus (charClass test))).firstMatch (w ++ rest) caps = some (rest, caps) := by
  have stopped : starMatches (plus (charClass test)).backtrack rest caps = [(rest, caps)] :=
    starMatches_of_nil (backtrack_plus_charClass_of_stops stops)
  cases w with
  | nil =>
    rw [firstMatch, backtrack_star, List.nil_append, stopped]
    rfl
  | cons c w =>
    have shorter : rest.length < (c :: w ++ rest).length := by
      simp only [List.cons_append, List.length_cons, List.length_append]
      omega
    rw [firstMatch, backtrack_star, firstMatch_starMatches_of_first
      (firstMatch_plus_charClass inClass stops) shorter, stopped]
    rfl

end Backtrack

/-! ## Where the search stops -/

section Search

variable {r : Regexp}

theorem search_of_firstMatch {text : List Char} {found : List Char × Captures}
    (first : r.firstMatch text [] = some found) : r.search text = some (0, found) := by
  cases text with
  | nil => simp [search, first]
  | cons c tail => simp [search, first]

/-- No match at the front: the search goes on one byte further. -/
theorem search_cons_of_backtrack_nil {c : Char} {tail : List Char}
    (noMatch : r.backtrack (c :: tail) [] = []) :
    r.search (c :: tail) = (r.search tail).map fun (skip, found) => (skip + 1, found) := by
  have first : r.firstMatch (c :: tail) [] = none := by
    rw [firstMatch, noMatch]
    rfl
  simp [search, first]

/-- No match at any suffix: the search finds nothing. -/
theorem search_eq_none {text : List Char}
    (noMatch : ∀ suffix, suffix <:+ text → r.backtrack suffix [] = []) :
    r.search text = none := by
  induction text with
  | nil =>
    have first : r.firstMatch [] [] = none := by
      rw [firstMatch, noMatch [] List.suffix_rfl]
      rfl
    simp [search, first]
  | cons c tail inductionHypothesis =>
    rw [search_cons_of_backtrack_nil (noMatch _ List.suffix_rfl), inductionHypothesis
      fun suffix later => noMatch suffix (later.trans (List.suffix_cons c tail))]
    rfl

/-- A match at the front after `pre` bytes: the text it matches. -/
theorem matchedText_append (pre w rest : List Char) :
    matchedText (pre ++ (w ++ rest)) pre.length rest = w := by
  simp [matchedText]

/-- A round of `allMatches` that finds a match ending before the end of the text reports it and
goes on after it. -/
theorem allMatchesFrom_of_search {fuel : Nat} {text rest : List Char} {afterMatch : Bool}
    {skip : Nat} {caps : Captures} (found : r.search text = some (skip, rest, caps))
    (shorter : rest.length < text.length) :
    r.allMatchesFrom (fuel + 1) text afterMatch =
      r.submatches (matchedText text skip rest) caps :: r.allMatchesFrom fuel rest true := by
  simp [allMatchesFrom, found, Nat.ne_of_lt shorter]

theorem allMatchesFrom_of_search_none {fuel : Nat} {text : List Char} {afterMatch : Bool}
    (noMatch : r.search text = none) : r.allMatchesFrom (fuel + 1) text afterMatch = [] := by
  simp [allMatchesFrom, noMatch]

end Search

end Regexp

end Go
