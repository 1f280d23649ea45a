import LibAudit.Go.Regexp
import LibAudit.Parser.Interpret

/-!
# `ParseAuditEventRegex`: the parser by regular expressions

`parser.go` keeps, beside `ParseAuditEvent`, an older parser that reads a record with two
regular expressions: `reEventRegex` cuts the header `audit(T:S): ` from the record, and
`parseAuditKeyValue` reads the fields of the rest with `FindAllStringSubmatch`.  This module
translates both on the semantics of `LibAudit.Go.Regexp` and proves that the two parsers agree on
the records the regular expressions were written for.

## Main definitions

* `reEventRegex`, `reKeyValue`, `reQuotedstring` — the three expressions.
* `parseAuditKeyValue`, `parseAuditEventRegex` — the two functions.
* `Field.KeyValue` — a field `k=v` with `k` of `[A-Za-z0-9_-]+` and `v` free of spaces, quotes,
  backslashes and line breaks.

## Main statements

* `parseAuditKeyValue_spaced` — on fields `k=v` joined by single spaces, the regular
  expression reads each field back.
* `parseAuditEvent_agrees_with_regex` — on a record `audit(D1.D2:D3): k1=v1 … kn=vn`, both
  parsers return the same serial, timestamp and map.

## Design notes

The expressions are written as the syntax trees `regexp.MustCompile` parses them to, with the
groups numbered from the left: `(?P<timestamp>…)` is group 1, `(?P<serial>…)` group 2, and so
on.  The classes are ASCII sets and their complements: `\d`, `[A-Za-z0-9_-]`, `[^'"\\]`,
`[^ '"\\]` and `.`, which matches every byte but a line break.
-/

namespace LibAudit

open Go

/-! ## The expressions -/

/-- `\d`. -/
def digitClass : Char → Bool := Char.isDigit

/-- `[A-Za-z0-9_-]`. -/
def fieldNameClass (c : Char) : Bool := c.isAlphanum || c == '_' || c == '-'

/-- `[^'"\\]`, and `[^"'\\]`, the same set. -/
def quotedClass (c : Char) : Bool := !(c == '\'' || c == '"' || c == '\\')

/-- `[^ '"\\]`. -/
def valueClass (c : Char) : Bool := !(c == ' ' || c == '\'' || c == '"' || c == '\\')

/-- `.`: every byte but a line break. -/
def anyClass (c : Char) : Bool := c != '\n'

/-- `reEventRegex`: `audit\((?P<timestamp>\d+\.\d+):(?P<serial>\d+)\): (.*)$`. -/
def reEventRegex : Regexp :=
  .seq ("audit(".toList.map .char ++
    ([.capture 1 (.seq [.plus (.charClass digitClass), .char '.', .plus (.charClass digitClass)]),
      .char ':', .capture 2 (.plus (.charClass digitClass))] ++
    ("): ".toList.map .char ++ [.capture 3 (.star (.charClass anyClass)), .endText])))

/-- The expression of `parseAuditKeyValue`:
`(?P<fieldname>[A-Za-z0-9_-]+)=(?P<fieldvalue>"(?:[^'"\\]+)*"|(?:[^ '"\\]+)*)|'(?:[^"'\\]+)*'`. -/
def reKeyValue : Regexp :=
  .alternate
    (.seq [.capture 1 (.plus (.charClass fieldNameClass)), .char '=',
      .capture 2 (.alternate (.seq [.char '"', .star (.plus (.charClass quotedClass)), .char '"'])
        (.star (.plus (.charClass valueClass))))])
    (.seq [.char '\'', .star (.plus (.charClass quotedClass)), .char '\''])

/-- `reQuotedstring`: `".+"`. -/
def reQuotedstring : Regexp :=
  .seq [.char '"', .plus (.charClass anyClass), .char '"']

/-! ## The parser -/

/-- `parseAuditKeyValue(str)`: each match of `reKeyValue` stores its value under its name,
without the quotes at its ends when `reQuotedstring` finds a quoted text in it. -/
def parseAuditKeyValue (str : List Char) : FieldMap :=
  (reKeyValue.findAllStringSubmatch str).foldl (fun m e =>
    let key := e.getD 1 []
    let value := e.getD 2 []
    let value := if reQuotedstring.matchString value then trimQuotes value else value
    m.insert key value) ∅

/-- `ParseAuditEventRegex(str)`: the serial, the timestamp and the fields of a record, or the
error of a record `reEventRegex` does not match. -/
def parseAuditEventRegex (str : List Char) :
    Except Go.Fault (List Char × List Char × FieldMap) :=
  match reEventRegex.findStringSubmatch str with
  | [_, timestamp, serial, body] => .ok (serial, timestamp, parseAuditKeyValue body)
  | _ => .error malformed

/-! ## The header -/

/-- A non-empty run of decimal digits, as `\d+` matches it. -/
def Digits (d : List Char) : Prop := d ≠ [] ∧ ∀ c ∈ d, c.isDigit = true

instance : DecidablePred Digits := fun d =>
  decidable_of_iff (d ≠ [] ∧ d.all Char.isDigit = true) (by rw [List.all_eq_true]; rfl)

theorem firstMatch_plus_digits {d : List Char} (digits : Digits d) {rest : List Char}
    (stops : Regexp.Stops digitClass rest) (caps : Captures) :
    (Regexp.plus (.charClass digitClass)).firstMatch (d ++ rest) caps = some (rest, caps) := by
  obtain ⟨c, d', rfl⟩ := List.exists_cons_of_ne_nil digits.1
  exact Regexp.firstMatch_plus_charClass digits.2 stops

/-- `(?P<timestamp>\d+\.\d+)` takes the whole timestamp. -/
theorem firstMatch_timestamp {d₁ d₂ rest : List Char} (digits₁ : Digits d₁) (digits₂ : Digits d₂)
    (stops : Regexp.Stops digitClass rest) (caps : Captures) :
    (Regexp.capture 1 (.seq [.plus (.charClass digitClass), .char '.',
        .plus (.charClass digitClass)])).firstMatch ((d₁ ++ '.' :: d₂) ++ rest) caps =
      some (rest, (1, d₁ ++ '.' :: d₂) :: caps) := by
  have point : Regexp.Stops digitClass ('.' :: (d₂ ++ rest)) := by
    simp [Regexp.Stops, digitClass]
  have inner : (Regexp.seq [.plus (.charClass digitClass), .char '.',
      .plus (.charClass digitClass)]).firstMatch ((d₁ ++ '.' :: d₂) ++ rest) caps =
      some (rest, caps) := by
    rw [List.append_assoc, List.cons_append]
    exact Regexp.firstMatch_concat (firstMatch_plus_digits digits₁ point caps)
      (Regexp.firstMatch_concat (Regexp.firstMatch_charClass (by decide))
        (Regexp.firstMatch_concat (firstMatch_plus_digits digits₂ stops caps)
          Regexp.firstMatch_empty))
  exact Regexp.firstMatch_capture_append 1 inner

/-- `(?P<serial>\d+)` takes the whole serial. -/
theorem firstMatch_serial {d rest : List Char} (digits : Digits d)
    (stops : Regexp.Stops digitClass rest) (caps : Captures) :
    (Regexp.capture 2 (.plus (.charClass digitClass))).firstMatch (d ++ rest) caps =
      some (rest, (2, d) :: caps) :=
  Regexp.firstMatch_capture_append 2 (firstMatch_plus_digits digits stops caps)

/-- **`reEventRegex` cuts the header**: on `audit(D1.D2:D3): body` with a body on one line, the
three groups take the timestamp, the serial and the body. -/
theorem firstMatch_reEventRegex {d₁ d₂ d₃ body : List Char} (digits₁ : Digits d₁)
    (digits₂ : Digits d₂) (digits₃ : Digits d₃) (oneLine : '\n' ∉ body) :
    reEventRegex.firstMatch
        ("audit(".toList ++ ((d₁ ++ '.' :: d₂) ++ ':' :: (d₃ ++ "): ".toList ++ body))) [] =
      some ([], [(3, body), (2, d₃), (1, d₁ ++ '.' :: d₂)]) := by
  have wholeBody : (Regexp.capture 3 (.star (.charClass anyClass))).firstMatch body
      [(2, d₃), (1, d₁ ++ '.' :: d₂)] = some ([], [(3, body), (2, d₃), (1, d₁ ++ '.' :: d₂)]) := by
    have inLine : ∀ c ∈ body, anyClass c = true := by
      intro c mem
      have : c ≠ '\n' := fun same => oneLine (same ▸ mem)
      simpa [anyClass] using this
    have taken := @Regexp.firstMatch_star_charClass anyClass [] [(2, d₃), (1, d₁ ++ '.' :: d₂)]
      body inLine (by simp [Regexp.Stops])
    have captured := Regexp.firstMatch_capture_append 3 taken
    rwa [List.append_nil] at captured
  -- the literal `audit(`, then the groups and literals one after the other
  rw [reEventRegex, Regexp.firstMatch_seq_chars]
  simp only [List.cons_append, List.nil_append, Regexp.seq_cons]
  refine Regexp.firstMatch_concat (firstMatch_timestamp digits₁ digits₂
    (by simp [Regexp.Stops, digitClass]) []) ?_
  refine Regexp.firstMatch_concat (Regexp.firstMatch_charClass (by decide)) ?_
  rw [List.append_assoc]
  refine Regexp.firstMatch_concat (firstMatch_serial digits₃
    (by simp [Regexp.Stops, digitClass]) _) ?_
  dsimp only
  rw [Regexp.firstMatch_seq_chars]
  refine Regexp.firstMatch_concat wholeBody ?_
  refine Regexp.firstMatch_concat Regexp.firstMatch_endText ?_
  exact Regexp.firstMatch_empty

/-! ## The fields -/

/-- A field the expression of `parseAuditKeyValue` reads as it is: a name of
`[A-Za-z0-9_-]+`, and a value without spaces, quotes, backslashes and line breaks that
`fixPunctuantions` leaves as it is. -/
structure Field.KeyValue (f : Field) : Prop where
  key_ne_nil : f.key ≠ []
  key_chars : ∀ c ∈ f.key, fieldNameClass c = true
  value_chars : ∀ c ∈ f.value, c ∉ [' ', '"', '\'', '\\', '\n']
  unpunctuated : Field.Unpunctuated f.value

instance : DecidablePred Field.KeyValue := fun f =>
  decidable_of_iff (f.key ≠ [] ∧ f.key.all fieldNameClass = true ∧
      f.value.all (fun c => decide (c ∉ [' ', '"', '\'', '\\', '\n'])) = true ∧
      Field.Unpunctuated f.value) <| by
    simp only [List.all_eq_true, decide_eq_true_eq]
    exact ⟨fun ⟨a, b, c, d⟩ => ⟨a, b, c, d⟩, fun ⟨a, b, c, d⟩ => ⟨a, b, c, d⟩⟩

/-- What `ParseAuditEvent` needs of the same field. -/
theorem Field.KeyValue.plain {f : Field} (kv : f.KeyValue) : f.Plain where
  key_ne_nil := kv.key_ne_nil
  eq_not_mem_key := fun mem => absurd (kv.key_chars '=' mem) (by decide)
  space_not_mem_key := fun mem => absurd (kv.key_chars ' ' mem) (by decide)
  space_not_mem_value := fun mem => kv.value_chars ' ' mem (by simp)
  unpunctuated := kv.unpunctuated
  not_opening := by
    rintro ⟨-, quoted⟩
    obtain ⟨rest, opened⟩ := List.isPrefixOf_iff_prefix.mp quoted
    exact kv.value_chars '\'' (by rw [← opened]; simp) (by simp)

theorem Field.KeyValue.valueClass {f : Field} (kv : f.KeyValue) :
    ∀ c ∈ f.value, valueClass c = true := by
  intro c mem
  have outside := kv.value_chars c mem
  simp only [List.mem_cons, List.not_mem_nil, or_false, not_or] at outside
  simp [LibAudit.valueClass, outside.1, outside.2.1, outside.2.2.1, outside.2.2.2.1]

/-- The byte at the front of a text after a value: one of the value's, or the next one. -/
theorem mem_head?_append {value rest : List Char} {c : Char} (front : c ∈ (value ++ rest).head?) :
    c ∈ value ∨ c ∈ rest.head? := by
  cases value with
  | nil => exact .inr front
  | cons d value =>
    left
    simp only [List.cons_append, List.head?_cons, Option.mem_def, Option.some.injEq] at front
    exact front ▸ List.mem_cons_self

/-- **A field `k=v` is read as it is**: the first match of `reKeyValue` on its token, before the
end of the text or a space, takes `k` as group 1 and `v` as group 2. -/
theorem firstMatch_reKeyValue {f : Field} (kv : f.KeyValue) {rest : List Char}
    (ends : ∀ c ∈ rest.head?, c = ' ') :
    reKeyValue.firstMatch (f.text ++ rest) [] = some (rest, [(2, f.value), (1, f.key)]) := by
  obtain ⟨c, k, named⟩ := List.exists_cons_of_ne_nil kv.key_ne_nil
  have name : (Regexp.capture 1 (.plus (.charClass fieldNameClass))).firstMatch
      (f.key ++ '=' :: (f.value ++ rest)) [] = some ('=' :: (f.value ++ rest), [(1, f.key)]) := by
    have taken := @Regexp.firstMatch_plus_charClass fieldNameClass ('=' :: (f.value ++ rest)) [] c k
      (named ▸ kv.key_chars) (by simp [Regexp.Stops, fieldNameClass])
    rw [← named] at taken
    exact Regexp.firstMatch_capture_append 1 taken
  -- a value never starts a quoted text: the first alternative fails at once
  have unquoted : (Regexp.seq [.char '"', .star (.plus (.charClass quotedClass)),
      .char '"']).backtrack (f.value ++ rest) [(1, f.key)] = [] := by
    apply Regexp.backtrack_concat_of_nil
    apply Regexp.backtrack_charClass_of_stops
    intro d front
    rcases mem_head?_append front with inValue | atEnd
    · have outside := kv.value_chars d inValue
      simp only [List.mem_cons, not_or] at outside
      simpa using outside.2.1
    · rw [ends d atEnd]
      rfl
  have value : (Regexp.capture 2 (.alternate (.seq [.char '"', .star (.plus (.charClass quotedClass)),
      .char '"']) (.star (.plus (.charClass valueClass))))).firstMatch (f.value ++ rest)
      [(1, f.key)] = some (rest, [(2, f.value), (1, f.key)]) := by
    have stops : Regexp.Stops valueClass rest := by
      intro d atEnd
      rw [ends d atEnd]
      rfl
    have taken := @Regexp.firstMatch_star_plus_charClass valueClass rest [(1, f.key)] f.value
      kv.valueClass stops
    apply Regexp.firstMatch_capture_append 2
    rw [Regexp.firstMatch_alternate_of_nil unquoted]
    exact taken
  have token : f.text ++ rest = f.key ++ '=' :: (f.value ++ rest) := by
    simp [Field.text]
  rw [token, reKeyValue]
  apply Regexp.firstMatch_alternate_left
  refine Regexp.firstMatch_concat name ?_
  refine Regexp.firstMatch_concat (Regexp.firstMatch_charClass (by decide)) ?_
  refine Regexp.firstMatch_concat value ?_
  exact Regexp.firstMatch_empty

/-- At a space, or at the end, `reKeyValue` does not match. -/
theorem backtrack_reKeyValue_of_blank {text : List Char} (blank : ∀ c ∈ text.head?, c = ' ') :
    reKeyValue.backtrack text [] = [] := by
  have noName : (Regexp.plus (.charClass fieldNameClass)).backtrack text [] = [] :=
    Regexp.backtrack_plus_charClass_of_stops fun c front => by rw [blank c front]; rfl
  have noQuote : (Regexp.char '\'').backtrack text [] = [] :=
    Regexp.backtrack_charClass_of_stops fun c front => by rw [blank c front]; rfl
  rw [reKeyValue, Regexp.backtrack_alternate, Regexp.seq_cons,
    Regexp.backtrack_concat_of_nil (by rw [Regexp.backtrack_capture, noName]; rfl),
    Regexp.seq_cons, Regexp.backtrack_concat_of_nil noQuote]
  rfl

/-- The search from the end of a match: past the space, the next token. -/
theorem search_reKeyValue {f : Field} (kv : f.KeyValue) {pre rest : List Char}
    (blankPre : pre = [] ∨ pre = [' ']) (ends : ∀ c ∈ rest.head?, c = ' ') :
    reKeyValue.search (pre ++ (f.text ++ rest)) =
      some (pre.length, rest, [(2, f.value), (1, f.key)]) := by
  rcases blankPre with rfl | rfl
  · exact Regexp.search_of_firstMatch (firstMatch_reKeyValue kv ends)
  · rw [List.singleton_append, Regexp.search_cons_of_backtrack_nil
      (backtrack_reKeyValue_of_blank (by simp)), Regexp.search_of_firstMatch
      (firstMatch_reKeyValue kv ends)]
    rfl

/-- What `FindAllStringSubmatch` reports for the match of a field: its token, its name and its
value. -/
theorem submatches_reKeyValue (f : Field) :
    reKeyValue.submatches f.text [(2, f.value), (1, f.key)] = [f.text, f.key, f.value] := by
  rfl

/-- **The run of `allMatches` over fields joined by single spaces**: one match for each field,
in order.  The induction is on the fields; a round starts at a token or at the space before
one, and the fuel stays above the length of the text left. -/
theorem allMatchesFrom_reKeyValue_spaced {fields : List Field} (nonempty : fields ≠ [])
    (kv : ∀ f ∈ fields, f.KeyValue) :
    ∀ (pre : List Char), (pre = [] ∨ pre = [' ']) → ∀ (fuel : Nat) (afterMatch : Bool),
      (pre ++ spaced (fields.map Field.text) []).length < fuel →
      reKeyValue.allMatchesFrom fuel (pre ++ spaced (fields.map Field.text) []) afterMatch =
        fields.map fun f => [f.text, f.key, f.value] := by
  induction fields with
  | nil => exact absurd rfl nonempty
  | cons f fs inductionHypothesis =>
    intro pre blankPre fuel afterMatch enough
    obtain ⟨fuel, rfl⟩ : ∃ fuel', fuel = fuel' + 1 := ⟨fuel - 1, by omega⟩
    have positive : 0 < f.text.length := List.length_pos_iff.mpr (Field.text_ne_nil f)
    cases fs with
    | nil =>
      -- the last token: after it the search finds nothing
      have text : pre ++ spaced ([f].map Field.text) [] = pre ++ (f.text ++ []) := by
        simp [spaced]
      have atEnd : ∀ later afterMatch, reKeyValue.allMatchesFrom later [] afterMatch = [] := by
        intro later afterMatch
        cases later with
        | zero => rfl
        | succ later =>
          apply Regexp.allMatchesFrom_of_search_none
          exact Regexp.search_eq_none fun suffix later =>
            backtrack_reKeyValue_of_blank (by rw [List.suffix_nil.mp later]; simp)
      rw [text, Regexp.allMatchesFrom_of_search (search_reKeyValue (kv f (by simp)) blankPre
        (by simp)) (by simp; omega), Regexp.matchedText_append, submatches_reKeyValue, atEnd]
      rfl
    | cons g gs =>
      -- a token with more after it: the next round starts at the space after it
      have text : pre ++ spaced ((f :: g :: gs).map Field.text) [] =
          pre ++ (f.text ++ ([' '] ++ spaced ((g :: gs).map Field.text) [])) := by
        simp [spaced]
      have shorter : ([' '] ++ spaced ((g :: gs).map Field.text) []).length <
          (pre ++ (f.text ++ ([' '] ++ spaced ((g :: gs).map Field.text) []))).length := by
        simp
        omega
      rw [text, Regexp.allMatchesFrom_of_search (search_reKeyValue (kv f (by simp)) blankPre
        (by simp)) shorter, Regexp.matchedText_append, submatches_reKeyValue,
        inductionHypothesis (List.cons_ne_nil g gs) (fun h mem => kv h (List.mem_cons_of_mem f mem))
          [' '] (.inr rfl) fuel true (by rw [text] at enough; omega)]
      rfl

/-- A value without a double quote is not quoted for `reQuotedstring`. -/
theorem matchString_reQuotedstring {value : List Char} (unquoted : '"' ∉ value) :
    reQuotedstring.matchString value = false := by
  have none : reQuotedstring.search value = none := by
    apply Regexp.search_eq_none
    intro suffix later
    apply Regexp.backtrack_concat_of_nil
    apply Regexp.backtrack_charClass_of_stops
    intro c front
    have inValue : c ∈ value := later.subset (List.mem_of_mem_head? front)
    have other : c ≠ '"' := fun same => unquoted (same ▸ inValue)
    simpa using other
  rw [Regexp.matchString, none]
  rfl

/-- **`parseAuditKeyValue` reads fields joined by single spaces back**, each value as it is. -/
theorem parseAuditKeyValue_spaced {fields : List Field} (nonempty : fields ≠ [])
    (kv : ∀ f ∈ fields, f.KeyValue) :
    parseAuditKeyValue (spaced (fields.map Field.text) []) = insertFields ∅ fields := by
  have found := allMatchesFrom_reKeyValue_spaced nonempty kv [] (.inl rfl)
    ((spaced (fields.map Field.text) []).length + 1) false (by simp)
  rw [List.nil_append] at found
  rw [parseAuditKeyValue, Regexp.findAllStringSubmatch, found, List.foldl_map]
  -- each match stores its value as it is: none is quoted
  have stored : ∀ (m : FieldMap) (rest : List Field), (∀ f ∈ rest, f.KeyValue) →
      rest.foldl (fun m f =>
        let key := [f.text, f.key, f.value].getD 1 []
        let value := [f.text, f.key, f.value].getD 2 []
        let value := if reQuotedstring.matchString value then trimQuotes value else value
        m.insert key value) m = insertFields m rest := by
    intro m rest kv
    induction rest generalizing m with
    | nil => rfl
    | cons f rest inductionHypothesis =>
      have unquoted : '"' ∉ f.value := fun mem => (kv f (by simp)).value_chars '"' mem (by simp)
      rw [List.foldl_cons, insertFields_cons]
      simp only [List.getD_cons_succ, List.getD_cons_zero, matchString_reQuotedstring unquoted,
        Bool.false_eq_true, if_false]
      exact inductionHypothesis _ fun g mem => kv g (List.mem_cons_of_mem f mem)
  exact stored ∅ fields kv

/-! ## The two parsers agree -/

/-- A byte of tokens joined by spaces is a space or a byte of a token. -/
theorem mem_spaced {tokens : List (List Char)} {gaps : List Nat} {c : Char}
    (mem : c ∈ spaced tokens gaps) : c = ' ' ∨ ∃ t ∈ tokens, c ∈ t := by
  induction tokens, gaps using spaced.induct with
  | case1 gaps => simp [spaced] at mem
  | case2 t gaps => exact .inr ⟨t, List.mem_singleton_self t, mem⟩
  | case3 t u ts gaps inductionHypothesis =>
    simp only [spaced, List.mem_append, List.mem_replicate] at mem
    rcases mem with (inFirst | ⟨-, space⟩) | later
    · exact .inr ⟨t, List.mem_cons_self, inFirst⟩
    · exact .inl space
    · rcases inductionHypothesis later with space | ⟨v, member, inToken⟩
      · exact .inl space
      · exact .inr ⟨v, List.mem_cons_of_mem t member, inToken⟩

/-- The fields of a record are on one line. -/
theorem newline_not_mem_spaced {fields : List Field} (kv : ∀ f ∈ fields, f.KeyValue) :
    '\n' ∉ spaced (fields.map Field.text) [] := by
  intro mem
  rcases mem_spaced mem with space | ⟨t, member, inToken⟩
  · exact absurd space (by decide)
  · obtain ⟨f, inFields, rfl⟩ := List.mem_map.mp member
    simp only [Field.text, List.mem_append, List.mem_cons] at inToken
    rcases inToken with inKey | equals | inValue
    · exact absurd ((kv f inFields).key_chars '\n' inKey) (by decide)
    · exact absurd equals (by decide)
    · exact (kv f inFields).value_chars '\n' inValue (by simp)

/-- `FindStringSubmatch` on a record: the record, then the timestamp, the serial and the body. -/
theorem findStringSubmatch_reEventRegex {d₁ d₂ d₃ body : List Char} (digits₁ : Digits d₁)
    (digits₂ : Digits d₂) (digits₃ : Digits d₃) (oneLine : '\n' ∉ body) :
    reEventRegex.findStringSubmatch
        ("audit(".toList ++ ((d₁ ++ '.' :: d₂) ++ ':' :: (d₃ ++ "): ".toList ++ body))) =
      ["audit(".toList ++ ((d₁ ++ '.' :: d₂) ++ ':' :: (d₃ ++ "): ".toList ++ body)),
        d₁ ++ '.' :: d₂, d₃, body] := by
  rw [Regexp.findStringSubmatch, Regexp.search_of_firstMatch
    (firstMatch_reEventRegex digits₁ digits₂ digits₃ oneLine)]
  dsimp only
  have whole : ∀ text : List Char, Regexp.matchedText text 0 [] = text := by
    intro text
    simp [Regexp.matchedText]
  rw [whole]
  rfl

/-- **`ParseAuditEventRegex` on a record `audit(D1.D2:D3): k1=v1 … kn=vn`**: the serial, the
timestamp and the map of the fields. -/
theorem parseAuditEventRegex_recordText {d₁ d₂ d₃ : List Char} (digits₁ : Digits d₁)
    (digits₂ : Digits d₂) (digits₃ : Digits d₃) {fields : List Field} (nonempty : fields ≠ [])
    (kv : ∀ f ∈ fields, f.KeyValue) :
    parseAuditEventRegex (recordText (d₁ ++ '.' :: d₂) d₃ fields [] []) =
      .ok (d₃, d₁ ++ '.' :: d₂, insertFields ∅ fields) := by
  have noSegment : msgSegment [] = [] := rfl
  rw [parseAuditEventRegex]
  delta recordText
  rw [noSegment, List.append_nil,
    findStringSubmatch_reEventRegex digits₁ digits₂ digits₃ (newline_not_mem_spaced kv)]
  dsimp only
  rw [parseAuditKeyValue_spaced nonempty kv]

section Interpretation

variable (interpretField : List Char → List Char → UInt16 → Record → Except Go.Fault (List Char))
  (order : FieldMap.Order)

/-- **The two parsers agree on plain records.**  On a record `audit(D1.D2:D3): k1=v1 … kn=vn`
with runs of digits `D1`, `D2`, `D3` and fields `k=v` joined by single spaces, each name of
`[A-Za-z0-9_-]+` and each value free of spaces, quotes, backslashes and line breaks and left as
it is by `fixPunctuantions`, `ParseAuditEvent` without interpretation returns the serial `D3`
and the timestamp `D1.D2`, and `ParseAuditEventRegex` returns the same serial, timestamp and
map. -/
theorem parseAuditEvent_agrees_with_regex (d₁ d₂ d₃ : List Char) (msgType : UInt16)
    (fields : List Field) (digits₁ : Digits d₁) (digits₂ : Digits d₂) (digits₃ : Digits d₃)
    (nonempty : fields ≠ []) (kv : ∀ f ∈ fields, f.KeyValue) :
    ∃ ev, parseAuditEvent interpretField order (recordText (d₁ ++ '.' :: d₂) d₃ fields [] []) msgType
        false = .ok ev ∧ ev.serial = d₃ ∧ ev.timestamp = d₁ ++ '.' :: d₂ ∧
      parseAuditEventRegex (recordText (d₁ ++ '.' :: d₂) d₃ fields [] []) =
        .ok (ev.serial, ev.timestamp, ev.data) := by
  have noColon : ':' ∉ d₁ ++ '.' :: d₂ := by
    intro mem
    simp only [List.mem_append, List.mem_cons] at mem
    rcases mem with inFirst | point | inSecond
    · exact absurd (digits₁.2 ':' inFirst) (by decide)
    · exact absurd point (by decide)
    · exact absurd (digits₂.2 ':' inSecond) (by decide)
  have noParen : ')' ∉ d₃ := fun mem => absurd (digits₃.2 ')' mem) (by decide)
  obtain ⟨ev, parsed, stamped, numbered, whole, -⟩ := parseAuditEvent_recordText_append_spaces
    interpretField order (d₁ ++ '.' :: d₂) d₃ msgType fields [] [] 0 noColon noParen nonempty
    (fun f mem => (kv f mem).plain) (by simp) (by simp)
  rw [List.replicate_zero, List.append_nil] at parsed
  refine ⟨ev, parsed, numbered, stamped, ?_⟩
  rw [parseAuditEventRegex_recordText digits₁ digits₂ digits₃ nonempty kv, numbered, stamped,
    whole rfl, List.append_nil]

end Interpretation

/-- `audit(1464093935.845:993): pid=4148 uid=0`, the header and first fields of a record of
the tests. -/
theorem parseAuditEvent_agrees_with_regex_pid_uid :
    ∃ ev, parseAuditEvent (fun _ value _ _ => .ok value) .entries
        (recordText ("1464093935".toList ++ '.' :: "845".toList) "993".toList
          [⟨"pid".toList, "4148".toList⟩, ⟨"uid".toList, "0".toList⟩] [] []) auditUser false =
        .ok ev ∧ ev.serial = "993".toList ∧ ev.timestamp = "1464093935".toList ++ '.' :: "845".toList ∧
      parseAuditEventRegex (recordText ("1464093935".toList ++ '.' :: "845".toList) "993".toList
          [⟨"pid".toList, "4148".toList⟩, ⟨"uid".toList, "0".toList⟩] [] []) =
        .ok (ev.serial, ev.timestamp, ev.data) :=
  parseAuditEvent_agrees_with_regex (fun _ value _ _ => .ok value) .entries "1464093935".toList
    "845".toList "993".toList auditUser [⟨"pid".toList, "4148".toList⟩, ⟨"uid".toList, "0".toList⟩]
    (by decide) (by decide) (by decide) (by decide) (by decide)

end LibAudit
