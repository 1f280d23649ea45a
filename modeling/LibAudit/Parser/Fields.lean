import LibAudit.Parser.Scan
import Mathlib.Data.List.Forall2

/-!
# The records `ParseAuditEvent` reads back

A record written the way the kernel writes the common ones,

    audit(T:S): k1=v1 k2=v2 … msg='k'1=v'1 … k'm=v'm'

is parsed into the map of its fields, outer fields first and then the fields of the `msg='…'`
segment.  This module says for which records that holds and proves it on the model of
`LibAudit.Parser.Scan`.

## Main results

* `tokenStep_of_reads` — one token of such a record stores its field.
* `scanLoop_of_forall₂` — the run lemma: a text of such tokens is scanned to its end, and the
  fields are stored in order.
* `parseAuditEvent_recordText_data` — the whole function on a record built from fields.
* `parseAuditEvent_trailing_spaces` — spaces after such a record add a space to its last value.

## Design notes

A record is given by its parts, not by its text: `recordText` writes the text from the header's
timestamp and serial, the outer fields, the fields of the segment and the lengths of the runs of
spaces between tokens.  What the scan does with one token is the relation `Reads token f`, with
one constructor for each shape a token takes in such a text (a plain field, the first, the last
or the only token of the segment), so that the run lemma is an induction over
`List.Forall₂ Reads`.

Spaces after the last token are not skipped: `getSpaceSlice` cuts an empty token from them,
which has no `=` and is appended to the value stored last, after a space.  The run lemma takes
the number of such spaces as a parameter.

The last field of a segment of two or more must not be `msg` with an empty value.  Its token is
then `msg='`, the same text as the opening of a segment with nothing after the quote, and the
scan takes it for one and never stores it (`parseAuditEvent_drops_closing_empty_msg`).
-/

namespace LibAudit

/-! ## Records built from fields -/

/-- A field `key=value` of a record's text. -/
structure Field where
  key : List Char
  value : List Char
  deriving DecidableEq, Repr

namespace Field

/-- The token `key=value`. -/
def text (f : Field) : List Char := f.key ++ '=' :: f.value

/-- A value that `fixPunctuantions` leaves as it is: it ends neither in `'` nor in `,`, and in
`)` only when it is `(none)` or `(null)`. -/
def Unpunctuated (value : List Char) : Prop :=
  ¬ "'".toList.isSuffixOf value ∧ ¬ ",".toList.isSuffixOf value ∧
    (")".toList.isSuffixOf value → value = "(none)".toList ∨ value = "(null)".toList)

instance : DecidablePred Unpunctuated := fun value => by
  unfold Unpunctuated
  infer_instance

/-- A field that a record can carry as one token and that the scan stores as it is. -/
structure Plain (f : Field) : Prop where
  key_ne_nil : f.key ≠ []
  eq_not_mem_key : '=' ∉ f.key
  space_not_mem_key : ' ' ∉ f.key
  space_not_mem_value : ' ' ∉ f.value
  unpunctuated : Unpunctuated f.value
  /-- The token does not read as the opening `msg='` of a segment. -/
  not_opening : ¬ (f.key = "msg".toList ∧ "'".toList.isPrefixOf f.value)

instance : DecidablePred Plain := fun f =>
  decidable_of_iff (f.key ≠ [] ∧ '=' ∉ f.key ∧ ' ' ∉ f.key ∧ ' ' ∉ f.value ∧
      Unpunctuated f.value ∧ ¬ (f.key = "msg".toList ∧ "'".toList.isPrefixOf f.value))
    ⟨fun ⟨a, b, c, d, e, g⟩ => ⟨a, b, c, d, e, g⟩, fun ⟨a, b, c, d, e, g⟩ => ⟨a, b, c, d, e, g⟩⟩

theorem text_ne_nil (f : Field) : f.text ≠ [] := by
  simp [text]

theorem Plain.space_not_mem_text {f : Field} (plain : f.Plain) : ' ' ∉ f.text := by
  simp [text, plain.space_not_mem_key, plain.space_not_mem_value]

end Field

/-- Tokens joined by runs of spaces: `gaps[i] + 1` spaces after the `i`-th token, and one space
where `gaps` has no entry. -/
def spaced : List (List Char) → List Nat → List Char
  | [], _ => []
  | [t], _ => t
  | t :: u :: ts, gaps => t ++ List.replicate (gaps.headD 0 + 1) ' ' ++ spaced (u :: ts) gaps.tail

/-- The tokens that end a `msg='…'` segment: the texts of its fields, the last one followed by
the closing `'`. -/
def closeSegment : List Field → List (List Char)
  | [] => []
  | [f] => [f.text ++ "'".toList]
  | f :: g :: fs => f.text :: closeSegment (g :: fs)

/-- The tokens of the segment `msg='k1=v1 … km=vm'` of the fields `inner`; none when there are
no fields. -/
def msgSegment (inner : List Field) : List (List Char) :=
  (closeSegment inner).modifyHead ("msg='".toList ++ ·)

/-- The text of a record: the header `audit(T:S): `, then the outer fields and the segment of the
inner ones, with the runs of spaces `gaps` between tokens. -/
def recordText (timestamp serial : List Char) (outer inner : List Field) (gaps : List Nat) :
    List Char :=
  "audit(".toList ++ (timestamp ++ ':' :: (serial ++ "): ".toList ++
    spaced (outer.map Field.text ++ msgSegment inner) gaps))

/-- `m[key] = value` for each field in turn: a later key overwrites an earlier one. -/
def insertFields (m : FieldMap) (fields : List Field) : FieldMap :=
  fields.foldl (fun m f => m.insert f.key f.value) m

@[simp] theorem insertFields_nil (m : FieldMap) : insertFields m [] = m := rfl

@[simp] theorem insertFields_cons (m : FieldMap) (f : Field) (fields : List Field) :
    insertFields m (f :: fields) = insertFields (m.insert f.key f.value) fields := rfl

/-! ## `fixPunctuantions` on the values of plain fields -/

theorem fixPunctuantions_of_unpunctuated {value : List Char} (clean : Field.Unpunctuated value) :
    fixPunctuantions value = value := by
  obtain ⟨noQuote, noComma, parens⟩ := clean
  simp only [fixPunctuantions]
  rw [if_neg noQuote, if_neg noComma]
  by_cases closing : ")".toList.isSuffixOf value = true
  · rcases parens closing with isNone | isNull
    · simp [isNone]
    · simp [isNull]
  · have unmatched : (")".toList.isSuffixOf value && value != "(none)".toList &&
        value != "(null)".toList) = false := by
      simp only [Bool.not_eq_true] at closing
      simp only [closing, Bool.false_and]
    simp only [unmatched, Bool.false_eq_true, ↓reduceIte]

/-- The closing quote of a segment is dropped, and nothing else. -/
theorem fixPunctuantions_append_quote {value : List Char} (clean : Field.Unpunctuated value) :
    fixPunctuantions (value ++ "'".toList) = value := by
  have quoted : "'".toList.isSuffixOf (value ++ "'".toList) = true := by
    simp
  have unquoted : (value ++ "'".toList).dropLast = value := by
    simp
  have stripped := fixPunctuantions_of_unpunctuated clean
  simp only [fixPunctuantions] at stripped ⊢
  rw [if_pos quoted, unquoted]
  rw [if_neg clean.1] at stripped
  exact stripped

/-! ## How the scan reads one token -/

/-- `Reads token f`: with `token` as its `nBytes`, an iteration of the scan stores the field `f`.
One constructor for each shape of token in a record built from plain fields. -/
inductive Reads : List Char → Field → Prop
  /-- `key=value`, outside the segment or inside it. -/
  | plain {f : Field} : f.Plain → Reads f.text f
  /-- `msg='key=value`, the first token of a segment of two fields or more. -/
  | opening {f : Field} : f.Plain → Reads ("msg='".toList ++ f.text) f
  /-- `key=value'`, the last token of a segment of two fields or more, other than `msg='`. -/
  | closing {f : Field} : f.Plain → f ≠ ⟨"msg".toList, []⟩ → Reads (f.text ++ "'".toList) f
  /-- `msg='key=value'`, the segment of one field. -/
  | both {f : Field} : f.Plain → Reads ("msg='".toList ++ (f.text ++ "'".toList)) f

/-- Every token that reads as a field is one `getSpaceSlice` cuts whole: not empty, no space. -/
theorem Reads.isToken {t : List Char} {f : Field} (reads : Reads t f) : t ≠ [] ∧ ' ' ∉ t := by
  cases reads with
  | plain plain =>
      exact ⟨Field.text_ne_nil f, plain.space_not_mem_text⟩
  | opening plain =>
      exact ⟨by simp, by simpa using plain.space_not_mem_text⟩
  | closing plain _ =>
      exact ⟨by simp, by simpa using plain.space_not_mem_text⟩
  | both plain =>
      exact ⟨by simp, by simpa using plain.space_not_mem_text⟩

/-- `storeField` changes the key, the value, the record and the map, and nothing else. -/
@[simp] theorem storeField_str (s : ScanState) (key value : List Char) :
    (storeField s key value).str = s.str := rfl

@[simp] theorem storeField_nBytes (s : ScanState) (key value : List Char) :
    (storeField s key value).nBytes = s.nBytes := rfl

@[simp] theorem storeField_n (s : ScanState) (key value : List Char) :
    (storeField s key value).n = s.n := rfl

@[simp] theorem storeField_m (s : ScanState) (key value : List Char) :
    (storeField s key value).m = s.m.insert key (fixPunctuantions value) := rfl

@[simp] theorem storeField_key (s : ScanState) (key value : List Char) :
    (storeField s key value).key = key := rfl

@[simp] theorem storeField_value (s : ScanState) (key value : List Char) :
    (storeField s key value).value = fixPunctuantions value := rfl

@[simp] theorem storeField_av (s : ScanState) (key value : List Char) :
    (storeField s key value).av = s.av := rfl

/-- A token whose first `=` follows `key` takes the `key=value` branch. -/
theorem tokenStep_of_field {msgType : UInt16} {s : ScanState} {key raw : List Char}
    (token : s.nBytes = key ++ '=' :: raw) (absent : '=' ∉ key) :
    tokenStep msgType s = fieldToken s key.length := by
  unfold tokenStep
  rw [token, Go.idxOf?_append_cons_of_not_mem raw absent]

/-- Outside the `msg='` case, the token `key=raw` stores `raw` under `key`. -/
theorem fieldToken_of_field {s : ScanState} {key raw : List Char}
    (token : s.nBytes = key ++ '=' :: raw)
    (notOpening : ¬ (key = "msg".toList ∧ "'".toList.isPrefixOf raw)) :
    fieldToken s key.length = advance (storeField s key raw) := by
  have plain : ("'".toList.isPrefixOf raw && key == "msg".toList) = false := by
    cases quoted : "'".toList.isPrefixOf raw with
    | false => rfl
    | true =>
        have other : key ≠ "msg".toList := fun isMsg => notOpening ⟨isMsg, quoted⟩
        simpa using other
  unfold fieldToken
  rw [token, Go.sliceTo_append, Go.ok_bind, Go.sliceFrom_append_cons, Go.ok_bind, plain]
  rfl

/-- The token `msg='key=raw` opens a segment and stores its first field. -/
theorem fieldToken_of_quoted {s : ScanState} {key raw : List Char}
    (token : s.nBytes = "msg".toList ++ '=' :: ("'".toList ++ key ++ '=' :: raw))
    (absent : '=' ∉ key) :
    fieldToken s "msg".toList.length = advance (storeField s key raw) := by
  have quoted : ("'".toList.isPrefixOf ("'".toList ++ key ++ '=' :: raw) &&
      "msg".toList == "msg".toList) = true := by
    simp
  have inner : ("'".toList ++ key ++ '=' :: raw).idxOf? '=' = some ("'".toList ++ key).length :=
    Go.idxOf?_append_cons_of_not_mem raw (by simpa using absent)
  have innerKey : Go.slice ("'".toList ++ key ++ '=' :: raw) 1 ("'".toList ++ key).length =
      .ok key := by
    rw [Go.slice_of_le (by simp) (by simp)]
    simp
  unfold fieldToken
  rw [token, Go.sliceTo_append, Go.ok_bind, Go.sliceFrom_append_cons, Go.ok_bind, if_pos quoted,
    inner]
  dsimp only
  rw [innerKey, Go.ok_bind, Go.sliceFrom_append_cons, Go.ok_bind]

/-- A closing quote after a value that does not start with one does not make a quoted value. -/
theorem isPrefixOf_quote_append {value : List Char} (quoted : "'".toList.isPrefixOf
    (value ++ "'".toList) = true) : value = [] ∨ "'".toList.isPrefixOf value = true := by
  cases value with
  | nil => exact .inl rfl
  | cons c rest =>
      right
      simpa using quoted

/-- **One token**: an iteration on a token that reads as the field `f` stores `f.value` under
`f.key`, from a raw text that `fixPunctuantions` cleans, and goes on to the bottom of the body. -/
theorem tokenStep_of_reads {t : List Char} {f : Field} (reads : Reads t f) (msgType : UInt16)
    {s : ScanState} (token : s.nBytes = t) :
    ∃ raw, fixPunctuantions raw = f.value ∧
      tokenStep msgType s = advance (storeField s f.key raw) := by
  cases reads with
  | plain plain =>
      refine ⟨f.value, fixPunctuantions_of_unpunctuated plain.unpunctuated, ?_⟩
      rw [tokenStep_of_field token plain.eq_not_mem_key]
      exact fieldToken_of_field token plain.not_opening
  | opening plain =>
      refine ⟨f.value, fixPunctuantions_of_unpunctuated plain.unpunctuated, ?_⟩
      have quoted : s.nBytes = "msg".toList ++ '=' :: ("'".toList ++ f.key ++ '=' :: f.value) := by
        rw [token]
        simp [Field.text]
      rw [tokenStep_of_field quoted (by decide)]
      exact fieldToken_of_quoted quoted plain.eq_not_mem_key
  | closing plain notEmpty =>
      refine ⟨f.value ++ "'".toList, fixPunctuantions_append_quote plain.unpunctuated, ?_⟩
      have closed : s.nBytes = f.key ++ '=' :: (f.value ++ "'".toList) := by
        rw [token]
        simp [Field.text]
      rw [tokenStep_of_field closed plain.eq_not_mem_key]
      refine fieldToken_of_field closed ?_
      rintro ⟨isMsg, quoted⟩
      rcases isPrefixOf_quote_append quoted with empty | startsQuoted
      · apply notEmpty
        cases f
        simp_all
      · exact plain.not_opening ⟨isMsg, startsQuoted⟩
  | both plain =>
      refine ⟨f.value ++ "'".toList, fixPunctuantions_append_quote plain.unpunctuated, ?_⟩
      have quoted : s.nBytes =
          "msg".toList ++ '=' :: ("'".toList ++ f.key ++ '=' :: (f.value ++ "'".toList)) := by
        rw [token]
        simp [Field.text]
      rw [tokenStep_of_field quoted (by decide)]
      exact fieldToken_of_quoted quoted plain.eq_not_mem_key

/-! ## From token to token -/

/-- `getSpaceSlice` after a run of spaces, on a token followed by the end of the text or by a
space, cuts that token. -/
theorem getSpaceSlice_of_token {t rest : List Char} (g v : Nat) (nonempty : t ≠ [])
    (blank : ' ' ∉ t) (ends : ∀ c ∈ rest.head?, c = ' ') :
    getSpaceSlice (List.replicate g ' ' ++ (t ++ rest)) v = ⟨t ++ rest, t, v + t.length⟩ := by
  obtain ⟨c, t', rfl⟩ := List.exists_cons_of_ne_nil nonempty
  have front : ¬ (c == ' ') = true := by
    intro space
    exact blank (by simp [beq_iff_eq.mp space])
  have skipped : (List.replicate g ' ' ++ (c :: t' ++ rest)).dropWhile (· == ' ') =
      c :: t' ++ rest := by
    rw [List.dropWhile_append_of_pos (by simp), List.cons_append, List.dropWhile_cons,
      if_neg front]
  have kept : ∀ x ∈ c :: t', (x != ' ') = true := fun x mem =>
    bne_iff_ne.mpr (fun space => blank (space ▸ mem))
  have cut : (c :: t' ++ rest).takeWhile (· != ' ') = c :: t' := by
    rw [List.takeWhile_append_of_pos kept]
    cases rest with
    | nil => simp
    | cons d rest =>
        have space : d = ' ' := ends d (by simp)
        subst space
        simp
  rw [getSpaceSlice_eq, skipped, cut]

theorem ScanState.readToken_of_token {s : ScanState} {t rest : List Char} {g : Nat}
    (text : s.str = List.replicate g ' ' ++ (t ++ rest)) (nonempty : t ≠ []) (blank : ' ' ∉ t)
    (ends : ∀ c ∈ rest.head?, c = ' ') :
    s.readToken = { s with str := t ++ rest, nBytes := t, n := s.n + t.length } := by
  simp only [ScanState.readToken, text, getSpaceSlice_of_token g s.n nonempty blank ends]

theorem advance_of_last {s : ScanState} (last : s.str = s.nBytes) : advance s = .ok (.done s) := by
  rw [advance, if_pos (congrArg List.length last)]

theorem advance_of_more {s : ScanState} {rest : List Char} (more : s.str = s.nBytes ++ ' ' :: rest) :
    advance s = .ok (.yield { s with str := rest }) := by
  have longer : s.str.length ≠ s.nBytes.length := by
    rw [more]
    simp
  rw [advance, if_neg longer, more, Go.sliceFrom_append_cons]
  rfl

/-- **The step lemma**: an iteration on a token that reads as the field `f`, after a run of
spaces and before the end of the text or a space, stores `f` and reaches the bottom of the body
with the token cut and counted. -/
theorem scanStep_of_reads (msgType : UInt16) {s : ScanState} {t rest : List Char} {f : Field}
    {g : Nat} (reads : Reads t f) (text : s.str = List.replicate g ' ' ++ (t ++ rest))
    (ends : ∀ c ∈ rest.head?, c = ' ') :
    ∃ s', scanStep msgType s = advance s' ∧ s'.str = t ++ rest ∧ s'.nBytes = t ∧
      s'.n = s.n + t.length ∧ s'.m = s.m.insert f.key f.value ∧ s'.key = f.key ∧
      s'.value = f.value ∧ s'.av = s.av := by
  obtain ⟨nonempty, blank⟩ := reads.isToken
  have cut := ScanState.readToken_of_token text nonempty blank ends
  obtain ⟨raw, cleaned, stepped⟩ := tokenStep_of_reads reads msgType (s := s.readToken)
    (by rw [cut])
  refine ⟨storeField s.readToken f.key raw, stepped, ?_, ?_, ?_, ?_, rfl, cleaned, ?_⟩
  · simp [cut]
  · simp [cut]
  · simp [cut]
  · simp [cut, cleaned]
  · simp [cut]

/-- A value that ends in a space is one `fixPunctuantions` leaves as it is. -/
theorem fixPunctuantions_append_space (value : List Char) :
    fixPunctuantions (value ++ [' ']) = value ++ [' '] := by
  simp [fixPunctuantions]

/-- Only spaces left: `getSpaceSlice` skips them all and cuts the empty token. -/
theorem ScanState.readToken_of_spaces {s : ScanState} {k : Nat}
    (text : s.str = List.replicate k ' ') : s.readToken = { s with str := [], nBytes := [] } := by
  simp [ScanState.readToken, getSpaceSlice_eq, text]

/-- The empty token cut from spaces at the end has no `=`.  Outside the token after `avc:` it is
taken as the continuation of the previous value, and the loop stops there. -/
theorem tokenStep_of_empty (msgType : UInt16) {s : ScanState} (empty : s.nBytes = [])
    (ended : s.str = []) (noAv : s.av = false) :
    tokenStep msgType s = .ok (.done (appendValue s)) := by
  have done : advance (appendValue s) = .ok (.done (appendValue s)) :=
    advance_of_last (by simp [appendValue, empty, ended])
  unfold tokenStep
  rw [empty, List.idxOf?_nil]
  split_ifs
  · simp [avcToken, empty, noAv, done]
  · exact done

/-- **The run lemma**: from a run of spaces before a text of tokens that each read as a field,
and `k` spaces after it, the loop scans the whole text and stores the fields in order.  With no
space after the text, that is the whole map; with some, the empty token the loop cuts from them
adds a space to the last value.  The invariant is the bound on the counter: the tokens still to
read fit in what `orig` leaves. -/
theorem scanLoop_of_forall₂ (msgType : UInt16) (orig : Nat) {tokens : List (List Char)}
    {fields : List Field} (reads : List.Forall₂ Reads tokens fields) (nonempty : tokens ≠ [])
    (k : Nat) :
    ∀ (gaps : List Nat) (g : Nat) (s : ScanState),
      s.str = List.replicate g ' ' ++ (spaced tokens gaps ++ List.replicate k ' ') →
      s.n + (spaced tokens gaps).length + k ≤ orig → s.av = false →
      ∃ s', scanLoop msgType orig s = .ok s' ∧ (k = 0 → s'.m = insertFields s.m fields) ∧
        ∀ last, fields.getLast? = some last → 0 < k →
          s'.m = (insertFields s.m fields).insert last.key (last.value ++ [' ']) := by
  induction reads with
  | nil => exact absurd rfl nonempty
  | @cons t f ts fs head tail inductionHypothesis =>
      intro gaps g s text bound noAv
      have positive : 0 < t.length := List.length_pos_iff.mpr head.isToken.1
      cases tail with
      | nil =>
          have guard : s.n < orig := by
            simp only [spaced] at bound
            omega
          cases k with
          | zero =>
              -- the last token ends the text: the loop breaks at its end
              have last : s.str = List.replicate g ' ' ++ (t ++ []) := by
                simpa [spaced] using text
              obtain ⟨s', stepped, str, nBytes, -, stored, -⟩ :=
                scanStep_of_reads msgType head last (by simp)
              have done := advance_of_last (s := s') (by rw [str, nBytes, List.append_nil])
              refine ⟨s', scanLoop_of_done guard (stepped.trans done), fun _ => ?_, ?_⟩
              · simp [stored]
              · intro _ _ empty
                exact absurd empty (Nat.lt_irrefl 0)
          | succ k =>
              -- spaces after the last token: one iteration more, on the empty token
              have more : s.str = List.replicate g ' ' ++ (t ++ ' ' :: List.replicate k ' ') := by
                simpa [spaced, List.replicate_succ] using text
              obtain ⟨s', stepped, str, nBytes, counted, stored, key, value, av⟩ :=
                scanStep_of_reads msgType head more (by simp)
              have moved := advance_of_more (s := s') (by rw [str, nBytes])
              have cut := ScanState.readToken_of_spaces (s := { s' with
                str := List.replicate k ' ' }) rfl
              have ended := tokenStep_of_empty msgType (s := { s' with str := [], nBytes := [] })
                rfl rfl (by simp [av, noAv])
              have guard' : s'.n < orig := by
                simp only [spaced] at bound
                omega
              refine ⟨appendValue { s' with str := [], nBytes := [] }, ?_,
                fun zero => absurd zero (Nat.succ_ne_zero k), ?_⟩
              · rw [scanLoop_of_yield guard (stepped.trans moved),
                  scanLoop_of_done (s := { s' with str := List.replicate k ' ' }) guard'
                    (by rw [scanStep, cut, ended])]
              · intro last isLast _
                obtain rfl : f = last := by simpa using isLast
                simp [appendValue, stored, key, value, fixPunctuantions_append_space]
      | @cons u f' us fs' headNext tailNext =>
          -- a token with more after it: the loop goes on from the run of spaces after it
          have more : s.str = List.replicate g ' ' ++ (t ++ ' ' :: (List.replicate (gaps.headD 0)
              ' ' ++ (spaced (u :: us) gaps.tail ++ List.replicate k ' '))) := by
            rw [text]
            simp [spaced, List.replicate_succ]
          obtain ⟨s', stepped, str, nBytes, counted, stored, -, -, av⟩ :=
            scanStep_of_reads msgType head more (by simp)
          have moved := advance_of_more (s := s') (by rw [str, nBytes])
          have lengths : (spaced (t :: u :: us) gaps).length =
              t.length + (gaps.headD 0 + 1) + (spaced (u :: us) gaps.tail).length := by
            simp only [spaced, List.length_append, List.length_replicate]
          have guard : s.n < orig := by
            omega
          obtain ⟨s'', looped, whole, trailing⟩ := inductionHypothesis (List.cons_ne_nil _ _)
            gaps.tail (gaps.headD 0) { s' with str := List.replicate (gaps.headD 0) ' ' ++
              (spaced (u :: us) gaps.tail ++ List.replicate k ' ') }
            rfl (by show s'.n + _ + k ≤ orig; omega) (by simp [av, noAv])
          have rest : insertFields s'.m (f' :: fs') = insertFields s.m (f :: f' :: fs') := by
            rw [insertFields_cons s.m, ← stored]
          refine ⟨s'', ?_, fun zero => ?_, fun last isLast extra => ?_⟩
          · rw [scanLoop_of_yield guard (stepped.trans moved), looped]
          · rw [whole zero, rest]
          · rw [trailing last (by simpa using isLast) extra, rest]

/-! ## Records built from fields parse to their fields -/

/-- The tokens that end a segment read as its fields. -/
theorem forall₂_reads_closeSegment {inner : List Field} (plain : ∀ f ∈ inner, f.Plain)
    (last : inner.getLast? ≠ some ⟨"msg".toList, []⟩) :
    List.Forall₂ Reads (closeSegment inner) inner := by
  induction inner using closeSegment.induct with
  | case1 => exact .nil
  | case2 f =>
      refine .cons (.closing (plain f (by simp)) ?_) .nil
      intro same
      exact last (by simp [same])
  | case3 f g fs inductionHypothesis =>
      refine .cons (.plain (plain f (by simp))) ?_
      apply inductionHypothesis
      · intro x mem
        exact plain x (by simp [mem])
      · simpa using last

/-- The tokens of a segment read as its fields. -/
theorem forall₂_reads_msgSegment {inner : List Field} (plain : ∀ f ∈ inner, f.Plain)
    (last : 2 ≤ inner.length → inner.getLast? ≠ some ⟨"msg".toList, []⟩) :
    List.Forall₂ Reads (msgSegment inner) inner := by
  rcases inner with _ | ⟨f, _ | ⟨g, fs⟩⟩
  · exact .nil
  · exact .cons (.both (plain f (by simp))) .nil
  · have closing : List.Forall₂ Reads (closeSegment (g :: fs)) (g :: fs) := by
      apply forall₂_reads_closeSegment
      · intro x mem
        exact plain x (by simp [mem])
      · simpa using last (by simp)
    exact .cons (.opening (plain f (by simp))) closing

/-- The tokens of a record read as its outer fields and then the fields of its segment. -/
theorem forall₂_reads_tokens {outer inner : List Field} (outerPlain : ∀ f ∈ outer, f.Plain)
    (innerPlain : ∀ f ∈ inner, f.Plain)
    (last : 2 ≤ inner.length → inner.getLast? ≠ some ⟨"msg".toList, []⟩) :
    List.Forall₂ Reads (outer.map Field.text ++ msgSegment inner) (outer ++ inner) := by
  apply List.rel_append
  · rw [List.forall₂_map_left_iff, List.forall₂_same]
    intro f mem
    exact .plain (outerPlain f mem)
  · exact forall₂_reads_msgSegment innerPlain last

section Interpretation

variable (interpretField : List Char → List Char → UInt16 → Record → Except Go.Fault (List Char))
  (order : FieldMap.Order)

/-- A record built from plain fields, with `k` spaces after it: the header is read back and the
scan stores the fields, the last value with one space more when `k` is not zero. -/
theorem parseAuditEvent_recordText_append_spaces (timestamp serial : List Char)
    (msgType : UInt16) (outer inner : List Field) (gaps : List Nat) (k : Nat)
    (noColon : ':' ∉ timestamp) (noParen : ')' ∉ serial) (outerNonempty : outer ≠ [])
    (outerPlain : ∀ f ∈ outer, f.Plain) (innerPlain : ∀ f ∈ inner, f.Plain)
    (lastInner : 2 ≤ inner.length → inner.getLast? ≠ some ⟨"msg".toList, []⟩) :
    ∃ ev, parseAuditEvent interpretField order
        (recordText timestamp serial outer inner gaps ++ List.replicate k ' ') msgType false =
        .ok ev ∧ ev.timestamp = timestamp ∧ ev.serial = serial ∧
      (k = 0 → ev.data = insertFields ∅ (outer ++ inner)) ∧
      ∀ last, (outer ++ inner).getLast? = some last → 0 < k →
        ev.data = (insertFields ∅ (outer ++ inner)).insert last.key (last.value ++ [' ']) := by
  have reads := forall₂_reads_tokens outerPlain innerPlain lastInner
  have nonempty : outer.map Field.text ++ msgSegment inner ≠ [] := by
    simp [outerNonempty]
  let body := spaced (outer.map Field.text ++ msgSegment inner) gaps ++ List.replicate k ' '
  obtain ⟨s, scanned, whole, trailing⟩ := scanLoop_of_forall₂ msgType body.length reads
    nonempty k gaps 0 (ScanState.init body) rfl (by simp [body, ScanState.init]) rfl
  have text : recordText timestamp serial outer inner gaps ++ List.replicate k ' ' =
      "audit(".toList ++ (timestamp ++ ':' :: (serial ++ "): ".toList ++ body)) := by
    -- unfolded by delta: the equation lemma of recordText is costly to build, its check reads
    -- the literal's bytes
    delta recordText
    simp only [body, List.append_assoc, List.cons_append]
  refine ⟨_, parseAuditEvent_of_scan interpretField order (text ▸ parseHeader_eq noColon noParen)
    scanned, rfl, rfl, fun zero => ?_, fun last isLast extra => ?_⟩
  · simpa [ScanState.init] using whole zero
  · simpa [ScanState.init] using trailing last isLast extra

/-- **A record built from fields parses to its fields.**  For a timestamp without `:`, a serial
without `)`, outer fields and segment fields that are all plain, and a segment that does not end
in the field `msg` with an empty value, `ParseAuditEvent` without interpretation returns the
header's timestamp and serial and the map of the outer fields and then the segment's, inserted
left to right. -/
theorem parseAuditEvent_recordText_data (timestamp serial : List Char) (msgType : UInt16)
    (outer inner : List Field) (gaps : List Nat) (noColon : ':' ∉ timestamp)
    (noParen : ')' ∉ serial) (outerNonempty : outer ≠ []) (outerPlain : ∀ f ∈ outer, f.Plain)
    (innerPlain : ∀ f ∈ inner, f.Plain)
    (lastInner : 2 ≤ inner.length → inner.getLast? ≠ some ⟨"msg".toList, []⟩) :
    ∃ ev, parseAuditEvent interpretField order (recordText timestamp serial outer inner gaps) msgType
        false = .ok ev ∧
      ev.timestamp = timestamp ∧ ev.serial = serial ∧ ev.data = insertFields ∅ (outer ++ inner) := by
  obtain ⟨ev, parsed, stamped, numbered, whole, -⟩ := parseAuditEvent_recordText_append_spaces
    interpretField order timestamp serial msgType outer inner gaps 0 noColon noParen outerNonempty
    outerPlain innerPlain lastInner
  rw [List.replicate_zero, List.append_nil] at parsed
  exact ⟨ev, parsed, stamped, numbered, whole rfl⟩

/-- The last field inserted is the one its key finds. -/
theorem lookup_insertFields_of_getLast? {m : FieldMap} {fields : List Field} {last : Field}
    (isLast : fields.getLast? = some last) :
    (insertFields m fields).lookup last.key = some last.value := by
  obtain ⟨front, rfl⟩ : ∃ front, fields = front ++ [last] := by
    obtain ⟨front, split⟩ := List.getLast?_eq_some_iff.mp isLast
    exact ⟨front, split⟩
  simp [insertFields, List.foldl_append]

/-- **Spaces after a record change its last value.**  A record built from plain fields, as in
`parseAuditEvent_recordText_data`, and the same record with one space or more after it both
parse, with the same timestamp and serial, but the second map holds the last field's value with
a space after it: the loop cuts an empty token from the spaces, finds no `=` in it, and appends
it after a space to the value it stored last. -/
theorem parseAuditEvent_trailing_spaces (timestamp serial : List Char) (msgType : UInt16)
    (outer inner : List Field) (gaps : List Nat) (k : Nat) (noColon : ':' ∉ timestamp)
    (noParen : ')' ∉ serial) (outerNonempty : outer ≠ []) (outerPlain : ∀ f ∈ outer, f.Plain)
    (innerPlain : ∀ f ∈ inner, f.Plain)
    (lastInner : 2 ≤ inner.length → inner.getLast? ≠ some ⟨"msg".toList, []⟩) {last : Field}
    (isLast : (outer ++ inner).getLast? = some last) :
    ∃ ev ev', parseAuditEvent interpretField order (recordText timestamp serial outer inner gaps)
        msgType false = .ok ev ∧
      parseAuditEvent interpretField order
        (recordText timestamp serial outer inner gaps ++ List.replicate (k + 1) ' ') msgType
        false = .ok ev' ∧
      ev'.timestamp = ev.timestamp ∧ ev'.serial = ev.serial ∧
      ev'.data = ev.data.insert last.key (last.value ++ [' ']) ∧ ev'.data ≠ ev.data := by
  obtain ⟨ev, parsed, stamped, numbered, whole, -⟩ := parseAuditEvent_recordText_append_spaces
    interpretField order timestamp serial msgType outer inner gaps 0 noColon noParen outerNonempty
    outerPlain innerPlain lastInner
  obtain ⟨ev', parsed', stamped', numbered', -, trailing⟩ :=
    parseAuditEvent_recordText_append_spaces interpretField order timestamp serial msgType outer inner
      gaps (k + 1) noColon noParen outerNonempty outerPlain innerPlain lastInner
  rw [List.replicate_zero, List.append_nil] at parsed
  have widened : ev'.data = ev.data.insert last.key (last.value ++ [' ']) := by
    rw [trailing last isLast (Nat.succ_pos k), whole rfl]
  refine ⟨ev, ev', parsed, parsed', stamped'.trans stamped.symm,
    numbered'.trans numbered.symm, widened, fun same => ?_⟩
  -- the last key finds the value with the space in the one map and without it in the other
  have before : ev.data.lookup last.key = some last.value := by
    rw [whole rfl]
    exact lookup_insertFields_of_getLast? isLast
  have after : ev'.data.lookup last.key = some (last.value ++ [' ']) := by
    rw [widened]
    exact AList.lookup_insert _
  rw [same, before] at after
  simp at after

/-- `audit(1:2): a=1` parses to `a = 1`, and with one space after it to `a = "1 "`. -/
theorem parseAuditEvent_trailing_spaces_one_field :
    ∃ ev ev', parseAuditEvent (fun _ value _ _ => .ok value) .entries
        (recordText "1".toList "2".toList [⟨"a".toList, "1".toList⟩] [] []) auditUser false =
        .ok ev ∧
      parseAuditEvent (fun _ value _ _ => .ok value) .entries
        (recordText "1".toList "2".toList [⟨"a".toList, "1".toList⟩] [] [] ++
          List.replicate (0 + 1) ' ') auditUser false = .ok ev' ∧
      ev'.timestamp = ev.timestamp ∧ ev'.serial = ev.serial ∧
      ev'.data = ev.data.insert "a".toList ("1".toList ++ [' ']) ∧ ev'.data ≠ ev.data :=
  parseAuditEvent_trailing_spaces (fun _ value _ _ => .ok value) .entries "1".toList "2".toList auditUser
    [⟨"a".toList, "1".toList⟩] [] [] 0 (by decide) (by decide) (by decide) (by decide)
    (by decide) (by decide) rfl

end Interpretation

/-- A record of two outer fields and a segment of two, with a run of three spaces. -/
theorem parseAuditEvent_recordText_data_pam :
    ∃ ev, parseAuditEvent (fun _ value _ _ => .ok value) .entries
        (recordText "1464093935.845".toList "993".toList
          [⟨"pid".toList, "4148".toList⟩, ⟨"uid".toList, "0".toList⟩]
          [⟨"op".toList, "PAM:setcred".toList⟩, ⟨"res".toList, "success".toList⟩] [0, 2])
        auditUser false = .ok ev ∧
      ev.timestamp = "1464093935.845".toList ∧ ev.serial = "993".toList ∧
      ev.data = insertFields ∅ ([⟨"pid".toList, "4148".toList⟩, ⟨"uid".toList, "0".toList⟩] ++
        [⟨"op".toList, "PAM:setcred".toList⟩, ⟨"res".toList, "success".toList⟩]) :=
  parseAuditEvent_recordText_data _ _ _ _ _ _ _ _ (by decide) (by decide) (by decide) (by decide)
    (by decide) (by decide)

/-- **Without the condition on the segment's last field the statement fails.**  All fields of
`audit(1:2): a=1 msg='b=2 msg='` are plain, yet its map has no `msg`: the last token `msg='`
takes the branch of a segment's opening, which has no `=` after the quote and stores nothing. -/
theorem parseAuditEvent_drops_closing_empty_msg :
    (∀ f ∈ [⟨"a".toList, "1".toList⟩, ⟨"b".toList, "2".toList⟩, ⟨"msg".toList, []⟩],
        Field.Plain f) ∧
    ∃ ev, parseAuditEvent (fun _ value _ _ => .ok value) .entries
        (recordText "1".toList "2".toList [⟨"a".toList, "1".toList⟩]
          [⟨"b".toList, "2".toList⟩, ⟨"msg".toList, []⟩] []) auditUser false = .ok ev ∧
      ev.data ≠ insertFields ∅
        [⟨"a".toList, "1".toList⟩, ⟨"b".toList, "2".toList⟩, ⟨"msg".toList, []⟩] := by
  let s1 : ScanState := { ScanState.init "a=1 msg='b=2 msg='".toList with
    str := "msg='b=2 msg='".toList, nBytes := "a=1".toList, n := 3, key := "a".toList,
    value := "1".toList, m := (∅ : FieldMap).insert "a".toList "1".toList }
  let s2 : ScanState := { s1 with
    str := "msg='".toList, nBytes := "msg='b=2".toList, n := 11, key := "b".toList,
    value := "2".toList, m := s1.m.insert "b".toList "2".toList }
  let s3 : ScanState := { s2 with
    nBytes := "msg='".toList, n := 16, key := "msg".toList, value := "'".toList }
  have body : spaced ([⟨"a".toList, "1".toList⟩].map Field.text ++
      msgSegment [⟨"b".toList, "2".toList⟩, ⟨"msg".toList, []⟩]) [] =
      "a=1 msg='b=2 msg='".toList := by
    decide
  have header : parseHeader ("audit(".toList ++ ("1".toList ++ ':' :: ("2".toList ++
      "): ".toList ++ "a=1 msg='b=2 msg='".toList))) =
      .ok ("1".toList, "2".toList, "a=1 msg='b=2 msg='".toList) :=
    parseHeader_eq (by decide) (by decide)
  have looped : scanLoop auditUser "a=1 msg='b=2 msg='".toList.length
      (ScanState.init "a=1 msg='b=2 msg='".toList) = .ok { s3 with n := 21 } := by
    have first : scanStep auditUser (ScanState.init "a=1 msg='b=2 msg='".toList) =
        .ok (.yield s1) := rfl
    have second : scanStep auditUser s1 = .ok (.yield s2) := rfl
    -- `msg='` has no `=` after its quote: the iteration counts it and leaves `str` where it was
    have third : scanStep auditUser s2 = .ok (.yield s3) := rfl
    have fourth : scanStep auditUser s3 = .ok (.yield { s3 with n := 21 }) := rfl
    rw [scanLoop_of_yield (by decide) first, scanLoop_of_yield (by decide) second,
      scanLoop_of_yield (by decide) third, scanLoop_of_yield (by decide) fourth,
      scanLoop_of_le (by decide)]
  have parsed := parseAuditEvent_of_scan (fun _ value _ _ => .ok value) .entries header looped
  rw [← body] at parsed
  refine ⟨by decide, _, parsed, ?_⟩
  intro same
  have present : "msg".toList ∈ insertFields ∅
      [⟨"a".toList, "1".toList⟩, ⟨"b".toList, "2".toList⟩, ⟨"msg".toList, []⟩] := by
    simp [insertFields]
  rw [← same] at present
  simp only [s3, s2, s1, AList.mem_insert] at present
  rcases present with isB | isA | isEmpty
  · exact absurd isB (by decide)
  · exact absurd isA (by decide)
  · exact AList.notMem_empty _ isEmpty

end LibAudit
