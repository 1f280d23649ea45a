import LibAudit.Go.Runtime
import LibAudit.Go.Strconv
import LibAudit.Constants
import Mathlib.Data.List.AList

/-!
# `ParseAuditEvent`: the hand-written audit record parser

`ParseAuditEvent` (`parser.go`) turns the text of a kernel audit record,

    audit(1464093935.845:993): pid=4148 uid=0 msg='op=PAM:setcred acct="root" …'

into an `AuditEvent`: the timestamp and serial from the `audit(…)` header and a map from field
names to values.  This module is the faithful model of that function and of the two helpers it
calls, `getSpaceSlice` and `fixPunctuantions`.

## The scanning loop

After the header the function walks the rest of the text, `str`, with a loop

    for n < orig { getSpaceSlice(&str, &nBytes, &n); … }

whose guard is a *counter*: `getSpaceSlice` skips the spaces at the front of `str`, cuts the next
token `nBytes` and adds its length, but not the spaces', to `n`, and `orig` is the length of the
whole text.  Each iteration then either ends the loop or moves `str` past the token and the space
after it with `str = str[len(nBytes)+1:]`, in a dozen places across the special cases of AVC
records (`avc:`, the `{ … }` permission list, `for`), the `msg='` field and a plain `key=value`.

The model keeps the state of that loop in `ScanState`, one field per local variable, and one
iteration is `scanStep`, built from one helper per branch of the body (`avcToken`, `fieldToken`,
`appendValue`, `advance`).  Every slice expression goes through `Go.sliceFrom` and friends, so
that an out-of-range slice is a `Go.Panic` exactly where Go panics.

The loop is `scanLoop`, by well-founded recursion on `orig - n`: the measure is the one the Go
guard uses, and `scanStep_progress` shows that every iteration that does not end the loop counts
at least one character.  The inner `{ … }` loop, `permsLoop`, is recursion on the length of
`str`, which each of its iterations shortens.

## The interpretation pass

With `interpret = true` the function afterwards rewrites every value with
`interpretField(key, value, msgType, r)`.  That function lives in `interpret.go` and is a
parameter of this model (`interpretField`); the pass itself, a `range` over the map, is modelled
here (`interpretAll`).  A Go map has no order: the runtime picks the order of each `range`, and
the pass takes it as an argument (`FieldMap.Order`), a permutation of the entries of each map.
Which field is interpreted first decides only which error the pass returns when two fields fail
(`interpretAll_reorder`).
-/

namespace LibAudit

/-- The field map of an event, a Go `map[string]string`: `m[key] = value` is `AList.insert`. -/
abbrev FieldMap := AList (fun _ : List Char => List Char)

/-- An order in which `for key, value := range m` can visit each map `m`: a permutation of its
entries. -/
structure FieldMap.Order where
  visit : FieldMap → List (Σ _ : List Char, List Char)
  perm : ∀ m : FieldMap, (visit m).Perm m.entries

/-- The order in which this model keeps the entries, the latest key first. -/
def FieldMap.Order.entries : FieldMap.Order := ⟨AList.entries, fun _ => List.Perm.refl _⟩

/-- `record`: what the scan remembers about the syscall, for `interpretField`. -/
structure Record where
  syscallNum : List Char := []
  arch : List Char := []
  a0 : Int := 0
  a1 : Int := 0
  deriving DecidableEq, Repr

/-- `AuditEvent`: a parsed audit record. -/
structure AuditEvent where
  serial : List Char
  timestamp : List Char
  /-- The message type's name without its `AUDIT_` prefix. -/
  type : List Char
  data : FieldMap
  /-- The whole record text as received. -/
  raw : List Char

/-! ## `getSpaceSlice` and `fixPunctuantions` -/

/-- What `getSpaceSlice(&str, &b, &v)` leaves in the three variables it is given. -/
structure SpaceSlice where
  str : List Char
  b : List Char
  v : Nat

/-- `getSpaceSlice(&str, &b, &v)`: skip the spaces at the front of `str` (the `index == 0`
case retries on `str[1:]`), then cut the token `b` up to the next space, or the whole rest, and
add its length to `v`. -/
def getSpaceSlice : List Char → Nat → SpaceSlice
  | ' ' :: str, v => getSpaceSlice str v
  | str, v =>
    match str.idxOf? ' ' with
    | some index => ⟨str, str.take index, v + index⟩
    | none => ⟨str, str, v + str.length⟩

/-- `fixPunctuantions(&value)`: drop one trailing `'`, then one trailing `,`, then one trailing
`)` unless the value is `(none)` or `(null)`. -/
def fixPunctuantions (value : List Char) : List Char :=
  let value := if "'".toList.isSuffixOf value then value.dropLast else value
  let value := if ",".toList.isSuffixOf value then value.dropLast else value
  if ")".toList.isSuffixOf value && value != "(none)".toList && value != "(null)".toList then
    value.dropLast
  else value

/-- **What `getSpaceSlice` computes**: the text from its first non-space character on, the
token at the front of that text, and the counter advanced by the token's length only. -/
theorem getSpaceSlice_eq (str : List Char) (v : Nat) :
    getSpaceSlice str v =
      ⟨str.dropWhile (· == ' '), (str.dropWhile (· == ' ')).takeWhile (· != ' '),
        v + ((str.dropWhile (· == ' ')).takeWhile (· != ' ')).length⟩ := by
  induction str with
  | nil => simp [getSpaceSlice]
  | cons c str ih =>
    by_cases space : c = ' '
    · subst space
      simpa [getSpaceSlice] using ih
    · have keep : ¬ (c == ' ') = true := by simpa using space
      rw [getSpaceSlice.eq_2 _ _ (by simpa using space), List.dropWhile_cons, if_neg keep]
      have cut := Go.take_idxOf?_eq_takeWhile ' ' (c :: str)
      cases found : (c :: str).idxOf? ' ' with
      | none =>
        rw [found] at cut
        obtain ⟨whole, counted⟩ := Prod.mk.inj cut
        simp only [SpaceSlice.mk.injEq, true_and]
        exact ⟨whole, by rw [counted]⟩
      | some index =>
        rw [found] at cut
        obtain ⟨taken, counted⟩ := Prod.mk.inj cut
        simp only [SpaceSlice.mk.injEq, true_and]
        exact ⟨taken, by rw [counted]⟩

/-- The counter grows by exactly the token's length. -/
theorem getSpaceSlice_v (str : List Char) (v : Nat) :
    (getSpaceSlice str v).v = v + (getSpaceSlice str v).b.length := by
  simp [getSpaceSlice_eq]

/-- An empty token means that only spaces were left. -/
theorem getSpaceSlice_str_eq_nil {str : List Char} {v : Nat}
    (empty : (getSpaceSlice str v).b = []) : (getSpaceSlice str v).str = [] := by
  rw [getSpaceSlice_eq] at empty ⊢
  cases rest : str.dropWhile (· == ' ') with
  | nil => rfl
  | cons c t =>
    have front := List.head_dropWhile_not (· == ' ') (l := str) (by simp [rest])
    simp only [rest, List.head_cons] at front
    have keep : (c != ' ') = true := by simp [bne, front]
    simp [rest, keep] at empty

theorem length_getSpaceSlice_str_le (str : List Char) (v : Nat) :
    (getSpaceSlice str v).str.length ≤ str.length := by
  rw [getSpaceSlice_eq]
  exact (List.dropWhile_suffix _).length_le

/-! ## The state of the scanning loop -/

/-- The local variables of `ParseAuditEvent` that the scanning loop reads and writes. -/
structure ScanState where
  /-- The text not yet consumed. -/
  str : List Char
  /-- The token of the current iteration. -/
  nBytes : List Char
  /-- The loop counter: the characters of every token read so far. -/
  n : Nat
  key : List Char
  value : List Char
  /-- Set after an `avc:` token: the next token is the AVC result. -/
  av : Bool
  m : FieldMap
  r : Record

/-- The state when the loop starts on the text after the header. -/
def ScanState.init (str : List Char) : ScanState :=
  { str, nBytes := [], n := 0, key := [], value := [], av := false, m := ∅, r := {} }

/-- `getSpaceSlice(&str, &nBytes, &n)` on the loop's own variables. -/
def ScanState.readToken (s : ScanState) : ScanState :=
  let cut := getSpaceSlice s.str s.n
  { s with str := cut.str, nBytes := cut.b, n := cut.v }

theorem ScanState.readToken_n (s : ScanState) : s.readToken.n = s.n + s.readToken.nBytes.length :=
  getSpaceSlice_v s.str s.n

/-- `strconv.ParseInt(value, 16, 64)`, or `-1` when it fails, as the scan stores `a0`, `a1`. -/
def hexOrMinusOne (value : List Char) : Int :=
  (Go.Strconv.parseInt value 16 64).getD (-1)

/-- The bottom of the loop body: stop at the last token (`len(str) == len(nBytes)`), or skip the
token and the space after it. -/
def advance (s : ScanState) : Except Go.Panic (ForInStep ScanState) :=
  if s.str.length = s.nBytes.length then .ok (.done s)
  else (Go.sliceFrom s.str (s.nBytes.length + 1)).map fun str => .yield { s with str }

/-- A token without `=` continues the previous value: `value += " " + nBytes`. -/
def appendValue (s : ScanState) : ScanState :=
  let value := fixPunctuantions (s.value ++ ' ' :: s.nBytes)
  { s with value, m := s.m.insert s.key value }

/-- The end of the `key=value` branch: clean the value, remember `a0`, `a1` and `syscall` for
the interpretation, and store the field. -/
def storeField (s : ScanState) (key value : List Char) : ScanState :=
  let value := fixPunctuantions value
  let r := if key = "a0".toList then { s.r with a0 := hexOrMinusOne value } else s.r
  let r := if key = "a1".toList then { r with a1 := hexOrMinusOne value } else r
  let r := if key = "syscall".toList then { r with syscallNum := value } else r
  { s with key, value, r, m := s.m.insert key value }

/-- One permission more in the list: `if len(v) != 0 { v += "," }; v += nBytes`. -/
def joinPerms (v nBytes : List Char) : List Char :=
  (if v.length ≠ 0 then v ++ [','] else v) ++ nBytes

/-- The `for nBytes != "}"` loop of an AVC record: join the tokens up to the closing `}` with
`,` into `v`. -/
def permsLoop (s : ScanState) (v : List Char) : Except Go.Panic (ScanState × List Char) :=
  if s.nBytes = "\x7d".toList then .ok (s, v)
  else
    match _sliced : Go.sliceFrom s.str (s.nBytes.length + 1) with
    | .error p => .error p
    | .ok str => permsLoop { s with str }.readToken (joinPerms v s.nBytes)
termination_by s.str.length
decreasing_by
  have shorter := Go.length_lt_of_sliceFrom_eq_ok _sliced (Nat.succ_pos _)
  have bound := length_getSpaceSlice_str_le str s.n
  simp only [ScanState.readToken]
  rcases shorter with shorter | empty
  · exact Nat.lt_of_le_of_lt bound shorter
  · rw [empty] at _sliced
    simp [Go.sliceFrom] at _sliced

theorem permsLoop_of_closing {s : ScanState} (v : List Char) (closing : s.nBytes = "\x7d".toList) :
    permsLoop s v = .ok (s, v) := by
  rw [permsLoop, if_pos closing]

theorem permsLoop_of_sliceFrom {s : ScanState} (v : List Char) (open_ : s.nBytes ≠ "\x7d".toList)
    {str : List Char} (sliced : Go.sliceFrom s.str (s.nBytes.length + 1) = .ok str) :
    permsLoop s v = permsLoop { s with str }.readToken (joinPerms v s.nBytes) := by
  rw [permsLoop, if_neg open_]
  split
  · next p failed => rw [sliced] at failed; cases failed
  · next str' sliced' => rw [sliced] at sliced'; cases sliced'; rfl

theorem permsLoop_of_sliceFrom_error {s : ScanState} (v : List Char)
    (open_ : s.nBytes ≠ "\x7d".toList) {p : Go.Panic}
    (failed : Go.sliceFrom s.str (s.nBytes.length + 1) = .error p) :
    permsLoop s v = .error p := by
  rw [permsLoop, if_neg open_]
  split
  · next p' failed' => rw [failed] at failed'; cases failed'; rfl
  · next str sliced => rw [failed] at sliced; cases sliced

/-! ## One iteration -/

/-- The branch of an AVC or USER_AVC record for a token without `=`. -/
def avcToken (s : ScanState) : Except Go.Panic (ForInStep ScanState) :=
  if s.nBytes = "avc:".toList ∧ "avc:".toList.isPrefixOf s.str then
    -- skip over `avc:`; nothing checks that a space follows it
    (Go.sliceFrom s.str (s.nBytes.length + 1)).map fun str => .yield { s with str, av := true }
  else if s.av then
    advance { s with key := "seresult".toList, value := s.nBytes,
                     m := s.m.insert "seresult".toList s.nBytes, av := false }
  else if "\x7b".toList.isPrefixOf s.nBytes then do
    let str ← Go.sliceFrom s.str (s.nBytes.length + 1)
    let looped ← permsLoop { s with str }.readToken []
    -- the map gets `v` as it is; `fixPunctuantions` only changes the variable `value`
    advance { looped.1 with key := "seperms".toList, value := fixPunctuantions looped.2,
                            m := looped.1.m.insert "seperms".toList looped.2 }
  else if s.nBytes = "for".toList then
    (Go.sliceFrom s.str (s.nBytes.length + 1)).map fun str => .yield { s with str }
  else advance (appendValue s)

/-- The branch of a token `key=value` whose first `=` is at `newIndex`. -/
def fieldToken (s : ScanState) (newIndex : Nat) : Except Go.Panic (ForInStep ScanState) := do
  let key ← Go.sliceTo s.nBytes newIndex
  let value ← Go.sliceFrom s.nBytes (newIndex + 1)
  if "'".toList.isPrefixOf value && key == "msg".toList then
    match value.idxOf? '=' with
    | none =>
      -- `continue` without moving `str`, except past `msg='` of a USER_AVC record
      if "msg='avc".toList.isPrefixOf s.str then
        (Go.sliceFrom s.str 5).map fun str => .yield { s with key, value, str }
      else .ok (.yield { s with key, value })
    | some innerIndex => do
      let key ← Go.slice value 1 innerIndex
      let value ← Go.sliceFrom value (innerIndex + 1)
      advance (storeField s key value)
  else advance (storeField s key value)

/-- The body of an iteration once `getSpaceSlice` has cut the token `s.nBytes`. -/
def tokenStep (msgType : UInt16) (s : ScanState) : Except Go.Panic (ForInStep ScanState) :=
  match s.nBytes.idxOf? '=' with
  | none =>
    if msgType = auditAvc ∨ msgType = auditUserAvc then avcToken s else advance (appendValue s)
  | some newIndex => fieldToken s newIndex

/-- One iteration of the scanning loop on a record of type `msgType`. -/
def scanStep (msgType : UInt16) (s : ScanState) : Except Go.Panic (ForInStep ScanState) :=
  tokenStep msgType s.readToken

/-! ## Every iteration that goes on counts a character -/

theorem advance_yield {s s' : ScanState} (h : advance s = .ok (.yield s')) :
    s'.n = s.n ∧ s.str.length ≠ s.nBytes.length := by
  unfold advance at h
  split at h
  · cases h
  · next differ =>
    obtain ⟨str, -, moved⟩ := Go.map_eq_ok.mp h
    cases moved
    exact ⟨rfl, differ⟩

/-- The permission loop only counts. -/
theorem permsLoop_n {s : ScanState} {v : List Char} {result : ScanState × List Char}
    (h : permsLoop s v = .ok result) : s.n ≤ result.1.n := by
  induction s, v using permsLoop.induct generalizing result with
  | case1 s v closing =>
    rw [permsLoop_of_closing v closing] at h
    cases h
    exact Nat.le_refl _
  | case2 s v open_ p failed =>
    rw [permsLoop_of_sliceFrom_error v open_ failed] at h
    cases h
  | case3 s v open_ str sliced ih =>
    rw [permsLoop_of_sliceFrom v open_ sliced] at h
    have counted := ScanState.readToken_n { s with str }
    have later := ih h
    simp only at counted
    omega

theorem avcToken_yield {s s' : ScanState} (h : avcToken s = .ok (.yield s')) :
    s.n ≤ s'.n ∧ (s.nBytes ≠ [] ∨ s.str.length ≠ s.nBytes.length) := by
  unfold avcToken at h
  split_ifs at h with isAvc isAv isPerms isFor
  · obtain ⟨str, -, moved⟩ := Go.map_eq_ok.mp h
    cases moved
    exact ⟨Nat.le_refl _, .inl (by simp [isAvc.1])⟩
  · obtain ⟨same, differ⟩ := advance_yield h
    exact ⟨Nat.le_of_eq same.symm, .inr differ⟩
  · have front : s.nBytes ≠ [] := by
      rintro empty
      simp [empty] at isPerms
    obtain ⟨str, -, rest⟩ := Go.bind_eq_ok.mp h
    obtain ⟨looped, loopedOk, advanced⟩ := Go.bind_eq_ok.mp rest
    have counted := ScanState.readToken_n { s with str }
    have later := permsLoop_n loopedOk
    have same := (advance_yield advanced).1
    simp only at counted same
    exact ⟨by omega, .inl front⟩
  · obtain ⟨str, -, moved⟩ := Go.map_eq_ok.mp h
    cases moved
    exact ⟨Nat.le_refl _, .inl (by simp [isFor])⟩
  · obtain ⟨same, differ⟩ := advance_yield h
    exact ⟨Nat.le_of_eq same.symm, .inr differ⟩

theorem fieldToken_yield {s s' : ScanState} {newIndex : Nat}
    (h : fieldToken s newIndex = .ok (.yield s')) : s'.n = s.n := by
  unfold fieldToken at h
  obtain ⟨key, -, rest⟩ := Go.bind_eq_ok.mp h
  obtain ⟨value, -, branch⟩ := Go.bind_eq_ok.mp rest
  split at branch
  · split at branch
    · split at branch
      · obtain ⟨str, -, moved⟩ := Go.map_eq_ok.mp branch
        cases moved
        rfl
      · cases branch
        rfl
    · obtain ⟨key', -, rest'⟩ := Go.bind_eq_ok.mp branch
      obtain ⟨value', -, advanced⟩ := Go.bind_eq_ok.mp rest'
      exact (advance_yield advanced).1
  · exact (advance_yield branch).1

/-- **Progress**: an iteration that does not end the loop has counted at least one more
character, so the loop `for n < orig` ends. -/
theorem scanStep_progress {msgType : UInt16} {s s' : ScanState}
    (h : scanStep msgType s = .ok (.yield s')) : s.n < s'.n := by
  have counted := ScanState.readToken_n s
  have emptyRest : s.readToken.nBytes = [] → s.readToken.str = [] :=
    getSpaceSlice_str_eq_nil
  unfold scanStep tokenStep at h
  have front : s.readToken.nBytes ≠ [] := by
    intro empty
    have sameLength : s.readToken.str.length = s.readToken.nBytes.length := by
      simp [empty, emptyRest empty]
    rw [empty] at h
    simp only [List.idxOf?_nil] at h
    split at h
    · have moved := (avcToken_yield h).2
      simp [empty, sameLength] at moved
    · have moved := (advance_yield h).2
      simp [appendValue, sameLength] at moved
  have long : 0 < s.readToken.nBytes.length := List.length_pos_iff.mpr front
  split at h
  · split at h
    · have later := (avcToken_yield h).1
      omega
    · have same := (advance_yield h).1
      simp only [appendValue] at same
      omega
  · have same := fieldToken_yield h
    omega

/-! ## The loop and the whole function -/

/-- `for n < orig { … }`: iterate until the counter reaches `orig` or an iteration breaks out
of the loop. -/
def scanLoop (msgType : UInt16) (orig : Nat) (s : ScanState) : Except Go.Panic ScanState :=
  if s.n < orig then
    match _stepped : scanStep msgType s with
    | .error p => .error p
    | .ok (.done s') => .ok s'
    | .ok (.yield s') => scanLoop msgType orig s'
  else .ok s
termination_by orig - s.n
decreasing_by
  have := scanStep_progress _stepped
  omega

section Unfolding

variable {msgType : UInt16} {orig : Nat} {s s' : ScanState}

theorem scanLoop_of_le (counted : orig ≤ s.n) : scanLoop msgType orig s = .ok s := by
  rw [scanLoop, if_neg (Nat.not_lt.mpr counted)]

theorem scanLoop_of_yield (guard : s.n < orig) (stepped : scanStep msgType s = .ok (.yield s')) :
    scanLoop msgType orig s = scanLoop msgType orig s' := by
  rw [scanLoop, if_pos guard]
  split <;> simp_all

theorem scanLoop_of_done (guard : s.n < orig) (stepped : scanStep msgType s = .ok (.done s')) :
    scanLoop msgType orig s = .ok s' := by
  rw [scanLoop, if_pos guard]
  split <;> simp_all

theorem scanLoop_of_error {p : Go.Panic} (guard : s.n < orig)
    (stepped : scanStep msgType s = .error p) : scanLoop msgType orig s = .error p := by
  rw [scanLoop, if_pos guard]
  split <;> simp_all

end Unfolding

/-- The error `ParseAuditEvent` returns for a record without a well-formed `audit(…): `
header. -/
def malformed : Go.Fault := .error "parsing failed: malformed audit message"

/-- The header `audit(<timestamp>:<serial>): ` of a record: its timestamp, its serial and the
text after it. -/
def parseHeader (str : List Char) : Except Go.Fault (List Char × List Char × List Char) :=
  if "audit(".toList.isPrefixOf str then do
    let str ← Go.liftPanic (Go.sliceFrom str 6)
    match str.idxOf? ':' with
    | none => .error malformed
    | some index => do
      let timestamp ← Go.liftPanic (Go.sliceTo str index)
      -- move further on the string, skipping `:`
      let str ← Go.liftPanic (Go.sliceFrom str (index + 1))
      match str.idxOf? ')' with
      | none => .error malformed
      | some index => do
        let serial ← Go.liftPanic (Go.sliceTo str index)
        if (serial ++ "): ".toList).isPrefixOf str then do
          let str ← Go.liftPanic (Go.sliceFrom str (index + 3))
          .ok (timestamp, serial, str)
        else .error malformed
  else .error malformed

/-- **The header is read back**: a timestamp without `:` and a serial without `)`. -/
theorem parseHeader_eq {timestamp serial body : List Char} (noColon : ':' ∉ timestamp)
    (noParen : ')' ∉ serial) :
    parseHeader ("audit(".toList ++ (timestamp ++ ':' :: (serial ++ "): ".toList ++ body))) =
      .ok (timestamp, serial, body) := by
  have opening : "audit(".toList.isPrefixOf
      ("audit(".toList ++ (timestamp ++ ':' :: (serial ++ "): ".toList ++ body))) = true := by
    simp
  have afterOpening : Go.sliceFrom
      ("audit(".toList ++ (timestamp ++ ':' :: (serial ++ "): ".toList ++ body))) 6 =
      .ok (timestamp ++ ':' :: (serial ++ "): ".toList ++ body)) := by
    rw [Go.sliceFrom_of_le (by simp)]
    exact congrArg Except.ok (List.drop_left' rfl)
  have spelled : serial ++ "): ".toList ++ body = serial ++ ')' :: (": ".toList ++ body) := by
    rw [List.append_assoc]
    rfl
  have closing : (serial ++ "): ".toList).isPrefixOf (serial ++ ')' :: (": ".toList ++ body)) =
      true := by
    rw [← spelled]
    simp
  have afterHeader : Go.sliceFrom (serial ++ ')' :: (": ".toList ++ body)) (serial.length + 3) =
      .ok body := by
    rw [← spelled, Go.sliceFrom_of_le (by simp)]
    exact congrArg Except.ok (List.drop_left' (by simp))
  rw [parseHeader, if_pos opening, afterOpening, Go.liftPanic_ok, Go.ok_bind,
    Go.idxOf?_append_cons_of_not_mem _ noColon]
  dsimp only
  rw [Go.sliceTo_append, Go.liftPanic_ok, Go.ok_bind, Go.sliceFrom_append_cons, Go.liftPanic_ok,
    Go.ok_bind, spelled, Go.idxOf?_append_cons_of_not_mem _ noParen]
  dsimp only
  rw [Go.sliceTo_append, Go.liftPanic_ok, Go.ok_bind, if_pos closing, afterHeader, Go.liftPanic_ok,
    Go.ok_bind]

section Interpretation

/-! `interpretField(key, value, msgType, r)` of `interpret.go` is a parameter of this model. -/

variable (interpretField : List Char → List Char → UInt16 → Record → Except Go.Fault (List Char))
  (order : FieldMap.Order)

/-- `for key, value := range m { …; m[key] = ivalue }`: rewrite every value with
`interpretField`, in the order `range` visits the map; the first error ends the pass. -/
def interpretAll (msgType : UInt16) (r : Record) (m : FieldMap) : Except Go.Fault FieldMap :=
  (order.visit m).foldlM (fun acc field => do
      let ivalue ← interpretField field.1 field.2 msgType r
      pure (acc.insert field.1 ivalue)) m

/-- `ParseAuditEvent(str, msgType, interpret)`. -/
def parseAuditEvent (str : List Char) (msgType : UInt16) (interpret : Bool) :
    Except Go.Fault AuditEvent := do
  let header ← parseHeader str
  let s ← Go.liftPanic (scanLoop msgType header.2.2.length (ScanState.init header.2.2))
  let m ← if interpret then interpretAll interpretField order msgType s.r s.m else pure s.m
  let type ← Go.liftPanic (Go.sliceFrom (auditConstantString msgType) 6)
  return { serial := header.2.1, timestamp := header.1, type, data := m, raw := str }

/-- Without the interpretation pass, a record whose header is read and whose scan ends is the
event of the scan's map. -/
theorem parseAuditEvent_of_scan {str timestamp serial body : List Char} {msgType : UInt16}
    {s : ScanState} (header : parseHeader str = .ok (timestamp, serial, body))
    (scanned : scanLoop msgType body.length (ScanState.init body) = .ok s) :
    parseAuditEvent interpretField order str msgType false =
      .ok { serial, timestamp, type := (auditConstantString msgType).drop 6, data := s.m,
            raw := str } := by
  rw [parseAuditEvent, header, Go.ok_bind, scanned, Go.liftPanic_ok, Go.ok_bind,
    Go.sliceFrom_of_le (six_le_length_auditConstantString msgType)]
  rfl

/-- **The interpretation pass changes the data only.**  On a text that the parse without the
pass reads to `ev`, the parse with it interprets `ev`'s data, in the record the scan ended
with, and keeps the rest of `ev`. -/
theorem parseAuditEvent_interpret_of_ok {str : List Char} {msgType : UInt16} {ev : AuditEvent}
    (parsed : parseAuditEvent interpretField order str msgType false = .ok ev) :
    ∃ r, parseAuditEvent interpretField order str msgType true =
      (interpretAll interpretField order msgType r ev.data).map fun m => { ev with data := m } := by
  obtain ⟨⟨timestamp, serial, body⟩, header, scannedEv⟩ := Go.bind_eq_ok.mp parsed
  obtain ⟨s, scanned, -⟩ := Go.bind_eq_ok.mp scannedEv
  have scan : scanLoop msgType body.length (ScanState.init body) = .ok s :=
    Go.mapError_eq_ok.mp scanned
  rw [parseAuditEvent_of_scan interpretField order header scan] at parsed
  cases parsed
  refine ⟨s.r, ?_⟩
  rw [parseAuditEvent, header, Go.ok_bind, scan, Go.liftPanic_ok, Go.ok_bind, if_pos rfl]
  cases interpretAll interpretField order msgType s.r s.m with
  | error e => rfl
  | ok m =>
    rw [Go.ok_bind, Go.sliceFrom_of_le (six_le_length_auditConstantString msgType)]
    rfl

/-! ### What the order of the pass decides -/

/-- A pass over the fields `l` that succeeds has interpreted every one of them. -/
theorem forall_of_foldlM_interpret {msgType : UInt16} {r : Record} :
    ∀ {l : List (Σ _ : List Char, List Char)} {acc m' : FieldMap},
      l.foldlM (fun acc field => do
          let ivalue ← interpretField field.1 field.2 msgType r
          pure (acc.insert field.1 ivalue)) acc = .ok m' →
        ∀ e ∈ l, ∃ v, interpretField e.1 e.2 msgType r = .ok v
  | [], _, _, _ => fun _ member => absurd member List.not_mem_nil
  | e :: l, acc, m', interpreted => by
      rw [List.foldlM_cons] at interpreted
      obtain ⟨acc', stepped, rest⟩ := Go.bind_eq_ok.mp interpreted
      obtain ⟨v, ivalue, -⟩ := Go.bind_eq_ok.mp stepped
      intro e' member
      rcases List.mem_cons.mp member with rfl | later
      · exact ⟨v, ivalue⟩
      · exact forall_of_foldlM_interpret rest e' later

/-- A pass over the fields `l` in which every field is interpreted as `g` says stores the
values one after the other. -/
theorem foldlM_interpret_of_forall {msgType : UInt16} {r : Record}
    {g : (Σ _ : List Char, List Char) → List Char} :
    ∀ {l : List (Σ _ : List Char, List Char)},
      (∀ e ∈ l, interpretField e.1 e.2 msgType r = .ok (g e)) → ∀ acc : FieldMap,
        l.foldlM (fun acc field => do
            let ivalue ← interpretField field.1 field.2 msgType r
            pure (acc.insert field.1 ivalue)) acc =
          .ok (l.foldl (fun acc e => acc.insert e.1 (g e)) acc)
  | [], _, _ => rfl
  | e :: l, succeeds, acc => by
      rw [List.foldlM_cons, succeeds e List.mem_cons_self, Go.ok_bind]
      exact foldlM_interpret_of_forall (fun e' member => succeeds e' (List.mem_cons_of_mem e member))
        (acc.insert e.1 (g e))

/-- The map the stores leave, at a key: the stored value of the field `l` holds under it, and
otherwise what `acc` held.  The fields' keys are distinct, as those of a map. -/
theorem lookup_foldl_insert (g : (Σ _ : List Char, List Char) → List Char) (k : List Char) :
    ∀ {l : List (Σ _ : List Char, List Char)}, l.NodupKeys → ∀ acc : FieldMap,
      (l.foldl (fun acc e => acc.insert e.1 (g e)) acc).lookup k =
        match l.dlookup k with
        | some v => some (g ⟨k, v⟩)
        | none => acc.lookup k
  | [], _, _ => rfl
  | e :: l, nodup, acc => by
      obtain ⟨fresh, nodupRest⟩ := List.nodupKeys_cons.mp nodup
      rw [List.foldl_cons, lookup_foldl_insert g k nodupRest]
      by_cases same : k = e.1
      · -- the key of the head field: no later field has it
        subst same
        rw [List.dlookup_eq_none.mpr fresh, List.dlookup_cons_eq, AList.lookup_insert]
      · rw [List.dlookup_cons_ne l e same]
        split <;> simp only [AList.lookup_insert_ne same]

/-- **The order of the pass decides only which error it returns.**  A pass that succeeds in one
order succeeds in every other, with a map that holds the same value under every key. -/
theorem interpretAll_reorder (order' : FieldMap.Order) {msgType : UInt16} {r : Record}
    {m m₁ : FieldMap} (interpreted : interpretAll interpretField order msgType r m = .ok m₁) :
    ∃ m₂, interpretAll interpretField order' msgType r m = .ok m₂ ∧
      ∀ k, m₂.lookup k = m₁.lookup k := by
  -- every field is interpreted in the first order, so in every order
  have every := forall_of_foldlM_interpret interpretField interpreted
  let g : (Σ _ : List Char, List Char) → List Char := fun e =>
    ((interpretField e.1 e.2 msgType r).toOption).getD []
  have succeeds : ∀ e ∈ m.entries, interpretField e.1 e.2 msgType r = .ok (g e) := by
    intro e member
    obtain ⟨v, ivalue⟩ := every e ((order.perm m).mem_iff.mpr member)
    simp [g, ivalue, Except.toOption]
  have visits : ∀ o : FieldMap.Order, interpretAll interpretField o msgType r m =
      .ok ((o.visit m).foldl (fun acc e => acc.insert e.1 (g e)) m) := fun o =>
    foldlM_interpret_of_forall interpretField
      (fun e member => succeeds e ((o.perm m).mem_iff.mp member)) m
  have nodup : ∀ o : FieldMap.Order, (o.visit m).NodupKeys := fun o =>
    (List.perm_nodupKeys (o.perm m)).mpr m.nodupKeys
  rw [visits order] at interpreted
  cases interpreted
  -- both maps read, at each key, the field the map holds under it
  refine ⟨_, visits order', fun k => ?_⟩
  rw [lookup_foldl_insert g k (nodup order'), lookup_foldl_insert g k (nodup order),
    List.perm_dlookup k (nodup order') ((order'.perm m).trans (order.perm m).symm)]

/-- An AVC record whose text ends in the token `avc:` makes `ParseAuditEvent` panic: the `avc:`
branch slices `str[len(nBytes)+1:]` without the `len(str) == len(nBytes)` test that the other
branches make first, and here `str` is `avc:` itself. -/
theorem parseAuditEvent_avc_token_at_end_panics :
    parseAuditEvent interpretField order "audit(1:2): avc:".toList auditAvc false =
      .error (.panic (.sliceBounds 5 4 4)) := by
  have header : parseHeader "audit(1:2): avc:".toList =
      .ok ("1".toList, "2".toList, "avc:".toList) := by decide
  have looped : scanLoop auditAvc "avc:".toList.length (ScanState.init "avc:".toList) =
      .error (.sliceBounds 5 4 4) :=
    scanLoop_of_error (by decide) rfl
  rw [parseAuditEvent, header]
  simp only [bind, Except.bind, looped, Go.liftPanic_error]

/-- A `msg='` field whose text has no `=` after the quote ends the scan early: the branch
`continue`s without moving `str`, so the loop reads the same token again until its counter
passes the length of the text, and the field `a=1` after it is never read. -/
theorem parseAuditEvent_drops_field_after_unquoted_msg :
    ∃ ev, parseAuditEvent interpretField order "audit(1:2): msg='hello a=1".toList auditUser false =
      .ok ev ∧ "a".toList ∉ ev.data := by
  let reread : ScanState := { ScanState.init "msg='hello a=1".toList with
    nBytes := "msg='hello".toList, n := 10, key := "msg".toList, value := "'hello".toList }
  have header : parseHeader "audit(1:2): msg='hello a=1".toList =
      .ok ("1".toList, "2".toList, "msg='hello a=1".toList) := by decide
  have first : scanStep auditUser (ScanState.init "msg='hello a=1".toList) =
      .ok (.yield reread) := rfl
  have second : scanStep auditUser reread = .ok (.yield { reread with n := 20 }) := rfl
  have looped : scanLoop auditUser "msg='hello a=1".toList.length
      (ScanState.init "msg='hello a=1".toList) = .ok { reread with n := 20 } := by
    rw [scanLoop_of_yield (by decide) first, scanLoop_of_yield (by decide) second,
      scanLoop_of_le (by decide)]
  rw [parseAuditEvent, header]
  simp only [bind, Except.bind, looped, Go.liftPanic_ok]
  refine ⟨_, rfl, ?_⟩
  simp [reread, ScanState.init]

end Interpretation

end LibAudit
