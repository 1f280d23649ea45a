import LibAudit.Parser.Scan

/-!
# Where `ParseAuditEvent` cannot panic

Every slice expression of `ParseAuditEvent` is checked by the Go runtime, and an out-of-range
one panics, as on an AVC record that ends in its `avc:` token
(`parseAuditEvent_avc_token_at_end_panics`).  The branches that can go out of range are those
of AVC and USER_AVC records: `avc:`, `{` and `for` each skip a space after their token without
looking whether one is left.  On a record of any other type the function never panics: it
returns an event, or refuses the record with the malformed-message error.

## Why the slices are in range

* The header: every index it cuts at was found by `strings.Index`, or follows a prefix that
  `strings.HasPrefix` has just checked (`parseHeader_total`).
* The scan: `getSpaceSlice` cuts a token at the front of the text, so the token is never longer
  than the text (`ScanState.readToken_fits`).  The bottom of the loop body skips the token and
  one character only when the text is not the token itself (`advance_ok`), and the
  `key=value` branch cuts at the `=` that `strings.Index` found (`fieldToken_ok`).  A loop whose
  every iteration returns, returns (`scanLoop_ok`).

## Main statements

* `parseAuditEvent_total` — without the interpretation pass, `ParseAuditEvent` on a record of
  any type but AVC and USER_AVC returns an event or the malformed-message error.
* `parseAuditEvent_noPanic_of_interpretField` — with the pass, it does not panic on such a
  record as long as `interpretField` does not.
-/

namespace LibAudit

/-! ## The header -/

/-- **The header never panics.**  `ParseAuditEvent` reads the header of any text, or refuses it
as malformed. -/
theorem parseHeader_total (str : List Char) :
    parseHeader str = .error malformed ∨ ∃ header, parseHeader str = .ok header := by
  unfold parseHeader
  split_ifs with opening
  · have long : "audit(".toList.length ≤ str.length :=
      (List.isPrefixOf_iff_prefix.mp opening).length_le
    have six : "audit(".toList.length = 6 := rfl
    rw [Go.sliceFrom_of_le (by omega), Go.liftPanic_ok, Go.ok_bind]
    split
    · exact .inl rfl
    · next index found =>
      obtain ⟨inRange, -, -⟩ := List.idxOf?_eq_some_iff.mp found
      rw [Go.sliceTo_of_le (by omega), Go.liftPanic_ok, Go.ok_bind, Go.sliceFrom_of_le (by omega),
        Go.liftPanic_ok, Go.ok_bind]
      split
      · exact .inl rfl
      · next index' found' =>
        obtain ⟨inRange', -, -⟩ := List.idxOf?_eq_some_iff.mp found'
        rw [Go.sliceTo_of_le (by omega), Go.liftPanic_ok, Go.ok_bind]
        split_ifs with closing
        · -- the text goes on past `serial + "): "`, which it starts with
          have past := (List.isPrefixOf_iff_prefix.mp closing).length_le
          have three : "): ".toList.length = 3 := rfl
          simp only [List.length_append, List.length_take] at past
          rw [Go.sliceFrom_of_le (by omega), Go.liftPanic_ok, Go.ok_bind]
          exact .inr ⟨_, rfl⟩
        · exact .inl rfl
  · exact .inl rfl

/-! ## One iteration of the scan -/

/-- `getSpaceSlice` cuts its token at the front of the text it leaves. -/
theorem ScanState.readToken_fits (s : ScanState) :
    s.readToken.nBytes.length ≤ s.readToken.str.length := by
  simp only [ScanState.readToken, getSpaceSlice_eq]
  exact (List.takeWhile_prefix _).length_le

/-- The bottom of the loop body stays in range when the token is a front part of the text. -/
theorem advance_ok {s : ScanState} (fits : s.nBytes.length ≤ s.str.length) :
    ∃ step, advance s = .ok step := by
  unfold advance
  split_ifs with last
  · exact ⟨_, rfl⟩
  · rw [Go.sliceFrom_of_le (by omega)]
    exact ⟨_, rfl⟩

/-- A value that starts with a quote has its first `=` after the quote. -/
theorem one_le_of_idxOf?_quote {value : List Char} {index : Nat}
    (quoted : "'".toList.isPrefixOf value = true) (found : value.idxOf? '=' = some index) :
    1 ≤ index := by
  obtain ⟨rest, spelled⟩ := List.isPrefixOf_iff_prefix.mp quoted
  have opening : "'".toList = ['\''] := rfl
  rw [← spelled, opening, List.singleton_append, List.idxOf?_cons] at found
  simp only [show ('\'' == '=') = false from rfl, Bool.false_eq_true, if_false] at found
  obtain ⟨inner, -, shifted⟩ := Option.map_eq_some_iff.mp found
  omega

/-- **The `key=value` branch stays in range**: it cuts the token at the `=` that
`strings.Index` found, and a `msg='` value at the `=` after its quote. -/
theorem fieldToken_ok {s : ScanState} {newIndex : Nat} (found : s.nBytes.idxOf? '=' = some newIndex)
    (fits : s.nBytes.length ≤ s.str.length) : ∃ step, fieldToken s newIndex = .ok step := by
  obtain ⟨inRange, -, -⟩ := List.idxOf?_eq_some_iff.mp found
  unfold fieldToken
  rw [Go.sliceTo_of_le (by omega), Go.ok_bind, Go.sliceFrom_of_le (by omega), Go.ok_bind]
  split
  · next quotedMsg =>
    split
    · -- a `msg='` value without `=`: skip `msg='` only when the text starts with `msg='avc`
      split_ifs with userAvc
      · have long := (List.isPrefixOf_iff_prefix.mp userAvc).length_le
        have eight : "msg='avc".toList.length = 8 := rfl
        rw [Go.sliceFrom_of_le (by omega)]
        exact ⟨_, rfl⟩
      · exact ⟨_, rfl⟩
    · next innerIndex innerFound =>
      have opens := one_le_of_idxOf?_quote (Bool.and_eq_true_iff.mp quotedMsg).1 innerFound
      obtain ⟨innerInRange, -, -⟩ := List.idxOf?_eq_some_iff.mp innerFound
      rw [Go.slice_of_le opens (by omega), Go.ok_bind, Go.sliceFrom_of_le (by omega), Go.ok_bind]
      exact advance_ok fits
  · exact advance_ok fits

/-- The interpretation pass never panics when `interpretField` does not: each field is one
iteration of the loop. -/
theorem interpretAll_noPanic
    {interpretField : List Char → List Char → UInt16 → Record → Except Go.Fault (List Char)}
    (interpreted : ∀ key value msgType r, Go.NoPanic (interpretField key value msgType r))
    (order : FieldMap.Order) (msgType : UInt16) (r : Record) (m : FieldMap) :
    Go.NoPanic (interpretAll interpretField order msgType r m) := by
  unfold interpretAll
  exact Go.NoPanic.foldlM (fun _ (field : Σ _ : List Char, List Char) =>
    (interpreted field.1 field.2 msgType r).bind fun _ _ => Go.noPanic_pure _) _ _

section NotAvc

variable {msgType : UInt16} (notAvc : msgType ≠ auditAvc) (notUserAvc : msgType ≠ auditUserAvc)
include notAvc notUserAvc

/-- **One iteration never panics** on a record of any type but AVC and USER_AVC. -/
theorem scanStep_ok (s : ScanState) : ∃ step, scanStep msgType s = .ok step := by
  have fits := s.readToken_fits
  unfold scanStep tokenStep
  split
  · rw [if_neg (not_or.mpr ⟨notAvc, notUserAvc⟩)]
    exact advance_ok fits
  · next newIndex found => exact fieldToken_ok found fits

/-- **The scan never panics** on a record of any type but AVC and USER_AVC: the loop runs until
its counter reaches `orig` or an iteration breaks out, and no iteration panics. -/
theorem scanLoop_ok (orig : Nat) (s : ScanState) : ∃ s', scanLoop msgType orig s = .ok s' := by
  fun_induction scanLoop msgType orig s with
  | case1 s guard p stepped =>
    obtain ⟨step, returned⟩ := scanStep_ok notAvc notUserAvc s
    rw [returned] at stepped
    cases stepped
  | case2 s guard s' stepped => exact ⟨s', rfl⟩
  | case3 s guard s' stepped continues => exact continues
  | case4 s counted => exact ⟨s, rfl⟩

/-- **`ParseAuditEvent` never panics outside AVC records.**  Without the interpretation pass, on
any text and any type but AVC and USER_AVC, it returns an event or the malformed-message
error. -/
theorem parseAuditEvent_total
    (interpretField : List Char → List Char → UInt16 → Record → Except Go.Fault (List Char))
    (order : FieldMap.Order) (str : List Char) :
    parseAuditEvent interpretField order str msgType false = .error malformed ∨
      ∃ ev, parseAuditEvent interpretField order str msgType false = .ok ev := by
  rcases parseHeader_total str with refused | ⟨⟨timestamp, serial, body⟩, header⟩
  · left
    rw [parseAuditEvent, refused]
    rfl
  · right
    obtain ⟨s, scanned⟩ := scanLoop_ok notAvc notUserAvc body.length (ScanState.init body)
    exact ⟨_, parseAuditEvent_of_scan interpretField order header scanned⟩

/-- **With its interpretation pass, `ParseAuditEvent` never panics outside AVC records** when
`interpretField` never panics: the header and the scan are those of `parseAuditEvent_total`,
and the pass runs `interpretField` on each field. -/
theorem parseAuditEvent_noPanic_of_interpretField
    {interpretField : List Char → List Char → UInt16 → Record → Except Go.Fault (List Char)}
    (interpreted : ∀ key value msgType r, Go.NoPanic (interpretField key value msgType r))
    (order : FieldMap.Order) (str : List Char) (interpret : Bool) :
    Go.NoPanic (parseAuditEvent interpretField order str msgType interpret) := by
  rcases parseHeader_total str with refused | ⟨⟨timestamp, serial, body⟩, header⟩
  · rw [parseAuditEvent, refused, Go.error_bind]
    exact Go.noPanic_error _
  · obtain ⟨s, scanned⟩ := scanLoop_ok notAvc notUserAvc body.length (ScanState.init body)
    have sliced := Go.sliceFrom_of_le (six_le_length_auditConstantString msgType)
    rw [parseAuditEvent, header, Go.ok_bind, scanned, Go.liftPanic_ok, Go.ok_bind]
    dsimp only
    split
    · refine (interpretAll_noPanic interpreted order msgType s.r s.m).bind fun m _ => ?_
      rw [sliced, Go.liftPanic_ok, Go.ok_bind]
      exact Go.noPanic_pure _
    · refine (Go.noPanic_pure s.m).bind fun m _ => ?_
      rw [sliced, Go.liftPanic_ok, Go.ok_bind]
      exact Go.noPanic_pure _

end NotAvc

/-- The text that panics as an AVC record, `audit(1:2): avc:`, is parsed as a USER record. -/
theorem parseAuditEvent_total_on_user_record :
    auditUser ≠ auditAvc ∧ auditUser ≠ auditUserAvc ∧
      (parseAuditEvent (fun _ value _ _ => .ok value) .entries "audit(1:2): avc:".toList auditUser false =
          .error malformed ∨
        ∃ ev, parseAuditEvent (fun _ value _ _ => .ok value) .entries "audit(1:2): avc:".toList auditUser
          false = .ok ev) :=
  ⟨by decide, by decide, parseAuditEvent_total (by decide) (by decide) _ _ _⟩

end LibAudit
