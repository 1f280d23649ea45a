import Mathlib.Data.List.DropRight
import LibAudit.Rules.Print
import LibAudit.Rules.SetRules

/-!
# Watches as they are listed

Each entry of `file_rules` becomes a watch in three calls: `auditSetupAndAddWatchDir` writes the
path, trimmed of its trailing slashes, and all four permissions; `auditSetupAndUpdatePerms`
replaces the permissions when the entry gives some; `auditRuleFieldPairData` appends the key.
`auditAddRuleData` then rewrites the filter and the action the watch already has.  This module
follows an accepted entry through the calls and shows that `printRule` lists the rule in the
form it was written in, the form `RemoveStaleLWAuditRules` searches for the library's keys.

## Main definitions

* `listedPerms` — the permission letters of a watch as `auditctl` lists them.
* `listedKey` — the `-k` part of a watch, empty without a key.
* `WatchShape` — what `printRule` reads of a watch: its fields, values and `Buf`.

## Main statements

* `permsOf_eq_ok` — the bits of a permission string are those of the letters it contains.
* `fileRuleData_shape` — an accepted entry of `file_rules` is a watch of its trimmed path, its
  permissions and its key.
* `printRule_fileRuleData` — `printRule` lists it as `-w <path> -p <perms> -k <key>`.

## Design notes

Go strings are bytes and the model's are characters, one for each byte; `[]byte(s)` keeps the
low byte of each character.  A path and a key are therefore listed as they were written when
their characters are bytes (`Go.IsByteString`), which every Go string satisfies.  A key is
listed once unless it contains the two characters `\0`, at which `printRule` splits it.
-/

namespace LibAudit

/-- The permissions a watch is listed with: the distinct letters of the lower-cased permission
string, in the order `r`, `w`, `x`, `a`; all four when the entry gives none. -/
def listedPerms : Option (List Char) → List Char
  | none => "rwxa".toList
  | some perms => "rwxa".toList.filter (· ∈ perms.map Char.toLower)

/-- The key part of a listed watch. -/
def listedKey : Option (List Char) → List Char
  | none => []
  | some key => " -k ".toList ++ key

/-! ## Permissions -/

/-- The permission bits of the letters `r`, `w`, `x` and `a` that are present. -/
def permValue (r w x a : Bool) : UInt32 :=
  (if r then auditPermRead else 0) ||| (if w then auditPermWrite else 0) |||
    (if x then auditPermExec else 0) ||| (if a then auditPermAttr else 0)

/-- Or-ing the bit of a letter marks the letter present. -/
theorem permBit_or_permValue {c : Char} {bit : UInt32} (letter : permBit c = some bit)
    (r w x a : Bool) :
    bit ||| permValue r w x a =
      permValue (c = 'r' || r) (c = 'w' || w) (c = 'x' || x) (c = 'a' || a) := by
  unfold permBit at letter
  -- one case for each of the four letters, each over the sixteen sets of letters
  split at letter <;> cases letter <;> revert r w x a <;> decide

/-- **The bits of a permission string** are those of the letters it contains, by induction on
the string: each letter or-s its bit into the bits of the rest. -/
theorem permsOf_eq_ok {v : UInt32} : ∀ {cs : List Char}, permsOf cs = .ok v →
    v = permValue ('r' ∈ cs) ('w' ∈ cs) ('x' ∈ cs) ('a' ∈ cs)
  | [], ok => by
    cases ok
    rfl
  | c :: cs, ok => by
    unfold permsOf at ok
    split at ok
    · cases ok
    next bit letter =>
      obtain ⟨v', rest, rfl⟩ := Go.map_eq_ok.mp ok
      rw [permsOf_eq_ok rest, permBit_or_permValue letter]
      simp [eq_comm]

theorem permsText_permValue (r w x a : Bool) :
    permsText (permValue r w x a) =
      (if r then ['r'] else []) ++ (if w then ['w'] else []) ++ (if x then ['x'] else []) ++
        (if a then ['a'] else []) := by
  revert r w x a
  decide

theorem filter_rwxa (p : Char → Bool) :
    "rwxa".toList.filter p =
      (if p 'r' then ['r'] else []) ++ (if p 'w' then ['w'] else []) ++
        (if p 'x' then ['x'] else []) ++ (if p 'a' then ['a'] else []) := by
  show ['r', 'w', 'x', 'a'].filter p = _
  simp only [List.filter_cons, List.filter_nil]
  cases p 'r' <;> cases p 'w' <;> cases p 'x' <;> cases p 'a' <;> rfl

/-- The `AUDIT_PERM` arm of `printRule` lists the letters a permission string contains. -/
theorem permsText_of_permsOf {perms : List Char} {v : UInt32}
    (ok : permsOf (perms.map Char.toLower) = .ok v) : permsText v = listedPerms (some perms) := by
  rw [permsOf_eq_ok ok, permsText_permValue, listedPerms, filter_rwxa]

/-! ## The shape of a watch -/

/-- What `printRule` reads of a watch of the bytes `path` with the permission bits `perms` and
the key `key`: the path first, then the permissions, then the key when there is one, and every
syscall in the mask. -/
structure WatchShape (rule : AuditRuleData) (path : List UInt8) (perms : UInt32)
    (key : Option (List UInt8)) : Prop where
  count : rule.fieldCount.toNat = 2 + key.toList.length
  watched : rule.fields[0] = auditWatch ∨ rule.fields[0] = auditDir
  permission : rule.fields[1] = auditPerm
  keyed : key.isSome → rule.fields[2] = auditFilterkey
  pathLength : rule.values[0].toNat = path.length
  permsValue : rule.values[1] = perms
  keyLength : ∀ k ∈ key, rule.values[2].toNat = k.length
  layout : rule.buf = path ++ key.toList.flatten
  all : allSyscalls rule = true

theorem length_lt_of_checkPath {pathName : List Char} (checked : checkPath pathName = .ok ()) :
    pathName.length < pathMax := by
  by_cases long : pathMax ≤ pathName.length
  · unfold checkPath at checked
    rw [if_pos long] at checked
    cases checked
  · exact Nat.lt_of_not_le long

/-- `strings.TrimRight(s, "/")` is a prefix of `s`. -/
theorem isPrefix_trimTrailingSlashes (s : List Char) : trimTrailingSlashes s <+: s :=
  List.rdropWhile_prefix (· = '/') s

/-- `auditAddWatchDir` on the zero rule: the path and all four permissions. -/
theorem auditAddWatchDir_shape {typeName : UInt16} {pathName : List Char} {rule : AuditRuleData}
    (called : auditAddWatchDir typeName AuditRuleData.empty pathName = .ok rule)
    (short : pathName.length ≤ pathMax) :
    WatchShape rule (pathName.map Char.toUInt8)
      (auditPermRead ||| auditPermWrite ||| auditPermExec ||| auditPermAttr) none := by
  unfold auditAddWatchDir at called
  split_ifs at called with nonEmpty badType
  cases called
  have typed : typeName.toUInt32 = auditWatch ∨ typeName.toUInt32 = auditDir := by
    rcases not_and_or.mp badType with dir | watch
    · exact .inr (by rw [not_not.mp dir]; decide)
    · exact .inl (by rw [not_not.mp watch]; decide)
  have length : pathName.length < 4294967296 := by
    unfold pathMax at short
    omega
  refine ⟨rfl, by simpa using typed, by simp, nofun, ?_, by simp, nofun,
    by simp [AuditRuleData.empty], ?_⟩
  · simp [UInt32.toNat_ofNat', length]
  · apply allSyscalls_of_ones
    intro j below
    simp [below]

/-- A watch `auditAddWatchDir` builds is on the exit list, which takes syscalls and is not the
deprecated entry list, and a path that `checkPath` lets through fits its encoding. -/
theorem auditAddWatchDir_exit {typeName : UInt16} {rule rule' : AuditRuleData}
    {pathName : List Char} (called : auditAddWatchDir typeName rule pathName = .ok rule')
    (short : pathName.length ≤ pathMax) :
    takesSyscalls rule' = true ∧ rule'.flags ≠ UInt32.ofInt auditFilterEntry ∧
      rule'.buflen.toNat < 2 ^ 32 - 1040 := by
  have exit : rule'.flags = UInt32.ofInt auditFilterExit := by
    unfold auditAddWatchDir at called
    split_ifs at called
    cases called
    rfl
  have length : pathName.length < 2 ^ 32 - 1040 := by
    unfold pathMax at short
    omega
  refine ⟨takesSyscalls_of_exit exit, by rw [exit]; decide, ?_⟩
  rw [(auditAddWatchDir_buf called).1, UInt32.toNat_ofNat', Nat.mod_eq_of_lt (by omega)]
  exact length

/-- `auditSetupAndAddWatchDir` on the zero rule watches the trimmed path, whatever `os.Stat`
reports of it. -/
theorem auditSetupAndAddWatchDir_shape {env : RuleEnv} {pathName : List Char}
    {strictPath : Bool} {rule : AuditRuleData}
    (called : auditSetupAndAddWatchDir env AuditRuleData.empty pathName strictPath = .ok rule) :
    WatchShape rule ((trimTrailingSlashes pathName).map Char.toUInt8)
      (auditPermRead ||| auditPermWrite ||| auditPermExec ||| auditPermAttr) none := by
  unfold auditSetupAndAddWatchDir at called
  split at called
  · cases called
  next checked =>
  obtain ⟨typeName, -, added⟩ := Go.bind_eq_ok.mp called
  have short : (trimTrailingSlashes pathName).length ≤ pathMax :=
    (isPrefix_trimTrailingSlashes pathName).length_le.trans (length_lt_of_checkPath checked).le
  exact auditAddWatchDir_shape (Go.mapError_eq_ok.mp added) short

/-- `auditSetupAndUpdatePerms` on a watch without a key: the permission field of the watch now
holds the letters of `perms`. -/
theorem auditSetupAndUpdatePerms_shape {env : RuleEnv} {rule rule' : AuditRuleData}
    {perms : List Char} (ascii : Go.Utf8.IsASCII perms) {path : List UInt8} {v : UInt32}
    (shape : WatchShape rule path v none)
    (called : auditSetupAndUpdatePerms env rule perms = .ok rule') :
    ∃ v', WatchShape rule' path v' none ∧ permsText v' = listedPerms (some perms) := by
  unfold auditSetupAndUpdatePerms at called
  split_ifs at called
  split at called
  · cases called
  next permValue letters =>
  -- ASCII text is lowered in place, and its runes are its bytes
  rw [Go.runes_toLower_of_ascii ascii] at letters
  have updated := Go.mapError_eq_ok.mp called
  have nonEmpty : rule.fieldCount ≠ 0 := by
    intro empty
    have count := shape.count
    rw [empty] at count
    simp at count
  have present : auditPerm ∈ rule.fields.toList := by
    rw [Vector.mem_toList_iff]
    exact Vector.mem_of_getElem shape.permission
  -- the watch has a permission field: it is updated in place, and no field is added
  rw [auditUpdateWatchPerms, if_neg nonEmpty, if_pos present] at updated
  cases updated
  have notPerm : rule.fields[0] ≠ auditPerm := by
    rcases shape.watched with watch | dir
    · rw [watch]; decide
    · rw [dir]; decide
  refine ⟨permValue, ⟨shape.count, shape.watched, shape.permission, nofun, ?_, ?_, nofun,
    shape.layout, shape.all⟩, permsText_of_permsOf letters⟩
  · rw [Vector.getElem_zipWith, if_neg notPerm]
    exact shape.pathLength
  · rw [Vector.getElem_zipWith, if_pos shape.permission]

/-- The key appended after the path and the permissions is field 2, and its bytes follow the
path in `Buf`. -/
theorem appendField_key_shape {rule : AuditRuleData} {path : List UInt8} {v : UInt32}
    {key : List Char} (shape : WatchShape rule path v none)
    (below : rule.fieldCount.toNat < auditMaxFields - 1) (short : key.length ≤ auditMaxKeyLen) :
    WatchShape (rule.appendField (Nat.lt_of_lt_of_le below (Nat.sub_le _ _)) auditFilterkey
      auditEqual (UInt32.ofNat key.length) (key.map Char.toUInt8)) path v
      (some (key.map Char.toUInt8)) := by
  have two : rule.fieldCount.toNat = 2 := by simpa using shape.count
  have length : key.length < 4294967296 := by
    unfold auditMaxKeyLen at short
    omega
  refine ⟨?_, ?_, ?_, ?_, ?_, ?_, ?_, ?_, shape.all⟩
  · rw [AuditRuleData.fieldCount_appendField below, two]
    rfl
  -- the slots of the path and the permissions are below the new one
  · rw [AuditRuleData.fields_appendField_of_lt _ (by omega)]
    exact shape.watched
  · rw [AuditRuleData.fields_appendField_of_lt _ (by omega)]
    exact shape.permission
  · simp [AuditRuleData.appendField, two]
  · rw [AuditRuleData.values_appendField_of_lt _ (by omega)]
    exact shape.pathLength
  · rw [AuditRuleData.values_appendField_of_lt _ (by omega)]
    exact shape.permsValue
  · simp [AuditRuleData.appendField, two, UInt32.toNat_ofNat', length]
  · simp [AuditRuleData.appendField, shape.layout]

/-- The key of an entry, when it has one, is appended to the watch. -/
theorem ruleKey_shape {env : RuleEnv} {g : Globals} {entries : List (List Char × Json)}
    {rule rule' : AuditRuleData} {path : List UInt8} {v : UInt32} {key : Option (List Char)}
    (shape : WatchShape rule path v none) (keyOf : Json.get entries "key" = key.map .string)
    (called : (ruleKey env g entries rule).2 = .ok rule') :
    WatchShape rule' path v (key.map (·.map Char.toUInt8)) := by
  unfold ruleKey at called
  rw [keyOf] at called
  cases key with
  | none =>
    cases called
    exact shape
  | some key =>
    have keyed := Go.mapError_eq_ok.mp called
    obtain ⟨below, rfl, short⟩ := auditRuleFieldPairData_key keyed
    exact appendField_key_shape shape below short

/-- **An accepted entry of `file_rules` is a watch** of its trimmed path, with the letters of
its permissions, or all four, and its key when it has one. -/
theorem fileRuleData_shape {env : RuleEnv} {strictPath : Bool} {g g' : Globals}
    {err : Option Go.Fault} {entries : List (List Char × Json)} {ruleData : AuditRuleData}
    {p : List Char} {q k : Option (List Char)}
    (pathOf : Json.get entries "path" = some (.string p))
    (permissionOf : Json.get entries "permission" = q.map .string)
    (keyOf : Json.get entries "key" = k.map .string)
    (permsAscii : ∀ perms ∈ q, Go.Utf8.IsASCII perms)
    (accepted : fileRuleData env strictPath g err (.object entries) = (g', .ok ruleData)) :
    ∃ v, WatchShape ruleData ((trimTrailingSlashes p).map Char.toUInt8) v
      (k.map (·.map Char.toUInt8)) ∧ permsText v = listedPerms q := by
  unfold fileRuleData at accepted
  simp only [pathOf] at accepted
  split_ifs at accepted
  · cases accepted
  split at accepted
  · cases accepted
  next watched added =>
  have shape := auditSetupAndAddWatchDir_shape added
  rw [permissionOf] at accepted
  cases q with
  | none =>
    -- all four permissions stay
    simp only [Option.map_none] at accepted
    exact ⟨_, ruleKey_shape shape keyOf (Go.mapError_eq_ok.mp (Prod.mk.inj accepted).2),
      by decide⟩
  | some perms =>
    simp only [Option.map_some] at accepted
    split at accepted
    · cases accepted
    next permitted updated =>
    obtain ⟨v, permitted, listed⟩ :=
      auditSetupAndUpdatePerms_shape (permsAscii perms rfl) shape (Go.mapError_eq_ok.mp updated)
    exact ⟨v, ruleKey_shape permitted keyOf (Go.mapError_eq_ok.mp (Prod.mk.inj accepted).2),
      listed⟩

/-! ## Listing -/

/-- A rule of the shape of a watch, on a filter that takes syscalls, is printed as one. -/
theorem WatchShape.printRule_eq (interp : Interpreters) {rule : AuditRuleData}
    {path : List UInt8} {v : UInt32} {key : Option (List UInt8)}
    (shape : WatchShape rule path v key) (syscalls : takesSyscalls rule = true) :
    printRule interp rule = .ok ("-w ".toList ++ Go.stringOfBytes path ++ " -p ".toList ++
      permsText v ++ key.toList.flatMap fun k =>
        (splitKeys (Go.stringOfBytes k)).flatMap (" -k ".toList ++ ·)) := by
  rw [← shape.permsValue]
  exact printRule_watch interp shape.count shape.watched shape.permission shape.keyed
    shape.pathLength shape.keyLength shape.layout syscalls shape.all

/-- The rule `auditAddRuleData` leaves behind, whatever the kernel answers. -/
theorem auditAddRuleData_fst {o : Go.ByteOrder} {s : Socket} {rule : AuditRuleData}
    {flags action : Int} (notEntry : flags ≠ auditFilterEntry) :
    (auditAddRuleData o s rule flags action).1 =
      { rule with flags := UInt32.ofInt flags, action := UInt32.ofInt action } := by
  unfold auditAddRuleData
  rw [if_neg notEntry]
  dsimp only
  -- the rule is overwritten before `toWireFormat` is called, whatever it returns
  split <;> rfl

/-- **Watch rules list as they were written.**  For an entry of `file_rules` with path `p`,
optional permissions `q` and optional key `k` that `SetRules` accepts, whatever `os.Stat`
reports, `printRule` of the rule it sends is `-w`, the path without its trailing slashes, `-p`
and the permission letters, and `-k` and the key. -/
theorem printRule_fileRuleData (interp : Interpreters) (env : RuleEnv) (o : Go.ByteOrder)
    (s : Socket) (strictPath : Bool) (g g' : Globals) (err : Option Go.Fault)
    (entries : List (List Char × Json)) (ruleData : AuditRuleData) (p : List Char)
    (q k : Option (List Char))
    (pathOf : Json.get entries "path" = some (.string p))
    (permissionOf : Json.get entries "permission" = q.map .string)
    (keyOf : Json.get entries "key" = k.map .string)
    (permsAscii : ∀ perms ∈ q, Go.Utf8.IsASCII perms)
    (bytes : Go.IsByteString p) (keyBytes : ∀ key ∈ k, Go.IsByteString key)
    (single : ∀ key ∈ k, ¬ ['\\', '0'] <:+: key)
    (accepted : fileRuleData env strictPath g err (.object entries) = (g', .ok ruleData)) :
    printRule interp (auditAddRuleData o s ruleData auditFilterExit auditAlways).1 =
      .ok ("-w ".toList ++ trimTrailingSlashes p ++ " -p ".toList ++ listedPerms q ++
        listedKey k) := by
  obtain ⟨v, shape, listed⟩ := fileRuleData_shape pathOf permissionOf keyOf permsAscii accepted
  rw [auditAddRuleData_fst (by decide)]
  -- `auditAddRuleData` rewrites the filter and the action the watch already has
  have flagged : WatchShape
      { ruleData with flags := UInt32.ofInt auditFilterExit, action := UInt32.ofInt auditAlways }
      ((trimTrailingSlashes p).map Char.toUInt8) v (k.map (·.map Char.toUInt8)) :=
    ⟨shape.count, shape.watched, shape.permission, shape.keyed, shape.pathLength,
      shape.permsValue, shape.keyLength, shape.layout, shape.all⟩
  have trimmed : Go.stringOfBytes ((trimTrailingSlashes p).map Char.toUInt8) =
      trimTrailingSlashes p :=
    Go.stringOfBytes_toUInt8 fun c member =>
      bytes c ((isPrefix_trimTrailingSlashes p).subset member)
  rw [flagged.printRule_eq interp (takesSyscalls_of_exit rfl), trimmed, listed]
  cases k with
  | none => simp [listedKey]
  | some key =>
    have keyText : Go.stringOfBytes (key.map Char.toUInt8) = key :=
      Go.stringOfBytes_toUInt8 (keyBytes key rfl)
    simp [listedKey, keyText, splitKeys_of_not_infix (single key rfl)]

/-- The watch of `/etc/passwd/` with the permissions `Wa` and the key `lw_passwd`, on a path
`os.Stat` finds to be a file. -/
theorem printRule_fileRuleData_passwd :
    let interp : Interpreters :=
      ⟨fun _ => none, fun _ => "Unsupported".toList, "amd64".toList, fun _ value _ => .ok value,
        Char.toLower⟩
    let env : RuleEnv :=
      ⟨fun _ => -1, fun _ => none, fun _ => .error "", fun _ => .found false, fun _ => "",
        Char.toLower⟩
    let entries : List (List Char × Json) := [("path".toList, .string "/etc/passwd/".toList),
      ("permission".toList, .string "Wa".toList), ("key".toList, .string "lw_passwd".toList)]
    ∃ g' ruleData,
      fileRuleData env false ⟨false, false⟩ none (.object entries) = (g', .ok ruleData) ∧
      printRule interp (auditAddRuleData .littleEndian ⟨.ok (), .ok 0, [], [], 0⟩ ruleData
          auditFilterExit auditAlways).1 =
        .ok ("-w ".toList ++ trimTrailingSlashes "/etc/passwd/".toList ++ " -p ".toList ++
          listedPerms (some "Wa".toList) ++ listedKey (some "lw_passwd".toList)) := by
  intro interp env entries
  -- the checks of `checkPath` are left to the kernel
  have ok : (fileRuleData env false ⟨false, false⟩ none (.object entries)).2.isOk = true := by
    decide +kernel
  obtain ⟨g', ruleData, accepted⟩ : ∃ g' ruleData,
      fileRuleData env false ⟨false, false⟩ none (.object entries) = (g', .ok ruleData) := by
    generalize fileRuleData env false ⟨false, false⟩ none (.object entries) = result at ok
    obtain ⟨g', _ | ruleData⟩ := result
    · cases ok
    · exact ⟨g', ruleData, rfl⟩
  have single : ∀ key ∈ some "lw_passwd".toList, ¬ ['\\', '0'] <:+: key := by
    intro key member
    cases member
    exact fun inside => absurd (inside.subset List.mem_cons_self) (by decide)
  exact ⟨g', ruleData, accepted, printRule_fileRuleData interp env .littleEndian
    ⟨.ok (), .ok 0, [], [], 0⟩ false ⟨false, false⟩ g' none entries ruleData "/etc/passwd/".toList
    (some "Wa".toList) (some "lw_passwd".toList) rfl rfl rfl
    (fun perms member => by cases member; decide) (by decide) (by decide) single accepted⟩

example : "-w ".toList ++ trimTrailingSlashes "/etc/passwd/".toList ++ " -p ".toList ++
    listedPerms (some "Wa".toList) ++ listedKey (some "lw_passwd".toList) =
      "-w /etc/passwd -p wa -k lw_passwd".toList := by
  decide

end LibAudit
