import LibAudit.Go.Runtime
import LibAudit.Go.Strconv
import Mathlib.Data.List.Nodup

/-!
# Flag words

Several printers of `interpret.go` render a hexadecimal argument as the names of the flags it
sets: `printAccess`, `printUmount`, `printRecv`, `printMmap`, `printCloneFlags`, `printProt` and
`printSHMFlags`.  Each parses the value with `strconv.ParseInt(fieldValue, 16, 64)` and then
ranges over a lookup table of `headers`, appending the name of every key that shares a bit
with the value, with `|` between names.

## Main definitions

* `FlagTable`, `FlagTable.Order` — a lookup table, and an order in which `range` visits it.
* `appendFlags` — the loop the printers share.
* `printAccess`, `printUmount`, `printRecv`, `printMmap`, `printCloneFlags`, `printProt`,
  `printSHMFlags` — the printers, each given the order of every table it ranges over.

## Main statements

* `appendFlags_nil` — the loop writes the names of the flags the value sets, in the order it
  visits them, joined with `|`.
* `FlagTable.setFlags_spec` — in any order, those names are distinct and exactly the names of
  the set flags.
* `printFlagWord_lists_set_flags`, `printAccess_lists_set_flags`,
  `printCloneFlags_lists_set_flags`, `printMmap_lists_set_flags`,
  `printProt_mmap_lists_set_flags`, `printSHMFlags_lists_set_flags` — what each printer
  returns, in every order.
* `printMmap_depends_on_order` — a value that sets two flags of `MmapLookUp` is printed in two
  ways, one for each order in which `range` can visit them.
* `printProt_mprotect_trailing_separator` — for `mprotect`, an order that visits `PROT_SEM`
  last leaves a `|` at the end of the text.

## Design notes

A Go map has no order: `for key, val := range m` visits the entries in an order that the
runtime picks anew for each loop.  The printers take that order as an argument, a permutation
of the table's entries (`FlagTable.Order`), so that what holds for every run is what holds for
every order.

The keys are `int` and the parsed value `int64`: on the 64-bit targets the library is built
for, both are 64 bits wide, and `key&int(ival) > 0` is a signed comparison of `Int64`s.

`printMount` is in `Parser.Printers`: the keys of `MountLookUp` are constants of the `syscall`
package of the platform the library is built on, and the table is a parameter there.
-/

namespace LibAudit

/-! ## Lookup tables and the orders of `range` -/

/-- A lookup table of flag names from `headers`: the names are non-empty, free of `|` and
distinct. -/
structure FlagTable where
  entries : List (Int64 × List Char)
  name_ne_nil : ∀ entry ∈ entries, entry.2 ≠ []
  bar_not_mem : ∀ entry ∈ entries, '|' ∉ entry.2
  names_nodup : (entries.map Prod.snd).Nodup

/-- An order in which `for key, val := range table` can visit the table. -/
def FlagTable.Order (table : FlagTable) : Type :=
  {order : List (Int64 × List Char) // order.Perm table.entries}

/-- The order in which the source lists the entries. -/
def FlagTable.written (table : FlagTable) : table.Order :=
  ⟨table.entries, List.Perm.refl _⟩

/-- `headers.AccessLookUp`. -/
def accessLookUp : FlagTable where
  entries := [(1, "X_OK".toList), (2, "W_OK".toList), (4, "R_OK".toList)]
  name_ne_nil := by decide +kernel
  bar_not_mem := by decide +kernel
  names_nodup := by decide +kernel

/-- `headers.UmountLookUp`. -/
def umountLookUp : FlagTable where
  entries := [(0x00000001, "MNT_FORCE".toList), (0x00000002, "MNT_DETACH".toList),
    (0x00000004, "MNT_EXPIRE".toList), (0x00000008, "UMOUNT_NOFOLLOW".toList),
    (0x80000001, "UMOUNT_UNUSED".toList)]
  name_ne_nil := by decide +kernel
  bar_not_mem := by decide +kernel
  names_nodup := by decide +kernel

/-- `headers.RecvLookUp`. -/
def recvLookUp : FlagTable where
  entries := [(0x00000001, "MSG_OOB".toList), (0x00000002, "MSG_PEEK".toList),
    (0x00000004, "MSG_DONTROUTE".toList), (0x00000008, "MSG_CTRUNC".toList),
    (0x00000010, "MSG_PROXY".toList), (0x00000020, "MSG_TRUNC".toList),
    (0x00000040, "MSG_DONTWAIT".toList), (0x00000080, "MSG_EOR".toList),
    (0x00000100, "MSG_WAITALL".toList), (0x00000200, "MSG_FIN".toList),
    (0x00000400, "MSG_SYN".toList), (0x00000800, "MSG_CONFIRM".toList),
    (0x00001000, "MSG_RST".toList), (0x00002000, "MSG_ERRQUEUE".toList),
    (0x00004000, "MSG_NOSIGNAL".toList), (0x00008000, "MSG_MORE".toList),
    (0x00010000, "MSG_WAITFORONE".toList), (0x00020000, "MSG_SENDPAGE_NOTLAST".toList),
    (0x20000000, "MSG_FASTOPEN".toList), (0x40000000, "MSG_CMSG_CLOEXEC".toList),
    (0x80000000, "MSG_CMSG_COMPAT".toList)]
  name_ne_nil := by decide +kernel
  bar_not_mem := by decide +kernel
  names_nodup := by decide +kernel

/-- `headers.MmapLookUp`. -/
def mmapLookUp : FlagTable where
  entries := [(0x00001, "MAP_SHARED".toList), (0x00002, "MAP_PRIVATE".toList),
    (0x00010, "MAP_FIXED".toList), (0x00020, "MAP_ANONYMOUS".toList),
    (0x00040, "MAP_32BIT".toList), (0x00100, "MAP_GROWSDOWN".toList),
    (0x00800, "MAP_DENYWRITE".toList), (0x01000, "MAP_EXECUTABLE".toList),
    (0x02000, "MAP_LOCKED".toList), (0x04000, "MAP_NORESERVE".toList),
    (0x08000, "MAP_POPULATE".toList), (0x10000, "MAP_NONBLOCK".toList),
    (0x20000, "MAP_STACK".toList), (0x40000, "MAP_HUGETLB".toList)]
  name_ne_nil := by decide +kernel
  bar_not_mem := by decide +kernel
  names_nodup := by decide +kernel

/-- `headers.CloneLookUp`. -/
def cloneLookUp : FlagTable where
  entries := [(0x00000100, "CLONE_VM".toList), (0x00000200, "CLONE_FS".toList),
    (0x00000400, "CLONE_FILES".toList), (0x00000800, "CLONE_SIGHAND".toList),
    (0x00002000, "CLONE_PTRACE".toList), (0x00004000, "CLONE_VFORK".toList),
    (0x00008000, "CLONE_PARENT".toList), (0x00010000, "CLONE_THREAD".toList),
    (0x00020000, "CLONE_NEWNS".toList), (0x00040000, "CLONE_SYSVSEM".toList),
    (0x00080000, "CLONE_SETTLS".toList), (0x00100000, "CLONE_PARENT_SETTID".toList),
    (0x00200000, "CLONE_CHILD_CLEARTID".toList), (0x00400000, "CLONE_DETACHED".toList),
    (0x00800000, "CLONE_UNTRACED".toList), (0x01000000, "CLONE_CHILD_SETTID".toList),
    (0x02000000, "CLONE_STOPPED".toList), (0x04000000, "CLONE_NEWUTS".toList),
    (0x08000000, "CLONE_NEWIPC".toList), (0x10000000, "CLONE_NEWUSER".toList),
    (0x20000000, "CLONE_NEWPID".toList), (0x40000000, "CLONE_NEWNET".toList),
    (0x80000000, "CLONE_IO".toList)]
  name_ne_nil := by decide +kernel
  bar_not_mem := by decide +kernel
  names_nodup := by decide +kernel

/-- `headers.ProtLookUp`. -/
def protLookUp : FlagTable where
  entries := [(1, "PROT_READ".toList), (2, "PROT_WRITE".toList), (4, "PROT_EXEC".toList),
    (8, "PROT_SEM".toList)]
  name_ne_nil := by decide +kernel
  bar_not_mem := by decide +kernel
  names_nodup := by decide +kernel

/-- The map `ipccmdLookUp` local to `printSHMFlags`. -/
def ipccmdLookUp : FlagTable where
  entries := [(0o1000, "IPC_CREAT".toList), (0o2000, "IPC_EXCL".toList),
    (0o4000, "IPC_NOWAIT".toList)]
  name_ne_nil := by decide +kernel
  bar_not_mem := by decide +kernel
  names_nodup := by decide +kernel

/-- The map `shmLookUp` local to `printSHMFlags`. -/
def shmLookUp : FlagTable where
  entries := [(0o1000, "SHM_DEST".toList), (0o2000, "SHM_LOCKED".toList),
    (0o4000, "SHM_HUGETLB".toList), (0o10000, "SHM_NORESERVE".toList)]
  name_ne_nil := by decide +kernel
  bar_not_mem := by decide +kernel
  names_nodup := by decide +kernel

/-- `headers.SignalLookup`. -/
def signalLookup : List (Nat × List Char) :=
  [(0, "SIG0".toList), (1, "SIGHUP".toList), (2, "SIGINT".toList), (3, "SIGQUIT".toList),
    (4, "SIGILL".toList), (5, "SIGTRAP".toList), (6, "SIGABRT".toList), (7, "SIGBUS".toList),
    (8, "SIGFPE".toList), (9, "SIGKILL".toList), (10, "SIGUSR1".toList), (11, "SIGSEGV".toList),
    (12, "SIGUSR2".toList), (13, "SIGPIPE".toList), (14, "SIGALRM".toList),
    (15, "SIGTERM".toList), (16, "SIGSTKFLT".toList), (17, "SIGCHLD".toList),
    (18, "SIGCONT".toList), (19, "SIGSTOP".toList), (20, "SIGTSTP".toList),
    (21, "SIGTTIN".toList), (22, "SIGTTOU".toList), (23, "SIGURG".toList),
    (24, "SIGXCPU".toList), (25, "SIGXFSZ".toList), (26, "SIGVTALRM".toList),
    (27, "SIGPROF".toList), (28, "SIGWINCH".toList), (29, "SIGIO".toList),
    (30, "IGPWR".toList), (31, "SIGSYS".toList)]

/-! ## The shared loop -/

/-- `if len(name) > 0 { name += "|" }`. -/
def withSeparator (name : List Char) : List Char :=
  if 0 < name.length then name ++ ['|'] else name

/-- One entry of `for key, val := range table { if key&int(ival) > 0 { …; name += val } }`. -/
def flagStep (ival : Int64) (name : List Char) (entry : Int64 × List Char) : List Char :=
  if 0 < entry.1 &&& ival then withSeparator name ++ entry.2 else name

/-- The loop over a table, visiting its entries in `order`. -/
def appendFlags (ival : Int64) (name : List Char) (order : List (Int64 × List Char)) :
    List Char :=
  order.foldl (flagStep ival) name

/-- `ival, err := strconv.ParseInt(fieldValue, 16, 64)` and
`if err != nil { return "", errors.Wrap(err, failure) }`. -/
def parseFlagWord (failure : String) (fieldValue : List Char) : Except Go.Fault Int64 :=
  match Go.Strconv.parseInt fieldValue 16 64 with
  | some ival => .ok ival.toInt64
  | none => .error (Go.Fault.wrap failure (.error (Go.Strconv.parseIntError fieldValue 16 64)))

/-! ## The printers -/

/-- The shape of `printUmount` and `printRecv`: the names of the flags of `table` the value
sets, or `0x` and the value when it sets none. -/
def printFlagWord (failure : String) {table : FlagTable} (order : table.Order)
    (fieldValue : List Char) : Except Go.Fault (List Char) := do
  let ival ← parseFlagWord failure fieldValue
  let name := appendFlags ival [] order.1
  if name.length = 0 then return "0x".toList ++ fieldValue
  return name

/-- `printUmount(fieldValue)`. -/
def printUmount (order : umountLookUp.Order) (fieldValue : List Char) :
    Except Go.Fault (List Char) :=
  printFlagWord "umount parsing failed" order fieldValue

/-- `printRecv(fieldValue)`. -/
def printRecv (order : recvLookUp.Order) (fieldValue : List Char) :
    Except Go.Fault (List Char) :=
  printFlagWord "recv parsing failed" order fieldValue

/-- `printAccess(fieldValue)`: `F_OK` for a value without any of the bits `0x0F`. -/
def printAccess (order : accessLookUp.Order) (fieldValue : List Char) :
    Except Go.Fault (List Char) := do
  let ival ← parseFlagWord "access parsing failed" fieldValue
  if ival &&& 0x0F = 0 then return "F_OK".toList
  let name := appendFlags ival [] order.1
  if name.length = 0 then return "0x".toList ++ fieldValue
  return name

/-- `printMmap(fieldValue)`: `MAP_FILE` first for a value without any of the bits `0x0F`. -/
def printMmap (order : mmapLookUp.Order) (fieldValue : List Char) :
    Except Go.Fault (List Char) := do
  let ival ← parseFlagWord "mmap parsing failed" fieldValue
  let name := if ival &&& 0x0F = 0 then "MAP_FILE".toList else []
  let name := appendFlags ival name order.1
  if name.length = 0 then return "0x".toList ++ fieldValue
  return name

/-- `printCloneFlags(fieldValue)`: the clone flags, then the name of the signal in the low byte
when it is one of `1 … 31`, and `0x` and the value in decimal when there is neither. -/
def printCloneFlags (order : cloneLookUp.Order) (fieldValue : List Char) :
    Except Go.Fault (List Char) := do
  let ival ← parseFlagWord "clone flags parsing failed" fieldValue
  let name := appendFlags ival [] order.1
  let cloneSignal := ival &&& 0xFF
  let name := if 0 < cloneSignal ∧ cloneSignal < 32 then
      withSeparator name ++ (signalLookup.lookup cloneSignal.toInt.toNat).getD []
    else name
  if name.length = 0 then return "0x".toList ++ (toString ival.toInt).toList
  return name

/-- One entry of the loop of `printProt`: the separator is written before the test that skips
`PROT_SEM` when the call is not `mmap`. -/
def protStep (isMmap : Int) (ival : Int64) (name : List Char) (entry : Int64 × List Char) :
    List Char :=
  if 0 < entry.1 &&& ival then
    if isMmap = 0 ∧ entry.2 = "PROT_SEM".toList then withSeparator name
    else withSeparator name ++ entry.2
  else name

/-- `printProt(fieldValue, isMmap)`: `PROT_NONE` for a value without any of the bits `0x07`. -/
def printProt (order : protLookUp.Order) (fieldValue : List Char) (isMmap : Int) :
    Except Go.Fault (List Char) := do
  let ival ← parseFlagWord "prot parsing failed" fieldValue
  if ival &&& 0x07 = 0 then return "PROT_NONE".toList
  let name := order.1.foldl (protStep isMmap ival) []
  if name.length = 0 then return "0x".toList ++ fieldValue
  return name

/-- `fmt.Sprintf("0%03o", mode)`: `0` and the octal digits of `mode`, at least three. -/
def octalMode (mode : Nat) : List Char :=
  '0' :: List.leftpad 3 '0' (Nat.toDigits 8 mode)

/-- `printModeShortInt(ival)`: `suid`, `sgid` and `sticky` for the special bits, joined with
`,`, then the permission bits in octal.  It never returns an error. -/
def printModeShortInt (ival : Int64) : List Char :=
  let name := if 0 < ival &&& 0o4000 then "suid".toList else []
  let name := if 0 < ival &&& 0o2000 then
      (if 0 < name.length then name ++ [','] else name) ++ "sgid".toList
    else name
  let name := if 0 < ival &&& 0o1000 then
      (if 0 < name.length then name ++ [','] else name) ++ "sticky".toList
    else name
  name ++ octalMode (0o777 &&& ival).toInt.toNat

/-- `printSHMFlags(fieldValue)`: the `IPC_*` flags of the bits `0o3000`, the `SHM_*` flags of
the bits `0o14000`, and the permission bits as `printModeShortInt` writes them.  The error
branch after `printModeShortInt` is never taken. -/
def printSHMFlags (ipcOrder : ipccmdLookUp.Order) (shmOrder : shmLookUp.Order)
    (fieldValue : List Char) : Except Go.Fault (List Char) := do
  let ival ← parseFlagWord "shm parsing failed" fieldValue
  let name := appendFlags (ival &&& 0o3000) [] ipcOrder.1
  let name := appendFlags (ival &&& 0o14000) name shmOrder.1
  let name := withSeparator name ++ printModeShortInt (ival &&& 0o777)
  if name.length = 0 then return "0x".toList ++ fieldValue
  return name

example : printAccess accessLookUp.written "6".toList = .ok "W_OK|R_OK".toList := by decide
example : printCloneFlags cloneLookUp.written "40".toList = .ok "0x64".toList := by decide
example : printSHMFlags ipccmdLookUp.written shmLookUp.written "1a4".toList =
    .ok "0644".toList := by
  decide

/-! ## Orders of a table -/

theorem FlagTable.Order.mem {table : FlagTable} (order : table.Order)
    {entry : Int64 × List Char} (mem : entry ∈ order.1) : entry ∈ table.entries :=
  order.2.mem_iff.mp mem

/-- Two entries of a table can be visited in either order, the rest of the table after them. -/
theorem FlagTable.exists_swap {table : FlagTable} {e₁ e₂ : Int64 × List Char}
    (mem₁ : e₁ ∈ table.entries) (mem₂ : e₂ ∈ table.entries) (distinct : e₁ ≠ e₂) :
    ∃ rest, (e₁ :: e₂ :: rest).Perm table.entries ∧ (e₂ :: e₁ :: rest).Perm table.entries := by
  have first := List.perm_cons_erase mem₁
  have second := List.perm_cons_erase ((List.mem_erase_of_ne distinct.symm).mpr mem₂)
  have ordered : (e₁ :: e₂ :: (table.entries.erase e₁).erase e₂).Perm table.entries :=
    (first.trans (second.cons e₁)).symm
  exact ⟨_, ordered, (List.Perm.swap e₁ e₂ _).trans ordered⟩

/-- Distinct entries of a table have distinct names. -/
theorem FlagTable.name_ne {table : FlagTable} {e₁ e₂ : Int64 × List Char}
    (mem₁ : e₁ ∈ table.entries) (mem₂ : e₂ ∈ table.entries) (distinct : e₁ ≠ e₂) :
    e₁.2 ≠ e₂.2 :=
  fun same => distinct (List.inj_on_of_nodup_map table.names_nodup mem₁ mem₂ same)

/-! ## What the loop writes -/

/-- The names of the entries of `order` whose key shares a bit with `ival`, in the order of
`order`. -/
def setFlags (ival : Int64) (order : List (Int64 × List Char)) : List (List Char) :=
  (order.filter fun entry => 0 < entry.1 &&& ival).map Prod.snd

@[simp] theorem setFlags_nil (ival : Int64) : setFlags ival [] = [] := rfl

theorem setFlags_cons_of_set {ival : Int64} {entry : Int64 × List Char}
    (set : 0 < entry.1 &&& ival) (order : List (Int64 × List Char)) :
    setFlags ival (entry :: order) = entry.2 :: setFlags ival order := by
  simp [setFlags, set]

theorem setFlags_cons_of_not_set {ival : Int64} {entry : Int64 × List Char}
    (unset : ¬ 0 < entry.1 &&& ival) (order : List (Int64 × List Char)) :
    setFlags ival (entry :: order) = setFlags ival order := by
  simp [setFlags, unset]

theorem mem_setFlags {ival : Int64} {order : List (Int64 × List Char)} {name : List Char}
    (mem : name ∈ setFlags ival order) : ∃ entry ∈ order, entry.2 = name := by
  obtain ⟨entry, kept, named⟩ := List.mem_map.mp mem
  exact ⟨entry, (List.mem_filter.mp kept).1, named⟩

theorem mem_setFlags_iff {ival : Int64} {order : List (Int64 × List Char)} {name : List Char} :
    name ∈ setFlags ival order ↔ ∃ entry ∈ order, 0 < entry.1 &&& ival ∧ entry.2 = name := by
  simp [setFlags, and_assoc]

/-- In any order of a table, the set flags have distinct names. -/
theorem FlagTable.setFlags_nodup (table : FlagTable) (order : table.Order) (ival : Int64) :
    (setFlags ival order.1).Nodup := by
  have names : (order.1.map Prod.snd).Nodup := (order.2.map Prod.snd).nodup_iff.mpr table.names_nodup
  exact names.sublist (List.filter_sublist.map Prod.snd)

/-- A name that goes in front of more names, with the separator. -/
theorem intercalate_cons_append (sep front name : List Char) (names : List (List Char)) :
    sep.intercalate ((front ++ name) :: names) = front ++ sep.intercalate (name :: names) := by
  cases names with
  | nil => simp
  | cons next names => simp [List.intercalate_cons_cons]

@[simp] theorem withSeparator_of_ne_nil {name : List Char} (named : name ≠ []) :
    withSeparator name = name ++ ['|'] :=
  if_pos (List.length_pos_iff.mpr named)

@[simp] theorem withSeparator_nil : withSeparator [] = [] := rfl

/-- After a first name, the loop writes `|` and the name of every flag the value sets. -/
theorem appendFlags_of_ne_nil (ival : Int64) {name : List Char} (named : name ≠ [])
    (order : List (Int64 × List Char)) :
    appendFlags ival name order = ['|'].intercalate (name :: setFlags ival order) := by
  induction order generalizing name with
  | nil => simp [appendFlags]
  | cons entry order inductionHypothesis =>
    by_cases set : 0 < entry.1 &&& ival
    · have stepped : flagStep ival name entry = name ++ ['|'] ++ entry.2 := by
        simp [flagStep, set, named]
      have longer : name ++ ['|'] ++ entry.2 ≠ [] := by simp
      calc appendFlags ival name (entry :: order)
          = appendFlags ival (name ++ ['|'] ++ entry.2) order := by
            rw [appendFlags, List.foldl_cons, stepped, appendFlags]
        _ = ['|'].intercalate ((name ++ ['|'] ++ entry.2) :: setFlags ival order) :=
            inductionHypothesis longer
        _ = ['|'].intercalate (name :: setFlags ival (entry :: order)) := by
            rw [intercalate_cons_append, setFlags_cons_of_set set, List.intercalate_cons_cons]
    · have stepped : flagStep ival name entry = name := if_neg set
      rw [appendFlags, List.foldl_cons, stepped, ← appendFlags, inductionHypothesis named,
        setFlags_cons_of_not_set set]

/-- **The loop writes the names of the flags the value sets**, in the order it visits them,
joined with `|`, when every name is non-empty. -/
theorem appendFlags_nil (ival : Int64) {order : List (Int64 × List Char)}
    (named : ∀ entry ∈ order, entry.2 ≠ []) :
    appendFlags ival [] order = ['|'].intercalate (setFlags ival order) := by
  induction order with
  | nil => rfl
  | cons entry order inductionHypothesis =>
    by_cases set : 0 < entry.1 &&& ival
    · have stepped : flagStep ival [] entry = entry.2 := by
        simp [flagStep, set]
      rw [appendFlags, List.foldl_cons, stepped, ← appendFlags,
        appendFlags_of_ne_nil ival (named entry List.mem_cons_self), setFlags_cons_of_set set]
    · have stepped : flagStep ival [] entry = [] := if_neg set
      rw [appendFlags, List.foldl_cons, stepped, ← appendFlags, setFlags_cons_of_not_set set]
      exact inductionHypothesis fun other mem => named other (List.mem_cons_of_mem _ mem)

/-- Once the text is not empty, it stays so. -/
theorem appendFlags_ne_nil_of_ne_nil (ival : Int64) {name : List Char} (named : name ≠ [])
    (order : List (Int64 × List Char)) : appendFlags ival name order ≠ [] := by
  rw [appendFlags_of_ne_nil ival named]
  cases setFlags ival order with
  | nil => simpa using named
  | cons next names => simp [List.intercalate_cons_cons, named]

/-- A flag the value sets, with a non-empty name, makes the text non-empty. -/
theorem appendFlags_ne_nil_of_set {ival : Int64} {entry : Int64 × List Char}
    (set : 0 < entry.1 &&& ival) (named : entry.2 ≠ []) (name : List Char)
    {order : List (Int64 × List Char)} (mem : entry ∈ order) :
    appendFlags ival name order ≠ [] := by
  induction order generalizing name with
  | nil => simp at mem
  | cons first order inductionHypothesis =>
    rw [appendFlags, List.foldl_cons, ← appendFlags]
    rcases List.mem_cons.mp mem with isFirst | later
    · subst isFirst
      apply appendFlags_ne_nil_of_ne_nil
      simp [flagStep, set, named]
    · exact inductionHypothesis _ later

/-- Non-empty parts joined with `|` make an empty text only when there are none. -/
theorem intercalate_bar_eq_nil {names : List (List Char)} (named : ∀ x ∈ names, x ≠ []) :
    ['|'].intercalate names = [] ↔ names = [] := by
  cases names with
  | nil => simp
  | cons x rest =>
    have first : x ≠ [] := named x List.mem_cons_self
    cases rest with
    | nil => simpa using first
    | cons y rest => simp [List.intercalate_cons_cons, first]

/-- **The names the loop writes, in any order of a table**: each once, exactly those of the
entries whose key shares a bit with the value, and each non-empty and free of `|`. -/
theorem FlagTable.setFlags_spec (table : FlagTable) (order : table.Order) (ival : Int64) :
    (setFlags ival order.1).Nodup ∧
      (∀ name, name ∈ setFlags ival order.1 ↔
        ∃ entry ∈ table.entries, 0 < entry.1 &&& ival ∧ entry.2 = name) ∧
      (∀ name ∈ setFlags ival order.1, name ≠ [] ∧ '|' ∉ name) := by
  refine ⟨table.setFlags_nodup order ival, fun name => ?_, ?_⟩
  · -- the order visits exactly the entries of the table
    rw [mem_setFlags_iff]
    constructor
    · rintro ⟨entry, inOrder, set, named⟩
      exact ⟨entry, order.mem inOrder, set, named⟩
    · rintro ⟨entry, inTable, set, named⟩
      exact ⟨entry, order.2.mem_iff.mpr inTable, set, named⟩
  · intro name mem
    obtain ⟨entry, inOrder, -, rfl⟩ := mem_setFlags_iff.mp mem
    exact ⟨table.name_ne_nil _ (order.mem inOrder), table.bar_not_mem _ (order.mem inOrder)⟩

/-- Two runs of parts joined as one: the separator between them. -/
theorem intercalate_append (sep : List Char) {names more : List (List Char)}
    (nonempty : names ≠ []) (moreNonempty : more ≠ []) :
    sep.intercalate (names ++ more) = sep.intercalate names ++ sep ++ sep.intercalate more := by
  induction names with
  | nil => exact absurd rfl nonempty
  | cons x rest inductionHypothesis =>
    cases rest with
    | nil =>
      rw [List.singleton_append, List.intercalate_cons_of_ne_nil moreNonempty,
        List.intercalate_singleton]
    | cons y rest =>
      show sep.intercalate (x :: ((y :: rest) ++ more)) = _
      rw [List.intercalate_cons_of_ne_nil (by simp), inductionHypothesis (List.cons_ne_nil _ _),
        List.intercalate_cons_cons]
      simp only [List.append_assoc]

/-- `if len(name) > 0 { name += "|" }; name += last` after the loop: `last` joined as one part
more. -/
theorem withSeparator_intercalate_append {names : List (List Char)}
    (named : ∀ x ∈ names, x ≠ []) (last : List Char) :
    withSeparator (['|'].intercalate names) ++ last = ['|'].intercalate (names ++ [last]) := by
  by_cases empty : names = []
  · simp [empty]
  · have joined : ['|'].intercalate names ≠ [] :=
      fun nothing => empty ((intercalate_bar_eq_nil named).mp nothing)
    rw [withSeparator_of_ne_nil joined, intercalate_append _ empty (List.cons_ne_nil _ _),
      List.intercalate_singleton]

/-- Texts joined with `|` from parts without `|` are equal only for equal parts. -/
theorem intercalate_bar_inj {xs ys : List (List Char)} (xsFree : ∀ x ∈ xs, '|' ∉ x)
    (ysFree : ∀ y ∈ ys, '|' ∉ y) (xsNonempty : xs ≠ []) (ysNonempty : ys ≠ [])
    (same : ['|'].intercalate xs = ['|'].intercalate ys) : xs = ys := by
  rw [← List.splitOn_intercalate '|' xsFree xsNonempty, same,
    List.splitOn_intercalate '|' ysFree ysNonempty]

/-- The names a table's entries write are free of `|`. -/
theorem FlagTable.bar_not_mem_setFlags (table : FlagTable) (ival : Int64)
    {order : List (Int64 × List Char)} (inTable : ∀ entry ∈ order, entry ∈ table.entries) :
    ∀ name ∈ setFlags ival order, '|' ∉ name := by
  intro name mem
  obtain ⟨entry, kept, rfl⟩ := mem_setFlags mem
  exact table.bar_not_mem _ (inTable _ kept)

/-- Over entries of a table, the loop joins the text before it, when there is one, and the
names of the set flags with `|`. -/
theorem FlagTable.appendFlags_eq_intercalate (table : FlagTable) (ival : Int64) (name : List Char)
    {order : List (Int64 × List Char)} (inTable : ∀ entry ∈ order, entry ∈ table.entries) :
    appendFlags ival name order =
      ['|'].intercalate ((if name = [] then [] else [name]) ++ setFlags ival order) := by
  by_cases empty : name = []
  · rw [if_pos empty, List.nil_append, empty]
    exact appendFlags_nil ival fun entry mem => table.name_ne_nil _ (inTable _ mem)
  · rw [if_neg empty, List.singleton_append]
    exact appendFlags_of_ne_nil ival empty order

/-- The parts the loop joins are free of `|` when the text before it is. -/
theorem FlagTable.bar_not_mem_parts (table : FlagTable) (ival : Int64) {name : List Char}
    (free : '|' ∉ name) {order : List (Int64 × List Char)}
    (inTable : ∀ entry ∈ order, entry ∈ table.entries) :
    ∀ x ∈ (if name = [] then [] else [name]) ++ setFlags ival order, '|' ∉ x := by
  intro x mem
  rcases List.mem_append.mp mem with inFront | listed
  · split at inFront
    · simp at inFront
    · rw [List.mem_singleton] at inFront
      exact inFront ▸ free
  · exact table.bar_not_mem_setFlags ival inTable x listed

/-- **Two set flags, two texts**: visiting two entries of a table whose keys share a bit with
the value in the other order writes another text, whatever the text before them. -/
theorem appendFlags_swap_ne {table : FlagTable} {ival : Int64} {name : List Char}
    (free : '|' ∉ name) {e₁ e₂ : Int64 × List Char} (mem₁ : e₁ ∈ table.entries)
    (mem₂ : e₂ ∈ table.entries) (distinct : e₁ ≠ e₂) (set₁ : 0 < e₁.1 &&& ival)
    (set₂ : 0 < e₂.1 &&& ival) {rest : List (Int64 × List Char)}
    (inTable : ∀ entry ∈ rest, entry ∈ table.entries) :
    appendFlags ival name (e₁ :: e₂ :: rest) ≠ appendFlags ival name (e₂ :: e₁ :: rest) := by
  have inTable₁ : ∀ entry ∈ e₁ :: e₂ :: rest, entry ∈ table.entries := by
    simpa [mem₁, mem₂] using inTable
  have inTable₂ : ∀ entry ∈ e₂ :: e₁ :: rest, entry ∈ table.entries := by
    simpa [mem₁, mem₂] using inTable
  -- both texts join the same names with `|`, but for the order of the two
  intro same
  rw [table.appendFlags_eq_intercalate ival name inTable₁,
    table.appendFlags_eq_intercalate ival name inTable₂] at same
  have swapped := intercalate_bar_inj (table.bar_not_mem_parts ival free inTable₁)
    (table.bar_not_mem_parts ival free inTable₂) (by simp [setFlags_cons_of_set set₁])
    (by simp [setFlags_cons_of_set set₂]) same
  simp only [setFlags_cons_of_set set₁, setFlags_cons_of_set set₂] at swapped
  exact table.name_ne mem₁ mem₂ distinct (List.cons.inj (List.append_cancel_left swapped)).1

/-! ## The printers on a value `ParseInt` accepts -/

theorem parseFlagWord_of_parsed (failure : String) {fieldValue : List Char} {ival : Int}
    (parsed : Go.Strconv.parseInt fieldValue 16 64 = some ival) :
    parseFlagWord failure fieldValue = .ok ival.toInt64 := by
  rw [parseFlagWord, parsed]

/-- The last test of the printers, `if len(name) == 0`, on names of non-empty parts joined
with `|`: the fallback exactly when there are no parts. -/
theorem lengthTest_intercalate {parts : List (List Char)} (named : ∀ x ∈ parts, x ≠ [])
    (fallback : List Char) :
    (if (['|'].intercalate parts).length = 0 then (pure fallback : Except Go.Fault (List Char))
      else pure (['|'].intercalate parts)) =
      .ok (if parts = [] then fallback else ['|'].intercalate parts) := by
  by_cases empty : parts = []
  · have zero : (['|'].intercalate parts).length = 0 := by
      rw [empty]
      rfl
    rw [if_pos zero, if_pos empty]
    rfl
  · have nonzero : (['|'].intercalate parts).length ≠ 0 :=
      fun zero => empty ((intercalate_bar_eq_nil named).mp (List.eq_nil_of_length_eq_zero zero))
    rw [if_neg nonzero, if_neg empty]
    rfl

/-- The loop from an empty text over an order of a table: the names of the set flags joined
with `|`. -/
theorem FlagTable.appendFlags_nil_of_order (table : FlagTable) (order : table.Order)
    (ival : Int64) : appendFlags ival [] order.1 = ['|'].intercalate (setFlags ival order.1) :=
  appendFlags_nil ival fun _ mem => table.name_ne_nil _ (order.mem mem)

/-- The loop from names already joined, over an order of a table: the names of the set flags
joined on after them. -/
theorem FlagTable.appendFlags_intercalate (table : FlagTable) {names : List (List Char)}
    (named : ∀ x ∈ names, x ≠ []) (order : table.Order) (ival : Int64) :
    appendFlags ival (['|'].intercalate names) order.1 =
      ['|'].intercalate (names ++ setFlags ival order.1) := by
  by_cases empty : names = []
  · rw [empty, List.intercalate_nil, List.nil_append]
    exact table.appendFlags_nil_of_order order ival
  · have joined : ['|'].intercalate names ≠ [] :=
      fun nothing => empty ((intercalate_bar_eq_nil named).mp nothing)
    rw [appendFlags_of_ne_nil ival joined]
    cases setFlags ival order.1 with
    | nil => simp
    | cons y ys =>
      rw [intercalate_append _ empty (List.cons_ne_nil y ys),
        List.intercalate_cons_of_ne_nil (List.cons_ne_nil y ys)]

/-- `printUmount` and `printRecv` on a value `ParseInt` accepts: the names of the set flags
joined with `|`, or `0x` and the value when there are none. -/
theorem printFlagWord_of_parsed (failure : String) {table : FlagTable} (order : table.Order)
    {fieldValue : List Char} {ival : Int}
    (parsed : Go.Strconv.parseInt fieldValue 16 64 = some ival) :
    printFlagWord failure order fieldValue =
      .ok (if setFlags ival.toInt64 order.1 = [] then "0x".toList ++ fieldValue
        else ['|'].intercalate (setFlags ival.toInt64 order.1)) := by
  have named := (table.setFlags_spec order ival.toInt64).2.2
  rw [printFlagWord, parseFlagWord_of_parsed _ parsed]
  show (if _ then _ else _) = _
  rw [table.appendFlags_nil_of_order order]
  exact lengthTest_intercalate (fun x mem => (named x mem).1) _

/-- **`printUmount` and `printRecv` list exactly the set flags**, in every order of `range`: a
value `ParseInt` accepts is printed as the names of the table's entries whose key shares a bit
with it, each once, non-empty and free of `|`, joined with `|`; or as `0x` and the value when
no key shares a bit with it. -/
theorem printFlagWord_lists_set_flags (failure : String) {table : FlagTable} (order : table.Order)
    {fieldValue : List Char} {ival : Int}
    (parsed : Go.Strconv.parseInt fieldValue 16 64 = some ival) :
    ∃ names : List (List Char), names.Nodup ∧
      (∀ name, name ∈ names ↔
        ∃ entry ∈ table.entries, 0 < entry.1 &&& ival.toInt64 ∧ entry.2 = name) ∧
      (∀ name ∈ names, name ≠ [] ∧ '|' ∉ name) ∧
      printFlagWord failure order fieldValue =
        .ok (if names = [] then "0x".toList ++ fieldValue else ['|'].intercalate names) := by
  obtain ⟨nodup, listed, named⟩ := table.setFlags_spec order ival.toInt64
  exact ⟨_, nodup, listed, named, printFlagWord_of_parsed failure order parsed⟩

/-- `umount2` with `flags=3`: `MNT_FORCE`, `MNT_DETACH` and `UMOUNT_UNUSED`, whose key
`0x80000001` shares the low bit. -/
theorem printFlagWord_lists_set_flags_umount :
    ∃ names : List (List Char), names.Nodup ∧
      (∀ name, name ∈ names ↔
        ∃ entry ∈ umountLookUp.entries, 0 < entry.1 &&& (3 : Int).toInt64 ∧ entry.2 = name) ∧
      (∀ name ∈ names, name ≠ [] ∧ '|' ∉ name) ∧
      printUmount umountLookUp.written "3".toList =
        .ok (if names = [] then "0x".toList ++ "3".toList else ['|'].intercalate names) :=
  @printFlagWord_lists_set_flags "umount parsing failed" umountLookUp umountLookUp.written
    "3".toList 3 (by decide)

example : printUmount umountLookUp.written "3".toList =
    .ok "MNT_FORCE|MNT_DETACH|UMOUNT_UNUSED".toList := by
  decide

/-- **`printAccess` lists exactly the set flags**: in every order of `range`, a value
`ParseInt` accepts is printed as `F_OK` when it has none of the bits `0x0F`, and otherwise as
`printUmount` prints its value: the names of the set flags, each once, joined with `|`, or `0x`
and the value. -/
theorem printAccess_lists_set_flags (order : accessLookUp.Order) {fieldValue : List Char}
    {ival : Int} (parsed : Go.Strconv.parseInt fieldValue 16 64 = some ival) :
    ∃ names : List (List Char), names.Nodup ∧
      (∀ name, name ∈ names ↔
        ∃ entry ∈ accessLookUp.entries, 0 < entry.1 &&& ival.toInt64 ∧ entry.2 = name) ∧
      (∀ name ∈ names, name ≠ [] ∧ '|' ∉ name) ∧
      printAccess order fieldValue =
        .ok (if ival.toInt64 &&& 0x0F = 0 then "F_OK".toList
          else if names = [] then "0x".toList ++ fieldValue else ['|'].intercalate names) := by
  obtain ⟨nodup, listed, named⟩ := accessLookUp.setFlags_spec order ival.toInt64
  refine ⟨_, nodup, listed, named, ?_⟩
  rw [printAccess, parseFlagWord_of_parsed _ parsed]
  show (if _ then _ else _) = _
  by_cases noAccess : ival.toInt64 &&& 0x0F = 0
  · rw [if_pos noAccess, if_pos noAccess]
    rfl
  · rw [if_neg noAccess, if_neg noAccess]
    show (if _ then _ else _) = _
    rw [accessLookUp.appendFlags_nil_of_order order]
    exact lengthTest_intercalate (fun x mem => (named x mem).1) _

/-- `access` with `mode=6`: `W_OK` and `R_OK`. -/
theorem printAccess_lists_set_flags_read_write :
    ∃ names : List (List Char), names.Nodup ∧
      (∀ name, name ∈ names ↔
        ∃ entry ∈ accessLookUp.entries, 0 < entry.1 &&& (6 : Int).toInt64 ∧ entry.2 = name) ∧
      (∀ name ∈ names, name ≠ [] ∧ '|' ∉ name) ∧
      printAccess accessLookUp.written "6".toList =
        .ok (if (6 : Int).toInt64 &&& 0x0F = 0 then "F_OK".toList
          else if names = [] then "0x".toList ++ "6".toList else ['|'].intercalate names) :=
  @printAccess_lists_set_flags accessLookUp.written "6".toList 6 (by decide)

/-- Every signal number `1 … 31` has a name in `SignalLookup`, non-empty and free of `|`. -/
theorem signalLookup_named : ∀ n < 32, 0 < n →
    ∃ signal, signalLookup.lookup n = some signal ∧ signal ≠ [] ∧ '|' ∉ signal := by
  intro n below positive
  have named : ∀ n < 32, 0 < n → (signalLookup.lookup n).isSome ∧
      (signalLookup.lookup n).getD [] ≠ [] ∧ '|' ∉ (signalLookup.lookup n).getD [] := by
    decide +kernel
  obtain ⟨present, nonEmpty, noBar⟩ := named n below positive
  obtain ⟨signal, found⟩ := Option.isSome_iff_exists.mp present
  rw [found, Option.getD_some] at nonEmpty noBar
  exact ⟨signal, found, nonEmpty, noBar⟩

/-- **`printCloneFlags` lists exactly the set flags, then the signal**: in every order of
`range`, a value `ParseInt` accepts is printed as the names of the set clone flags, each once,
and, when its low byte is one of `1 … 31`, the name `SignalLookup` gives that byte, all joined
with `|`; when the byte is out of that range and no flag is set, it is printed as `0x`
followed by the value in decimal. -/
theorem printCloneFlags_lists_set_flags (order : cloneLookUp.Order) {fieldValue : List Char}
    {ival : Int} (parsed : Go.Strconv.parseInt fieldValue 16 64 = some ival) :
    ∃ names : List (List Char), names.Nodup ∧
      (∀ name, name ∈ names ↔
        ∃ entry ∈ cloneLookUp.entries, 0 < entry.1 &&& ival.toInt64 ∧ entry.2 = name) ∧
      (∀ name ∈ names, name ≠ [] ∧ '|' ∉ name) ∧
      (0 < ival.toInt64 &&& 0xFF ∧ ival.toInt64 &&& 0xFF < 32 →
        ∃ signal, signalLookup.lookup (ival.toInt64 &&& 0xFF).toInt.toNat = some signal ∧
          signal ≠ [] ∧ '|' ∉ signal ∧
          printCloneFlags order fieldValue = .ok (['|'].intercalate (names ++ [signal]))) ∧
      (¬ (0 < ival.toInt64 &&& 0xFF ∧ ival.toInt64 &&& 0xFF < 32) →
        printCloneFlags order fieldValue =
          .ok (if names = [] then "0x".toList ++ (toString ival.toInt64.toInt).toList
            else ['|'].intercalate names)) := by
  obtain ⟨nodup, listed, named⟩ := cloneLookUp.setFlags_spec order ival.toInt64
  have cloned : ∀ x ∈ setFlags ival.toInt64 order.1, x ≠ [] := fun x mem => (named x mem).1
  refine ⟨_, nodup, listed, named, ?_, ?_⟩
  · -- the low byte names a signal: one part more
    intro inRange
    have bounds : 0 < (ival.toInt64 &&& 0xFF).toInt.toNat ∧
        (ival.toInt64 &&& 0xFF).toInt.toNat < 32 := by
      have low := Int64.lt_iff_toInt_lt.mp inRange.1
      have high := Int64.lt_iff_toInt_lt.mp inRange.2
      have zero : (0 : Int64).toInt = 0 := rfl
      have bound : (32 : Int64).toInt = 32 := rfl
      omega
    obtain ⟨signal, found, nonEmpty, noBar⟩ := signalLookup_named _ bounds.2 bounds.1
    have parts : ∀ x ∈ setFlags ival.toInt64 order.1 ++ [signal], x ≠ [] := by
      intro x mem
      rcases List.mem_append.mp mem with clone | isSignal
      · exact cloned x clone
      · rw [List.mem_singleton.mp isSignal]
        exact nonEmpty
    refine ⟨signal, found, nonEmpty, noBar, ?_⟩
    rw [printCloneFlags, parseFlagWord_of_parsed _ parsed]
    show (if _ then _ else _) = _
    rw [cloneLookUp.appendFlags_nil_of_order order, if_pos inRange, found, Option.getD_some,
      withSeparator_intercalate_append cloned, lengthTest_intercalate parts,
      if_neg (List.append_ne_nil_of_right_ne_nil _ (List.cons_ne_nil _ _))]
  · intro outOfRange
    rw [printCloneFlags, parseFlagWord_of_parsed _ parsed]
    show (if _ then _ else _) = _
    rw [cloneLookUp.appendFlags_nil_of_order order, if_neg outOfRange]
    exact lengthTest_intercalate cloned _

/-- `clone` as `fork` calls it, `flags=1200011`: `CLONE_CHILD_CLEARTID`, `CLONE_CHILD_SETTID`
and the signal `SIGCHLD`. -/
theorem printCloneFlags_lists_set_flags_sigchld :
    ∃ names : List (List Char), names.Nodup ∧
      (∀ name, name ∈ names ↔
        ∃ entry ∈ cloneLookUp.entries, 0 < entry.1 &&& (0x1200011 : Int).toInt64 ∧
          entry.2 = name) ∧
      (∀ name ∈ names, name ≠ [] ∧ '|' ∉ name) ∧
      (0 < (0x1200011 : Int).toInt64 &&& 0xFF ∧ (0x1200011 : Int).toInt64 &&& 0xFF < 32 →
        ∃ signal,
          signalLookup.lookup ((0x1200011 : Int).toInt64 &&& 0xFF).toInt.toNat = some signal ∧
          signal ≠ [] ∧ '|' ∉ signal ∧
          printCloneFlags cloneLookUp.written "1200011".toList =
            .ok (['|'].intercalate (names ++ [signal]))) ∧
      (¬ (0 < (0x1200011 : Int).toInt64 &&& 0xFF ∧ (0x1200011 : Int).toInt64 &&& 0xFF < 32) →
        printCloneFlags cloneLookUp.written "1200011".toList =
          .ok (if names = [] then "0x".toList ++ (toString (0x1200011 : Int).toInt64.toInt).toList
            else ['|'].intercalate names)) :=
  @printCloneFlags_lists_set_flags cloneLookUp.written "1200011".toList 0x1200011 (by decide)

example : printCloneFlags cloneLookUp.written "1200011".toList =
    .ok "CLONE_CHILD_CLEARTID|CLONE_CHILD_SETTID|SIGCHLD".toList := by
  decide

/-- A key outside a mask never shares a bit with the masked value. -/
theorem and_masked_of_outside {key mask : Int64} (outside : key &&& mask = 0) (ival : Int64) :
    key &&& (ival &&& mask) = 0 :=
  calc key &&& (ival &&& mask) = key &&& (mask &&& ival) := by rw [Int64.and_comm ival]
    _ = key &&& mask &&& ival := by rw [Int64.and_assoc]
    _ = 0 := by rw [outside, Int64.zero_and]

/-- A flag set in a masked value has its key inside the mask. -/
theorem and_mask_ne_zero_of_set {key mask ival : Int64} (set : 0 < key &&& (ival &&& mask)) :
    key &&& mask ≠ 0 := by
  intro outside
  rw [and_masked_of_outside outside] at set
  exact absurd set (by decide)

/-- `printModeShortInt` of permission bits alone: no special bit, only the octal mode. -/
theorem printModeShortInt_perms (ival : Int64) :
    printModeShortInt (ival &&& 0o777) = octalMode (ival &&& 0o777).toInt.toNat := by
  have special : ∀ bit : Int64, bit &&& 0o777 = 0 → ¬ 0 < ival &&& 0o777 &&& bit := by
    intro bit outside set
    rw [Int64.and_comm, and_masked_of_outside outside] at set
    exact absurd set (by decide)
  have perms : (0o777 : Int64) &&& (ival &&& 0o777) = ival &&& 0o777 := by
    rw [Int64.and_comm, Int64.and_assoc, Int64.and_self]
  unfold printModeShortInt
  dsimp only
  rw [if_neg (special 0o4000 (by decide)), if_neg (special 0o2000 (by decide)),
    if_neg (special 0o1000 (by decide)), perms]
  rfl

/-- The names of the two tables of `printSHMFlags` are distinct. -/
theorem ipccmdLookUp_shmLookUp_names : ∀ e ∈ ipccmdLookUp.entries, ∀ e' ∈ shmLookUp.entries,
    e.2 ≠ e'.2 := by
  decide +kernel

/-- The entries of `ipccmdLookUp` and `shmLookUp` whose keys lie outside the masks
`printSHMFlags` applies before each loop. -/
theorem ipccmdLookUp_masked : ∀ e ∈ ipccmdLookUp.entries, e.1 &&& 0o3000 ≠ 0 →
    e.2 ∉ ["IPC_NOWAIT".toList, "SHM_DEST".toList, "SHM_LOCKED".toList] := by
  decide +kernel

theorem shmLookUp_masked : ∀ e ∈ shmLookUp.entries, e.1 &&& 0o14000 ≠ 0 →
    e.2 ∉ ["IPC_NOWAIT".toList, "SHM_DEST".toList, "SHM_LOCKED".toList] := by
  decide +kernel

/-- **`printSHMFlags` lists the set flags its masks let through, then the mode**: in every
order of the two `range`s, a value `ParseInt` accepts is printed as the names of the `IPC_*`
flags set in its bits `0o3000` and of the `SHM_*` flags set in its bits `0o14000`, each once,
then `0` and the octal permission bits, all joined with `|`.  The masks leave `IPC_NOWAIT`,
`SHM_DEST` and `SHM_LOCKED` out whatever the value, and the fallback `0x` is never taken. -/
theorem printSHMFlags_lists_set_flags (ipcOrder : ipccmdLookUp.Order)
    (shmOrder : shmLookUp.Order) {fieldValue : List Char} {ival : Int}
    (parsed : Go.Strconv.parseInt fieldValue 16 64 = some ival) :
    ∃ names : List (List Char), names.Nodup ∧
      (∀ name, name ∈ names ↔
        (∃ entry ∈ ipccmdLookUp.entries, 0 < entry.1 &&& (ival.toInt64 &&& 0o3000) ∧
          entry.2 = name) ∨
        (∃ entry ∈ shmLookUp.entries, 0 < entry.1 &&& (ival.toInt64 &&& 0o14000) ∧
          entry.2 = name)) ∧
      (∀ name ∈ names, name ≠ [] ∧ '|' ∉ name) ∧
      (∀ name ∈ names, name ∉ ["IPC_NOWAIT".toList, "SHM_DEST".toList, "SHM_LOCKED".toList]) ∧
      printSHMFlags ipcOrder shmOrder fieldValue =
        .ok (['|'].intercalate (names ++ [octalMode (ival.toInt64 &&& 0o777).toInt.toNat])) := by
  obtain ⟨ipcNodup, ipcListed, ipcNamed⟩ :=
    ipccmdLookUp.setFlags_spec ipcOrder (ival.toInt64 &&& 0o3000)
  obtain ⟨shmNodup, shmListed, shmNamed⟩ :=
    shmLookUp.setFlags_spec shmOrder (ival.toInt64 &&& 0o14000)
  have listed : ∀ name, name ∈ setFlags (ival.toInt64 &&& 0o3000) ipcOrder.1 ++
      setFlags (ival.toInt64 &&& 0o14000) shmOrder.1 ↔
      (∃ entry ∈ ipccmdLookUp.entries, 0 < entry.1 &&& (ival.toInt64 &&& 0o3000) ∧
        entry.2 = name) ∨
      (∃ entry ∈ shmLookUp.entries, 0 < entry.1 &&& (ival.toInt64 &&& 0o14000) ∧
        entry.2 = name) := by
    intro name
    rw [List.mem_append, ipcListed, shmListed]
  have named : ∀ name ∈ setFlags (ival.toInt64 &&& 0o3000) ipcOrder.1 ++
      setFlags (ival.toInt64 &&& 0o14000) shmOrder.1, name ≠ [] ∧ '|' ∉ name := by
    intro name mem
    rcases List.mem_append.mp mem with inIpc | inShm
    · exact ipcNamed name inIpc
    · exact shmNamed name inShm
  -- an `IPC_*` name and a `SHM_*` name are never the same
  have nodup : (setFlags (ival.toInt64 &&& 0o3000) ipcOrder.1 ++
      setFlags (ival.toInt64 &&& 0o14000) shmOrder.1).Nodup := by
    refine List.nodup_append.mpr ⟨ipcNodup, shmNodup, ?_⟩
    intro a inIpc b inShm
    obtain ⟨e, eIn, -, rfl⟩ := (ipcListed a).mp inIpc
    obtain ⟨e', e'In, -, rfl⟩ := (shmListed b).mp inShm
    exact ipccmdLookUp_shmLookUp_names e eIn e' e'In
  refine ⟨_, nodup, listed, named, ?_, ?_⟩
  · intro name mem
    rcases (listed name).mp mem with ⟨e, eIn, set, rfl⟩ | ⟨e, eIn, set, rfl⟩
    · exact ipccmdLookUp_masked e eIn (and_mask_ne_zero_of_set set)
    · exact shmLookUp_masked e eIn (and_mask_ne_zero_of_set set)
  · -- the mode is never empty, so neither is the text
    have parts : ∀ x ∈ (setFlags (ival.toInt64 &&& 0o3000) ipcOrder.1 ++
        setFlags (ival.toInt64 &&& 0o14000) shmOrder.1) ++
          [octalMode (ival.toInt64 &&& 0o777).toInt.toNat], x ≠ [] := by
      intro x mem
      rcases List.mem_append.mp mem with flag | isMode
      · exact (named x flag).1
      · rw [List.mem_singleton.mp isMode]
        exact List.cons_ne_nil _ _
    rw [printSHMFlags, parseFlagWord_of_parsed _ parsed]
    show (if _ then _ else _) = _
    rw [ipccmdLookUp.appendFlags_nil_of_order ipcOrder,
      shmLookUp.appendFlags_intercalate (fun x mem => (ipcNamed x mem).1) shmOrder,
      printModeShortInt_perms, withSeparator_intercalate_append (fun x mem => (named x mem).1),
      lengthTest_intercalate parts, if_neg (by simp)]

/-- `shmget` with `shmflg=7a4`: `IPC_CREAT`, `IPC_EXCL` and the mode `0644`. -/
theorem printSHMFlags_lists_set_flags_create :
    ∃ names : List (List Char), names.Nodup ∧
      (∀ name, name ∈ names ↔
        (∃ entry ∈ ipccmdLookUp.entries, 0 < entry.1 &&& ((0x7a4 : Int).toInt64 &&& 0o3000) ∧
          entry.2 = name) ∨
        (∃ entry ∈ shmLookUp.entries, 0 < entry.1 &&& ((0x7a4 : Int).toInt64 &&& 0o14000) ∧
          entry.2 = name)) ∧
      (∀ name ∈ names, name ≠ [] ∧ '|' ∉ name) ∧
      (∀ name ∈ names, name ∉ ["IPC_NOWAIT".toList, "SHM_DEST".toList, "SHM_LOCKED".toList]) ∧
      printSHMFlags ipccmdLookUp.written shmLookUp.written "7a4".toList =
        .ok (['|'].intercalate
          (names ++ [octalMode ((0x7a4 : Int).toInt64 &&& 0o777).toInt.toNat])) :=
  @printSHMFlags_lists_set_flags ipccmdLookUp.written shmLookUp.written "7a4".toList 0x7a4
    (by decide)

example : printSHMFlags ipccmdLookUp.written shmLookUp.written "7a4".toList =
    .ok "IPC_CREAT|IPC_EXCL|0644".toList := by
  decide

/-- `printMmap` on a value that makes a non-empty text returns that text. -/
theorem printMmap_of_listed (order : mmapLookUp.Order) {fieldValue : List Char} {ival : Int}
    (parsed : Go.Strconv.parseInt fieldValue 16 64 = some ival)
    (listed : appendFlags ival.toInt64
      (if ival.toInt64 &&& 0x0F = 0 then "MAP_FILE".toList else []) order.1 ≠ []) :
    printMmap order fieldValue = .ok (appendFlags ival.toInt64
      (if ival.toInt64 &&& 0x0F = 0 then "MAP_FILE".toList else []) order.1) := by
  have nonzero : (appendFlags ival.toInt64
      (if ival.toInt64 &&& 0x0F = 0 then "MAP_FILE".toList else []) order.1).length ≠ 0 :=
    fun zero => listed (List.eq_nil_of_length_eq_zero zero)
  rw [printMmap, parseFlagWord_of_parsed _ parsed]
  show (if _ then _ else _) = _
  rw [if_neg nonzero]
  rfl

/-- **`printMmap` depends on the order of `range`.**  A value `ParseInt` accepts that sets the
keys of two entries of `MmapLookUp` is printed with their two names in the order in which the
loop visits them, so that the two orders of the runtime print it in two ways. -/
theorem printMmap_depends_on_order {fieldValue : List Char} {ival : Int}
    (parsed : Go.Strconv.parseInt fieldValue 16 64 = some ival) {e₁ e₂ : Int64 × List Char}
    (mem₁ : e₁ ∈ mmapLookUp.entries) (mem₂ : e₂ ∈ mmapLookUp.entries) (distinct : e₁ ≠ e₂)
    (set₁ : 0 < e₁.1 &&& ival.toInt64) (set₂ : 0 < e₂.1 &&& ival.toInt64) :
    ∃ order order' : mmapLookUp.Order,
      printMmap order fieldValue ≠ printMmap order' fieldValue := by
  obtain ⟨rest, ordered, swapped⟩ := mmapLookUp.exists_swap mem₁ mem₂ distinct
  have inTable : ∀ entry ∈ rest, entry ∈ mmapLookUp.entries :=
    fun entry mem => ordered.mem_iff.mp (by simp [mem])
  have free : '|' ∉ (if ival.toInt64 &&& 0x0F = 0 then "MAP_FILE".toList else []) := by
    split <;> decide
  let order : mmapLookUp.Order := ⟨_, ordered⟩
  let order' : mmapLookUp.Order := ⟨_, swapped⟩
  refine ⟨order, order', ?_⟩
  rw [printMmap_of_listed order parsed (appendFlags_ne_nil_of_set set₁
      (mmapLookUp.name_ne_nil _ mem₁) _ List.mem_cons_self),
    printMmap_of_listed order' parsed (appendFlags_ne_nil_of_set set₂
      (mmapLookUp.name_ne_nil _ mem₂) _ List.mem_cons_self)]
  intro same
  exact appendFlags_swap_ne free mem₁ mem₂ distinct set₁ set₂ inTable (Except.ok.inj same)

/-- `flags=3` sets `MAP_SHARED` and `MAP_PRIVATE`. -/
theorem printMmap_depends_on_order_shared_private :
    ∃ order order' : mmapLookUp.Order,
      printMmap order "3".toList ≠ printMmap order' "3".toList :=
  @printMmap_depends_on_order "3".toList 3 (by decide) (1, "MAP_SHARED".toList)
    (2, "MAP_PRIVATE".toList) (by decide) (by decide) (by decide) (by decide) (by decide)

/-- **`printMmap` lists exactly the set flags**: in every order of `range`, a value `ParseInt`
accepts is printed as the names of the set flags, each once and joined with `|`, after
`MAP_FILE` when the value has none of the bits `0x0F`; or as `0x` and the value when there is
neither. -/
theorem printMmap_lists_set_flags (order : mmapLookUp.Order) {fieldValue : List Char}
    {ival : Int} (parsed : Go.Strconv.parseInt fieldValue 16 64 = some ival) :
    ∃ names : List (List Char), names.Nodup ∧
      (∀ name, name ∈ names ↔
        ∃ entry ∈ mmapLookUp.entries, 0 < entry.1 &&& ival.toInt64 ∧ entry.2 = name) ∧
      (∀ name ∈ names, name ≠ [] ∧ '|' ∉ name) ∧
      printMmap order fieldValue =
        .ok (if ival.toInt64 &&& 0x0F = 0 then ['|'].intercalate ("MAP_FILE".toList :: names)
          else if names = [] then "0x".toList ++ fieldValue else ['|'].intercalate names) := by
  obtain ⟨nodup, listed, named⟩ := mmapLookUp.setFlags_spec order ival.toInt64
  refine ⟨_, nodup, listed, named, ?_⟩
  rw [printMmap, parseFlagWord_of_parsed _ parsed]
  show (if _ then _ else _) = _
  by_cases noAccess : ival.toInt64 &&& 0x0F = 0
  · -- `MAP_FILE` is the first part, so the fallback is never taken
    have file : "MAP_FILE".toList ≠ [] := by decide
    have parts : ∀ x ∈ "MAP_FILE".toList :: setFlags ival.toInt64 order.1, x ≠ [] :=
      List.forall_mem_cons.mpr ⟨file, fun x mem => (named x mem).1⟩
    rw [if_pos noAccess, if_pos noAccess, appendFlags_of_ne_nil _ file,
      lengthTest_intercalate parts, if_neg (List.cons_ne_nil _ _)]
  · rw [if_neg noAccess, if_neg noAccess, mmapLookUp.appendFlags_nil_of_order order]
    exact lengthTest_intercalate (fun x mem => (named x mem).1) _

/-- `mmap` with `flags=20`: `MAP_FILE` and `MAP_ANONYMOUS`. -/
theorem printMmap_lists_set_flags_anonymous :
    ∃ names : List (List Char), names.Nodup ∧
      (∀ name, name ∈ names ↔
        ∃ entry ∈ mmapLookUp.entries, 0 < entry.1 &&& (32 : Int).toInt64 ∧ entry.2 = name) ∧
      (∀ name ∈ names, name ≠ [] ∧ '|' ∉ name) ∧
      printMmap mmapLookUp.written "20".toList =
        .ok (if (32 : Int).toInt64 &&& 0x0F = 0 then ['|'].intercalate ("MAP_FILE".toList :: names)
          else if names = [] then "0x".toList ++ "20".toList else ['|'].intercalate names) :=
  @printMmap_lists_set_flags mmapLookUp.written "20".toList 32 (by decide)

example : printMmap mmapLookUp.written "20".toList = .ok "MAP_FILE|MAP_ANONYMOUS".toList := by
  decide

/-- For `mmap`, the loop of `printProt` is the loop the other printers share. -/
theorem protStep_of_mmap {isMmap : Int} (mmap : isMmap ≠ 0) (ival : Int64) :
    protStep isMmap ival = flagStep ival := by
  funext name entry
  have kept : ¬ (isMmap = 0 ∧ entry.2 = "PROT_SEM".toList) := fun skipped => mmap skipped.1
  unfold protStep flagStep
  rw [if_neg kept]

/-- **`printProt` for `mmap` lists exactly the set flags**: in every order of `range`, a value
`ParseInt` accepts is printed as `PROT_NONE` when it has none of the bits `0x07`, and otherwise
as the names of the set flags, `PROT_SEM` among them, each once and joined with `|`, or `0x` and
the value. -/
theorem printProt_mmap_lists_set_flags (order : protLookUp.Order) {fieldValue : List Char}
    {ival : Int} (parsed : Go.Strconv.parseInt fieldValue 16 64 = some ival) {isMmap : Int}
    (mmap : isMmap ≠ 0) :
    ∃ names : List (List Char), names.Nodup ∧
      (∀ name, name ∈ names ↔
        ∃ entry ∈ protLookUp.entries, 0 < entry.1 &&& ival.toInt64 ∧ entry.2 = name) ∧
      (∀ name ∈ names, name ≠ [] ∧ '|' ∉ name) ∧
      printProt order fieldValue isMmap =
        .ok (if ival.toInt64 &&& 0x07 = 0 then "PROT_NONE".toList
          else if names = [] then "0x".toList ++ fieldValue else ['|'].intercalate names) := by
  obtain ⟨nodup, listed, named⟩ := protLookUp.setFlags_spec order ival.toInt64
  refine ⟨_, nodup, listed, named, ?_⟩
  rw [printProt, parseFlagWord_of_parsed _ parsed]
  show (if _ then _ else _) = _
  by_cases noProt : ival.toInt64 &&& 0x07 = 0
  · rw [if_pos noProt, if_pos noProt]
    rfl
  · rw [if_neg noProt, if_neg noProt]
    show (if _ then _ else _) = _
    rw [protStep_of_mmap mmap, ← appendFlags, protLookUp.appendFlags_nil_of_order order]
    exact lengthTest_intercalate (fun x mem => (named x mem).1) _

/-- `mmap` with `prot=9`: `PROT_READ` and `PROT_SEM`. -/
theorem printProt_mmap_lists_set_flags_read_sem :
    ∃ names : List (List Char), names.Nodup ∧
      (∀ name, name ∈ names ↔
        ∃ entry ∈ protLookUp.entries, 0 < entry.1 &&& (9 : Int).toInt64 ∧ entry.2 = name) ∧
      (∀ name ∈ names, name ≠ [] ∧ '|' ∉ name) ∧
      printProt protLookUp.written "9".toList 1 =
        .ok (if (9 : Int).toInt64 &&& 0x07 = 0 then "PROT_NONE".toList
          else if names = [] then "0x".toList ++ "9".toList else ['|'].intercalate names) :=
  @printProt_mmap_lists_set_flags protLookUp.written "9".toList 9 (by decide) 1 (by decide)

example : printProt protLookUp.written "9".toList 1 = .ok "PROT_READ|PROT_SEM".toList := by
  decide

/-- Away from `PROT_SEM`, the loop of `printProt` is the loop the other printers share. -/
theorem foldl_protStep_of_not_sem (isMmap : Int) (ival : Int64) (name : List Char)
    {order : List (Int64 × List Char)} (noSem : ∀ entry ∈ order, entry.2 ≠ "PROT_SEM".toList) :
    order.foldl (protStep isMmap ival) name = appendFlags ival name order := by
  induction order generalizing name with
  | nil => rfl
  | cons entry order inductionHypothesis =>
    have kept : ¬ (isMmap = 0 ∧ entry.2 = "PROT_SEM".toList) :=
      fun skipped => noSem entry List.mem_cons_self skipped.2
    have same : protStep isMmap ival name entry = flagStep ival name entry := by
      unfold protStep flagStep
      rw [if_neg kept]
    rw [List.foldl_cons, same, inductionHypothesis _ fun other mem =>
      noSem other (List.mem_cons_of_mem _ mem)]
    rfl

/-- **`printProt` for `mprotect` can end in `|`.**  For a value `ParseInt` accepts that sets
`PROT_SEM` and one of the other three flags, and a call other than `mmap`, the order of
`ProtLookUp` that visits `PROT_SEM` last prints the names of the other flags and then a `|`
with nothing after it: the loop writes the separator before it skips `PROT_SEM`. -/
theorem printProt_mprotect_trailing_separator {fieldValue : List Char} {ival : Int}
    (parsed : Go.Strconv.parseInt fieldValue 16 64 = some ival) {entry : Int64 × List Char}
    (mem : entry ∈ protLookUp.entries) (other : entry.2 ≠ "PROT_SEM".toList)
    (set : 0 < entry.1 &&& ival.toInt64) (semSet : 0 < (8 : Int64) &&& ival.toInt64) :
    ∃ order : protLookUp.Order, ∃ name, name ≠ [] ∧
      printProt order fieldValue 0 = .ok (name ++ ['|']) := by
  let access : List (Int64 × List Char) :=
    [(1, "PROT_READ".toList), (2, "PROT_WRITE".toList), (4, "PROT_EXEC".toList)]
  have split : protLookUp.entries = access ++ [(8, "PROT_SEM".toList)] := rfl
  have inAccess : entry ∈ access := by
    rw [split, List.mem_append, List.mem_singleton] at mem
    rcases mem with inAccess | isSem
    · exact inAccess
    · exact absurd (by rw [isSem]) other
  have noSem : ∀ e ∈ access, e.2 ≠ "PROT_SEM".toList := by decide
  have lowBits : ∀ e ∈ access, e.1 &&& 7 = e.1 := by decide
  -- the value sets one of the bits `0x07`, so that it is not `PROT_NONE`
  have accessBits : ival.toInt64 &&& 0x07 ≠ 0 := by
    intro none
    have cleared : entry.1 &&& ival.toInt64 = 0 :=
      calc entry.1 &&& ival.toInt64 = (entry.1 &&& 7) &&& ival.toInt64 := by
            rw [lowBits entry inAccess]
        _ = entry.1 &&& (ival.toInt64 &&& 7) := by rw [Int64.and_assoc, Int64.and_comm 7]
        _ = 0 := by rw [none, Int64.and_zero]
    rw [cleared] at set
    exact absurd set (by decide)
  let name := appendFlags ival.toInt64 [] access
  have named : name ≠ [] :=
    appendFlags_ne_nil_of_set set (protLookUp.name_ne_nil _ mem) [] inAccess
  have looped : protLookUp.entries.foldl (protStep 0 ival.toInt64) [] = name ++ ['|'] := by
    rw [split, List.foldl_append, foldl_protStep_of_not_sem 0 _ [] noSem]
    simp [protStep, semSet, named, name]
  refine ⟨protLookUp.written, name, named, ?_⟩
  have nonzero : (name ++ ['|']).length ≠ 0 := by simp
  rw [printProt, parseFlagWord_of_parsed _ parsed]
  show (if _ then _ else _) = _
  rw [if_neg accessBits]
  show (if _ then _ else _) = _
  rw [FlagTable.written, looped, if_neg nonzero]
  rfl

/-- `mprotect` with `prot=9`, `PROT_READ` and `PROT_SEM`. -/
theorem printProt_mprotect_trailing_separator_read_sem :
    ∃ order : protLookUp.Order, ∃ name, name ≠ [] ∧
      printProt order "9".toList 0 = .ok (name ++ ['|']) :=
  @printProt_mprotect_trailing_separator "9".toList 9 (by decide) (1, "PROT_READ".toList)
    (by decide) (by decide) (by decide) (by decide)

end LibAudit
