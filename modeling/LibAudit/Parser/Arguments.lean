import LibAudit.Parser.Printers
import LibAudit.Parser.Total
import LibAudit.Go.Switch

/-!
# The printers of the syscall arguments

`printA0`, `printA1`, `printA2` and `printA3` render the arguments `a0` … `a3` of a record: each
turns the record's syscall number into a name with `AuditSyscallToName`, and then picks a printer
by that name, in a chain of comparisons grouped under tests of the name's first letter.  With
them, the printers of `Parser.Printers` make the printer table that `interpretField` reads, and
so the whole interpretation pass of `ParseAuditEvent`.

## Main definitions

* `Printers` — what the printers read beyond `interpret.go`.
* `printA0`, `printA1`, `printA2`, `printA3` — the printers of the four arguments.
* `a0Cases`, `a3Cases` — the tables of cases that `printA0` and `printA3` choose from.
* `printFieldType`, `Printers.interpreters` — the printer of each field type, and the
  environment of `interpretField` with these printers.

## Main statements

* `printA0_eq_switchOn`, `printA3_eq_switchOn` — the chains of `printA0` and `printA3` are the
  lookups of the syscall's name in `a0Cases` and `a3Cases`.  `printA0` compares the name with
  `etrlimit` under its test of `u`, where the comparison never holds: that case is not in
  `a0Cases`.
* `printA1_empty_name_panics` — `printA1` cuts `name[1:]`, and panics for a syscall whose name
  is empty.
* `interpretField_noPanic` — when no syscall name is empty and the printer of socket addresses
  does not panic, `interpretField` never panics.
* `parseAuditEvent_interpret_noPanic` — and neither does `ParseAuditEvent` with its
  interpretation pass, on a record of any type but AVC and USER_AVC.

## Design notes

`range` visits a Go map in an order the runtime picks anew for each loop.  `Printers` holds one
order for each flag table; every statement here is over every `Printers`, and so over every
choice of those orders.
-/

namespace LibAudit

/-! ## The environment -/

/-- What the printers read beyond `interpret.go`: the lookups of `Interpreters` (its `printer` is
not read: the printers are those of this module), the tables of `headers`, the printer of socket
addresses, and the order in which `range` visits each flag table.  `printSockAddr` is modelled in
`Parser.SockAddr`, on top of this module, and passed in here. -/
structure Printers where
  base : Interpreters
  headers : Headers
  /-- `printSockAddr(fieldValue)`. -/
  printSockAddr : List Char → Except Go.Fault (List Char)
  /-- `headers.MountLookUp`, whose keys are the `MS_*` flags of `syscall`. -/
  mountLookUp : FlagTable
  cloneOrder : cloneLookUp.Order
  accessOrder : accessLookUp.Order
  umountOrder : umountLookUp.Order
  recvOrder : recvLookUp.Order
  mmapOrder : mmapLookUp.Order
  protOrder : protLookUp.Order
  ipccmdOrder : ipccmdLookUp.Order
  shmOrder : shmLookUp.Order
  mountOrder : mountLookUp.Order

/-! ## Constants of `syscall` on Linux amd64 -/

/-- `syscall.PR_CAPBSET_READ`. -/
def prCapbsetRead : Int := 23

/-- `syscall.PR_CAPBSET_DROP`. -/
def prCapbsetDrop : Int := 24

/-- `syscall.PR_SET_PDEATHSIG`. -/
def prSetPdeathsig : Int := 1

/-- `syscall.F_SETOWN`. -/
def fSetown : Int := 8

/-- `syscall.F_SETFD`. -/
def fSetfd : Int := 2

/-- `syscall.FD_CLOEXEC`. -/
def fdCloexec : Int64 := 1

/-- `syscall.IPPROTO_IP`. -/
def ipprotoIp : Int := 0

/-- `syscall.SOL_SOCKET`. -/
def solSocket : Int := 1

/-- `syscall.IPPROTO_UDP`. -/
def ipprotoUdp : Int := 17

/-- `syscall.IPPROTO_IPV6`. -/
def ipprotoIpv6 : Int := 41

/-- `syscall.SOL_PACKET`. -/
def solPacket : Int := 263

/-- `syscall.O_CREAT`. -/
def oCreat : Int64 := 0x40

/-! ## The four printers -/

/-- `name, err := AuditSyscallToName(sysNum)` and
`if err != nil { return "", errors.Wrap(err, "syscall parsing failed") }`, as the four printers
begin. -/
def syscallName (env : Printers) (sysNum : List Char) : Except Go.Fault (List Char) :=
  (auditSyscallToName env.base.reverseSysMapX64 sysNum).mapError
    (Go.Fault.wrap "syscall parsing failed")

/-- `printA0(fieldValue, sysNum)`. -/
def printA0 (env : Printers) (fieldValue sysNum : List Char) : Except Go.Fault (List Char) := do
  let name ← syscallName env sysNum
  -- the `return "0x" + fieldValue` every comparison that fails falls through to
  let unknown : Except Go.Fault (List Char) := pure ("0x".toList ++ fieldValue)
  if "r".toList.isPrefixOf name then
    if name = "rt_sigaction".toList then printSignals fieldValue 16
    else if name = "renameat".toList then pure (printDirFd fieldValue)
    else if name = "readlinkat".toList then pure (printDirFd fieldValue)
    else unknown
  else if "c".toList.isPrefixOf name then
    if name = "clone".toList then printCloneFlags env.cloneOrder fieldValue
    else if name = "clock_settime".toList then printClockID fieldValue
    else unknown
  else if "p".toList.isPrefixOf name then
    if name = "personality".toList then pure (printPersonality fieldValue)
    else if name = "ptrace".toList then printPtrace env.headers fieldValue
    else if name = "prctl".toList then printPrctlOpt env.headers fieldValue
    else unknown
  else if "m".toList.isPrefixOf name then
    if name = "mkdirat".toList then pure (printDirFd fieldValue)
    else if name = "mknodat".toList then pure (printDirFd fieldValue)
    else unknown
  else if "f".toList.isPrefixOf name then
    if name = "fchownat".toList then pure (printDirFd fieldValue)
    else if name = "futimesat".toList then pure (printDirFd fieldValue)
    else if name = "fchmodat".toList then pure (printDirFd fieldValue)
    else if name = "faccessat".toList then pure (printDirFd fieldValue)
    else if name = "ftimensat".toList then pure (printDirFd fieldValue)
    else unknown
  else if "u".toList.isPrefixOf name then
    if name = "unshare".toList then printCloneFlags env.cloneOrder fieldValue
    else if name = "unlinkat".toList then pure (printDirFd fieldValue)
    else if name = "utimesat".toList then pure (printDirFd fieldValue)
    else if name = "etrlimit".toList then printRLimit env.headers fieldValue
    else unknown
  else if "s".toList.isPrefixOf name then
    if name = "setuid".toList then pure (printUID env.base fieldValue)
    else if name = "setreuid".toList then pure (printUID env.base fieldValue)
    else if name = "setresuid".toList then pure (printUID env.base fieldValue)
    else if name = "setfsuid".toList then pure (printUID env.base fieldValue)
    else if name = "setgid".toList then pure (printGID fieldValue)
    else if name = "setregid".toList then pure (printGID fieldValue)
    else if name = "setresgid".toList then pure (printGID fieldValue)
    else if name = "socket".toList then printSocketDomain env.headers fieldValue
    else if name = "setfsgid".toList then pure (printGID fieldValue)
    else if name = "socketcall".toList then printSocketCall env.headers fieldValue 16
    else unknown
  else if name = "linkat".toList then pure (printDirFd fieldValue)
  else if name = "newfsstat".toList then pure (printDirFd fieldValue)
  else if name = "openat".toList then pure (printDirFd fieldValue)
  else if name = "ipccall".toList then printIpcCall env.headers fieldValue 16
  else unknown

/-- The part of `printA1` after its tests of `f` and `c`: from `if name[1:] == "etsocketopt"`
on. -/
def printA1Tail (env : Printers) (fieldValue name : List Char) (a0 : Int) :
    Except Go.Fault (List Char) := do
  let rest ← Go.liftPanic (Go.sliceFrom name 1)
  let unknown : Except Go.Fault (List Char) := pure ("0x".toList ++ fieldValue)
  if rest = "etsocketopt".toList then printSockOptLevel env.headers fieldValue
  else if "s".toList.isPrefixOf name then
    if name = "setreuid".toList then pure (printUID env.base fieldValue)
    else if name = "setresuid".toList then pure (printUID env.base fieldValue)
    else if name = "setregid".toList then pure (printGID fieldValue)
    else if name = "setresgid".toList then pure (printGID fieldValue)
    else if name = "socket".toList then printSocketType env.headers fieldValue
    else if name = "setns".toList then printCloneFlags env.cloneOrder fieldValue
    else if name = "sched_setscheduler".toList then printSched fieldValue
    else unknown
  else if "m".toList.isPrefixOf name then
    if name = "mkdir".toList then printModeShort fieldValue 16
    else if name = "mknod".toList then printMode fieldValue 16
    else if name = "mq_open".toList then pure (printOpenFlags fieldValue)
    else unknown
  else if name = "open".toList then pure (printOpenFlags fieldValue)
  else if name = "access".toList then printAccess env.accessOrder fieldValue
  else if name = "epoll_ctl".toList then printEpollCtl env.headers fieldValue
  else if name = "kill".toList then printSignals fieldValue 16
  else if name = "prctl".toList then
    if a0 = prCapbsetRead ∨ a0 = prCapbsetDrop then printCapabilities env.headers fieldValue 16
    else if a0 = prSetPdeathsig then printSignals fieldValue 16
    else unknown
  else if name = "tkill".toList then printSignals fieldValue 16
  else if name = "umount2".toList then printUmount env.umountOrder fieldValue
  else if name = "ioctl".toList then printIoctlReq env.headers fieldValue
  else unknown

/-- `printA1(fieldValue, sysNum, a0)`.  Its tests of `f` and of `c` have no `else`: a name they
return nothing for goes on to the test after them. -/
def printA1 (env : Printers) (fieldValue sysNum : List Char) (a0 : Int) :
    Except Go.Fault (List Char) := do
  let name ← syscallName env sysNum
  let afterC := printA1Tail env fieldValue name a0
  -- `strings.Index(name, "chown") != -1`
  let afterF :=
    if "c".toList.isPrefixOf name then
      if name = "chmod".toList then printModeShort fieldValue 16
      else if "chown".toList <:+: name then pure (printUID env.base fieldValue)
      else if name = "creat".toList then printModeShort fieldValue 16
      else afterC
    else afterC
  if "f".toList.isPrefixOf name then
    if name = "fchmod".toList then printModeShort fieldValue 16
    else if name = "fcntl".toList then printFcntlCmd env.headers fieldValue
    else afterF
  else afterF

/-- `printA2(fieldValue, sysNum, a1)`. -/
def printA2 (env : Printers) (fieldValue sysNum : List Char) (a1 : Int) :
    Except Go.Fault (List Char) := do
  let name ← syscallName env sysNum
  let unknown : Except Go.Fault (List Char) := pure ("0x".toList ++ fieldValue)
  if name = "fcntl".toList then
    let ival ← parseArgument "fcntl parsing failed" 16 fieldValue
    -- `switch a1`: the cases `F_SETFL`, `F_SETLEASE`, `F_GETLEASE` and `F_NOTIFY` are empty
    if a1 = fSetown then pure (printUID env.base fieldValue)
    else if a1 = fSetfd ∧ ival = fdCloexec then pure "FD_CLOSEXEC".toList
    else unknown
  else
    let rest ← Go.liftPanic (Go.sliceFrom name 1)
    if rest = "esockopt".toList then
      if a1 = ipprotoIp then printIPOptName env.headers fieldValue
      else if a1 = solSocket then printSockOptName env.headers fieldValue
      else if a1 = ipprotoUdp then printUDPOptName fieldValue
      else if a1 = ipprotoIpv6 then printIP6OptName env.headers fieldValue
      else if a1 = solPacket then printPktOptName env.headers fieldValue
      else unknown
    else if "o".toList.isPrefixOf name then
      if name = "openat".toList then pure (printOpenFlags fieldValue)
      else if name = "open".toList ∧ 0 < Int64.ofInt a1 &&& oCreat then
        printModeShort fieldValue 16
      else unknown
    else if "f".toList.isPrefixOf name then
      if name = "fchmodat".toList then printModeShort fieldValue 16
      else if name = "faccessat".toList then printAccess env.accessOrder fieldValue
      else unknown
    else if "s".toList.isPrefixOf name then
      if name = "setresuid".toList then pure (printUID env.base fieldValue)
      else if name = "setresgid".toList then pure (printGID fieldValue)
      else if name = "socket".toList then pure (printSocketProto fieldValue)
      else if name = "sendmsg".toList then printRecv env.recvOrder fieldValue
      else if name = "shmget".toList then printSHMFlags env.ipccmdOrder env.shmOrder fieldValue
      else unknown
    else if "m".toList.isPrefixOf name then
      if name = "mmap".toList then printProt env.protOrder fieldValue 1
      else if name = "mkdirat".toList then printModeShort fieldValue 16
      else if name = "mknodat".toList then printModeShort fieldValue 16
      else if name = "mprotect".toList then printProt env.protOrder fieldValue 0
      else if name = "mqopen".toList ∧ 0 < Int64.ofInt a1 &&& oCreat then
        printModeShort fieldValue 16
      else unknown
    else if "r".toList.isPrefixOf name then
      if name = "recvmsg".toList then printRecv env.recvOrder fieldValue
      else if name = "readlinkat".toList then pure (printDirFd fieldValue)
      else unknown
    else if "l".toList.isPrefixOf name then
      if name = "linkat".toList then pure (printDirFd fieldValue)
      else if name = "lseek".toList then printSeek env.headers fieldValue
      else unknown
    else if name = "chown".toList then pure (printGID fieldValue)
    else if name = "tgkill".toList then printSignals fieldValue 16
    else unknown

/-- `printA3(fieldValue, sysNum)`. -/
def printA3 (env : Printers) (fieldValue sysNum : List Char) : Except Go.Fault (List Char) := do
  let name ← syscallName env sysNum
  let unknown : Except Go.Fault (List Char) := pure ("0x".toList ++ fieldValue)
  if "m".toList.isPrefixOf name then
    if name = "mmap".toList then printMmap env.mmapOrder fieldValue
    else if name = "mount".toList then printMount env.mountLookUp env.mountOrder fieldValue
    else unknown
  else if "r".toList.isPrefixOf name then
    if name = "recv".toList then printRecv env.recvOrder fieldValue
    else if name = "recvfrom".toList then printRecv env.recvOrder fieldValue
    else if name = "recvmsg".toList then printRecv env.recvOrder fieldValue
    else unknown
  else if "s".toList.isPrefixOf name then
    if name = "send".toList then printRecv env.recvOrder fieldValue
    else if name = "sendto".toList then printRecv env.recvOrder fieldValue
    else if name = "sendmmsg".toList then printRecv env.recvOrder fieldValue
    else unknown
  else unknown

/-! ## The chains as tables of cases -/

/-- The cases of `printA0`, in the groups of its tests of the first letter: each name the chain
compares with, and what it returns for it.  `etrlimit` has no case: its comparison stands under
the test of `u`, where it never holds. -/
def a0Cases (env : Printers) (fieldValue : List Char) :
    List (List Char × Except Go.Fault (List Char)) :=
  [("rt_sigaction".toList, printSignals fieldValue 16),
    ("renameat".toList, pure (printDirFd fieldValue)),
    ("readlinkat".toList, pure (printDirFd fieldValue))] ++
  [("clone".toList, printCloneFlags env.cloneOrder fieldValue),
    ("clock_settime".toList, printClockID fieldValue)] ++
  [("personality".toList, pure (printPersonality fieldValue)),
    ("ptrace".toList, printPtrace env.headers fieldValue),
    ("prctl".toList, printPrctlOpt env.headers fieldValue)] ++
  [("mkdirat".toList, pure (printDirFd fieldValue)),
    ("mknodat".toList, pure (printDirFd fieldValue))] ++
  [("fchownat".toList, pure (printDirFd fieldValue)),
    ("futimesat".toList, pure (printDirFd fieldValue)),
    ("fchmodat".toList, pure (printDirFd fieldValue)),
    ("faccessat".toList, pure (printDirFd fieldValue)),
    ("ftimensat".toList, pure (printDirFd fieldValue))] ++
  [("unshare".toList, printCloneFlags env.cloneOrder fieldValue),
    ("unlinkat".toList, pure (printDirFd fieldValue)),
    ("utimesat".toList, pure (printDirFd fieldValue))] ++
  [("setuid".toList, pure (printUID env.base fieldValue)),
    ("setreuid".toList, pure (printUID env.base fieldValue)),
    ("setresuid".toList, pure (printUID env.base fieldValue)),
    ("setfsuid".toList, pure (printUID env.base fieldValue)),
    ("setgid".toList, pure (printGID fieldValue)),
    ("setregid".toList, pure (printGID fieldValue)),
    ("setresgid".toList, pure (printGID fieldValue)),
    ("socket".toList, printSocketDomain env.headers fieldValue),
    ("setfsgid".toList, pure (printGID fieldValue)),
    ("socketcall".toList, printSocketCall env.headers fieldValue 16)] ++
  [("linkat".toList, pure (printDirFd fieldValue)),
    ("newfsstat".toList, pure (printDirFd fieldValue)),
    ("openat".toList, pure (printDirFd fieldValue)),
    ("ipccall".toList, printIpcCall env.headers fieldValue 16)]

/-- **`printA0` is the lookup of the syscall's name in `a0Cases`.**  The chain's tests of the
first letter only skip groups of comparisons that cannot hold, but for `etrlimit`, which does not
start with the `u` it is tested under. -/
theorem printA0_eq_switchOn (env : Printers) (fieldValue sysNum : List Char) :
    printA0 env fieldValue sysNum = syscallName env sysNum >>=
      Go.switchOn (a0Cases env fieldValue) (pure ("0x".toList ++ fieldValue)) := by
  unfold printA0
  refine congrArg (syscallName env sysNum >>= ·) (funext fun name => ?_)
  dsimp only
  by_cases etrlimit : name = "etrlimit".toList
  · subst etrlimit
    rfl
  · rw [if_neg etrlimit]
    unfold a0Cases
    simp only [List.append_assoc]
    rw [Go.switchOn_append_of_guard ("r".toList.isPrefixOf ·) ?_ ?_,
      Go.switchOn_append_of_guard ("c".toList.isPrefixOf ·) ?_ ?_,
      Go.switchOn_append_of_guard ("p".toList.isPrefixOf ·) ?_ ?_,
      Go.switchOn_append_of_guard ("m".toList.isPrefixOf ·) ?_ ?_,
      Go.switchOn_append_of_guard ("f".toList.isPrefixOf ·) ?_ ?_,
      Go.switchOn_append_of_guard ("u".toList.isPrefixOf ·) ?_ ?_,
      Go.switchOn_append_of_guard ("s".toList.isPrefixOf ·) ?_ ?_]
    · simp only [Go.switchOn_cons, Go.switchOn_nil]
    -- each group's names start with its letter, and no name after the group does
    all_goals
      simp only [List.map_cons, List.map_nil, List.map_append]
      decide

/-- The cases of `printA3`, in the groups of its tests of the first letter. -/
def a3Cases (env : Printers) (fieldValue : List Char) :
    List (List Char × Except Go.Fault (List Char)) :=
  [("mmap".toList, printMmap env.mmapOrder fieldValue),
    ("mount".toList, printMount env.mountLookUp env.mountOrder fieldValue)] ++
  [("recv".toList, printRecv env.recvOrder fieldValue),
    ("recvfrom".toList, printRecv env.recvOrder fieldValue),
    ("recvmsg".toList, printRecv env.recvOrder fieldValue)] ++
  [("send".toList, printRecv env.recvOrder fieldValue),
    ("sendto".toList, printRecv env.recvOrder fieldValue),
    ("sendmmsg".toList, printRecv env.recvOrder fieldValue)]

/-- `printA3` is the lookup of the syscall's name in `a3Cases`. -/
theorem printA3_eq_switchOn (env : Printers) (fieldValue sysNum : List Char) :
    printA3 env fieldValue sysNum = syscallName env sysNum >>=
      Go.switchOn (a3Cases env fieldValue) (pure ("0x".toList ++ fieldValue)) := by
  unfold printA3
  refine congrArg (syscallName env sysNum >>= ·) (funext fun name => ?_)
  dsimp only
  -- the `return` after the last test of a letter is the lookup in an empty rest of the table
  rw [← List.append_nil (a3Cases env fieldValue)]
  unfold a3Cases
  simp only [List.append_assoc]
  rw [Go.switchOn_append_of_guard ("m".toList.isPrefixOf ·) ?_ ?_,
    Go.switchOn_append_of_guard ("r".toList.isPrefixOf ·) ?_ ?_,
    Go.switchOn_append_of_guard ("s".toList.isPrefixOf ·) ?_ ?_]
  · simp only [Go.switchOn_cons, Go.switchOn_nil]
  all_goals
    simp only [List.map_cons, List.map_nil, List.map_append]
    decide

/-! ## The printer table of `interpretField` -/

/-- The printer of each field type, as the `switch` of `interpretField` calls it.  The types
that `interpretField` prints itself, or leaves as they are, never reach it. -/
def printFieldType (env : Printers) :
    FieldType → List Char → Record → Except Go.Fault (List Char)
  | .typeExit, fieldValue, _ => printExit fieldValue
  | .typePerm, fieldValue, _ => printPerm fieldValue
  | .typeMode, fieldValue, _ => printMode fieldValue 8
  | .typeModeShort, fieldValue, _ => printModeShort fieldValue 8
  | .typeSockaddr, fieldValue, _ => env.printSockAddr fieldValue
  | .typePromisc, fieldValue, _ => printPromiscuous fieldValue
  | .typeCapability, fieldValue, _ => printCapabilities env.headers fieldValue 10
  | .typeSuccess, fieldValue, _ => pure (printSuccess fieldValue)
  | .typeA0, fieldValue, r => printA0 env fieldValue r.syscallNum
  | .typeA1, fieldValue, r => printA1 env fieldValue r.syscallNum r.a0
  | .typeA2, fieldValue, r => printA2 env fieldValue r.syscallNum r.a1
  | .typeA3, fieldValue, r => printA3 env fieldValue r.syscallNum
  | .typeSignal, fieldValue, _ => printSignals fieldValue 10
  | .typeList, fieldValue, _ => printList fieldValue
  | .typeSession, fieldValue, _ => pure (printSession fieldValue)
  | .typeNFProto, fieldValue, _ => printNFProto env.headers fieldValue
  | .typeICMP, fieldValue, _ => printICMP env.headers fieldValue
  | .typeAddr, fieldValue, _ => pure (printAddr fieldValue)
  | .typePersonality, fieldValue, _ => pure (printPersonality fieldValue)
  | .typeOFlag, fieldValue, _ => pure (printOpenFlags fieldValue)
  | .typeSeccomp, fieldValue, _ => printSeccompCode env.headers fieldValue
  | .typeMmap, fieldValue, _ => printMmap env.mmapOrder fieldValue
  | _, fieldValue, _ => pure fieldValue

/-- The environment of `interpretField` with the printers of this module. -/
def Printers.interpreters (env : Printers) : Interpreters :=
  { env.base with printer := printFieldType env }

/-! ## No printer of a field panics -/

theorem auditSyscallToName_noPanic (reverseSysMapX64 : List Char → List Char)
    (syscall : List Char) : Go.NoPanic (auditSyscallToName reverseSysMapX64 syscall) := by
  unfold auditSyscallToName
  dsimp only
  split <;> simp

theorem syscallName_noPanic (env : Printers) (sysNum : List Char) :
    Go.NoPanic (syscallName env sysNum) :=
  (auditSyscallToName_noPanic _ sysNum).mapError_wrap _

/-- The name the printers go on with is the one the syscall table gives. -/
theorem syscallName_eq_ok {env : Printers} {sysNum name : List Char}
    (found : syscallName env sysNum = .ok name) : name = env.base.reverseSysMapX64 sysNum := by
  unfold syscallName auditSyscallToName at found
  rw [Go.mapError_eq_ok] at found
  dsimp only at found
  split at found
  · exact (Except.ok.inj found).symm
  · cases found

theorem printA0_noPanic (env : Printers) (fieldValue sysNum : List Char) :
    Go.NoPanic (printA0 env fieldValue sysNum) := by
  rw [printA0_eq_switchOn]
  refine (syscallName_noPanic env sysNum).bind fun name _ => ?_
  refine Go.switchOn_of_forall ?_ (Go.noPanic_pure _) name
  simp [a0Cases, printPtrace, printPrctlOpt, printSocketDomain, printSocketCall, printIpcCall]

theorem printA3_noPanic (env : Printers) (fieldValue sysNum : List Char) :
    Go.NoPanic (printA3 env fieldValue sysNum) := by
  rw [printA3_eq_switchOn]
  refine (syscallName_noPanic env sysNum).bind fun name _ => ?_
  refine Go.switchOn_of_forall ?_ (Go.noPanic_pure _) name
  simp [a3Cases, printMount, printRecv]

/-- **An empty syscall name makes `printA1` panic**: neither test of `f` nor of `c` holds, and
`name[1:]` is out of range.  The theorems below need the names to be non-empty. -/
theorem printA1_empty_name_panics (env : Printers) {sysNum : List Char}
    (empty : env.base.reverseSysMapX64 sysNum = []) (fieldValue : List Char) (a0 : Int) :
    printA1 env fieldValue sysNum a0 = .error (.panic (.sliceBounds 1 0 0)) := by
  have found : syscallName env sysNum = .ok [] := by
    unfold syscallName auditSyscallToName
    rw [empty]
    rfl
  rw [printA1, found, Go.ok_bind]
  rfl

section Named

/-! `printA1` and `printA2` cut `name[1:]`: they do not panic as long as no syscall's name is
empty. -/

variable (env : Printers) (named : ∀ sysNum, env.base.reverseSysMapX64 sysNum ≠ [])
include named

theorem printA1_noPanic (fieldValue sysNum : List Char) (a0 : Int) :
    Go.NoPanic (printA1 env fieldValue sysNum a0) := by
  unfold printA1
  refine (syscallName_noPanic env sysNum).bind fun name found => ?_
  have cut : Go.sliceFrom name 1 = .ok (name.drop 1) :=
    Go.sliceFrom_of_le (List.length_pos_of_ne_nil (syscallName_eq_ok found ▸ named sysNum))
  have tail : Go.NoPanic (printA1Tail env fieldValue name a0) := by
    unfold printA1Tail
    rw [cut, Go.liftPanic_ok, Go.ok_bind]
    dsimp only
    simp only [Go.noPanic_ite, Go.noPanic_pure, printSockOptLevel_noPanic, printSocketType,
      printEpollCtl, printIoctlReq, printCapabilities, printUmount, printLookup_noPanic,
      printFlagWord_noPanic, printCloneFlags_noPanic, printSched_noPanic, printModeShort_noPanic,
      printMode_noPanic, printAccess_noPanic, printSignals_noPanic, implies_true, and_self]
  dsimp only
  simp only [Go.noPanic_ite, tail, printModeShort_noPanic, printFcntlCmd, printLookup_noPanic,
    Go.noPanic_pure, implies_true, and_self]

theorem printA2_noPanic (fieldValue sysNum : List Char) (a1 : Int) :
    Go.NoPanic (printA2 env fieldValue sysNum a1) := by
  unfold printA2
  refine (syscallName_noPanic env sysNum).bind fun name found => ?_
  have cut : Go.sliceFrom name 1 = .ok (name.drop 1) :=
    Go.sliceFrom_of_le (List.length_pos_of_ne_nil (syscallName_eq_ok found ▸ named sysNum))
  dsimp only
  by_cases fcntl : name = "fcntl".toList
  · rw [if_pos fcntl]
    exact noPanic_parseArgument_bind _ _ _ fun _ => by split_ifs <;> exact Go.noPanic_pure _
  · rw [if_neg fcntl, cut, Go.liftPanic_ok, Go.ok_bind]
    simp only [Go.noPanic_ite, Go.noPanic_pure, printIPOptName, printSockOptName,
      printIP6OptName, printPktOptName, printRecv, printLookup_noPanic, printUDPOptName_noPanic,
      printFlagWord_noPanic, printModeShort_noPanic, printAccess_noPanic, printSHMFlags_noPanic,
      printProt_noPanic, printSeek_noPanic, printSignals_noPanic, implies_true, and_self]

/-- The printer of every field type does not panic, given a printer of socket addresses that
does not. -/
theorem printFieldType_noPanic (sockaddr : ∀ fieldValue, Go.NoPanic (env.printSockAddr fieldValue))
    (fieldType : FieldType) (fieldValue : List Char) (r : Record) :
    Go.NoPanic (printFieldType env fieldType fieldValue r) := by
  cases fieldType <;>
    simp [printFieldType, sockaddr, printA0_noPanic, printA1_noPanic env named,
      printA2_noPanic env named, printA3_noPanic, printCapabilities, printList, printNFProto,
      printICMP]

/-- **`interpretField` never panics** with the printers of this module, when no syscall's name
is empty and the printer of socket addresses does not panic: every arm wraps the error of a
printer that does not panic, or returns a value. -/
theorem interpretField_noPanic
    (sockaddr : ∀ fieldValue, Go.NoPanic (env.printSockAddr fieldValue))
    (fieldName fieldValue : List Char) (msgType : UInt16) (r : Record) :
    Go.NoPanic (interpretField env.interpreters fieldName fieldValue msgType r) := by
  have printed : ∀ fieldType, Go.NoPanic (env.interpreters.printer fieldType fieldValue r) :=
    fun fieldType => printFieldType_noPanic env named sockaddr fieldType fieldValue r
  have syscall : Go.NoPanic (printSyscall env.interpreters fieldValue) :=
    (auditSyscallToName_noPanic _ fieldValue).mapError_wrap _
  unfold interpretField
  split <;>
    first
    | exact Go.noPanic_ok _
    | exact (printed _).mapError_wrap _
    | exact syscall.mapError_wrap _

/-- **`ParseAuditEvent` with its interpretation pass never panics** on a record of any type but
AVC and USER_AVC, when no syscall's name is empty and the printer of socket addresses does not
panic. -/
theorem parseAuditEvent_interpret_noPanic
    (sockaddr : ∀ fieldValue, Go.NoPanic (env.printSockAddr fieldValue))
    {msgType : UInt16} (notAvc : msgType ≠ auditAvc) (notUserAvc : msgType ≠ auditUserAvc)
    (order : FieldMap.Order) (str : List Char) :
    Go.NoPanic (parseAuditEvent (interpretField env.interpreters) order str msgType true) :=
  parseAuditEvent_noPanic_of_interpretField notAvc notUserAvc
    (interpretField_noPanic env named sockaddr) order str true

end Named

theorem parseAuditEvent_interpret_noPanic_open :
    let env : Printers :=
      { base := ⟨fun _ => none, fun _ => "open".toList, "amd64".toList, fun _ value _ => .ok value,
        Char.toLower⟩
        headers := ⟨[], [], [], [], [], [], [], [], [], [], [], [], [], [], [], [], [], [], [], []⟩
        printSockAddr := fun value => .ok value
        mountLookUp := umountLookUp
        cloneOrder := cloneLookUp.written
        accessOrder := accessLookUp.written
        umountOrder := umountLookUp.written
        recvOrder := recvLookUp.written
        mmapOrder := mmapLookUp.written
        protOrder := protLookUp.written
        ipccmdOrder := ipccmdLookUp.written
        shmOrder := shmLookUp.written
        mountOrder := umountLookUp.written }
    (∀ sysNum, env.base.reverseSysMapX64 sysNum ≠ []) ∧
      (∀ fieldValue, Go.NoPanic (env.printSockAddr fieldValue)) ∧
      auditSyscall ≠ auditAvc ∧ auditSyscall ≠ auditUserAvc ∧
      Go.NoPanic (parseAuditEvent (interpretField env.interpreters) .entries
        "audit(1:2): syscall=2 a1=41 a2=1a4".toList auditSyscall true) :=
  ⟨fun _ => by simp, fun _ => Go.noPanic_ok _, by decide, by decide,
    parseAuditEvent_interpret_noPanic _ (fun _ => by simp) (fun _ => Go.noPanic_ok _)
      (by decide) (by decide) _ _⟩

end LibAudit
