import Mathlib.Data.List.Basic

/-!
# Audit constants

The numeric constants of `audit_constant.go` and of Go's `syscall` package that the modelled
functions read, and `auditConstant.String`, the name table `stringer` generates for message
types (`auditconstant_string.go`).

A message type is a Go `auditConstant`, a `uint16`: the model keeps it a `UInt16`, since
every value of that type can arrive in a netlink header, named or not.
-/

namespace LibAudit

/-! ## Message types -/

/-- `AUDIT_GET`: get the audit status. -/
def auditGet : UInt16 := 1000

/-- `AUDIT_SET`: set the audit status. -/
def auditSet : UInt16 := 1001

/-- `AUDIT_USER`: a message from user space. -/
def auditUser : UInt16 := 1005

/-- `AUDIT_ADD_RULE`: add a syscall filtering rule. -/
def auditAddRule : UInt16 := 1011

/-- `AUDIT_DEL_RULE`: delete a syscall filtering rule. -/
def auditDelRule : UInt16 := 1012

/-- `AUDIT_LIST_RULES`: list the syscall filtering rules. -/
def auditListRules : UInt16 := 1013

/-- `AUDIT_FIRST_USER_MSG`: the first message type of user space. -/
def auditFirstUserMsg : UInt16 := 1100

/-- `AUDIT_ADD_GROUP`: a user-space group was added. -/
def auditAddGroup : UInt16 := 1116

/-- `AUDIT_DEL_GROUP`: a user-space group was deleted. -/
def auditDelGroup : UInt16 := 1117

/-- `AUDIT_USER_TTY`: non-ICANON TTY input. -/
def auditUserTty : UInt16 := 1124

/-- `AUDIT_GRP_MGMT`: a group account attribute was modified. -/
def auditGrpMgmt : UInt16 := 1132

/-- `AUDIT_USER_AVC`: a user-space AVC message. -/
def auditUserAvc : UInt16 := 1107

/-- `AUDIT_SYSCALL`: the syscall record of an event. -/
def auditSyscall : UInt16 := 1300

/-- `AUDIT_PATH`: the file name record of an event. -/
def auditPath : UInt16 := 1302

/-- `AUDIT_EXECVE`: the arguments of `execve`. -/
def auditExecve : UInt16 := 1309

/-- `AUDIT_MQ_OPEN`: a POSIX message queue was opened. -/
def auditMqOpen : UInt16 := 1312

/-- `AUDIT_NETFILTER_PKT`: a packet traversing netfilter chains. -/
def auditNetfilterPkt : UInt16 := 1324

/-- `AUDIT_AVC`: an SELinux AVC denial or grant. -/
def auditAvc : UInt16 := 1400

/-- `AUDIT_CRYPTO_KEY_USER`: a key was created, deleted or negotiated. -/
def auditCryptoKeyUser : UInt16 := 2404

/-! ## Netlink -/

/-- `syscall.NLMSG_HDRLEN`: the length of a netlink message header. -/
def nlmsgHdrlen : Nat := 16

/-- `syscall.NLMSG_ALIGNTO`: netlink messages are padded to multiples of this. -/
def nlmsgAlignto : Nat := 4

/-- `syscall.NLMSG_ERROR`: an error report, or an acknowledgement when its errno is 0. -/
def nlmsgError : UInt16 := 2

/-- `syscall.NLMSG_DONE`: the end of a multi-part reply. -/
def nlmsgDone : UInt16 := 3

/-- `syscall.NLM_F_REQUEST`: the message is a request. -/
def nlmFRequest : UInt16 := 1

/-- `syscall.NLM_F_ACK`: the sender asks for an acknowledgement. -/
def nlmFAck : UInt16 := 4

/-! ## The bits of `audit_status.mask`, one for each field a request sets -/

/-- `AUDIT_STATUS_ENABLED`. -/
def auditStatusEnabled : UInt32 := 0x0001

/-- `AUDIT_STATUS_FAILURE`. -/
def auditStatusFailure : UInt32 := 0x0002

/-- `AUDIT_STATUS_PID`. -/
def auditStatusPid : UInt32 := 0x0004

/-- `AUDIT_STATUS_RATE_LIMIT`. -/
def auditStatusRateLimit : UInt32 := 0x0008

/-- `AUDIT_STATUS_BACKLOG_LIMIT`. -/
def auditStatusBacklogLimit : UInt32 := 0x0010

/-! ## Buffers -/

/-- `MAX_AUDIT_MESSAGE_LENGTH`. -/
def maxAuditMessageLength : Nat := 8970

/-! ## Audit rules

The constants that rule compilation in `rules.go` reads.  Filter lists and actions are Go `int`s
there, and the field numbers, operators and permission bits go into the `uint32` arrays of the
rule. -/

/-- `AUDIT_MAX_FIELDS`: the length of a rule's field arrays. -/
def auditMaxFields : Nat := 64

/-- `AUDIT_BITMASK_SIZE`: the number of 32-bit words of a rule's syscall mask. -/
def auditBitmaskSize : Nat := 64

/-- `AUDIT_FILTER_USER`: the filter list of user-generated messages. -/
def auditFilterUser : Int := 0x00

/-- `AUDIT_FILTER_TASK`: the filter list of task creation. -/
def auditFilterTask : Int := 0x01

/-- `AUDIT_FILTER_ENTRY`: the filter list of syscall entry, deprecated. -/
def auditFilterEntry : Int := 0x02

/-- `AUDIT_FILTER_EXIT`: the filter list of syscall exit. -/
def auditFilterExit : Int := 0x04

/-- `AUDIT_FILTER_EXCLUDE`: the filter list of excluded message types. -/
def auditFilterExclude : Int := 0x05

/-- `AUDIT_FILTER_UNSET`: no filter list chosen. -/
def auditFilterUnset : Int := 0x80

/-- `AUDIT_FILTER_PREPEND`: the flag that puts a rule at the front of its list. -/
def auditFilterPrepend : UInt32 := 0x10

/-- `AUDIT_NEVER`. -/
def auditNever : Int := 0

/-- `AUDIT_POSSIBLE`. -/
def auditPossible : Int := 1

/-- `AUDIT_ALWAYS`. -/
def auditAlways : Int := 2

/-- `AUDIT_FILTER_MASK`: the bits of `Flags` that name the filter list. -/
def auditFilterMask : UInt32 := 0x07

/-- `AUDIT_PID`. -/
def auditPid : UInt32 := 0
/-- `AUDIT_UID`. -/
def auditUid : UInt32 := 1
/-- `AUDIT_EUID`. -/
def auditEuid : UInt32 := 2
/-- `AUDIT_SUID`. -/
def auditSuid : UInt32 := 3
/-- `AUDIT_FSUID`. -/
def auditFsuid : UInt32 := 4
/-- `AUDIT_GID`. -/
def auditGid : UInt32 := 5
/-- `AUDIT_EGID`. -/
def auditEgid : UInt32 := 6
/-- `AUDIT_SGID`. -/
def auditSgid : UInt32 := 7
/-- `AUDIT_FSGID`. -/
def auditFsgid : UInt32 := 8
/-- `AUDIT_LOGINUID`. -/
def auditLoginuid : UInt32 := 9
/-- `AUDIT_PERS`. -/
def auditPers : UInt32 := 10
/-- `AUDIT_ARCH`. -/
def auditArch : UInt32 := 11
/-- `AUDIT_MSGTYPE`. -/
def auditMsgtype : UInt32 := 12
/-- `AUDIT_SUBJ_USER`. -/
def auditSubjUser : UInt32 := 13
/-- `AUDIT_SUBJ_ROLE`. -/
def auditSubjRole : UInt32 := 14
/-- `AUDIT_SUBJ_TYPE`. -/
def auditSubjType : UInt32 := 15
/-- `AUDIT_SUBJ_SEN`. -/
def auditSubjSen : UInt32 := 16
/-- `AUDIT_SUBJ_CLR`. -/
def auditSubjClr : UInt32 := 17
/-- `AUDIT_PPID`. -/
def auditPpid : UInt32 := 18
/-- `AUDIT_OBJ_USER`. -/
def auditObjUser : UInt32 := 19
/-- `AUDIT_OBJ_ROLE`. -/
def auditObjRole : UInt32 := 20
/-- `AUDIT_OBJ_TYPE`. -/
def auditObjType : UInt32 := 21
/-- `AUDIT_OBJ_LEV_LOW`. -/
def auditObjLevLow : UInt32 := 22
/-- `AUDIT_OBJ_LEV_HIGH`. -/
def auditObjLevHigh : UInt32 := 23
/-- `AUDIT_DEVMAJOR`. -/
def auditDevmajor : UInt32 := 100
/-- `AUDIT_DEVMINOR`. -/
def auditDevminor : UInt32 := 101
/-- `AUDIT_INODE`. -/
def auditInode : UInt32 := 102
/-- `AUDIT_EXIT`. -/
def auditExit : UInt32 := 103
/-- `AUDIT_SUCCESS`. -/
def auditSuccess : UInt32 := 104
/-- `AUDIT_WATCH`. -/
def auditWatch : UInt32 := 105
/-- `AUDIT_PERM`. -/
def auditPerm : UInt32 := 106
/-- `AUDIT_DIR`. -/
def auditDir : UInt32 := 107
/-- `AUDIT_FILETYPE`. -/
def auditFiletype : UInt32 := 108
/-- `AUDIT_OBJ_UID`. -/
def auditObjUid : UInt32 := 109
/-- `AUDIT_OBJ_GID`. -/
def auditObjGid : UInt32 := 110
/-- `AUDIT_FIELD_COMPARE`. -/
def auditFieldCompare : UInt32 := 111
/-- `AUDIT_EXE`. -/
def auditExe : UInt32 := 112
/-- `AUDIT_ARG0`. -/
def auditArg0 : UInt32 := 200
/-- `AUDIT_ARG1`. -/
def auditArg1 : UInt32 := 201
/-- `AUDIT_ARG2`. -/
def auditArg2 : UInt32 := 202
/-- `AUDIT_ARG3`. -/
def auditArg3 : UInt32 := 203
/-- `AUDIT_FILTERKEY`: the rule's key. -/
def auditFilterkey : UInt32 := 210

/-- `AUDIT_BIT_MASK`. -/
def auditBitMask : UInt32 := 0x08000000
/-- `AUDIT_LESS_THAN`. -/
def auditLessThan : UInt32 := 0x10000000
/-- `AUDIT_GREATER_THAN`. -/
def auditGreaterThan : UInt32 := 0x20000000
/-- `AUDIT_NOT_EQUAL`. -/
def auditNotEqual : UInt32 := 0x30000000
/-- `AUDIT_EQUAL`. -/
def auditEqual : UInt32 := 0x40000000
/-- `AUDIT_OPERATORS`: the bits of a field's flags that name its operator. -/
def auditOperators : UInt32 := auditEqual ||| auditNotEqual ||| auditBitMask
/-- `AUDIT_BIT_TEST`: `AUDIT_BIT_MASK | AUDIT_EQUAL`. -/
def auditBitTest : UInt32 := auditBitMask ||| auditEqual
/-- `AUDIT_LESS_THAN_OR_EQUAL`: `AUDIT_LESS_THAN | AUDIT_EQUAL`. -/
def auditLessThanOrEqual : UInt32 := auditLessThan ||| auditEqual
/-- `AUDIT_GREATER_THAN_OR_EQUAL`: `AUDIT_GREATER_THAN | AUDIT_EQUAL`. -/
def auditGreaterThanOrEqual : UInt32 := auditGreaterThan ||| auditEqual

/-- `AUDIT_PERM_EXEC`. -/
def auditPermExec : UInt32 := 1
/-- `AUDIT_PERM_WRITE`. -/
def auditPermWrite : UInt32 := 2
/-- `AUDIT_PERM_READ`. -/
def auditPermRead : UInt32 := 4
/-- `AUDIT_PERM_ATTR`. -/
def auditPermAttr : UInt32 := 8

/-- `AUDIT_ARCH_X86_64`: `EM_X86_64 | __AUDIT_ARCH_64BIT | __AUDIT_ARCH_LE`. -/
def auditArchX8664 : UInt32 := 62 ||| 0x80000000 ||| 0x40000000

/-- `PATH_MAX`. -/
def pathMax : Nat := 4096

/-- `AUDIT_MAX_KEY_LEN`. -/
def auditMaxKeyLen : Nat := 256

/-- `syscall.NAME_MAX`. -/
def nameMax : Nat := 255

/-! ## `auditConstant.String` -/

/-- `_auditConstant_map`: the name `stringer` gives each named message type.  Every one of
them is `AUDIT_` followed by the text kept here. -/
def auditConstantNames : List (Nat × String) := [
  (1, "COMPARE_UID_TO_OBJ_UID"),
  (2, "COMPARE_GID_TO_OBJ_GID"),
  (3, "COMPARE_EUID_TO_OBJ_UID"),
  (4, "COMPARE_EGID_TO_OBJ_GID"),
  (5, "COMPARE_AUID_TO_OBJ_UID"),
  (6, "COMPARE_SUID_TO_OBJ_UID"),
  (7, "COMPARE_SGID_TO_OBJ_GID"),
  (8, "COMPARE_FSUID_TO_OBJ_UID"),
  (9, "COMPARE_FSGID_TO_OBJ_GID"),
  (10, "COMPARE_UID_TO_AUID"),
  (11, "COMPARE_UID_TO_EUID"),
  (12, "COMPARE_UID_TO_FSUID"),
  (13, "COMPARE_UID_TO_SUID"),
  (14, "COMPARE_AUID_TO_FSUID"),
  (15, "COMPARE_AUID_TO_SUID"),
  (16, "COMPARE_AUID_TO_EUID"),
  (17, "COMPARE_EUID_TO_SUID"),
  (18, "COMPARE_EUID_TO_FSUID"),
  (19, "COMPARE_SUID_TO_FSUID"),
  (20, "COMPARE_GID_TO_EGID"),
  (21, "COMPARE_GID_TO_FSGID"),
  (22, "COMPARE_GID_TO_SGID"),
  (23, "COMPARE_EGID_TO_FSGID"),
  (24, "COMPARE_EGID_TO_SGID"),
  (25, "COMPARE_SGID_TO_FSGID"),
  (1000, "GET"),
  (1001, "SET"),
  (1002, "LIST"),
  (1003, "ADD"),
  (1004, "DEL"),
  (1005, "USER"),
  (1006, "LOGIN"),
  (1007, "WATCH_INS"),
  (1008, "WATCH_REM"),
  (1009, "WATCH_LIST"),
  (1010, "SIGNAL_INFO"),
  (1011, "ADD_RULE"),
  (1012, "DEL_RULE"),
  (1013, "LIST_RULES"),
  (1014, "TRIM"),
  (1015, "MAKE_EQUIV"),
  (1016, "TTY_GET"),
  (1017, "TTY_SET"),
  (1018, "SET_FEATURE"),
  (1019, "GET_FEATURE"),
  (1100, "FIRST_USER_MSG"),
  (1101, "USER_ACCT"),
  (1102, "USER_MGMT"),
  (1103, "CRED_ACQ"),
  (1104, "CRED_DISP"),
  (1105, "USER_START"),
  (1106, "USER_END"),
  (1107, "USER_AVC"),
  (1108, "USER_CHAUTHTOK"),
  (1109, "USER_ERR"),
  (1110, "CRED_REFR"),
  (1111, "USYS_CONFIG"),
  (1112, "USER_LOGIN"),
  (1113, "USER_LOGOUT"),
  (1114, "ADD_USER"),
  (1115, "DEL_USER"),
  (1116, "ADD_GROUP"),
  (1117, "DEL_GROUP"),
  (1118, "DAC_CHECK"),
  (1119, "CHGRP_ID"),
  (1120, "TEST"),
  (1121, "TRUSTED_APP"),
  (1122, "USER_SELINUX_ERR"),
  (1123, "USER_CMD"),
  (1124, "USER_TTY"),
  (1125, "CHUSER_ID"),
  (1126, "GRP_AUTH"),
  (1127, "SYSTEM_BOOT"),
  (1128, "SYSTEM_SHUTDOWN"),
  (1129, "SYSTEM_RUNLEVEL"),
  (1130, "SERVICE_START"),
  (1131, "SERVICE_STOP"),
  (1132, "GRP_MGMT"),
  (1133, "GRP_CHAUTHTOK"),
  (1134, "MAC_CHECK"),
  (1135, "ACCT_LOCK"),
  (1136, "ACCT_UNLOCK"),
  (1199, "LAST_USER_MSG"),
  (1200, "FIRST_DAEMON"),
  (1203, "DAEMON_CONFIG"),
  (1204, "DAEMON_RECONFIG"),
  (1205, "DAEMON_ROTATE"),
  (1206, "DAEMON_RESUME"),
  (1207, "DAEMON_ACCEPT"),
  (1208, "DAEMON_CLOSE"),
  (1299, "LAST_DAEMON"),
  (1300, "SYSCALL"),
  (1302, "PATH"),
  (1303, "IPC"),
  (1304, "SOCKETCALL"),
  (1305, "CONFIG_CHANGE"),
  (1306, "SOCKADDR"),
  (1307, "CWD"),
  (1309, "EXECVE"),
  (1311, "IPC_SET_PERM"),
  (1312, "MQ_OPEN"),
  (1313, "MQ_SENDRECV"),
  (1314, "MQ_NOTIFY"),
  (1315, "MQ_GETSETATTR"),
  (1316, "KERNEL_OTHER"),
  (1317, "FD_PAIR"),
  (1318, "OBJ_PID"),
  (1319, "TTY"),
  (1320, "EOE"),
  (1321, "BPRM_FCAPS"),
  (1322, "CAPSET"),
  (1323, "MMAP"),
  (1324, "NETFILTER_PKT"),
  (1325, "NETFILTER_CFG"),
  (1326, "SECCOMP"),
  (1327, "PROCTITLE"),
  (1328, "FEATURE_CHANGE"),
  (1399, "LAST_EVENT"),
  (1400, "AVC"),
  (1401, "SELINUX_ERR"),
  (1402, "AVC_PATH"),
  (1403, "MAC_POLICY_LOAD"),
  (1404, "MAC_STATUS"),
  (1405, "MAC_CONFIG_CHANGE"),
  (1406, "MAC_UNLBL_ALLOW"),
  (1407, "MAC_CIPSOV4_ADD"),
  (1408, "MAC_CIPSOV4_DEL"),
  (1409, "MAC_MAP_ADD"),
  (1410, "MAC_MAP_DEL"),
  (1411, "MAC_IPSEC_ADDSA"),
  (1412, "MAC_IPSEC_DELSA"),
  (1413, "MAC_IPSEC_ADDSPD"),
  (1414, "MAC_IPSEC_DELSPD"),
  (1415, "MAC_IPSEC_EVENT"),
  (1416, "MAC_UNLBL_STCADD"),
  (1417, "MAC_UNLBL_STCDEL"),
  (1499, "LAST_SELINUX"),
  (1500, "FIRST_APPARMOR"),
  (1501, "APPARMOR_AUDIT"),
  (1502, "APPARMOR_ALLOWED"),
  (1503, "APPARMOR_DENIED"),
  (1504, "APPARMOR_HT"),
  (1505, "APPARMOR_STATUS"),
  (1506, "APPARMOR_ERROR"),
  (1599, "LAST_APPARMOR"),
  (1600, "FIRST_KERN_CRYPTO_MSG"),
  (1699, "LAST_KERN_CRYPTO_MSG"),
  (1700, "ANOM_PROMISCUOUS"),
  (1701, "ANOM_ABEND"),
  (1702, "ANOM_LINK"),
  (1799, "LAST_KERN_ANOM_MSG"),
  (1800, "INTEGRITY_FIRST_MSG"),
  (1801, "INTEGRITY_METADATA"),
  (1802, "INTEGRITY_STATUS"),
  (1803, "INTEGRITY_HASH"),
  (1804, "INTEGRITY_PCR"),
  (1805, "INTEGRITY_RULE"),
  (1899, "TINTEGRITY_LAST_MSG"),
  (2000, "KERNEL"),
  (2100, "FIRST_ANOM_MSG"),
  (2101, "ANOM_LOGIN_TIME"),
  (2102, "ANOM_LOGIN_SESSIONS"),
  (2103, "ANOM_LOGIN_ACCT"),
  (2104, "ANOM_LOGIN_LOCATION"),
  (2105, "ANOM_MAX_DAC"),
  (2106, "ANOM_MAX_MAC"),
  (2107, "ANOM_AMTU_FAIL"),
  (2108, "ANOM_RBAC_FAIL"),
  (2109, "ANOM_RBAC_INTEGRITY_FAIL"),
  (2110, "ANOM_CRYPTO_FAIL"),
  (2111, "ANOM_ACCESS_FS"),
  (2112, "ANOM_EXEC"),
  (2113, "ANOM_MK_EXEC"),
  (2114, "ANOM_ADD_ACCT"),
  (2115, "ANOM_DEL_ACCT"),
  (2116, "ANOM_MOD_ACCT"),
  (2117, "ANOM_ROOT_TRANS"),
  (2199, "LAST_ANOM_MSG"),
  (2200, "FIRST_ANOM_RESP"),
  (2201, "RESP_ALERT"),
  (2202, "RESP_KILL_PROC"),
  (2203, "RESP_TERM_ACCESS"),
  (2204, "RESP_ACCT_REMOTE"),
  (2205, "RESP_ACCT_LOCK_TIMED"),
  (2206, "RESP_ACCT_UNLOCK_TIMED"),
  (2207, "RESP_ACCT_LOCK"),
  (2208, "RESP_TERM_LOCK"),
  (2209, "RESP_SEBOOL"),
  (2210, "RESP_EXEC"),
  (2211, "RESP_SINGLE"),
  (2212, "RESP_HALT"),
  (2299, "LAST_ANOM_RESP"),
  (2300, "FIRST_USER_LSPP_MSG"),
  (2301, "ROLE_ASSIGN"),
  (2302, "ROLE_REMOVE"),
  (2303, "LABEL_OVERRIDE"),
  (2304, "LABEL_LEVEL_CHANGE"),
  (2305, "USER_LABELED_EXPORT"),
  (2306, "USER_UNLABELED_EXPORT"),
  (2307, "DEV_ALLOC"),
  (2308, "DEV_DEALLOC"),
  (2309, "FS_RELABEL"),
  (2310, "USER_MAC_POLICY_LOAD"),
  (2311, "ROLE_MODIFY"),
  (2312, "USER_MAC_CONFIG_CHANGE"),
  (2399, "LAST_USER_LSPP_MSG"),
  (2400, "FIRST_CRYPTO_MSG"),
  (2401, "CRYPTO_PARAM_CHANGE_USER"),
  (2402, "CRYPTO_LOGIN"),
  (2403, "CRYPTO_LOGOUT"),
  (2404, "CRYPTO_KEY_USER"),
  (2405, "CRYPTO_FAILURE_USER"),
  (2406, "CRYPTO_REPLAY_USER"),
  (2407, "CRYPTO_SESSION"),
  (2408, "CRYPTO_IKE_SA"),
  (2409, "CRYPTO_IPSEC_SA"),
  (2499, "LAST_CRYPTO_MSG"),
  (2500, "FIRST_VIRT_MSG"),
  (2501, "VIRT_RESOURCE"),
  (2502, "VIRT_MACHINE_ID"),
  (2599, "LAST_VIRT_MSG"),
  (2999, "LAST_USER_MSG2")]

/-- `auditConstant.String`: the constant's name, or `auditConstant(n)` for a value without
one. -/
def auditConstantString (i : UInt16) : List Char :=
  match auditConstantNames.lookup i.toNat with
  | some name => "AUDIT_".toList ++ name.toList
  | none => ("auditConstant(" ++ toString i.toNat ++ ")").toList

/-- Every name is at least as long as the `AUDIT_` prefix that `ParseAuditEvent` cuts off. -/
theorem six_le_length_auditConstantString (i : UInt16) : 6 ≤ (auditConstantString i).length := by
  unfold auditConstantString
  split <;> simp

end LibAudit
