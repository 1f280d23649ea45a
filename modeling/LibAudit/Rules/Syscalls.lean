import LibAudit.Rules.Fields

/-!
# The syscall mask

`auditRuleSyscallData(rule, scall)` sets the bit of syscall `scall` in `rule.Mask`: bit
`scall % 32` of word `scall / 32`, computed by `auditWord` and `auditBit`.  It refuses the last
word, so that the mask holds the syscalls below `32 * (AUDIT_BITMASK_SIZE - 1) = 2016`.

## Main statements

* `auditWord_of_nonneg`, `auditBit_of_nonneg` — for a syscall number that is not negative, the
  word is `scall / 32` taken modulo `2 ^ 32`, and the bit is bit `scall % 32`.
* `auditRuleSyscallData_mod` — hence `auditRuleSyscallData` treats `scall` as `scall % 2 ^ 37`.
* `auditRuleSyscallData_wraps` — the syscall number `2 ^ 37` is not refused: it sets the bit
  of syscall 0.

## Design notes

The word is computed as `(uint32)(nr / 32)` on a 64-bit `int`: the conversion keeps the low 32
bits of the quotient, so a number whose quotient is `2 ^ 32` or more lands in a low word that
the check against `AUDIT_BITMASK_SIZE - 1` lets through.
-/

namespace LibAudit

/-! ## Words and bits -/

section Nonneg

variable {nr : Int} (nonneg : 0 ≤ nr)
include nonneg

/-- `auditWord` keeps the low 32 bits of the quotient by 32. -/
theorem auditWord_of_nonneg : auditWord nr = UInt32.ofNat (nr.toNat / 32) := by
  apply UInt32.toNat_inj.mp
  rw [auditWord, Int.tdiv_eq_ediv_of_nonneg nonneg, UInt32.ofInt, UInt32.toNat_ofNat',
    UInt32.toNat_ofNat']
  omega

/-- The shift count of `auditBit` is the remainder by 32: the low 32 bits of `nr` less 32 times
those of the quotient, both taken modulo `2 ^ 32`. -/
theorem shift_of_nonneg : (UInt32.ofInt nr - auditWord nr * 32).toNat = nr.toNat % 32 := by
  rw [auditWord_of_nonneg nonneg, UInt32.ofInt, UInt32.toNat_sub, UInt32.toNat_mul,
    UInt32.toNat_ofNat', UInt32.toNat_ofNat']
  have thirtyTwo : UInt32.toNat 32 = 32 := rfl
  rw [thirtyTwo]
  omega

/-- `auditBit` is bit `nr % 32`: the shift count is below 32, so the `int` it shifts keeps its
bit in the low 32. -/
theorem auditBit_of_nonneg : auditBit nr = 1 <<< UInt32.ofNat (nr.toNat % 32) := by
  have shift := shift_of_nonneg nonneg
  have small : UInt32.ofInt nr - auditWord nr * 32 < 32 := by
    rw [UInt32.lt_iff_toNat_lt, shift]
    exact Nat.mod_lt _ (by decide)
  have same : UInt32.ofInt nr - auditWord nr * 32 = UInt32.ofNat (nr.toNat % 32) := by
    apply UInt32.toNat_inj.mp
    rw [shift, UInt32.toNat_ofNat']
    omega
  rw [auditBit, if_pos small, same]

theorem auditWord_mod : auditWord nr = auditWord (nr % 2 ^ 37) := by
  rw [auditWord_of_nonneg nonneg, auditWord_of_nonneg (Int.emod_nonneg _ (by decide))]
  apply UInt32.toNat_inj.mp
  rw [UInt32.toNat_ofNat', UInt32.toNat_ofNat']
  omega

theorem auditBit_mod : auditBit nr = auditBit (nr % 2 ^ 37) := by
  rw [auditBit_of_nonneg nonneg, auditBit_of_nonneg (Int.emod_nonneg _ (by decide))]
  congr 2
  omega

end Nonneg

/-! ## Setting a bit -/

/-- **Syscall numbers wrap at `2 ^ 37`.**  Word and bit are computed from `scall % 2 ^ 37`, so
`auditRuleSyscallData` does for `scall` what it does for `scall % 2 ^ 37`. -/
theorem auditRuleSyscallData_mod (rule : AuditRuleData) {scall : Int} (nonneg : 0 ≤ scall) :
    auditRuleSyscallData rule scall = auditRuleSyscallData rule (scall % 2 ^ 37) := by
  unfold auditRuleSyscallData
  simp only [auditWord_mod nonneg, auditBit_mod nonneg]

/-- **A syscall number past the mask is not refused.**  `auditWord(2^37)` is `uint32(2^32)`,
that is 0, and `auditBit(2^37)` is bit 0: `auditRuleSyscallData` sets the bit of syscall 0 and
returns `nil`, where every number from 2016 on should be refused. -/
theorem auditRuleSyscallData_wraps (rule : AuditRuleData) :
    auditRuleSyscallData rule (2 ^ 37) =
      .ok { rule with mask := rule.mask.set 0 (rule.mask[0] ||| 1) } := by
  have word : auditWord 0 = 0 := by decide
  have bit : auditBit 0 = 1 := by decide
  rw [auditRuleSyscallData_mod rule (by decide), Int.emod_self]
  unfold auditRuleSyscallData
  simp only [word, bit]
  rfl

end LibAudit
