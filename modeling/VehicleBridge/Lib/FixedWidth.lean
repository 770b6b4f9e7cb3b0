import Mathlib.Tactic.Common

/-!
# Counters of a fixed width

Adding one to a counter, or taking one off, is what it is for numbers except at the end of its range, where an unsigned
counter wraps.
-/

namespace FixedWidth

theorem toNat_add_one_of_ne {n : UInt32} (h : n ≠ 4294967295) : (n + 1).toNat = n.toNat + 1 := by
  have hlt : n.toNat < 4294967295 := by
    have hne : n.toNat ≠ 4294967295 := fun heq => h (UInt32.toNat_inj.1 heq)
    have hmax := n.toNat_lt
    omega
  rw [UInt32.toNat_add, UInt32.toNat_one, Nat.mod_eq_of_lt (by omega)]

theorem toNat_sub_one_of_pos {n : UInt32} (h : 1 ≤ n.toNat) : (n - 1).toNat = n.toNat - 1 := by
  have hle : (1 : UInt32) ≤ n := UInt32.le_iff_toNat_le.2 h
  rw [UInt32.toNat_sub_of_le n 1 hle, UInt32.toNat_one]

theorem toInt_add_one_of_ne {n : Int32} (h : n ≠ Int32.maxValue) : (n + 1).toInt = n.toInt + 1 := by
  have hne : n.toInt ≠ 2 ^ 31 - 1 := fun heq => h (Int32.toInt_inj.1 heq)
  have hlow := n.le_toInt
  have hhigh := n.toInt_lt
  have hone : (1 : Int32).toInt = 1 := rfl
  rw [Int32.toInt_add, hone, Int.bmod_eq_of_le] <;> omega

end FixedWidth
