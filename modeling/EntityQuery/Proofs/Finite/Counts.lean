import EntityQuery.Decimal.Reading
import Mathlib.Algebra.Group.Nat.Defs

/-!
The double nearest to a count is finite: a count has at most 64 bits, and the exponent of a double
goes far beyond.
-/

namespace EntityQuery.Decimal

theorem roundDiv_le (tie : Tie) (num den : Nat) : roundDiv tie num den ≤ num / den + 1 := by
  unfold roundDiv
  dsimp only
  split
  · exact Nat.le_succ _
  · exact Nat.le_refl _
  · split
    · exact Nat.le_refl _
    · exact Nat.le_succ _

section

variable {n : Nat}

/-- A whole number is at least the power of two that its leading bit stands for. -/
theorem two_pow_mul_le (hn : n ≠ 0) : 2 ^ 53 * 2 ^ (n.log2 - 53) ≤ n * 2 ^ (53 - n.log2) := by
  calc 2 ^ 53 * 2 ^ (n.log2 - 53) = 2 ^ n.log2 * 2 ^ (53 - n.log2) := by
        rw [← Nat.pow_add, ← Nat.pow_add]
        congr 1
        omega
    _ ≤ n * 2 ^ (53 - n.log2) := Nat.mul_le_mul_right _ (Nat.log2_self_le hn)

theorem mul_two_pow_div_lt : n * 2 ^ (52 - n.log2) / 2 ^ (n.log2 - 52) < 2 ^ 53 := by
  refine Nat.div_lt_of_lt_mul ?_
  calc n * 2 ^ (52 - n.log2) < 2 ^ (n.log2 + 1) * 2 ^ (52 - n.log2) :=
        Nat.mul_lt_mul_of_pos_right Nat.lt_log2_self (Nat.two_pow_pos _)
    _ = 2 ^ (n.log2 - 52) * 2 ^ 53 := by
        rw [← Nat.pow_add, ← Nat.pow_add]
        congr 1
        omega

theorem binaryExponent_one (hn : n ≠ 0) : binaryExponent n 1 = (n.log2 : Int) - 52 := by
  have hone : ((Nat.log2 1 : Nat) : Int) = 0 := rfl
  have he : ((n.log2 : Int) - 0 - 53).toNat = n.log2 - 53 := by omega
  have hne : (-((n.log2 : Int) - 0 - 53)).toNat = 53 - n.log2 := by omega
  unfold binaryExponent minExponent
  dsimp only
  rw [hone, he, hne, if_pos]
  · omega
  · rw [Nat.mul_one]
    exact two_pow_mul_le hn

/-- The mantissa of a whole number has 53 bits, or one more if it rounds up to a power of two. -/
theorem nearestMagnitude_one_le (hn : n ≠ 0) :
    nearestMagnitude n 1 ≤ (n.log2 + 1024) * Binary64.hiddenBit := by
  have he : ((n.log2 : Int) - 52).toNat = n.log2 - 52 := by omega
  have hne : (-((n.log2 : Int) - 52)).toNat = 52 - n.log2 := by omega
  have hplace : ((n.log2 : Int) - 52 - -1074).toNat = n.log2 + 1022 := by omega
  have hround := roundDiv_le .even (n * 2 ^ (52 - n.log2)) (1 * 2 ^ (n.log2 - 52))
  have hlt : n * 2 ^ (52 - n.log2) / (1 * 2 ^ (n.log2 - 52)) < 2 * Binary64.hiddenBit := by
    rw [Nat.one_mul]
    exact mul_two_pow_div_lt
  unfold nearestMagnitude minExponent
  dsimp only
  rw [binaryExponent_one hn, he, hne, hplace]
  calc (n.log2 + 1022) * Binary64.hiddenBit +
        roundDiv .even (n * 2 ^ (52 - n.log2)) (1 * 2 ^ (n.log2 - 52))
      ≤ (n.log2 + 1022) * Binary64.hiddenBit + 2 * Binary64.hiddenBit :=
        Nat.add_le_add_left (Nat.le_trans hround hlt) _
    _ = (n.log2 + 1024) * Binary64.hiddenBit := (Nat.add_mul _ _ _).symm

end

namespace Binary64

theorem isFinite_ofMagnitude {m : Nat} (h : m < infiniteMagnitude) :
    (ofMagnitude false m).isFinite = true := by
  have hbits : (ofMagnitude false m).bits.toNat = m := by
    simp only [ofMagnitude, Bool.false_eq_true, if_false, Nat.zero_add, UInt64.toNat_ofNat']
    refine Nat.mod_eq_of_lt (Nat.lt_trans h ?_)
    decide
  have hdiv : m / hiddenBit < 2047 := Nat.div_lt_of_lt_mul h
  rw [isFinite, biasedExponent, hbits, bne_iff_ne, Nat.mod_eq_of_lt (Nat.lt_trans hdiv (by decide))]
  exact Nat.ne_of_lt hdiv

theorem isFinite_ofCount (n : UInt64) : (ofCount n).isFinite = true := by
  unfold ofCount
  split
  · exact isFinite_ofMagnitude (by decide)
  · rename_i hn
    have hn' : n.toNat ≠ 0 := fun h => hn (UInt64.toNat_inj.1 h)
    have hlog : n.toNat.log2 < 64 := (Nat.log2_lt hn').2 n.toNat_lt
    refine isFinite_ofMagnitude ?_
    calc nearestMagnitude n.toNat 1 ≤ (n.toNat.log2 + 1024) * hiddenBit :=
          nearestMagnitude_one_le hn'
      _ ≤ 1087 * hiddenBit := Nat.mul_le_mul_right _ (by omega)
      _ < infiniteMagnitude := by decide

end Binary64

end EntityQuery.Decimal
