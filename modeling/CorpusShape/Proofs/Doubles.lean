import CorpusShape.Numeric.Double
import Mathlib.Algebra.Order.Ring.Int

/-!
# Doubles and their words

The word of a finite double is put together from a sign, an exponent and a mantissa, and is read back as it
was, so that the rank of a double made from bits is known from the bits. A fraction between 0 and 1 is rounded
to a double between 0 and 1: the power of two that is chosen for it leaves at most 53 bits to the mantissa, and
rounding up goes no further than the bound.
-/
namespace CorpusShape

theorem twoTo_eq (n : Nat) : twoTo n = 2 ^ n := by
  rw [twoTo, Nat.pow_eq]

namespace Double
open Float.Model (Format)
open Float.Model.UnpackedFloat

abbrev Word := BitVec Format.binary64.numBits

theorem toNat_unpackMantissa (b : Word) : (unpackMantissa b).toNat = b.toNat % 2 ^ 52 := by
  simp [unpackMantissa, BitVec.extractLsb]

theorem toNat_unpackExponent (b : Word) : (unpackExponent b).toNat = b.toNat / 2 ^ 52 % 2 ^ 11 := by
  simp [unpackExponent, BitVec.extractLsb, Nat.shiftRight_eq_div_pow]

theorem toNat_unpackSign (b : Word) : (unpackSign b).toNat = b.toNat / 2 ^ 63 := by
  have hb : b.toNat < 2 ^ 64 := b.isLt
  have hlt : b.toNat / 2 ^ 63 < 2 := by omega
  have hdef : unpackSign b = b.extractLsb 63 63 := rfl
  rw [hdef, BitVec.extractLsb_toNat, Nat.shiftRight_eq_div_pow]
  omega

theorem toBitVec_ofBitVec (s : BitVec 1) : (Sign.ofBitVec s).toBitVec = s := by
  revert s
  decide

theorem toNat_packComponents (s : Sign) (e : BitVec 11) (m : BitVec 52) :
    (packComponents Format.binary64 s e m).toNat = (s.toBitVec.toNat * 2 ^ 11 + e.toNat) * 2 ^ 52 + m.toNat := by
  have happend : ∀ {v w : Nat} (x : BitVec v) (y : BitVec w), (x ++ y).toNat = x.toNat * 2 ^ w + y.toNat := by
    intro v w x y
    rw [BitVec.toNat_append, ← Nat.shiftLeft_add_eq_or_of_lt y.isLt, Nat.shiftLeft_eq]
  rw [packComponents, happend, happend]

theorem packComponents_parts (b : Word) :
    packComponents Format.binary64 (Sign.ofBitVec (unpackSign b)) (unpackExponent b) (unpackMantissa b) = b := by
  apply BitVec.eq_of_toNat_eq
  have hpack := toNat_packComponents (Sign.ofBitVec (unpackSign b)) (unpackExponent b) (unpackMantissa b)
  rw [toBitVec_ofBitVec, toNat_unpackSign, toNat_unpackExponent, toNat_unpackMantissa] at hpack
  rw [hpack]
  omega

/-- The word of a finite double is put together again from its parts. -/
theorem pack_unpack (b : Word) (h : b.toNat / 2 ^ 52 % 2 ^ 11 ≠ 2047) :
    pack Format.binary64 (unpack Format.binary64 b) = b := by
  have hexp : unpackExponent b ≠ -1#11 := by
    intro he
    have hn := congrArg BitVec.toNat he
    rw [toNat_unpackExponent] at hn
    exact h hn
  have hbias : Format.binary64.exponentBias = 1023 := rfl
  have hwidth : Format.binary64.mantissaBits = 53 := rfl
  have hm : (unpackMantissa b).toNat < 2 ^ 52 := (unpackMantissa b).isLt
  have he : (unpackExponent b).toNat < 2 ^ 11 := (unpackExponent b).isLt
  have hparts := packComponents_parts b
  unfold unpack
  dsimp only
  rw [if_neg hexp]
  by_cases hzero : unpackExponent b = 0#11
  · rw [if_pos hzero]
    by_cases hmant : unpackMantissa b = 0#52
    · rw [dif_pos hmant]
      rw [hzero, hmant] at hparts
      exact hparts
    · have hpos : (unpackMantissa b).toNat ≠ 0 := fun h0 => hmant (BitVec.eq_of_toNat_eq h0)
      have hlog : (unpackMantissa b).toNat.log2 < 52 := (Nat.log2_lt hpos).mpr hm
      rw [dif_neg hmant]
      unfold pack
      dsimp only
      rw [hzero, hbias, hwidth, if_neg (by decide), if_neg (by omega)]
      rw [hzero] at hparts
      simpa using hparts
  · have hpos : (unpackExponent b).toNat ≠ 0 := fun h0 => hzero (BitVec.eq_of_toNat_eq h0)
    have hone : (1#1 ++ unpackMantissa b).toNat = 2 ^ 52 + (unpackMantissa b).toNat := by
      rw [BitVec.toNat_append, ← Nat.shiftLeft_add_eq_or_of_lt hm]
      rfl
    have hlog : (2 ^ 52 + (unpackMantissa b).toNat).log2 = 52 := by
      refine (Nat.log2_eq_iff (by omega)).mpr ⟨by omega, by omega⟩
    have hbiased : (((unpackExponent b).toNat : Int) - ((1023 : Nat) + (52 : Nat)) + (1023 : Nat) + (52 : Nat)).toNat =
        (unpackExponent b).toNat := by omega
    rw [if_neg hzero]
    unfold pack
    dsimp only
    have hne : b.toNat / 2 ^ 52 % 2 ^ 11 = (unpackExponent b).toNat := (toNat_unpackExponent b).symm
    have hback : BitVec.ofNat 52 (2 ^ 52 + (unpackMantissa b).toNat) = unpackMantissa b := by
      apply BitVec.eq_of_toNat_eq
      rw [BitVec.toNat_ofNat, Nat.add_mod_left, Nat.mod_eq_of_lt hm]
    rw [hbias, hwidth, hbiased, hone, hlog, if_neg (by omega), if_pos rfl, hback, BitVec.ofNat_toNat,
      BitVec.setWidth_eq]
    exact hparts

theorem toBits_ofBits {bits : Nat} (h : bits < 2047 * 2 ^ 52) :
    (Float.ofBits (UInt64.ofNat bits)).toBits.toNat = bits := by
  have hnat : (UInt64.ofNat bits).toBitVec.toNat = bits := by
    simp
    omega
  have hpack := pack_unpack (UInt64.ofNat bits).toBitVec (by rw [hnat]; omega)
  have hbits : (Float.ofBits (UInt64.ofNat bits)).toBits.toBitVec =
      pack Format.binary64 (unpack Format.binary64 (UInt64.ofNat bits).toBitVec) := rfl
  rw [← UInt64.toNat_toBitVec, hbits, hpack, hnat]

theorem rank_ofMagnitude {bits : Nat} (h : bits < 2047 * 2 ^ 52) : rank (ofMagnitude false bits) = bits := by
  have hbits : (ofMagnitude false bits).toBits.toNat = bits := toBits_ofBits h
  unfold rank
  simp only [twoTo_eq]
  rw [hbits, if_pos (by omega)]

theorem roundDiv_le {num den bound : Nat} (hd : 0 < den) (h : num ≤ bound * den) :
    roundDiv num den ≤ bound := by
  have hdiv := Nat.div_add_mod num den
  have hr := Nat.mod_lt num hd
  have hq : num / den ≤ bound := Nat.div_le_of_le_mul (by rw [Nat.mul_comm]; exact h)
  unfold roundDiv
  dsimp only
  by_cases heq : num / den = bound
  · -- the quotient is already the bound, so nothing is left to round up
    have hzero : num % den = 0 := by
      rw [heq, Nat.mul_comm] at hdiv
      omega
    rw [hzero, if_pos (by omega)]
    exact hq
  · split_ifs <;> omega

/-- A fraction of at most 1 is scaled up. -/
theorem scaled_of_neg (num den : Nat) {q : Int} (hq : q < 0) : scaled num den q = (num * 2 ^ q.natAbs, den) := by
  simp [scaled, hq, twoTo_eq]

/-- The power of two for a fraction of at most 1, with the mantissa it gives. -/
theorem mantissaPower_spec {num den : Nat} (hn : num ≠ 0) (h : num ≤ den) :
    -1074 ≤ mantissaPower num den ∧ mantissaPower num den ≤ -52 ∧
      num * 2 ^ (mantissaPower num den).natAbs ≤ 2 ^ 53 * den := by
  have hden : den ≠ 0 := by omega
  have hlog : num.log2 ≤ den.log2 := (Nat.le_log2 hden).mpr (Nat.le_trans (Nat.log2_self_le hn) h)
  obtain ⟨q, hq⟩ : ∃ q, max ((num.log2 : Int) - den.log2 - 53) (-1074) = q := ⟨_, rfl⟩
  have hge : (num.log2 : Int) - den.log2 - 53 ≤ q := by omega
  have hlow : -1074 ≤ q := by omega
  have hup : q ≤ -53 := by omega
  have hscaled := scaled_of_neg num den (q := q) (by omega)
  unfold mantissaPower
  simp only [twoTo_eq]
  rw [hq, hscaled]
  dsimp only
  by_cases hfit : num * 2 ^ q.natAbs / den < 2 ^ 53
  · rw [if_pos hfit]
    refine ⟨hlow, by omega, ?_⟩
    have hlt := (Nat.div_lt_iff_lt_mul (by omega)).mp hfit
    omega
  · rw [if_neg hfit]
    refine ⟨by omega, by omega, ?_⟩
    -- one bit less: the logarithms bound the numerator from above and the denominator from below
    have hnum : num < 2 ^ (num.log2 + 1) := Nat.lt_log2_self
    have hdenlog : 2 ^ den.log2 ≤ den := Nat.log2_self_le hden
    have hexp : num.log2 + 1 + (q + 1).natAbs ≤ 53 + den.log2 := by omega
    calc num * 2 ^ (q + 1).natAbs
        ≤ 2 ^ (num.log2 + 1) * 2 ^ (q + 1).natAbs := Nat.mul_le_mul_right _ (Nat.le_of_lt hnum)
      _ = 2 ^ (num.log2 + 1 + (q + 1).natAbs) := (Nat.pow_add ..).symm
      _ ≤ 2 ^ (53 + den.log2) := Nat.pow_le_pow_right (by omega) hexp
      _ = 2 ^ 53 * 2 ^ den.log2 := Nat.pow_add ..
      _ ≤ 2 ^ 53 * den := Nat.mul_le_mul_left _ hdenlog

/-- The double nearest to a fraction of at most 1 is at most 1. -/
theorem nearestBits_le {num den : Nat} (hd : 0 < den) (h : num ≤ den) :
    nearestBits num den ≤ 1023 * 2 ^ 52 := by
  by_cases hn : num = 0
  · simp [nearestBits, hn]
  · obtain ⟨hlow, hup, hmant⟩ := mantissaPower_spec hn h
    obtain ⟨q, hq⟩ : ∃ q, mantissaPower num den = q := ⟨_, rfl⟩
    rw [hq] at hlow hup hmant
    have hscaled := scaled_of_neg num den (q := q) (by omega)
    have hround : roundDiv (num * 2 ^ q.natAbs) den ≤ 2 ^ 53 := roundDiv_le hd hmant
    unfold nearestBits
    simp only [twoTo_eq]
    rw [hq, hscaled]
    simp only [beq_iff_eq, hn, if_false]
    split_ifs with hsmall
    · omega
    · by_cases hlast : q = -52
      · -- the last power: the fraction itself is the mantissa's bound
        have hone : roundDiv (num * 2 ^ q.natAbs) den ≤ 2 ^ 52 := by
          refine roundDiv_le hd ?_
          rw [hlast, Nat.mul_comm]
          exact Nat.mul_le_mul_left _ h
        subst hlast
        omega
      · omega

/-- A fraction between 0 and 1 has a nearest double, which lies between 0 and 1. -/
theorem quotient?_between {a b : Int} (ha : 0 ≤ a) (hb : 0 < b) (h : a ≤ b) :
    ∃ x, quotient? a b = some x ∧ isNaN x = false ∧ 0 ≤ rank x ∧ rank x ≤ 1023 * 2 ^ 52 := by
  have hle : nearestBits a.natAbs b.natAbs ≤ 1023 * 2 ^ 52 := nearestBits_le (by omega) (by omega)
  have hlt : nearestBits a.natAbs b.natAbs < 2047 * 2 ^ 52 := by omega
  have hsign : ((a < 0 : Bool) != (b < 0 : Bool)) = false := by
    have hna : ¬a < 0 := by omega
    have hnb : ¬b < 0 := by omega
    simp [hna, hnb]
  have hrank := rank_ofMagnitude hlt
  refine ⟨ofMagnitude false (nearestBits a.natAbs b.natAbs), ?_, ?_, ?_, ?_⟩
  · unfold quotient? nearest?
    simp only [twoTo_eq]
    rw [hsign, if_pos hlt]
  · unfold isNaN
    rw [hrank, decide_eq_false_iff_not, infiniteRank, twoTo_eq]
    omega
  · omega
  · omega

section Constants

theorem rank_zero : rank 0 = 0 := by decide

theorem rank_one : rank 1 = 1023 * 2 ^ 52 := by decide

theorem rank_epsilon : rank epsilon = 971 * 2 ^ 52 := by decide

theorem rank_greatest : rank greatest = 2047 * 2 ^ 52 - 1 := by decide

theorem rank_positiveInfinity : rank positiveInfinity = 2047 * 2 ^ 52 := by decide

theorem plain_of_rank {x : Float} {r : Int} (h : rank x = r) (hr : r.natAbs < 2047 * 2 ^ 52) :
    isNaN x = false ∧ isInfinite x = false := by
  simp only [isNaN, isInfinite, infiniteRank, twoTo_eq, h, decide_eq_false_iff_not, beq_eq_false_iff_ne]
  omega

theorem plain_zero : isNaN 0 = false ∧ isInfinite 0 = false := plain_of_rank rank_zero (by decide)

theorem plain_one : isNaN 1 = false ∧ isInfinite 1 = false := plain_of_rank rank_one (by decide)

theorem positiveInfinity_infinite : isNaN positiveInfinity = false ∧ isInfinite positiveInfinity = true := by
  rw [isNaN, isInfinite, rank_positiveInfinity, infiniteRank, twoTo_eq]
  decide

end Constants

end Double

end CorpusShape
