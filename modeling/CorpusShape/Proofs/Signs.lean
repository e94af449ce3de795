import CorpusShape.Numeric.Amount
import CorpusShape.Proofs.Doubles

/-!
# Doubles without a sign

Sums and products of doubles whose sign bit is not set have none either, whatever is rounded on the way: an overflow is
the positive infinity, and a value that is no number has the word of one without a sign. An integer that is not
negative and not too large has a nearest double, without a sign and positive if the integer is.
-/
namespace CorpusShape.Double

open Float.Model (Format)
open Float.Model.UnpackedFloat

/-- The sign bit is not set. -/
def Unsigned (x : Float) : Prop := x.toBits.toNat < 2 ^ 63

theorem Unsigned.rank_nonneg {x : Float} (h : Unsigned x) : 0 ≤ rank x := by
  have hbits : x.toBits.toNat < twoTo 63 := by
    rw [twoTo_eq]
    exact h
  rw [rank, if_pos hbits]
  exact Int.natCast_nonneg _

/-- No sign, or no number. -/
def PlainSign : Float.Model.UnpackedFloat → Prop
  | .notANumber => True
  | .infinity s => s = .positive
  | .zero s => s = .positive
  | .finite s _ _ _ => s = .positive

theorem toNat_packComponents_positive (e : BitVec 11) (m : BitVec 52) :
    (packComponents Format.binary64 .positive e m).toNat < 2 ^ 63 := by
  have he : e.toNat < 2 ^ 11 := e.isLt
  have hm : m.toNat < 2 ^ 52 := m.isLt
  rw [toNat_packComponents]
  simp only [Sign.toBitVec, BitVec.toNat_ofNat, Nat.zero_mod, Nat.zero_mul, Nat.zero_add]
  omega

theorem PlainSign.pack_lt {u : Float.Model.UnpackedFloat} (h : PlainSign u) : (pack Format.binary64 u).toNat < 2 ^ 63 := by
  cases u with
  | notANumber => exact toNat_packComponents_positive _ _
  | infinity s =>
    cases h
    exact toNat_packComponents_positive _ _
  | zero s =>
    cases h
    exact toNat_packComponents_positive _ _
  | finite s m e hm =>
    cases h
    unfold pack
    dsimp only
    split
    · exact toNat_packComponents_positive _ _
    split
    · exact toNat_packComponents_positive _ _
    · exact toNat_packComponents_positive _ _

section Branches
variable {c : Prop} [Decidable c]

theorem plainSign_ite {u v : Float.Model.UnpackedFloat} (hu : PlainSign u) (hv : PlainSign v) :
    PlainSign (if c then u else v) := by
  split
  · exact hu
  · exact hv

theorem plainSign_dite {u : c → Float.Model.UnpackedFloat} {v : ¬c → Float.Model.UnpackedFloat}
    (hu : ∀ h, PlainSign (u h)) (hv : ∀ h, PlainSign (v h)) : PlainSign (if h : c then u h else v h) := by
  split
  · exact hu _
  · exact hv _

end Branches

theorem plainSign_unpack {b : Word} (h : b.toNat < 2 ^ 63) : PlainSign (unpack Format.binary64 b) := by
  have hsign : Sign.ofBitVec (unpackSign b) = .positive := by
    have hzero : unpackSign b = 0#1 := by
      apply BitVec.eq_of_toNat_eq
      rw [toNat_unpackSign, Nat.div_eq_of_lt h]
      rfl
    rw [hzero]
    rfl
  unfold unpack
  apply plainSign_ite
  · exact plainSign_ite hsign trivial
  · apply plainSign_ite
    · exact plainSign_dite (fun _ => hsign) fun _ => hsign
    · exact hsign

theorem plainSign_roundWithAccuracy (mantissa : Nat) (exponent : Int) (accuracy : Accuracy) :
    PlainSign (roundWithAccuracy Format.binary64 .positive mantissa exponent accuracy) := by
  unfold roundWithAccuracy
  exact plainSign_dite (fun _ => rfl) fun _ => rfl

theorem PlainSign.mul {u v : Float.Model.UnpackedFloat} (hu : PlainSign u) (hv : PlainSign v) :
    PlainSign (mul Format.binary64 u v) := by
  cases u <;> cases v <;> cases hu <;> cases hv
  all_goals first | trivial | exact plainSign_roundWithAccuracy _ _ _

theorem plainSign_normalize {mantissa : Int} (h : 0 ≤ mantissa) (exponent : Int) :
    PlainSign (Float.Model.UnpackedFloat.normalize Format.binary64 mantissa exponent .positive) := by
  unfold Float.Model.UnpackedFloat.normalize
  cases hcompare : compare mantissa 0 with
  | lt => exact absurd (Int.compare_eq_lt.mp hcompare) (by omega)
  | eq => rfl
  | gt => exact plainSign_roundWithAccuracy _ _ _

theorem PlainSign.add {u v : Float.Model.UnpackedFloat} (hu : PlainSign u) (hv : PlainSign v) :
    PlainSign (add Format.binary64 u v) := by
  cases u <;> cases v <;> cases hu <;> cases hv
  case finite.finite => exact plainSign_normalize (Int.add_nonneg (Int.natCast_nonneg _) (Int.natCast_nonneg _)) _
  all_goals trivial

theorem Unsigned.mul {x y : Float} (hx : Unsigned x) (hy : Unsigned y) : Unsigned (x * y) :=
  ((plainSign_unpack hx).mul (plainSign_unpack hy)).pack_lt

theorem Unsigned.add {x y : Float} (hx : Unsigned x) (hy : Unsigned y) : Unsigned (x + y) :=
  ((plainSign_unpack hx).add (plainSign_unpack hy)).pack_lt

section Integers

/-- A number, scaled so that `bits + 1` of its bits stand before the point. -/
theorem scaled_log2 {num : Nat} (hn : num ≠ 0) (bits : Nat) {q : Int} (hq : q = num.log2 - bits) :
    0 < (scaled num 1 q).2 ∧ 2 ^ bits * (scaled num 1 q).2 ≤ (scaled num 1 q).1 ∧
      (scaled num 1 q).1 < 2 ^ (bits + 1) * (scaled num 1 q).2 := by
  have hlow : 2 ^ num.log2 ≤ num := Nat.log2_self_le hn
  have hhigh : num < 2 ^ (num.log2 + 1) := Nat.lt_log2_self
  generalize num.log2 = size at hlow hhigh hq
  unfold scaled
  simp only [twoTo_eq]
  by_cases hsize : size < bits
  · obtain ⟨k, rfl⟩ : ∃ k, bits = size + k := ⟨bits - size, by omega⟩
    have habs : q.natAbs = k := by omega
    rw [if_pos (by omega), habs]
    refine ⟨Nat.one_pos, ?_, ?_⟩
    · rw [Nat.mul_one, Nat.pow_add]
      exact Nat.mul_le_mul_right _ hlow
    · rw [Nat.mul_one, Nat.add_right_comm, Nat.pow_add]
      exact Nat.mul_lt_mul_of_pos_right hhigh (Nat.two_pow_pos k)
  · obtain ⟨k, rfl⟩ : ∃ k, size = bits + k := ⟨size - bits, by omega⟩
    have habs : q.toNat = k := by omega
    rw [if_neg (by omega), habs, Nat.one_mul]
    refine ⟨Nat.two_pow_pos k, ?_, ?_⟩
    · rw [← Nat.pow_add]
      exact hlow
    · rw [← Nat.pow_add, Nat.add_right_comm]
      exact hhigh

theorem mantissaPower_one {num : Nat} (hn : num ≠ 0) : mantissaPower num 1 = num.log2 - 52 := by
  obtain ⟨q, hq⟩ : ∃ q : Int, max ((num.log2 : Int) - (1 : Nat).log2 - 53) (-1074) = q := ⟨_, rfl⟩
  have hone : (1 : Nat).log2 = 0 := rfl
  have hsize : q = num.log2 - (53 : Nat) := by omega
  obtain ⟨hpos, hlow, -⟩ := scaled_log2 hn 53 hsize
  have hfull : ¬(scaled num 1 q).1 / (scaled num 1 q).2 < 2 ^ 53 := by
    rw [Nat.div_lt_iff_lt_mul hpos]
    exact Nat.not_lt.mpr hlow
  unfold mantissaPower
  simp only [hq, twoTo_eq]
  rw [if_neg hfull]
  omega

theorem div_le_roundDiv (num den : Nat) : num / den ≤ roundDiv num den := by
  unfold roundDiv
  dsimp only
  split_ifs <;> omega

/-- The bits of the double nearest to a number: the exponent tells the size of the number. -/
theorem nearestBits_one {num : Nat} (hn : num ≠ 0) :
    (num.log2 + 1023) * 2 ^ 52 ≤ nearestBits num 1 ∧ nearestBits num 1 ≤ (num.log2 + 1024) * 2 ^ 52 := by
  obtain ⟨q, hq⟩ : ∃ q : Int, (num.log2 : Int) - 52 = q := ⟨_, rfl⟩
  obtain ⟨hpos, hlow, hhigh⟩ := scaled_log2 hn 52 (q := q) (by omega)
  have hge : 2 ^ 52 ≤ roundDiv (scaled num 1 q).1 (scaled num 1 q).2 :=
    Nat.le_trans ((Nat.le_div_iff_mul_le hpos).mpr hlow) (div_le_roundDiv _ _)
  have hle : roundDiv (scaled num 1 q).1 (scaled num 1 q).2 ≤ 2 ^ 53 := roundDiv_le hpos (Nat.le_of_lt hhigh)
  have hexp : (q + 1075).toNat = num.log2 + 1023 := by omega
  unfold nearestBits
  simp only [mantissaPower_one hn, hq, twoTo_eq, beq_iff_eq, hn, if_false]
  rw [if_neg (Nat.not_lt.mpr hge), hexp]
  omega

theorem ofMagnitude_spec {bits : Nat} (h : bits < 2047 * 2 ^ 52) :
    Unsigned (ofMagnitude false bits) ∧ isNaN (ofMagnitude false bits) = false ∧
      (bits ≠ 0 → 0 < rank (ofMagnitude false bits)) := by
  have hrank := rank_ofMagnitude h
  have htoBits : (ofMagnitude false bits).toBits.toNat = bits := toBits_ofBits h
  refine ⟨?_, ?_, fun hne => ?_⟩
  · rw [Unsigned, htoBits]
    omega
  · rw [isNaN, hrank, infiniteRank, twoTo_eq]
    simp only [decide_eq_false_iff_not, Int.natAbs_natCast]
    omega
  · rw [hrank]
    omega

theorem ofInt?_natCast {n : Nat} (h : nearestBits n 1 < 2047 * 2 ^ 52) :
    ofInt? n = some (ofMagnitude false (nearestBits n 1)) := by
  unfold ofInt? nearest?
  simp only [twoTo_eq, Int.natAbs_natCast]
  rw [decide_eq_false (show ¬(n : Int) < 0 by omega)]
  exact if_pos h

/-- A number of at most 1023 bits has a nearest double, which has no sign and is positive if the number is. -/
theorem ofInt?_of_lt {n size : Nat} (hsize : size ≤ 1023) (h : n < 2 ^ size) :
    ∃ x, ofInt? n = some x ∧ Unsigned x ∧ isNaN x = false ∧ (0 < n → 0 < rank x) := by
  have hbits : nearestBits n 1 < 2047 * 2 ^ 52 ∧ (n ≠ 0 → nearestBits n 1 ≠ 0) := by
    by_cases hn : n = 0
    · simp [nearestBits, hn]
    · have hlog : n.log2 < size := (Nat.log2_lt hn).mpr h
      obtain ⟨hlow, hhigh⟩ := nearestBits_one hn
      omega
  obtain ⟨hunsigned, hnumber, hpos⟩ := ofMagnitude_spec hbits.1
  exact ⟨_, ofInt?_natCast hbits.1, hunsigned, hnumber, fun hn => hpos (hbits.2 (Nat.ne_of_gt hn))⟩

end Integers

end CorpusShape.Double
