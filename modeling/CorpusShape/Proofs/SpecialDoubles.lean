import CorpusShape.Proofs.Signs

/-!
# Doubles that are no number

A double is no number, infinite, zero, or some other number; its word tells which. A product is no number only if a
factor is none or if zero meets an infinity, a quotient only if an operand is none, if both are infinite, or if both are
zero, and a sum of doubles without a sign only if a summand is none: rounding never makes one.
-/
namespace CorpusShape.Double

open Float.Model (Format)
open Float.Model.UnpackedFloat

inductive Form where
  | noNumber
  | infinite
  | zero
  | plain
deriving DecidableEq

def formOf : Float.Model.UnpackedFloat → Form
  | .notANumber => .noNumber
  | .infinity _ => .infinite
  | .zero _ => .zero
  | .finite _ _ _ _ => .plain

def form (x : Float) : Form := formOf (unpack Format.binary64 x.toBits.toBitVec)

section Words

theorem formOf_unpack (b : Word) :
    formOf (unpack Format.binary64 b) =
      if b.toNat / 2 ^ 52 % 2 ^ 11 = 2047 then (if b.toNat % 2 ^ 52 = 0 then .infinite else .noNumber)
      else if b.toNat / 2 ^ 52 % 2 ^ 11 = 0 then (if b.toNat % 2 ^ 52 = 0 then .zero else .plain) else .plain := by
  have hfull : unpackExponent b = -1#11 ↔ b.toNat / 2 ^ 52 % 2 ^ 11 = 2047 := by
    rw [← toNat_unpackExponent, ← BitVec.toNat_inj]
    rfl
  have hnone : unpackExponent b = 0#11 ↔ b.toNat / 2 ^ 52 % 2 ^ 11 = 0 := by
    rw [← toNat_unpackExponent, ← BitVec.toNat_inj]
    rfl
  have hmantissa : unpackMantissa b = 0#52 ↔ b.toNat % 2 ^ 52 = 0 := by
    rw [← toNat_unpackMantissa, ← BitVec.toNat_inj]
    rfl
  unfold unpack
  dsimp only
  rw [apply_ite formOf, apply_ite formOf, apply_ite formOf, apply_dite formOf]
  dsimp only [formOf]
  simp only [hfull, hnone, hmantissa, dite_eq_ite]

theorem natAbs_rank (x : Float) : (rank x).natAbs = x.toBits.toNat % 2 ^ 63 := by
  have hbits : x.toBits.toNat < 2 ^ 64 := x.toBits.toNat_lt
  unfold rank
  simp only [twoTo_eq]
  split <;> omega

theorem form_eq (x : Float) :
    form x = if (rank x).natAbs = 2047 * 2 ^ 52 then .infinite
      else if 2047 * 2 ^ 52 < (rank x).natAbs then .noNumber
      else if (rank x).natAbs = 0 then .zero else .plain := by
  have hbits : x.toBits.toBitVec.toNat = x.toBits.toNat := rfl
  rw [form, formOf_unpack, natAbs_rank, hbits]
  generalize x.toBits.toNat = bits
  split_ifs <;> first | rfl | omega

theorem isNaN_iff {x : Float} : isNaN x = true ↔ form x = .noNumber := by
  have hrank : isNaN x = true ↔ 2047 * 2 ^ 52 < (rank x).natAbs := by
    rw [isNaN, decide_eq_true_eq, infiniteRank, twoTo_eq]
    omega
  rw [hrank, form_eq]
  generalize (rank x).natAbs = magnitude
  split_ifs <;> simp <;> omega

theorem isInfinite_iff {x : Float} : isInfinite x = true ↔ form x = .infinite := by
  have hrank : isInfinite x = true ↔ (rank x).natAbs = 2047 * 2 ^ 52 := by
    rw [isInfinite, beq_iff_eq, infiniteRank, twoTo_eq]
    omega
  rw [hrank, form_eq]
  generalize (rank x).natAbs = magnitude
  split_ifs <;> simp <;> omega

theorem isZero_iff {x : Float} : isZero x = true ↔ form x = .zero := by
  have hrank : isZero x = true ↔ (rank x).natAbs = 0 := by
    rw [isZero, beq_iff_eq]
    omega
  rw [hrank, form_eq]
  generalize (rank x).natAbs = magnitude
  split_ifs <;> simp <;> omega

theorem isInfinite_of_isNaN {x : Float} (h : isNaN x = true) : isInfinite x = false := by
  rw [Bool.eq_false_iff, ne_eq, isInfinite_iff, isNaN_iff.mp h]
  decide

theorem isZero_of_isNaN {x : Float} (h : isNaN x = true) : isZero x = false := by
  rw [Bool.eq_false_iff, ne_eq, isZero_iff, isNaN_iff.mp h]
  decide

theorem isZero_of_isInfinite {x : Float} (h : isInfinite x = true) : isZero x = false := by
  rw [Bool.eq_false_iff, ne_eq, isZero_iff, isInfinite_iff.mp h]
  decide

end Words

section Packing

theorem formOf_unpack_packComponents (s : Sign) (e : BitVec 11) (m : BitVec 52) :
    formOf (unpack Format.binary64 (packComponents Format.binary64 s e m)) =
      if e.toNat = 2047 then (if m.toNat = 0 then .infinite else .noNumber)
      else if e.toNat = 0 then (if m.toNat = 0 then .zero else .plain) else .plain := by
  have he : e.toNat < 2 ^ 11 := e.isLt
  have hm : m.toNat < 2 ^ 52 := m.isLt
  have hexponent : (packComponents Format.binary64 s e m).toNat / 2 ^ 52 % 2 ^ 11 = e.toNat := by
    rw [toNat_packComponents]
    omega
  have hmantissa : (packComponents Format.binary64 s e m).toNat % 2 ^ 52 = m.toNat := by
    rw [toNat_packComponents]
    omega
  rw [formOf_unpack, hexponent, hmantissa]

theorem form_packComponents_ne {e : BitVec 11} (he : e.toNat ≠ 2047) (s : Sign) (m : BitVec 52) :
    formOf (unpack Format.binary64 (packComponents Format.binary64 s e m)) ≠ .noNumber := by
  rw [formOf_unpack_packComponents, if_neg he]
  split_ifs <;> decide

/-- Packing makes a word that is no number out of nothing else: a number that is too large becomes an infinity. -/
theorem formOf_unpack_pack (u : Float.Model.UnpackedFloat) :
    formOf (unpack Format.binary64 (pack Format.binary64 u)) = .noNumber ↔ formOf u = .noNumber := by
  cases u with
  | notANumber => decide
  | infinity s => cases s <;> decide
  | zero s => cases s <;> decide
  | finite s m e hm =>
    have hplain : Form.plain ≠ .noNumber := by decide
    have hwidth : 2 ^ Format.binary64.exponentBits = 2048 := rfl
    refine iff_of_false ?_ hplain
    unfold pack
    dsimp only
    rw [hwidth]
    generalize (e + (Format.binary64.exponentBias : Int) +
      (Format.binary64.mantissaBitsWithoutImplicit : Int)).toNat = biased
    by_cases hlarge : 2048 ≤ biased + 1
    · rw [if_pos hlarge]
      cases s <;> decide
    · have hbiased : (BitVec.ofNat 11 biased).toNat ≠ 2047 := by
        rw [BitVec.toNat_ofNat]
        omega
      rw [if_neg hlarge, apply_ite (unpack Format.binary64), apply_ite formOf]
      split
      · exact form_packComponents_ne hbiased _ _
      · exact form_packComponents_ne (by decide) _ _

end Packing

section Operations
variable {x y : Float}

theorem formOf_dite {c : Prop} [Decidable c] {u : c → Float.Model.UnpackedFloat} {v : ¬c → Float.Model.UnpackedFloat}
    (hu : ∀ h, formOf (u h) ≠ .noNumber) (hv : ∀ h, formOf (v h) ≠ .noNumber) :
    formOf (if h : c then u h else v h) ≠ .noNumber := by
  split
  · exact hu _
  · exact hv _

theorem formOf_roundWithAccuracy (s : Sign) (mantissa : Nat) (exponent : Int) (accuracy : Accuracy) :
    formOf (roundWithAccuracy Format.binary64 s mantissa exponent accuracy) ≠ .noNumber := by
  have hzero : Form.zero ≠ .noNumber := by decide
  have hplain : Form.plain ≠ .noNumber := by decide
  unfold roundWithAccuracy
  exact formOf_dite (fun _ => hzero) fun _ => hplain

theorem isNaN_mul :
    isNaN (x * y) = true ↔ isNaN x = true ∨ isNaN y = true ∨ (isZero x = true ∧ isInfinite y = true) ∨
      (isInfinite x = true ∧ isZero y = true) := by
  have hproduct : form (x * y) = formOf (unpack Format.binary64 (pack Format.binary64 (mul Format.binary64
      (unpack Format.binary64 x.toBits.toBitVec) (unpack Format.binary64 y.toBits.toBitVec)))) := rfl
  simp only [isNaN_iff, isZero_iff, isInfinite_iff]
  rw [hproduct, formOf_unpack_pack, form, form]
  generalize unpack Format.binary64 x.toBits.toBitVec = u
  generalize unpack Format.binary64 y.toBits.toBitVec = v
  cases u <;> cases v
  case finite.finite =>
    refine iff_of_false (formOf_roundWithAccuracy _ _ _ _) ?_
    dsimp only [formOf]
    decide
  all_goals
    dsimp only [mul, formOf]
    decide

theorem isNaN_div :
    isNaN (x / y) = true ↔ isNaN x = true ∨ isNaN y = true ∨ (isZero x = true ∧ isZero y = true) ∨
      (isInfinite x = true ∧ isInfinite y = true) := by
  have hquotient : form (x / y) = formOf (unpack Format.binary64 (pack Format.binary64 (div Format.binary64
      (unpack Format.binary64 x.toBits.toBitVec) (unpack Format.binary64 y.toBits.toBitVec)))) := rfl
  simp only [isNaN_iff, isZero_iff, isInfinite_iff]
  rw [hquotient, formOf_unpack_pack, form, form]
  generalize unpack Format.binary64 x.toBits.toBitVec = u
  generalize unpack Format.binary64 y.toBits.toBitVec = v
  cases u <;> cases v
  case finite.finite =>
    refine iff_of_false (formOf_roundWithAccuracy _ _ _ _) ?_
    dsimp only [formOf]
    decide
  all_goals
    dsimp only [div, formOf]
    decide

theorem formOf_normalize (mantissa exponent : Int) (s : Sign) :
    formOf (Float.Model.UnpackedFloat.normalize Format.binary64 mantissa exponent s) ≠ .noNumber := by
  unfold Float.Model.UnpackedFloat.normalize
  cases compare mantissa 0 with
  | lt => exact formOf_roundWithAccuracy _ _ _ _
  | eq => exact (by decide : Form.zero ≠ .noNumber)
  | gt => exact formOf_roundWithAccuracy _ _ _ _

theorem Unsigned.isNaN_add (hx : Unsigned x) (hy : Unsigned y) :
    isNaN (x + y) = true ↔ isNaN x = true ∨ isNaN y = true := by
  have hsum : form (x + y) = formOf (unpack Format.binary64 (pack Format.binary64 (Float.Model.UnpackedFloat.add
      Format.binary64 (unpack Format.binary64 x.toBits.toBitVec) (unpack Format.binary64 y.toBits.toBitVec)))) := rfl
  have hu := plainSign_unpack (b := x.toBits.toBitVec) hx
  have hv := plainSign_unpack (b := y.toBits.toBitVec) hy
  simp only [isNaN_iff]
  rw [hsum, formOf_unpack_pack, form, form]
  generalize unpack Format.binary64 x.toBits.toBitVec = u at hu
  generalize unpack Format.binary64 y.toBits.toBitVec = v at hv
  cases u <;> cases v <;> cases hu <;> cases hv
  case finite.finite =>
    refine iff_of_false (formOf_normalize _ _ _) ?_
    dsimp only [formOf]
    decide
  case infinity.infinity => decide
  all_goals
    dsimp only [Float.Model.UnpackedFloat.add, formOf]
    decide

end Operations

end CorpusShape.Double
