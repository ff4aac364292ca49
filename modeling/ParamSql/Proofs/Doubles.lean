import Mathlib
import ParamSql.Decimal.Exact

namespace ParamSql

namespace Decimal

open Float.Model (UnpackedFloat Format)

/-- The number that a double is, unless it is infinite or no number at all. -/
def number? (x : Float) : Option ℚ :=
  match x.toModel.unpack with
  | .infinity _ => none
  | .notANumber => none
  | .zero _ => some 0
  | .finite sign mantissa exponent _ => some ((sign.apply mantissa : Int) * 2 ^ exponent)

/-- The number that a sign, a significand and a power of two are. -/
def Exact.number? : Exact → Option ℚ
  | .finite negative significand exponent => some (signed negative significand * 2 ^ exponent)
  | .infinite _ => none
  | .nan => none

section Bits

variable (bits : BitVec Format.binary64.numBits)

theorem toNat_unpackMantissa :
    (UnpackedFloat.unpackMantissa bits).toNat = bits.toNat % Nat.pow 2 52 :=
  rfl

theorem toNat_unpackExponent :
    (UnpackedFloat.unpackExponent bits).toNat = bits.toNat / Nat.pow 2 52 % Nat.pow 2 11 := by
  change (bits.toNat >>> 52) % 2 ^ 11 = _
  rw [Nat.shiftRight_eq_div_pow]

theorem toNat_unpackSign : (UnpackedFloat.unpackSign bits).toNat = bits.toNat / Nat.pow 2 63 := by
  have hbits : bits.toNat < 2 ^ 64 := bits.isLt
  change (bits.toNat >>> 63) % 2 ^ 1 = bits.toNat / 2 ^ 63
  rw [Nat.shiftRight_eq_div_pow]
  omega

theorem unpackMantissa_eq_zero_iff :
    UnpackedFloat.unpackMantissa bits = 0#_ ↔ bits.toNat % Nat.pow 2 52 = 0 := by
  rw [← BitVec.toNat_inj, toNat_unpackMantissa]
  rfl

theorem unpackExponent_eq_zero_iff :
    UnpackedFloat.unpackExponent bits = 0#_ ↔
      bits.toNat / Nat.pow 2 52 % Nat.pow 2 11 = 0 := by
  rw [← BitVec.toNat_inj, toNat_unpackExponent]
  rfl

theorem unpackExponent_eq_ones_iff :
    UnpackedFloat.unpackExponent bits = -1#_ ↔
      bits.toNat / Nat.pow 2 52 % Nat.pow 2 11 = 2047 := by
  rw [← BitVec.toNat_inj, toNat_unpackExponent]
  rfl

theorem unpackSign_eq_zero_iff :
    UnpackedFloat.unpackSign bits = 0#1 ↔ ¬Nat.pow 2 63 ≤ bits.toNat := by
  rw [← BitVec.toNat_inj, toNat_unpackSign, Nat.not_le]
  exact Nat.div_eq_zero_iff_lt (by decide)

theorem sign_apply (n : Nat) :
    (UnpackedFloat.Sign.ofBitVec (UnpackedFloat.unpackSign bits)).apply n =
      signed (Nat.pow 2 63 ≤ bits.toNat) n := by
  rw [UnpackedFloat.Sign.ofBitVec, signed]
  by_cases h : Nat.pow 2 63 ≤ bits.toNat
  · rw [if_neg fun hsign => (unpackSign_eq_zero_iff bits).1 hsign h, if_pos (decide_eq_true h)]
    rfl
  · rw [if_pos ((unpackSign_eq_zero_iff bits).2 h), if_neg (by rwa [decide_eq_true_eq])]
    rfl

theorem toNat_implicit (mantissa : BitVec 52) :
    (1#1 ++ mantissa).toNat = Nat.pow 2 52 + mantissa.toNat := by
  rw [BitVec.toNat_append, ← Nat.shiftLeft_add_eq_or_of_lt mantissa.isLt]
  rfl

end Bits

/-- What a double is taken apart into makes the number that the double is. -/
theorem number?_exact (x : Float) : (exact x).number? = number? x := by
  have hbits : x.toBits.toNat = x.toModel.toBits.toBitVec.toNat := rfl
  rw [number?, Float.Model.unpack, UnpackedFloat.unpack, exact, hbits]
  generalize x.toModel.toBits.toBitVec = bits
  dsimp only
  by_cases hones : bits.toNat / Nat.pow 2 52 % Nat.pow 2 11 = 2047
  · rw [if_pos hones, if_pos ((unpackExponent_eq_ones_iff bits).2 hones)]
    by_cases hfraction : bits.toNat % Nat.pow 2 52 = 0
    · rw [if_pos hfraction, if_pos ((unpackMantissa_eq_zero_iff bits).2 hfraction)]
      rfl
    · rw [if_neg hfraction, if_neg fun h => hfraction ((unpackMantissa_eq_zero_iff bits).1 h)]
      rfl
  · rw [if_neg hones, if_neg fun h => hones ((unpackExponent_eq_ones_iff bits).1 h)]
    by_cases hexponent : bits.toNat / Nat.pow 2 52 % Nat.pow 2 11 = 0
    · rw [if_pos hexponent, if_pos ((unpackExponent_eq_zero_iff bits).2 hexponent)]
      by_cases hfraction : bits.toNat % Nat.pow 2 52 = 0
      · rw [dif_pos ((unpackMantissa_eq_zero_iff bits).2 hfraction), hfraction]
        simp [Exact.number?, signed]
      · rw [dif_neg fun h => hfraction ((unpackMantissa_eq_zero_iff bits).1 h)]
        simp only [Exact.number?, sign_apply, toNat_unpackMantissa, toNat_unpackExponent, hexponent]
        rfl
    · rw [if_neg hexponent, if_neg fun h => hexponent ((unpackExponent_eq_zero_iff bits).1 h)]
      simp only [Exact.number?, sign_apply, toNat_implicit, toNat_unpackMantissa, toNat_unpackExponent]
      rfl

theorem signed_eq_mul_iff (negative : Bool) (significand : Nat) {scale : Nat} (hscale : 0 < scale)
    (n : Int) : signed negative significand = n * scale ↔
      significand % scale = 0 ∧ signed negative (significand / scale) = n := by
  have hcast : (scale : Int) ≠ 0 := by omega
  constructor
  · intro h
    have hdvd : (scale : Int) ∣ significand := by
      have hsigned : (scale : Int) ∣ signed negative significand := ⟨n, by rw [h, Int.mul_comm]⟩
      cases negative with
      | false => exact hsigned
      | true => exact Int.dvd_neg.1 hsigned
    obtain ⟨q, rfl⟩ := Int.natCast_dvd_natCast.1 hdvd
    rw [Nat.mul_mod_right, Nat.mul_div_cancel_left q hscale]
    refine ⟨rfl, Int.eq_of_mul_eq_mul_right hcast ?_⟩
    rw [← h]
    cases negative <;> simp [signed, mul_comm]
  · rintro ⟨hmod, rfl⟩
    obtain ⟨q, rfl⟩ := Nat.dvd_of_mod_eq_zero hmod
    rw [Nat.mul_div_cancel_left q hscale]
    cases negative <;> simp [signed, mul_comm]

/-- A double is recognized as an integer if and only if it is that number. -/
theorem integral?_eq_some_iff (x : Float) (n : Int) :
    integral? x = some n ↔ number? x = some (n : ℚ) := by
  rw [← number?_exact, integral?]
  cases exact x with
  | infinite negative => exact iff_of_false nofun nofun
  | nan => exact iff_of_false nofun nofun
  | finite negative significand exponent =>
    rw [Exact.number?, Option.some.injEq]
    cases exponent with
    | ofNat e =>
      have hnumber : (signed negative significand : ℚ) * 2 ^ (Int.ofNat e) =
          (signed negative (significand * Nat.pow 2 e) : Int) := by
        cases negative <;> simp [signed]
      rw [hnumber, Int.cast_inj]
      exact Option.some_inj
    | negSucc e =>
      have hscale : (2 : ℚ) ^ (e + 1) ≠ 0 := by positivity
      have hnumber : (signed negative significand : ℚ) * 2 ^ (Int.negSucc e) = n ↔
          signed negative significand = n * (Nat.pow 2 (e + 1) : Nat) := by
        rw [zpow_negSucc, mul_inv_eq_iff_eq_mul₀ hscale]
        exact_mod_cast Iff.rfl
      have hpow : 0 < Nat.pow 2 (e + 1) := Nat.two_pow_pos _
      rw [hnumber, signed_eq_mul_iff negative significand hpow]
      dsimp only
      split
      · rename_i hmod
        rw [Option.some.injEq]
        exact (and_iff_right hmod).symm
      · rename_i hmod
        exact iff_of_false nofun fun h => hmod h.1

end Decimal

end ParamSql
