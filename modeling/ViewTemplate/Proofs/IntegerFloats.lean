import Mathlib.Tactic.Common
import Mathlib.Tactic.NormNum
import Mathlib.Tactic.Positivity
import ViewTemplate.Proofs.NumeralText
import ViewTemplate.Value.Conversion

/-!
# Integers as floats

A value that reads as an integer of 64 bits also reads as a float: as the float closest to the
integer, or as minus zero where a text says so (`toNumber?_of_toInteger?`).  This float is zero only
if the integer is (`ofInt_beq_zero_iff`), though integers of more than 53 bits are rounded on the
way.

Rounding shifts a mantissa to the right until it has 53 bits.  A positive one loses its last bit
only to an exponent below the range, so an integer that is not zero stays away from zero (`Apart`)
through every step of the conversion.
-/

namespace ViewTemplate.Decimal

open Float.Model Float.Model.UnpackedFloat

/-! ## Floats apart from zero -/

lemma beq_zero_iff (x : Float) : (x == 0.0) = true ↔ ∃ sign, x.toModel.unpack = .zero sign := by
  change x.toModel.unpack.beq (.zero .positive) = true ↔ _
  cases x.toModel.unpack with
  | zero sign => exact iff_of_true rfl ⟨sign, rfl⟩
  | infinity sign => cases sign <;> exact iff_of_false (by decide) (by simp)
  | notANumber => exact iff_of_false (by decide) (by simp)
  | finite sign m e hm =>
    have hne : ¬∃ sign', UnpackedFloat.finite sign m e hm = .zero sign' := by
      rintro ⟨_, h⟩
      cases h
    cases sign <;> exact iff_of_false Bool.false_ne_true hne

/-- A value that is not zero, and that is in the range of floats if it is finite. -/
inductive Apart : UnpackedFloat → Prop
  | notANumber : Apart .notANumber
  | infinity (sign : Sign) : Apart (.infinity sign)
  | finite (sign : Sign) {m : ℕ} {e : ℤ} (hm : 0 < m) (hbits : m < 2 ^ 53) (hrange : -1074 ≤ e) :
    Apart (.finite sign m e hm)

lemma Apart.ne_zero {u : UnpackedFloat} (h : Apart u) (sign : Sign) : u ≠ .zero sign := by
  rintro rfl
  cases h

/-- Bits stand for a zero only if they have no exponent and no fraction. -/
lemma zero_or_apart (b : BitVec Format.binary64.numBits) :
    (unpackExponent b = 0#_ ∧ unpackMantissa b = 0#_ ∧
        ∃ sign, UnpackedFloat.unpack .binary64 b = .zero sign) ∨
      Apart (UnpackedFloat.unpack .binary64 b) := by
  unfold UnpackedFloat.unpack
  dsimp only
  by_cases hones : unpackExponent b = -1#_
  · -- the greatest exponent is kept for what is no finite number
    rw [if_pos hones]
    by_cases hmantissa : unpackMantissa b = 0#_
    · rw [if_pos hmantissa]
      exact .inr (.infinity _)
    · rw [if_neg hmantissa]
      exact .inr .notANumber
  rw [if_neg hones]
  by_cases hexponent : unpackExponent b = 0#_
  · rw [if_pos hexponent]
    by_cases hmantissa : unpackMantissa b = 0#_
    · exact .inl ⟨hexponent, hmantissa, _, dif_pos hmantissa⟩
    · rw [dif_neg hmantissa]
      refine .inr (.finite _ _ ((unpackMantissa b).isLt.trans (by decide)) ?_)
      simp only [Format.exponentBias]
      omega
  · rw [if_neg hexponent]
    refine .inr (.finite _ _ (1#1 ++ unpackMantissa b).isLt ?_)
    have hpos : (unpackExponent b).toNat ≠ 0 := by
      intro hzero
      exact hexponent (BitVec.toNat_inj.1 (by rw [hzero]; rfl))
    simp only [Format.exponentBias]
    omega

/-- What is apart from zero stays so when it is packed into bits. -/
lemma unpack_pack_ne_zero {u : UnpackedFloat} (h : Apart u) (sign : Sign) :
    (Float.Model.pack u).unpack ≠ .zero sign := by
  intro hzero
  obtain ⟨hexponent, hmantissa, -⟩ := (zero_or_apart _).resolve_right fun hapart =>
    hapart.ne_zero sign hzero
  change unpackExponent (UnpackedFloat.pack .binary64 u) = 0#_ at hexponent
  change unpackMantissa (UnpackedFloat.pack .binary64 u) = 0#_ at hmantissa
  cases h with
  | notANumber =>
    change unpackExponent (packComponents _ _ _ _) = 0#_ at hexponent
    rw [unpackExponent_packComponents] at hexponent
    exact absurd hexponent (by decide)
  | infinity sign =>
    change unpackExponent (packComponents _ _ _ _) = 0#_ at hexponent
    rw [unpackExponent_packComponents] at hexponent
    exact absurd hexponent (by decide)
  | @finite s m e hm hlt hge =>
    unfold UnpackedFloat.pack at hexponent hmantissa
    dsimp only at hexponent hmantissa
    split_ifs at hexponent hmantissa with hbig hbits
    · rw [packedInfinity, unpackExponent_packComponents] at hexponent
      exact absurd hexponent (by decide)
    · -- a normal float has an exponent between the least and the greatest one
      rw [unpackExponent_packComponents, ← BitVec.toNat_inj] at hexponent
      simp only [BitVec.toNat_ofNat, Format.exponentBias] at hexponent hbig
      omega
    · -- a subnormal one has fewer than 53 bits, and they are all kept
      have hne : m.log2 ≠ 52 := fun heq => hbits (by rw [heq]; rfl)
      have hlog : m.log2 < 53 := (Nat.log2_lt hm.ne').2 hlt
      have hsmall : m < 2 ^ 52 := (Nat.log2_lt hm.ne').1 (by omega)
      rw [unpackMantissa_packComponents, ← BitVec.toNat_inj] at hmantissa
      simp only [BitVec.toNat_ofNat] at hmantissa
      omega

lemma apart_unpack {x : Float} (h : (x == 0.0) ≠ true) : Apart x.toModel.unpack := by
  rw [Ne, beq_zero_iff] at h
  exact (zero_or_apart _).resolve_left fun hzero => h hzero.2.2

/-! ## Rounding -/

lemma mantissa_shiftRight (em : ExtendedMantissa) (k : ℕ) :
    (em >>> k).mantissa = em.mantissa / 2 ^ k := by
  change (k.repeat ExtendedMantissa.shiftRightOne em).mantissa = _
  induction k with
  | zero => simp [Nat.repeat]
  | succ k ih =>
    rw [Nat.repeat]
    change (k.repeat ExtendedMantissa.shiftRightOne em).mantissa / 2 = _
    rw [ih, Nat.div_div_eq_div_mul, pow_succ]

lemma roundedMantissa_bounds (em : ExtendedMantissa) :
    em.mantissa ≤ em.roundedMantissa ∧ em.roundedMantissa ≤ em.mantissa + 1 := by
  obtain ⟨m, roundBit, stickyBit⟩ := em
  cases roundBit <;> cases stickyBit <;>
    simp only [ExtendedMantissa.roundedMantissa, ExtendedMantissa.accuracy,
      Accuracy.roundToNearestEven] <;> omega

/-- The exponent that a number gets whose leading bit is at the exponent `top`. -/
lemma targetExponent_binary64 (top : ℤ) :
    Format.binary64.targetExponent top = max (top - 53) (-1074) := rfl

/-- A mantissa in range that is shifted once more keeps a bit and its exponent. -/
lemma shift_rounded {m : ℕ} {e : ℤ} (hpos : 0 < m) (hle : m ≤ 2 ^ 53) (he : -1074 ≤ e) :
    let shifted := shiftToTargetExponent .binary64 m e .exact
    0 < shifted.1.mantissa ∧ shifted.1.mantissa < 2 ^ 53 ∧ -1074 ≤ shifted.2 := by
  intro shifted
  have hmantissa : shifted.1.mantissa =
      m / 2 ^ (Format.binary64.targetExponent (totalExponent m e) - e).toNat :=
    mantissa_shiftRight _ _
  have hexponent : shifted.2 =
      e + (Format.binary64.targetExponent (totalExponent m e) - e).toNat := rfl
  rw [hmantissa, hexponent, targetExponent_binary64]
  obtain hlt | rfl := hle.lt_or_eq
  · have hlog : m.log2 < 53 := (Nat.log2_lt hpos.ne').2 hlt
    have hshift : (max (totalExponent m e - 53) (-1074) - e).toNat = 0 := by
      unfold totalExponent
      omega
    rw [hshift, pow_zero, Nat.div_one]
    exact ⟨hpos, hlt, by omega⟩
  · have hshift : (max (totalExponent (2 ^ 53) e - 53) (-1074) - e).toNat = 1 := by
      unfold totalExponent
      rw [Nat.log2_two_pow]
      omega
    rw [hshift]
    exact ⟨by decide, by decide, by omega⟩

/-- A positive mantissa whose leading bit is in range is not rounded to zero. -/
lemma apart_roundWithAccuracy (sign : Sign) {m : ℕ} {e : ℤ} (hpos : 0 < m)
    (htop : -1074 < totalExponent m e) :
    Apart (roundWithAccuracy .binary64 sign m e .exact) := by
  set first := shiftToTargetExponent .binary64 m e .exact with hfirst
  have hbounds : 0 < first.1.roundedMantissa ∧ first.1.roundedMantissa ≤ 2 ^ 53 ∧
      -1074 ≤ first.2 := by
    have hmantissa : first.1.mantissa =
        m / 2 ^ (Format.binary64.targetExponent (totalExponent m e) - e).toNat :=
      mantissa_shiftRight _ _
    have hexponent : first.2 =
        e + (Format.binary64.targetExponent (totalExponent m e) - e).toNat := rfl
    rw [targetExponent_binary64] at hmantissa hexponent
    obtain ⟨hlow, hhigh⟩ := roundedMantissa_bounds first.1
    unfold totalExponent at htop hmantissa hexponent
    set shift := (max ((m.log2 : ℤ) + 1 + e - 53) (-1074) - e).toNat with hshift
    -- the shift takes as many bits as there are too many, and never the leading one
    have hkeep : 2 ^ shift ≤ m := by
      refine le_trans (Nat.pow_le_pow_right (by omega) ?_) (Nat.log2_self_le hpos.ne')
      omega
    have hcut : m < 2 ^ 53 * 2 ^ shift := by
      rw [← pow_add]
      refine lt_of_lt_of_le Nat.lt_log2_self (Nat.pow_le_pow_right (by omega) ?_)
      omega
    have hone : 1 ≤ m / 2 ^ shift := (Nat.one_le_div_iff (by positivity)).2 hkeep
    have hfew : m / 2 ^ shift < 2 ^ 53 := Nat.div_lt_of_lt_mul (by rwa [mul_comm])
    exact ⟨by omega, by omega, by omega⟩
  obtain ⟨hkept, hfew, hrange⟩ := shift_rounded hbounds.1 hbounds.2.1 hbounds.2.2
  unfold roundWithAccuracy
  dsimp only
  rw [← hfirst, dif_neg hkept.ne']
  exact .finite _ _ hfew hrange

lemma le_log2_shiftLeft {n : ℕ} (hn : 0 < n) (k : ℕ) : k ≤ (n <<< k).log2 := by
  rw [Nat.shiftLeft_eq]
  refine (Nat.le_log2 (by positivity)).2 ?_
  exact Nat.le_mul_of_pos_left _ hn

lemma apart_round (sign : Sign) {n : ℕ} (hn : 0 < n) :
    Apart (UnpackedFloat.round .binary64 sign n 0) := by
  unfold UnpackedFloat.round decreaseExponent
  dsimp only
  set k := (0 - Format.binary64.targetExponent (totalExponent n 0)).toNat
  refine apart_roundWithAccuracy sign (by rw [Nat.shiftLeft_eq]; positivity) ?_
  have hlog := le_log2_shiftLeft hn k
  unfold totalExponent
  omega

/-! ## Integers -/

lemma apart_ofNat {n : ℕ} (hn : 0 < n) : Apart (UnpackedFloat.ofNat .binary64 n) := by
  have hpositive : compare (n : ℤ) 0 = .gt := Int.compare_eq_gt.2 (by omega)
  rw [UnpackedFloat.ofNat, UnpackedFloat.ofInt, UnpackedFloat.normalize, hpositive]
  exact apart_round .positive hn

lemma apart_toFloat {n : ℕ} (hn : 0 < n) (hsmall : n < 2 ^ 64) :
    Apart n.toUInt64.toFloat.toModel.unpack := by
  have hvalue : n.toUInt64.toNat = n := UInt64.toNat_ofNat_of_lt' hsmall
  apply apart_unpack
  rw [Ne, beq_zero_iff]
  rintro ⟨sign, hzero⟩
  refine unpack_pack_ne_zero ?_ sign hzero
  rw [UnpackedFloat.ofUInt64, hvalue]
  exact apart_ofNat hn

lemma mul_finite (spec : Format) {s₁ s₂ : Sign} {m₁ m₂ : ℕ} {e₁ e₂ : ℤ} (h₁ : 0 < m₁)
    (h₂ : 0 < m₂) : UnpackedFloat.mul spec (.finite s₁ m₁ e₁ h₁) (.finite s₂ m₂ e₂ h₂) =
      roundWithAccuracy spec (s₁ * s₂) (m₁ * m₂) (e₁ + e₂) .exact := rfl

lemma unpack_one : ∃ h, (Float.ofBits 0x3FF0000000000000).toModel.unpack =
    .finite .positive (2 ^ 52) (-52) h := ⟨by decide, rfl⟩

lemma apart_mul_one {u : UnpackedFloat} (hu : Apart u) :
    Apart (UnpackedFloat.mul .binary64 u (Float.ofBits 0x3FF0000000000000).toModel.unpack) := by
  obtain ⟨hone, hunpack⟩ := unpack_one
  rw [hunpack]
  cases hu with
  | notANumber => exact .notANumber
  | infinity sign => exact .infinity _
  | finite sign hm hbits hrange =>
    rw [mul_finite]
    refine apart_roundWithAccuracy _ (by positivity) ?_
    have hlog := le_log2_shiftLeft hm 52
    rw [Nat.shiftLeft_eq] at hlog
    unfold totalExponent
    omega

lemma apart_ofScientific {n : ℕ} (hn : 0 < n) :
    Apart (UnpackedFloat.ofScientific .binary64 n 0) := by
  have hpow : (0 : ℤ) < 2 ^ Format.binary64.exponentBits := by positivity
  unfold UnpackedFloat.ofScientific
  rw [dif_neg hn.ne', if_neg (by omega), if_neg (by omega), if_pos le_rfl, mul_finite]
  refine apart_roundWithAccuracy _ (by rw [Nat.shiftLeft_eq]; positivity) ?_
  have hlog := le_log2_shiftLeft hn Format.binary64.mantissaBits
  unfold totalExponent
  rw [Int.toNat_zero, pow_zero, mul_one]
  omega

/-- A natural number is rounded to zero only if it is zero. -/
lemma ofNat_beq_zero_iff (n : ℕ) : (Float.ofNat n == 0.0) = true ↔ n = 0 := by
  constructor
  · intro h
    by_contra hne
    have hpos := Nat.pos_of_ne_zero hne
    obtain ⟨sign, hzero⟩ := (beq_zero_iff _).1 h
    change (Float.ofScientific n false 0).toModel.unpack = .zero sign at hzero
    unfold Float.ofScientific at hzero
    by_cases hsmall : n < 2 ^ 53 ∧ 0 ≤ 22
    · rw [dif_pos hsmall] at hzero
      exact unpack_pack_ne_zero (apart_mul_one (apart_toFloat hpos (by omega))) sign hzero
    · rw [dif_neg hsmall] at hzero
      exact unpack_pack_ne_zero (apart_ofScientific hpos) sign hzero
  · rintro rfl
    decide +kernel

lemma apart_neg {u : UnpackedFloat} (hu : Apart u) : Apart u.neg := by
  cases hu with
  | notANumber => exact .notANumber
  | infinity sign => exact .infinity _
  | finite sign hm hbits hrange => exact .finite _ hm hbits hrange

lemma neg_beq_zero_iff (x : Float) : (-x == 0.0) = true ↔ (x == 0.0) = true := by
  constructor
  · intro h
    by_contra hx
    obtain ⟨sign, hzero⟩ := (beq_zero_iff _).1 h
    change (Float.Model.pack x.toModel.unpack.neg).unpack = .zero sign at hzero
    refine unpack_pack_ne_zero ?_ sign hzero
    exact apart_neg (apart_unpack hx)
  · intro h
    obtain ⟨sign, hzero⟩ := (beq_zero_iff _).1 h
    refine (beq_zero_iff _).2 ⟨-sign, ?_⟩
    change (Float.Model.pack x.toModel.unpack.neg).unpack = _
    rw [hzero]
    cases sign <;> rfl

lemma ofInt_natCast (n : ℕ) : Float.ofInt n = Float.ofNat n := rfl

lemma ofInt_neg_natCast {n : ℕ} (hn : 0 < n) : Float.ofInt (-n) = -Float.ofNat n := by
  cases n with
  | zero => exact absurd hn (lt_irrefl 0)
  | succ n => rfl

lemma ofInt_beq_zero_iff (n : ℤ) : (Float.ofInt n == 0.0) = true ↔ n = 0 := by
  obtain ⟨m, rfl | rfl⟩ := n.eq_nat_or_neg
  · rw [ofInt_natCast, ofNat_beq_zero_iff, Int.natCast_eq_zero]
  · obtain rfl | hpos := m.eq_zero_or_pos
    · decide +kernel
    · rw [ofInt_neg_natCast hpos, neg_beq_zero_iff, ofNat_beq_zero_iff, neg_eq_zero,
        Int.natCast_eq_zero]

/-! ## Texts of integers -/

lemma toLower_of_isDigit {c : Char} (h : c.isDigit = true) : c.toLower = c := by
  have hrange : ¬(c.val ≥ 'A'.val ∧ c.val ≤ 'Z'.val) := by
    simp only [Char.isDigit, Bool.and_eq_true, decide_eq_true_eq] at h
    rintro ⟨hge, -⟩
    exact absurd (UInt32.le_trans hge h.2) (by decide)
  exact dif_neg hrange

/-- Digits are none of the words that name a float. -/
lemma digits_ne_word {digits : List Char} (hdigits : ∀ c ∈ digits, c.isDigit = true)
    {word : String} (hword : ∃ c ∈ word.toList, c.isDigit = false) :
    String.ofList (digits.map Char.toLower) ≠ word := by
  rintro rfl
  obtain ⟨c, hmem, hc⟩ := hword
  rw [String.toList_ofList, List.mem_map] at hmem
  obtain ⟨d, hd, rfl⟩ := hmem
  rw [toLower_of_isDigit (hdigits d hd), hdigits d hd] at hc
  exact absurd hc (by decide)

lemma readNat?_eq_some {text : List Char} {n : ℕ} (h : readNat? text = some n) :
    text ≠ [] ∧ (∀ c ∈ text, c.isDigit = true) ∧ digitsValue text = n := by
  unfold readNat? at h
  split_ifs at h with hbad
  simp only [Bool.or_eq_true, not_or, List.isEmpty_iff, Bool.not_eq_true', Bool.not_eq_false,
    List.all_eq_true] at hbad
  exact ⟨hbad.1, hbad.2, Option.some.inj h⟩

lemma decimalFloat_zero {n : ℕ} (h : n < 10 ^ 20) : decimalFloat n 0 = Float.ofNat n := by
  have hlength : (Nat.toDigits 10 n).length ≤ 20 :=
    (Nat.length_toDigits_le_iff (by omega) (by omega)).2 h
  unfold decimalFloat
  by_cases hzero : n = 0
  · subst hzero
    decide +kernel
  · rw [if_neg (by omega), if_neg (by omega), if_pos le_rfl]
    rfl

/-- What reads as an integer also reads as a float, of the same sign and magnitude. -/
lemma readFloat?_of_readInt64? {text : List Char} {n : ℤ} (h : readInt64? text = some n) :
    ∃ negative magnitude, n = (if negative then -(magnitude : ℤ) else magnitude) ∧
      readFloat? text = some (withSign negative (Float.ofNat magnitude)) := by
  unfold readInt64? at h
  unfold readFloat?
  generalize takeSign text = signed at h ⊢
  obtain ⟨negative, digits⟩ := signed
  obtain ⟨magnitude, hread, hrange⟩ := Option.bind_eq_some_iff.1 h
  obtain ⟨hfits, hsome⟩ := Option.ite_none_right_eq_some.1 hrange
  obtain rfl := Option.some.inj hsome
  refine ⟨negative, magnitude, rfl, ?_⟩
  obtain ⟨hne, hdigits, rfl⟩ := readNat?_eq_some hread
  have hsmall : digitsValue digits < 10 ^ 20 := by
    unfold minInt64 maxInt64 at hfits
    split_ifs at hfits <;> omega
  have hmagnitude : readMagnitude? digits = some (Float.ofNat (digitsValue digits)) := by
    have hwhole := readNumeral?_whole hne hdigits (stopsAt_nil _) (by simp)
    rw [List.append_nil] at hwhole
    rw [readMagnitude?, hwhole]
    exact congrArg some (decimalFloat_zero hsmall)
  dsimp only
  rw [if_neg, if_neg (digits_ne_word hdigits (by simp)), hmagnitude]
  · rfl
  · exact not_or.2 ⟨digits_ne_word hdigits (by simp), digits_ne_word hdigits (by simp)⟩

end ViewTemplate.Decimal

namespace ViewTemplate.Value

open Decimal

/-! ## Values that read as integers -/

/-- A value that reads as an integer counts as the float closest to it, which is zero only for
zero. -/
lemma toNumber?_of_toInteger? {v : Value} {n : ℤ} (h : v.toInteger? = some n) :
    ∃ x, v.toNumber? = some x ∧ ((x == 0.0) = true ↔ n = 0) ∧ (n ≠ 0 → x = Float.ofInt n) := by
  cases v with
  | null =>
    obtain rfl := Option.some.inj h
    exact ⟨0.0, rfl, by decide +kernel⟩
  | bool b =>
    obtain rfl := Option.some.inj h
    cases b with
    | false => exact ⟨0.0, rfl, by decide +kernel⟩
    | true => exact ⟨1.0, rfl, by decide +kernel⟩
  | number m =>
    cases m with
    | int m =>
      obtain ⟨-, hsome⟩ := Option.ite_none_right_eq_some.1 h
      obtain rfl := Option.some.inj hsome
      exact ⟨_, rfl, ofInt_beq_zero_iff m, fun _ => rfl⟩
    | float x => simp [toInteger?, Number.toInt64?] at h
  | text s =>
    obtain ⟨negative, magnitude, rfl, hread⟩ := readFloat?_of_readInt64? h
    refine ⟨_, hread, ?_⟩
    cases negative with
    | false => exact ⟨ofInt_beq_zero_iff magnitude, fun _ => rfl⟩
    | true =>
      -- minus zero is the only float here that is not made from the integer
      simp only [withSign, if_true]
      rw [neg_beq_zero_iff, ofNat_beq_zero_iff, neg_eq_zero, Int.natCast_eq_zero]
      refine ⟨Iff.rfl, fun hne => (ofInt_neg_natCast (Nat.pos_of_ne_zero ?_)).symm⟩
      rwa [neg_ne_zero, Int.natCast_ne_zero] at hne
  | list items => simp [toInteger?] at h
  | map entries => simp [toInteger?] at h

end ViewTemplate.Value
