import Mathlib.Algebra.Order.Field.Power
import Mathlib.Algebra.Order.Ring.Rat
import Mathlib.Tactic.Common
import Mathlib.Tactic.FieldSimp
import Mathlib.Tactic.Linarith
import Mathlib.Tactic.Positivity
import Mathlib.Tactic.Ring
import ViewTemplate.Decimal.Shortest
import ViewTemplate.Proofs.NumeralText

/-!
# The shortest decimal tells floats apart

`Binary.Rounds x q` says that the rational `q` is rounded to the magnitude `x`: it lies between the
points halfway to the two neighbours of `x`, and on one of them only if the mantissa of `x` is even.
The decimal that is chosen for a float lies there (`rounds_shortest`), whether the search finds one
or falls back to the exact value.  No rational is rounded to two magnitudes (`Rounds.unique`), so
the decimals of different magnitudes have different values (`shortest_value_inj`).
-/

namespace ViewTemplate.Decimal

/-! ## Exact comparison -/

lemma zpow_mul_pow_toNat {b : ℚ} (hb : b ≠ 0) (e : ℤ) : b ^ e * b ^ (-e).toNat = b ^ e.toNat := by
  rw [← zpow_natCast, ← zpow_natCast, ← zpow_add₀ hb]
  congr 1
  omega

section Compare

variable (digits : Nat) (ten : Int) (bits : Nat) (two : Int)

/-- The comparison is that of the two numbers, both scaled until they are integers. -/
lemma exists_scale : ∃ scale : ℚ, 0 < scale ∧
    digits * 10 ^ ten * scale =
      ((digits * Nat.pow 10 ten.toNat) <<< (-two).toNat : Nat) ∧
    bits * 2 ^ two * scale = ((bits * Nat.pow 10 (-ten).toNat) <<< two.toNat : Nat) := by
  have hten : (10 : ℚ) ^ ten * 10 ^ (-ten).toNat = 10 ^ ten.toNat :=
    zpow_mul_pow_toNat (by norm_num) ten
  have htwo : (2 : ℚ) ^ two * 2 ^ (-two).toNat = 2 ^ two.toNat :=
    zpow_mul_pow_toNat (by norm_num) two
  refine ⟨10 ^ (-ten).toNat * 2 ^ (-two).toNat, by positivity, ?_, ?_⟩
  · simp only [Nat.shiftLeft_eq, Nat.pow_eq, Nat.cast_mul, Nat.cast_pow, Nat.cast_ofNat]
    rw [← hten]
    ring
  · simp only [Nat.shiftLeft_eq, Nat.pow_eq, Nat.cast_mul, Nat.cast_pow, Nat.cast_ofNat]
    rw [← htwo]
    ring

lemma compareScaled_eq_lt_iff : compareScaled digits ten bits two = .lt ↔
    (digits * 10 ^ ten : ℚ) < bits * 2 ^ two := by
  obtain ⟨scale, hscale, hleft, hright⟩ := exists_scale digits ten bits two
  rw [compareScaled, Nat.compare_eq_lt, ← mul_lt_mul_iff_left₀ hscale, hleft, hright, Nat.cast_lt]

lemma compareScaled_eq_gt_iff : compareScaled digits ten bits two = .gt ↔
    (bits * 2 ^ two : ℚ) < digits * 10 ^ ten := by
  obtain ⟨scale, hscale, hleft, hright⟩ := exists_scale digits ten bits two
  rw [compareScaled, Nat.compare_eq_gt, ← mul_lt_mul_iff_left₀ hscale, hleft, hright, Nat.cast_lt]

lemma compareScaled_eq_eq_iff : compareScaled digits ten bits two = .eq ↔
    (digits * 10 ^ ten : ℚ) = bits * 2 ^ two := by
  obtain ⟨scale, hscale, hleft, hright⟩ := exists_scale digits ten bits two
  rw [compareScaled, Nat.compare_eq_eq, ← mul_left_inj' hscale.ne', hleft, hright, Nat.cast_inj]

end Compare

namespace Binary

/-! ## What is rounded to a magnitude -/

/-- The lower end of what is rounded to a magnitude, in quarters of its last place. -/
def low (x : Binary) : Nat :=
  if x.narrowBelow then 4 * x.mantissa - 1 else 4 * x.mantissa - 2

/-- The upper end of what is rounded to a magnitude, in quarters of its last place. -/
def high (x : Binary) : Nat :=
  4 * x.mantissa + 2

/-- A rational is rounded to a magnitude. -/
structure Rounds (x : Binary) (q : ℚ) : Prop where
  above : x.low * 2 ^ (x.exponent - 2) < q ∨
    x.mantissa % 2 = 0 ∧ q = x.low * 2 ^ (x.exponent - 2)
  below : q < x.high * 2 ^ (x.exponent - 2) ∨
    x.mantissa % 2 = 0 ∧ q = x.high * 2 ^ (x.exponent - 2)

lemma roundsHere_iff {x : Binary} {d : Numeral} :
    x.roundsHere d = true ↔ x.Rounds d.value := by
  have hlow := compareScaled_eq_gt_iff d.digits d.exponent x.low (x.exponent - 2)
  have hlow' := compareScaled_eq_eq_iff d.digits d.exponent x.low (x.exponent - 2)
  have hhigh := compareScaled_eq_lt_iff d.digits d.exponent x.high (x.exponent - 2)
  have hhigh' := compareScaled_eq_eq_iff d.digits d.exponent x.high (x.exponent - 2)
  have hboth : x.roundsHere d = true ↔
      (compareScaled d.digits d.exponent x.low (x.exponent - 2) = .gt ∨ x.mantissa % 2 = 0 ∧
        compareScaled d.digits d.exponent x.low (x.exponent - 2) = .eq) ∧
      (compareScaled d.digits d.exponent x.high (x.exponent - 2) = .lt ∨ x.mantissa % 2 = 0 ∧
        compareScaled d.digits d.exponent x.high (x.exponent - 2) = .eq) := by
    simp [roundsHere, low, high]
  rw [hboth, hlow, hlow', hhigh, hhigh']
  exact ⟨fun ⟨h, h'⟩ => ⟨h, h'⟩, fun ⟨h, h'⟩ => ⟨h, h'⟩⟩

/-- The magnitudes of floats: a mantissa of 53 bits, with the top bit set unless the exponent is the
least one.  The lower neighbour of a power of two is nearer. -/
structure IsMagnitude (x : Binary) : Prop where
  mantissa_lt : x.mantissa < 2 ^ 53
  exponent_ge : -1074 ≤ x.exponent
  normal : x.exponent = -1074 ∨ 2 ^ 52 ≤ x.mantissa
  narrowBelow_iff : x.narrowBelow = true ↔ x.mantissa = 2 ^ 52 ∧ -1074 < x.exponent

lemma isMagnitude_ofFloat (x : Float) : (ofFloat x).IsMagnitude := by
  have hfraction : fractionBits x < 2 ^ 52 := Nat.mod_lt _ (by norm_num)
  unfold ofFloat
  by_cases hbiased : exponentBits x = 0
  · simp only [hbiased, if_pos]
    constructor <;> simp only <;> grind
  · simp only [if_neg hbiased]
    constructor <;> simp only [Bool.and_eq_true, beq_iff_eq, decide_eq_true_eq] <;> omega

lemma IsMagnitude.eq {x y : Binary} (hx : x.IsMagnitude) (hy : y.IsMagnitude)
    (hmantissa : x.mantissa = y.mantissa) (hexponent : x.exponent = y.exponent) : x = y := by
  have hnarrow : x.narrowBelow = y.narrowBelow := by
    rw [Bool.eq_iff_iff, hx.narrowBelow_iff, hy.narrowBelow_iff, hmantissa, hexponent]
  cases x
  cases y
  simp only at hmantissa hexponent hnarrow
  rw [hmantissa, hexponent, hnarrow]

/-- What is rounded to both of two magnitudes puts an end of the one before an end of the other. -/
lemma Rounds.low_le_high {x y : Binary} {q : ℚ} (hx : x.Rounds q) (hy : y.Rounds q) {k : Nat}
    (hk : y.exponent = x.exponent + k) :
    y.low * 2 ^ k < x.high ∨
      x.mantissa % 2 = 0 ∧ y.mantissa % 2 = 0 ∧ y.low * 2 ^ k = x.high := by
  have hunit : (0 : ℚ) < 2 ^ (x.exponent - 2) := by positivity
  have hend : (y.low * 2 ^ (y.exponent - 2) : ℚ) =
      ((y.low * 2 ^ k : Nat) : ℚ) * 2 ^ (x.exponent - 2) := by
    rw [hk, show x.exponent + k - 2 = x.exponent - 2 + k by ring, zpow_add₀ (by norm_num),
      zpow_natCast]
    push_cast
    ring
  have hlow := hy.above
  rw [hend] at hlow
  by_cases hlt : y.low * 2 ^ k < x.high
  · exact .inl hlt
  have hle : (x.high : ℚ) ≤ ((y.low * 2 ^ k : Nat) : ℚ) := by exact_mod_cast Nat.not_lt.1 hlt
  have hscaled := mul_le_mul_of_nonneg_right hle hunit.le
  -- both ends are the rational itself, so both mantissas are even
  rcases hx.below with hhigh | ⟨hx, hhigh⟩
  · rcases hlow with hlow | ⟨-, hlow⟩ <;> linarith
  · rcases hlow with hlow | ⟨hy, hlow⟩
    · linarith
    · refine .inr ⟨hx, hy, ?_⟩
      rw [hlow] at hhigh
      exact_mod_cast mul_right_cancel₀ hunit.ne' hhigh

lemma low_ge (x : Binary) : 4 * x.mantissa - 2 ≤ x.low := by
  unfold low
  split <;> omega

lemma IsMagnitude.low_ge_of_lt {x : Binary} (h : x.IsMagnitude) (hexponent : -1074 < x.exponent) :
    2 ^ 54 - 1 ≤ x.low := by
  have hnormal : 2 ^ 52 ≤ x.mantissa := h.normal.resolve_left (by omega)
  by_cases hnarrow : x.narrowBelow = true
  · have hpower := (h.narrowBelow_iff.1 hnarrow).1
    rw [low, if_pos hnarrow]
    omega
  · have hpower : x.mantissa ≠ 2 ^ 52 := fun hm => hnarrow (h.narrowBelow_iff.2 ⟨hm, hexponent⟩)
    rw [low, if_neg hnarrow]
    omega

/-- A larger exponent puts all that is rounded to a magnitude out of reach. -/
lemma Rounds.exponent_le {x y : Binary} (hx : x.IsMagnitude) (hy : y.IsMagnitude) {q : ℚ}
    (hxq : x.Rounds q) (hyq : y.Rounds q) : y.exponent ≤ x.exponent := by
  by_contra hlt
  have hleast := hx.exponent_ge
  have hmantissa := hx.mantissa_lt
  obtain ⟨k, hk⟩ : ∃ k : Nat, y.exponent = x.exponent + (k + 1 : Nat) :=
    ⟨(y.exponent - x.exponent - 1).toNat, by omega⟩
  have hlow := hy.low_ge_of_lt (by omega)
  have hfar : y.low * 2 ≤ y.low * 2 ^ (k + 1) := by
    rw [Nat.pow_succ', ← Nat.mul_assoc]
    exact Nat.le_mul_of_pos_right _ (Nat.two_pow_pos k)
  have hhigh : x.high = 4 * x.mantissa + 2 := rfl
  rcases hxq.low_le_high hyq hk with hmeet | ⟨heven, -, hmeet⟩ <;> omega

lemma Rounds.mantissa_le {x y : Binary} (hexponent : y.exponent = x.exponent) {q : ℚ}
    (hxq : x.Rounds q) (hyq : y.Rounds q) : y.mantissa ≤ x.mantissa := by
  have hlow := y.low_ge
  have hhigh : x.high = 4 * x.mantissa + 2 := rfl
  have hmeet := hxq.low_le_high hyq (k := 0) (by simpa using hexponent)
  rw [Nat.pow_zero, Nat.mul_one] at hmeet
  omega

/-- No rational is rounded to two magnitudes. -/
lemma Rounds.unique {x y : Binary} (hx : x.IsMagnitude) (hy : y.IsMagnitude) {q : ℚ}
    (hxq : x.Rounds q) (hyq : y.Rounds q) : x = y := by
  have hexponent : x.exponent = y.exponent :=
    Int.le_antisymm (exponent_le hy hx hyq hxq) (exponent_le hx hy hxq hyq)
  have hmantissa : x.mantissa = y.mantissa :=
    Nat.le_antisymm (mantissa_le hexponent hyq hxq) (mantissa_le hexponent.symm hxq hyq)
  exact hx.eq hy hmantissa hexponent

/-! ## The decimal that is chosen -/

lemma value_stripZeros (fuel : Nat) (d : Numeral) : (d.stripZeros fuel).value = d.value := by
  induction fuel generalizing d with
  | zero => rfl
  | succ fuel ih =>
    rw [Numeral.stripZeros]
    split
    · rename_i h
      have hscale := value_scale (d.digits / 10) 1 (d.exponent + 1)
      rw [Nat.pow_one, Nat.div_mul_cancel (Nat.dvd_of_mod_eq_zero h.2), Nat.cast_one,
        Int.add_sub_cancel] at hscale
      rw [ih, ← hscale]
    · rfl

lemma value_exact (x : Binary) : x.exact.value = x.mantissa * 2 ^ x.exponent := by
  unfold exact
  split
  · rename_i h
    obtain ⟨places, hplaces⟩ := Int.eq_ofNat_of_zero_le h
    simp [Numeral.value, hplaces, Nat.shiftLeft_eq]
  · rename_i h
    obtain ⟨places, hplaces⟩ : ∃ places : Nat, x.exponent = -places :=
      ⟨(-x.exponent).toNat, by omega⟩
    simp only [Numeral.value, hplaces, neg_neg, Int.toNat_natCast, Nat.pow_eq, Nat.cast_mul,
      Nat.cast_pow, Nat.cast_ofNat, zpow_neg, zpow_natCast]
    rw [show (10 : ℚ) = 5 * 2 by norm_num, mul_pow]
    field_simp

lemma rounds_exact {x : Binary} (h : x.mantissa ≠ 0) : x.Rounds x.exact.value := by
  have hunit : (0 : ℚ) < 2 ^ (x.exponent - 2) := by positivity
  have hvalue : x.exact.value = ((4 * x.mantissa : Nat) : ℚ) * 2 ^ (x.exponent - 2) := by
    rw [value_exact, zpow_sub₀ (by norm_num)]
    push_cast
    ring
  have hlow : x.low < 4 * x.mantissa := by
    unfold low
    split <;> omega
  have hhigh : 4 * x.mantissa < x.high := by
    unfold high
    omega
  refine ⟨.inl ?_, .inl ?_⟩ <;> rw [hvalue]
  · exact mul_lt_mul_of_pos_right (by exact_mod_cast hlow) hunit
  · exact mul_lt_mul_of_pos_right (by exact_mod_cast hhigh) hunit

/-- The decimal chosen for a magnitude is rounded to it. -/
lemma rounds_shortest {x : Binary} (h : x.mantissa ≠ 0) (tie : Tie) :
    x.Rounds (x.shortest tie).value := by
  rw [shortest, if_neg h]
  dsimp only
  rw [value_stripZeros]
  generalize leadingExponent _ _ = lead
  cases hfound : (List.range 17).findSome? fun (n : Nat) =>
      (x.neighbours tie (lead - n)).find? x.roundsHere with
  | none => exact rounds_exact h
  | some d =>
    obtain ⟨n, -, hd⟩ := List.exists_of_findSome?_eq_some hfound
    exact roundsHere_iff.1 (List.find?_some hd)

/-- The decimal chosen for zero is the only one that is zero. -/
lemma shortest_value_eq_zero_iff (x : Binary) (tie : Tie) :
    (x.shortest tie).value = 0 ↔ x.mantissa = 0 := by
  constructor
  · intro hvalue
    by_contra hmantissa
    have hrounds := rounds_shortest hmantissa tie
    have hlow := x.low_ge
    have hpos : (0 : ℚ) < x.low * 2 ^ (x.exponent - 2) :=
      mul_pos (by exact_mod_cast (show 0 < x.low by omega)) (by positivity)
    rcases hrounds.above with habove | ⟨-, habove⟩ <;> linarith
  · intro hmantissa
    simp [shortest, hmantissa, Numeral.value]

/-- The decimals chosen for different magnitudes have different values. -/
lemma shortest_value_inj {x y : Binary} (hx : x.IsMagnitude) (hy : y.IsMagnitude) {tie : Tie}
    (h : (x.shortest tie).value = (y.shortest tie).value) : x = y := by
  by_cases hzero : x.mantissa = 0
  · have hzero' : y.mantissa = 0 := by
      rwa [← shortest_value_eq_zero_iff y tie, ← h, shortest_value_eq_zero_iff]
    have hleast := hx.normal.resolve_right (by omega)
    have hleast' := hy.normal.resolve_right (by omega)
    exact hx.eq hy (hzero.trans hzero'.symm) (hleast.trans hleast'.symm)
  · have hpos : y.mantissa ≠ 0 := by
      rwa [Ne, ← shortest_value_eq_zero_iff y tie, ← h, shortest_value_eq_zero_iff]
    exact (rounds_shortest hzero tie).unique hx hy (h ▸ rounds_shortest hpos tie)

end Binary

end ViewTemplate.Decimal
