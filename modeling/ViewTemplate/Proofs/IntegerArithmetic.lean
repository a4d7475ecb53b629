import Mathlib.Tactic.Common
import ViewTemplate.Proofs.IntegerFloats
import ViewTemplate.Script.Exec

/-!
# Arithmetic on integers

Operands that read as integers of 64 bits are added, subtracted, multiplied and divided exactly.
The result is measured against the one over the rational numbers (`ArithmeticOp.rational?`): it is
an integer just when the rational result is one that fits 64 bits, and otherwise a float or an error
(`IsExact`).  Nothing wraps around.  Minus, the compound assignments and the steps by one go the
same way.

A remainder always fits, and it is the truncated one, with a single exception: the least integer by
minus one gives the float minus zero.
-/

namespace ViewTemplate.Script

open ViewTemplate.Decimal (minInt64 maxInt64 remainder)

/-! ## What arithmetic does with integers -/

/-- A computed value that reads as an integer of 64 bits. -/
def ReadsAs (computed : Except ScriptError Value) (n : ℤ) : Prop :=
  ∃ v, computed = .ok v ∧ v.toInteger? = some n

lemma operand_of_toNumber? {v : Value} {x : Float} (h : v.toNumber? = some x) :
    operand v = .ok x := by
  rw [operand, h]

/-- Arithmetic on values that read as integers: division by zero is found first, then the integers
are tried, and the floats closest to them come last. -/
lemma arithmetic_of_toInteger? {a b : Value} {x y : ℤ} (ha : a.toInteger? = some x)
    (hb : b.toInteger? = some y) :
    ∃ f g, (x ≠ 0 → f = Float.ofInt x) ∧ (y ≠ 0 → g = Float.ofInt y) ∧
      ∀ op, arithmetic op a b =
        if op.divides ∧ y = 0 then .error .divisionByZero
        else op.exact? x y |>.elim (finiteResult (op.onFloats f g)) fun r => .ok (.ofInt r) := by
  obtain ⟨f, hf, -, hfx⟩ := Value.toNumber?_of_toInteger? ha
  obtain ⟨g, hg, hzero, hgy⟩ := Value.toNumber?_of_toInteger? hb
  refine ⟨f, g, hfx, hgy, fun op => ?_⟩
  have hdivides : (op.divides && g == 0.0) = true ↔ op.divides = true ∧ y = 0 := by
    rw [Bool.and_eq_true, hzero]
  simp only [arithmetic, operand_of_toNumber? hf, operand_of_toNumber? hg, ha, hb, bind,
    Except.bind]
  by_cases hundefined : op.divides = true ∧ y = 0
  · rw [if_pos (hdivides.2 hundefined), if_pos hundefined]
  · rw [if_neg (mt hdivides.1 hundefined), if_neg hundefined]
    cases op.exact? x y <;> rfl

/-! ## Exact results -/

/-- The result over the rational numbers, if there is one. -/
def ArithmeticOp.rational? (op : ArithmeticOp) (x y : ℤ) : Option ℚ :=
  match op with
  | add => some (x + y)
  | subtract => some (x - y)
  | multiply => some (x * y)
  | divide => if y = 0 then none else some (x / y)
  | modulo => if y = 0 then none else some (x.tmod y)

/-- The result of arithmetic where the rational result is `exact`. -/
structure IsExact (exact : Option ℚ) (result : Except ScriptError Value) : Prop where
  /-- The integers among the results are the rational results that are integers of 64 bits. -/
  integer_iff : ∀ z : ℤ, result = .ok (.ofInt z) ↔
    exact = some (z : ℚ) ∧ minInt64 ≤ z ∧ z ≤ maxInt64
  /-- Division by zero is reported where there is no rational result. -/
  divisionByZero_iff : result = .error .divisionByZero ↔ exact = none
  /-- Every other result is a float, or an error if there is no finite float. -/
  otherwise : ∀ q, exact = some q → (∀ z : ℤ, q = z → ¬(minInt64 ≤ z ∧ z ≤ maxInt64)) →
    (∃ f, Decimal.isFinite f = true ∧ result = .ok (.number (.float f))) ∨
      result = .error (.wrongType .notFinite)

namespace IsExact

lemma undefined : IsExact none (.error .divisionByZero) where
  integer_iff z := by simp
  divisionByZero_iff := by simp
  otherwise q hq := by simp at hq

lemma integer {z : ℤ} (hz : minInt64 ≤ z ∧ z ≤ maxInt64) :
    IsExact (some (z : ℚ)) (.ok (.ofInt z)) where
  integer_iff w := by
    simp only [Except.ok.injEq, Value.ofInt, Value.number.injEq, Number.int.injEq,
      Option.some.injEq, Int.cast_inj]
    exact ⟨fun h => ⟨h, h ▸ hz⟩, fun h => h.1⟩
  divisionByZero_iff := by simp
  otherwise q hq hnone := by
    obtain rfl := Option.some.inj hq
    exact absurd hz (hnone z rfl)

lemma float {q : ℚ} (hq : ∀ z : ℤ, q = z → ¬(minInt64 ≤ z ∧ z ≤ maxInt64)) (f : Float) :
    IsExact (some q) (finiteResult f) := by
  have hnone : ∀ z : ℤ, ¬(some q = some (z : ℚ) ∧ minInt64 ≤ z ∧ z ≤ maxInt64) :=
    fun z h => hq z (Option.some.inj h.1) h.2
  unfold finiteResult
  split_ifs with hfinite
  · refine ⟨fun z => iff_of_false ?_ (hnone z), by simp, fun _ _ _ => .inl ⟨f, hfinite, rfl⟩⟩
    simp [Value.ofInt]
  · exact ⟨fun z => iff_of_false (by simp) (hnone z), by simp, fun _ _ _ => .inr rfl⟩

end IsExact

lemma int64?_eq_some_iff {n z : ℤ} :
    int64? n = some z ↔ n = z ∧ minInt64 ≤ z ∧ z ≤ maxInt64 := by
  rw [int64?, Option.ite_none_right_eq_some, Option.some.injEq]
  exact ⟨fun ⟨h, hz⟩ => ⟨hz, hz ▸ h⟩, fun ⟨hz, h⟩ => ⟨hz ▸ h, hz⟩⟩

lemma div_eq_intCast_iff {x y z : ℤ} (hy : y ≠ 0) :
    (x : ℚ) / y = z ↔ x.tmod y = 0 ∧ x.tdiv y = z := by
  have hcast : (y : ℚ) ≠ 0 := by exact_mod_cast hy
  rw [div_eq_iff hcast]
  constructor
  · intro h
    obtain rfl : x = z * y := by exact_mod_cast h
    exact ⟨Int.mul_tmod_left z y, Int.mul_tdiv_cancel z hy⟩
  · rintro ⟨hmod, rfl⟩
    have hdecomposed := Int.tdiv_mul_add_tmod x y
    rw [hmod, add_zero] at hdecomposed
    exact_mod_cast hdecomposed.symm

/-- The integers that are tried are the rational results that fit. -/
lemma ArithmeticOp.integer_result_iff {op : ArithmeticOp} (hop : op ≠ .modulo) {x y z : ℤ} :
    op.exact? x y = some z ↔ op.rational? x y = some (z : ℚ) ∧ minInt64 ≤ z ∧ z ≤ maxInt64 := by
  unfold ArithmeticOp.exact? ArithmeticOp.rational?
  cases op with
  | add | subtract | multiply =>
    simp only [int64?_eq_some_iff, Option.some.injEq]
    norm_cast
  | divide =>
    by_cases hy : y = 0
    · simp [hy]
    · simp only [hy, if_false, Option.some.injEq, div_eq_intCast_iff hy,
        Option.ite_none_right_eq_some, int64?_eq_some_iff, ne_eq, not_false_eq_true, true_and,
        and_assoc]
  | modulo => exact absurd rfl hop

lemma ArithmeticOp.rational?_eq_none_iff {op : ArithmeticOp} {x y : ℤ} :
    op.rational? x y = none ↔ op.divides = true ∧ y = 0 := by
  cases op <;> simp [rational?, divides]

lemma isExact_arithmetic (op : ArithmeticOp) (hop : op ≠ .modulo) {a b : Value} {x y : ℤ}
    (ha : a.toInteger? = some x) (hb : b.toInteger? = some y) :
    IsExact (op.rational? x y) (arithmetic op a b) := by
  obtain ⟨f, g, -, -, harithmetic⟩ := arithmetic_of_toInteger? ha hb
  rw [harithmetic]
  cases hrational : op.rational? x y with
  | none =>
    rw [if_pos (ArithmeticOp.rational?_eq_none_iff.1 hrational)]
    exact .undefined
  | some q =>
    have hdefined : ¬(op.divides = true ∧ y = 0) := by
      rw [← ArithmeticOp.rational?_eq_none_iff, hrational]
      simp
    rw [if_neg hdefined]
    cases hexact : op.exact? x y with
    | some z =>
      obtain ⟨hz, hfits⟩ := (ArithmeticOp.integer_result_iff hop).1 hexact
      obtain rfl := Option.some.inj (hrational.symm.trans hz)
      exact .integer hfits
    | none =>
      -- floats are left with the results that are no integers or do not fit
      refine .float ?_ _
      rintro z rfl hfits
      have hsome := (ArithmeticOp.integer_result_iff hop).2 ⟨hrational, hfits⟩
      rw [hexact] at hsome
      simp at hsome

lemma isExact_add {a b : Value} {x y : ℤ} (ha : a.toInteger? = some x)
    (hb : b.toInteger? = some y) : IsExact (some (x + y)) (arithmetic .add a b) :=
  isExact_arithmetic .add (by decide) ha hb

lemma isExact_subtract {a b : Value} {x y : ℤ} (ha : a.toInteger? = some x)
    (hb : b.toInteger? = some y) : IsExact (some (x - y)) (arithmetic .subtract a b) :=
  isExact_arithmetic .subtract (by decide) ha hb

/-! ## Expressions and statements -/

/-- The operator of an expression that does arithmetic. -/
def ArithmeticOp.binary : ArithmeticOp → BinaryOp
  | add => .add
  | subtract => .subtract
  | multiply => .multiply
  | divide => .divide
  | modulo => .modulo

lemma eval_binary_of_ok {functions : Functions} {vars : Vars} {left right : Expr} {a b : Value}
    (hleft : eval functions vars left = .ok a) (hright : eval functions vars right = .ok b)
    (op : ArithmeticOp) :
    eval functions vars (.binary op.binary left right) = arithmetic op a b := by
  cases op <;> simp only [ArithmeticOp.binary, eval, hleft, hright] <;> rfl

/-- A statement stores an exact result in a place, or stops with the error that stands for it. -/
def StoresExact (functions : Functions) (vars : Vars) (target : Expr) (exact : ℚ) (s : Stmt) :
    Prop :=
  ∃ result, IsExact (some exact) result ∧
    ∀ out, runStatement functions vars out s =
      .ofVars vars out (result >>= assign functions vars target)

lemma runAssign_of_ok {functions : Functions} {vars : Vars} {target value : Expr} {a b : Value}
    {op : AssignOp} {combine : BinaryOp} (hop : op.combine? = some combine)
    (htarget : current functions vars target = .ok a) (hvalue : eval functions vars value = .ok b) :
    runAssign functions vars target op value =
      combine.apply a b >>= assign functions vars target := by
  simp only [runAssign, hvalue, hop, htarget, bind, Except.bind]

lemma runStep_of_ok {functions : Functions} {vars : Vars} {target : Expr} {a : Value}
    (htarget : current functions vars target = .ok a) (op : ArithmeticOp) :
    runStep functions vars target op =
      arithmetic op a (.ofInt 1) >>= assign functions vars target := by
  simp only [runStep, htarget, bind, Except.bind]

/-- **Integer arithmetic never wraps around.**  Let two operands and a place read as integers.
Sums, differences, products and quotients of the operands are exact, and so is minus one of them.
The compound assignments and the steps by one store what is exact. -/
theorem integer_arithmetic_exact {functions : Functions} {vars : Vars} {left right target : Expr}
    {x y z : ℤ} (hleft : ReadsAs (eval functions vars left) x)
    (hright : ReadsAs (eval functions vars right) y)
    (htarget : ReadsAs (current functions vars target) z) :
    (∀ op ≠ ArithmeticOp.modulo,
      IsExact (op.rational? x y) (eval functions vars (.binary op.binary left right))) ∧
    IsExact (some (-y)) (eval functions vars (.unary .negate right)) ∧
    StoresExact functions vars target (z + y) (.assign target .add right) ∧
    StoresExact functions vars target (z - y) (.assign target .subtract right) ∧
    StoresExact functions vars target (z + 1) (.increment target) ∧
    StoresExact functions vars target (z - 1) (.decrement target) := by
  obtain ⟨a, heval, ha⟩ := hleft
  obtain ⟨b, hvalue, hb⟩ := hright
  obtain ⟨c, hcurrent, hc⟩ := htarget
  have hzero : (Value.ofInt 0).toInteger? = some 0 := rfl
  have hone : (Value.ofInt 1).toInteger? = some 1 := rfl
  refine ⟨?_, ?_, ?_, ?_, ?_, ?_⟩
  · intro op hop
    rw [eval_binary_of_ok heval hvalue]
    exact isExact_arithmetic op hop ha hb
  · have hnegate : IsExact (some (-y)) (arithmetic .subtract (.ofInt 0) b) := by
      simpa using isExact_subtract hzero hb
    rw [eval, hvalue]
    exact hnegate
  · refine ⟨arithmetic .add c b, isExact_add hc hb, fun out => ?_⟩
    rw [runStatement, runAssign_of_ok rfl hcurrent hvalue]
    rfl
  · refine ⟨arithmetic .subtract c b, isExact_subtract hc hb, fun out => ?_⟩
    rw [runStatement, runAssign_of_ok rfl hcurrent hvalue]
    rfl
  · have hup : IsExact (some (z + 1)) (arithmetic .add c (.ofInt 1)) := by
      simpa using isExact_add hc hone
    exact ⟨_, hup, fun out => by rw [runStatement, runStep_of_ok hcurrent]⟩
  · have hdown : IsExact (some (z - 1)) (arithmetic .subtract c (.ofInt 1)) := by
      simpa using isExact_subtract hc hone
    exact ⟨_, hdown, fun out => by rw [runStatement, runStep_of_ok hcurrent]⟩

/-- The least integer by minus one: the quotient does not fit, and neither does one less. -/
theorem integer_arithmetic_exact_least :
    let functions : Functions := ⟨fun name _ => .error (.unknownNative name),
      fun name _ => .error (.unknown name)⟩
    let vars : Vars := [("a", .ofInt minInt64), ("b", .text " -1 ")]
    ReadsAs (eval functions vars (.var "a")) minInt64 ∧
      ReadsAs (eval functions vars (.var "b")) (-1) ∧
      (∀ z, eval functions vars (.binary .divide (.var "a") (.var "b")) ≠ .ok (.ofInt z)) ∧
      eval functions vars (.binary .subtract (.var "a") (.var "b")) = .ok (.ofInt (minInt64 + 1)) ∧
      eval functions vars (.unary .negate (.var "b")) = .ok (.ofInt 1) ∧
      StoresExact functions vars (.var "a") (minInt64 - 1) (.decrement (.var "a")) := by
  intro functions vars
  have hleft : ReadsAs (eval functions vars (.var "a")) minInt64 := ⟨_, rfl, rfl⟩
  have hright : ReadsAs (eval functions vars (.var "b")) (-1) := ⟨_, rfl, rfl⟩
  have htarget : ReadsAs (current functions vars (.var "a")) minInt64 := ⟨_, rfl, rfl⟩
  obtain ⟨hbinary, hnegate, -, -, -, hdecrement⟩ := integer_arithmetic_exact hleft hright htarget
  refine ⟨hleft, hright, fun z hz => ?_, ?_, ?_, hdecrement⟩
  · obtain ⟨hquotient, -, hfits⟩ := ((hbinary .divide (by decide)).integer_iff z).1 hz
    rw [ArithmeticOp.rational?, if_neg (by decide), Option.some.injEq,
      div_eq_intCast_iff (by decide)] at hquotient
    obtain ⟨-, rfl⟩ := hquotient
    exact absurd hfits (by decide)
  · refine ((hbinary .subtract (by decide)).integer_iff _).2 ⟨?_, by decide, by decide⟩
    simp [ArithmeticOp.rational?]
  · refine (hnegate.integer_iff 1).2 ⟨by simp, by decide, by decide⟩

/-! ## Remainders -/

/-- A truncated remainder has the sign of what is divided, is smaller than the divisor and leaves a
multiple of it. -/
structure IsRemainder (x y r : ℤ) : Prop where
  sign : r ≠ 0 → r.sign = x.sign
  small : r.natAbs < y.natAbs
  divides : y ∣ x - r

lemma isRemainder_tmod (x : ℤ) {y : ℤ} (hy : y ≠ 0) : IsRemainder x y (x.tmod y) where
  sign hne := by
    rw [Int.sign_tmod, if_neg]
    exact fun hdvd => hne (Int.tmod_eq_zero_of_dvd hdvd)
  small := by
    rw [Int.natAbs_tmod]
    exact Nat.mod_lt _ (Int.natAbs_pos.2 hy)
  divides := Int.dvd_self_sub_tmod

/-- The remainder is zero, but it is left to floats. -/
lemma arithmetic_modulo_least {a b : Value} (ha : a.toInteger? = some minInt64)
    (hb : b.toInteger? = some (-1)) :
    arithmetic .modulo a b = .ok (.number (.float (-0.0))) := by
  have hremainder : remainder (Float.ofInt minInt64) (Float.ofInt (-1)) = -0.0 := by
    decide +kernel
  have hfinite : Decimal.isFinite (-0.0) = true := by decide +kernel
  obtain ⟨f, g, hf, hg, harithmetic⟩ := arithmetic_of_toInteger? ha hb
  rw [harithmetic, if_neg (by decide), hf (by decide), hg (by decide)]
  change finiteResult (remainder (Float.ofInt minInt64) (Float.ofInt (-1))) = _
  rw [hremainder, finiteResult, if_pos hfinite]

lemma arithmetic_modulo {a b : Value} {x y : ℤ} (ha : a.toInteger? = some x)
    (hb : b.toInteger? = some y) (hy : y ≠ 0) (hleast : ¬(x = minInt64 ∧ y = -1)) :
    arithmetic .modulo a b = .ok (.ofInt (x.tmod y)) := by
  obtain ⟨f, g, -, -, harithmetic⟩ := arithmetic_of_toInteger? ha hb
  rw [harithmetic, if_neg fun h => hy h.2, ArithmeticOp.exact?, if_neg (not_or.2 ⟨hy, hleast⟩),
    Option.elim_some]

/-- **Remainders are integers, with one exception.**  Of operands that read as integers, the second
one not zero, the remainder is the truncated one and an integer.  Only the least integer by minus
one gives a float, minus zero. -/
theorem modulo_eq_tmod {functions : Functions} {vars : Vars} {left right : Expr} {x y : ℤ}
    (hleft : ReadsAs (eval functions vars left) x) (hright : ReadsAs (eval functions vars right) y)
    (hy : y ≠ 0) :
    IsRemainder x y (x.tmod y) ∧
      (¬(x = minInt64 ∧ y = -1) →
        eval functions vars (.binary .modulo left right) = .ok (.ofInt (x.tmod y))) ∧
      (x = minInt64 ∧ y = -1 →
        eval functions vars (.binary .modulo left right) = .ok (.number (.float (-0.0)))) := by
  obtain ⟨a, heval, ha⟩ := hleft
  obtain ⟨b, hvalue, hb⟩ := hright
  have hmodulo : eval functions vars (.binary .modulo left right) = arithmetic .modulo a b :=
    eval_binary_of_ok heval hvalue .modulo
  rw [hmodulo]
  refine ⟨isRemainder_tmod x hy, arithmetic_modulo ha hb hy, ?_⟩
  rintro ⟨rfl, rfl⟩
  exact arithmetic_modulo_least ha hb

/-- A negative number by a text with a sign and blanks. -/
theorem modulo_eq_tmod_negative :
    let functions : Functions := ⟨fun name _ => .error (.unknownNative name),
      fun name _ => .error (.unknown name)⟩
    let vars : Vars := [("a", .ofInt (minInt64 + 1)), ("b", .text " +10 ")]
    ReadsAs (eval functions vars (.var "a")) (minInt64 + 1) ∧
      ReadsAs (eval functions vars (.var "b")) 10 ∧
      eval functions vars (.binary .modulo (.var "a") (.var "b")) = .ok (.ofInt (-7)) := by
  intro functions vars
  have hleft : ReadsAs (eval functions vars (.var "a")) (minInt64 + 1) := ⟨_, rfl, rfl⟩
  have hright : ReadsAs (eval functions vars (.var "b")) 10 := ⟨_, rfl, rfl⟩
  obtain ⟨-, hmodulo, -⟩ := modulo_eq_tmod hleft hright (by decide)
  exact ⟨hleft, hright, hmodulo (by decide)⟩

/-- The remainder of the least integer by minus one is zero, but it does not come out as an
integer. -/
theorem modulo_least_not_integer :
    let functions : Functions := ⟨fun name _ => .error (.unknownNative name),
      fun name _ => .error (.unknown name)⟩
    let vars : Vars := [("a", .ofInt minInt64), ("b", .ofInt (-1))]
    ReadsAs (eval functions vars (.var "a")) minInt64 ∧
      ReadsAs (eval functions vars (.var "b")) (-1) ∧
      minInt64.tmod (-1) = 0 ∧
      ∀ r, eval functions vars (.binary .modulo (.var "a") (.var "b")) ≠ .ok (.ofInt r) := by
  intro functions vars
  have hmodulo : eval functions vars (.binary .modulo (.var "a") (.var "b")) =
      arithmetic .modulo (.ofInt minInt64) (.ofInt (-1)) := eval_binary_of_ok rfl rfl .modulo
  refine ⟨⟨_, rfl, rfl⟩, ⟨_, rfl, rfl⟩, by decide, fun r hr => ?_⟩
  rw [hmodulo, arithmetic_modulo_least rfl rfl] at hr
  simp [Value.ofInt] at hr

end ViewTemplate.Script
