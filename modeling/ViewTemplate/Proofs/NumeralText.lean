import Mathlib.Algebra.Order.Field.Basic
import Mathlib.Algebra.Order.Ring.Rat
import Mathlib.Tactic.Common
import Mathlib.Tactic.FieldSimp
import Mathlib.Tactic.Ring
import ViewTemplate.Decimal.Layout
import ViewTemplate.Decimal.Reading
import ViewTemplate.Proofs.PieceBoundaries

/-!
# The text of a numeral

A numeral is written in one of several layouts: with all its places, or with an exponent.  Whatever
the layout, the text can be read again, and what is read has the value of what was written
(`readsBack_decimalText`), though not always the same digits.
-/

namespace ViewTemplate.Decimal

open ViewTemplate.Script (StopsAt takeWhile_eq_self_iff dropWhile_append_of_stopsAt)

/-- The number that a numeral stands for. -/
def Numeral.value (d : Numeral) : ℚ :=
  d.digits * 10 ^ d.exponent

/-! ## Rows of digits -/

lemma digitsValue_eq (digits : List Char) : digitsValue digits = Nat.ofDigitChars 10 digits 0 := by
  rw [Nat.ofDigitChars_eq_foldl]
  rfl

lemma digitsValue_toDigits (n : Nat) : digitsValue (Nat.toDigits 10 n) = n := by
  rw [digitsValue_eq, Nat.ofDigitChars_ten_toDigits]

lemma digitsValue_append_zeros (digits : List Char) (count : Nat) :
    digitsValue (digits ++ List.replicate count '0') = digitsValue digits * 10 ^ count := by
  rw [digitsValue_eq, digitsValue_eq, Nat.ofDigitChars_append, Nat.ofDigitChars_replicate_zero,
    Nat.mul_comm]

lemma digitsValue_zeros_append (count : Nat) (digits : List Char) :
    digitsValue (List.replicate count '0' ++ digits) = digitsValue digits := by
  rw [digitsValue_eq, digitsValue_eq, Nat.ofDigitChars_append, Nat.ofDigitChars_replicate_zero,
    Nat.mul_zero]

lemma isDigit_of_mem_toDigits {n : Nat} {c : Char} (h : c ∈ Nat.toDigits 10 n) :
    c.isDigit = true :=
  Nat.isDigit_of_mem_toDigits (by omega) (by omega) h

lemma isDigit_of_mem_zeros {count : Nat} {c : Char} (h : c ∈ List.replicate count '0') :
    c.isDigit = true := by
  rw [List.eq_of_mem_replicate h]
  rfl

lemma takeDigits_append {digits rest : List Char} (hdigits : ∀ c ∈ digits, c.isDigit = true)
    (hrest : StopsAt Char.isDigit rest) : takeDigits (digits ++ rest) = (digits, rest) := by
  rw [takeDigits, takeWhile_eq_self_iff.2 ⟨hdigits, hrest⟩,
    dropWhile_append_of_stopsAt hdigits hrest]

/-! ## Reading what was written -/

lemma readNat?_toDigits (n : Nat) : readNat? (Nat.toDigits 10 n) = some n := by
  have hall : (Nat.toDigits 10 n).all Char.isDigit = true :=
    List.all_eq_true.2 fun c hc => isDigit_of_mem_toDigits hc
  have hsome : (Nat.toDigits 10 n).isEmpty = false := by
    simp [Nat.toDigits_ne_nil]
  rw [readNat?, hall, hsome, digitsValue_toDigits]
  rfl

/-- A point with digits on both sides, and then what may be an exponent. -/
lemma readNumeral?_point {whole fraction rest : List Char} (hwhole : whole ≠ [])
    (hdigits : ∀ c ∈ whole ++ fraction, c.isDigit = true) (hrest : StopsAt Char.isDigit rest) :
    readNumeral? (whole ++ '.' :: (fraction ++ rest)) = (readExponent? rest).map fun e =>
      ⟨digitsValue (whole ++ fraction), e - fraction.length⟩ := by
  have hpoint : StopsAt Char.isDigit ('.' :: (fraction ++ rest)) := by
    intro c hc
    obtain rfl := Option.some.inj hc
    rfl
  have hfront := takeDigits_append (fun c hc => hdigits c (List.mem_append_left _ hc)) hpoint
  have hback := takeDigits_append (fun c hc => hdigits c (List.mem_append_right _ hc)) hrest
  have hsome : whole.isEmpty = false := by simpa using hwhole
  simp only [readNumeral?, hfront, takeFraction, hback, hsome, Bool.false_and]
  cases readExponent? rest <;> rfl

/-- Digits without a point, and then what may be an exponent. -/
lemma readNumeral?_whole {whole rest : List Char} (hwhole : whole ≠ [])
    (hdigits : ∀ c ∈ whole, c.isDigit = true) (hrest : StopsAt Char.isDigit rest)
    (hpoint : rest.head? ≠ some '.') :
    readNumeral? (whole ++ rest) = (readExponent? rest).map fun e => ⟨digitsValue whole, e⟩ := by
  have hfront := takeDigits_append hdigits hrest
  have hsome : whole.isEmpty = false := by simpa using hwhole
  have hnone : takeFraction rest = ([], rest) := by
    unfold takeFraction
    split
    · exact absurd rfl hpoint
    · rfl
  simp only [readNumeral?, hfront, hnone, hsome, Bool.false_and, List.append_nil]
  cases readExponent? rest <;> simp

lemma takeSign_of_digits {digits : List Char} (h : ∀ c ∈ digits, c.isDigit = true) :
    takeSign digits = (false, digits) := by
  unfold takeSign
  split
  · exact absurd (h '+' List.mem_cons_self) (by decide)
  · exact absurd (h '-' List.mem_cons_self) (by decide)
  · rfl

/-- The mark of an exponent, the sign that a layout gives it, and its digits. -/
def exponentChars (lead : Int) (plus : Bool) : List Char :=
  'e' :: ((if lead < 0 then ['-'] else if plus then ['+'] else []) ++ Nat.toDigits 10 lead.natAbs)

lemma readExponent?_exponentChars (lead : Int) (plus : Bool) :
    readExponent? (exponentChars lead plus) = some lead := by
  have hsign : takeSign ((if lead < 0 then ['-'] else if plus then ['+'] else []) ++
      Nat.toDigits 10 lead.natAbs) = (decide (lead < 0), Nat.toDigits 10 lead.natAbs) := by
    by_cases hlead : lead < 0
    · simp [hlead, takeSign]
    · cases plus with
      | true => simp [hlead, takeSign]
      | false => simp [hlead, takeSign_of_digits fun c => isDigit_of_mem_toDigits]
  have hvalue :
      (if decide (lead < 0) = true then -(lead.natAbs : Int) else lead.natAbs) = lead := by
    simp only [decide_eq_true_eq]
    split <;> omega
  simp only [exponentChars, readExponent?, hsign, readNat?_toDigits]
  exact congrArg some hvalue

/-- What a numeral is written as can be read, with the same value. -/
def Numeral.ReadsBack (d : Numeral) (text : String) : Prop :=
  ∃ other, readNumeral? text.toList = some other ∧ other.value = d.value

lemma stopsAt_nil (q : Char → Bool) : StopsAt q [] := by
  intro c hc
  simp at hc

/-- A value does not change when zeros are taken from the digits. -/
lemma value_scale (digits places : Nat) (exponent : Int) :
    Numeral.value ⟨digits * 10 ^ places, exponent - places⟩ = Numeral.value ⟨digits, exponent⟩ := by
  simp only [Numeral.value, Nat.cast_mul, Nat.cast_pow, Nat.cast_ofNat]
  rw [zpow_sub₀ (by norm_num), zpow_natCast]
  field_simp

namespace Numeral

/-- Digits on both sides of a point. -/
lemma readsBack_point {d : Numeral} {whole fraction : List Char} (hwhole : whole ≠ [])
    (hdigits : ∀ c ∈ whole ++ fraction, c.isDigit = true)
    (hvalue : value ⟨digitsValue (whole ++ fraction), -fraction.length⟩ = d.value) :
    d.ReadsBack (String.ofList (whole ++ '.' :: fraction)) := by
  refine ⟨_, ?_, hvalue⟩
  have hread := readNumeral?_point hwhole hdigits (stopsAt_nil _)
  simpa [readExponent?] using hread

/-- A numeral without a fraction, whether it shows a fraction digit or not. -/
lemma readsBack_integral (d : Numeral) {places : Nat} (hplaces : d.exponent = places)
    (fraction : Bool) :
    d.ReadsBack (String.ofList (Nat.toDigits 10 d.digits ++ List.replicate places '0') ++
      (if fraction then ".0" else "")) := by
  have hall : ∀ count, ∀ c ∈ Nat.toDigits 10 d.digits ++ List.replicate count '0',
      c.isDigit = true := by
    intro count c hc
    rcases List.mem_append.1 hc with hc | hc
    · exact isDigit_of_mem_toDigits hc
    · exact isDigit_of_mem_zeros hc
  have hsome : Nat.toDigits 10 d.digits ++ List.replicate places '0' ≠ [] := by
    simp [Nat.toDigits_ne_nil]
  have hvalue : ∀ more : Nat, value ⟨d.digits * 10 ^ (places + more), -more⟩ = d.value := by
    intro more
    have hscale := value_scale d.digits (places + more) d.exponent
    rwa [hplaces, show (places : Int) - (places + more : Nat) = -more by omega, ← hplaces] at hscale
  cases fraction with
  | false =>
    refine ⟨⟨d.digits * 10 ^ places, 0⟩, ?_, hvalue 0⟩
    have hread := readNumeral?_whole hsome (hall places) (stopsAt_nil _) (by simp)
    rw [List.append_nil, digitsValue_append_zeros, digitsValue_toDigits] at hread
    simpa [readExponent?] using hread
  | true =>
    -- the zero behind the point is one more digit with one place less
    have hrow : Nat.toDigits 10 d.digits ++ List.replicate places '0' ++ ['0'] =
        Nat.toDigits 10 d.digits ++ List.replicate (places + 1) '0' := by
      rw [List.replicate_succ', List.append_assoc]
    have hpoint : d.ReadsBack (String.ofList
        (Nat.toDigits 10 d.digits ++ List.replicate places '0' ++ '.' :: ['0'])) := by
      refine readsBack_point hsome ?_ ?_
      · rw [hrow]
        exact hall (places + 1)
      · rw [hrow, digitsValue_append_zeros, digitsValue_toDigits]
        exact hvalue 1
    rwa [String.ofList_append] at hpoint

lemma readsBack_placesText (d : Numeral) (fraction : Bool) :
    d.ReadsBack (d.placesText fraction) := by
  unfold placesText
  by_cases hwhole : 0 ≤ d.exponent
  · rw [if_pos hwhole]
    exact d.readsBack_integral (Int.toNat_of_nonneg hwhole).symm fraction
  rw [if_neg hwhole]
  have hplaces : (((-d.exponent).toNat : Nat) : Int) = -d.exponent := by omega
  have hdigits : ∀ c ∈ Nat.toDigits 10 d.digits, c.isDigit = true :=
    fun c hc => isDigit_of_mem_toDigits hc
  have hrow := digitsValue_toDigits d.digits
  generalize (-d.exponent).toNat = places at hplaces ⊢
  generalize Nat.toDigits 10 d.digits = digits at hdigits hrow ⊢
  have hvalue : value ⟨d.digits, -places⟩ = d.value := by
    rw [hplaces, Int.neg_neg]
  dsimp only
  by_cases hfew : places < digits.length
  · -- the point stands among the digits
    have hsplit := List.take_append_drop (digits.length - places) digits
    have hbehind : (digits.drop (digits.length - places)).length = places := by
      rw [List.length_drop]
      omega
    rw [if_pos hfew]
    refine readsBack_point ?_ ?_ ?_
    · intro hnil
      have hlength := congrArg List.length hnil
      rw [List.length_take, List.length_nil] at hlength
      omega
    · rwa [hsplit]
    · rwa [hsplit, hrow, hbehind]
  · -- zeros stand between the point and the digits
    have hzeros : (List.replicate (places - digits.length) '0' ++ digits).length = places := by
      rw [List.length_append, List.length_replicate]
      omega
    have hfront : ['0'] ++ (List.replicate (places - digits.length) '0' ++ digits) =
        List.replicate (places - digits.length + 1) '0' ++ digits := by
      rw [List.replicate_succ]
      rfl
    have htext : '0' :: '.' :: List.replicate (places - digits.length) '0' ++ digits =
        ['0'] ++ '.' :: (List.replicate (places - digits.length) '0' ++ digits) := by
      simp
    rw [if_neg hfew, htext]
    refine readsBack_point (by simp) ?_ ?_
    · rw [hfront]
      intro c hc
      rcases List.mem_append.1 hc with hc | hc
      · exact isDigit_of_mem_zeros hc
      · exact hdigits c hc
    · rwa [hfront, digitsValue_zeros_append, hrow, hzeros]

lemma readsBack_exponentText (d : Numeral) (plus : Bool) : d.ReadsBack (d.exponentText plus) := by
  have hdigits : ∀ c ∈ Nat.toDigits 10 d.digits, c.isDigit = true :=
    fun c hc => isDigit_of_mem_toDigits hc
  have hrow := digitsValue_toDigits d.digits
  have hsome : 0 < (Nat.toDigits 10 d.digits).length := Nat.length_toDigits_pos
  have htext : (d.exponentText plus).toList = (Nat.toDigits 10 d.digits).take 1 ++
      (if (Nat.toDigits 10 d.digits).length ≤ 1 then [] else
        '.' :: (Nat.toDigits 10 d.digits).drop 1) ++
      exponentChars (d.exponent + (Nat.toDigits 10 d.digits).length - 1) plus := by
    have hsign : ∀ lead : Int, (if lead < 0 then "-" else if plus = true then "+" else "").toList =
        if lead < 0 then ['-'] else if plus = true then ['+'] else [] := by
      intro lead
      split
      · rfl
      · split <;> rfl
    have hmark : "e".toList = ['e'] := rfl
    simp only [exponentText, exponentChars, natText, String.toList_append, String.toList_ofList,
      hsign, hmark, List.append_assoc, List.cons_append, List.nil_append]
  rw [ReadsBack, htext]
  generalize Nat.toDigits 10 d.digits = digits at hdigits hrow hsome ⊢
  obtain ⟨first, others, rfl⟩ := List.exists_cons_of_length_pos hsome
  generalize hlead : d.exponent + ((first :: others).length : Nat) - 1 = lead
  have hvalue : value ⟨d.digits, lead - others.length⟩ = d.value := by
    rw [← hlead, List.length_cons,
      show d.exponent + ((others.length + 1 : Nat) : Int) - 1 - others.length = d.exponent by omega]
  have hstop : StopsAt Char.isDigit (exponentChars lead plus) := by
    intro c hc
    obtain rfl := Option.some.inj hc
    rfl
  refine ⟨_, ?_, hvalue⟩
  cases others with
  -- a single digit has no point behind it
  | nil =>
    have hread := readNumeral?_whole (List.cons_ne_nil first []) hdigits hstop
      (by simp [exponentChars])
    rw [readExponent?_exponentChars, hrow] at hread
    simpa using hread
  | cons second others =>
    have hread := readNumeral?_point (List.cons_ne_nil first []) hdigits hstop
    have hjoin : [first] ++ second :: others = first :: second :: others := rfl
    rw [readExponent?_exponentChars, hjoin, hrow] at hread
    simpa using hread

end Numeral

/-- In every layout the text of a numeral can be read, with the value of the numeral. -/
lemma readsBack_decimalText (layout : Layout) (d : Numeral) :
    d.ReadsBack (layout.decimalText d) := by
  unfold Layout.decimalText
  dsimp only
  split
  · exact d.readsBack_placesText layout.fraction
  · exact d.readsBack_exponentText layout.plus

/-- Numerals that are written alike have the same value. -/
lemma value_eq_of_decimalText {layout : Layout} {d other : Numeral}
    (h : layout.decimalText d = layout.decimalText other) : d.value = other.value := by
  obtain ⟨first, hfirst, hd⟩ := readsBack_decimalText layout d
  obtain ⟨second, hsecond, hother⟩ := readsBack_decimalText layout other
  rw [h, hsecond] at hfirst
  rw [← hd, ← hother, Option.some.inj hfirst]

end ViewTemplate.Decimal
