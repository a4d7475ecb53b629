import Mathlib.Tactic.Common
import ViewTemplate.Proofs.ShortestDecimal
import ViewTemplate.Value.Json

/-!
# The text of a number determines the number

Floats are written with the shortest decimal that is rounded to them, so in every layout two floats
with one text are one float (`Layout.text_inj`), signed zeros and the values that are not finite
included.  Among data a float shows a point, an exponent or a letter, and an integer never does, so
the JSON text of a number determines it together with its kind (`Number.json_inj`).
-/

namespace ViewTemplate.Decimal

/-! ## Floats and their bits -/

lemma eq_of_toBits {x y : Float} (h : x.toBits = y.toBits) : x = y := by
  obtain ⟨⟨xbits, hx⟩⟩ := x
  obtain ⟨⟨ybits, hy⟩⟩ := y
  obtain rfl : xbits = ybits := h
  rfl

/-- The bits of a float are its sign, its exponent and its fraction. -/
lemma toNat_toBits (x : Float) : x.toBits.toNat =
    (if isNegative x then 2 ^ 63 else 0) + exponentBits x * 2 ^ 52 + fractionBits x := by
  have hlt : x.toBits.toNat < 2 ^ 64 := x.toBits.toNat_lt
  have hexponent : exponentBits x = x.toBits.toNat / 2 ^ 52 % 2048 := by
    rw [exponentBits, UInt64.toNat_shiftRight, Nat.shiftRight_eq_div_pow]
    rfl
  simp only [isNegative, decide_eq_true_eq, hexponent, fractionBits]
  split <;> omega

lemma eq_of_parts {x y : Float} (hsign : isNegative x = isNegative y)
    (hexponent : exponentBits x = exponentBits y) (hfraction : fractionBits x = fractionBits y) :
    x = y := by
  refine eq_of_toBits (UInt64.toNat_inj.1 ?_)
  rw [toNat_toBits, toNat_toBits, hsign, hexponent, hfraction]

lemma exponent_ofFloat (x : Float) :
    (Binary.ofFloat x).exponent = max (exponentBits x : Int) 1 - 1075 := by
  unfold Binary.ofFloat
  by_cases hzero : exponentBits x = 0
  · simp [hzero]
  · simp only [if_neg hzero]
    omega

lemma mantissa_ofFloat (x : Float) : (Binary.ofFloat x).mantissa =
    (if exponentBits x = 0 then 0 else 2 ^ 52) + fractionBits x := by
  unfold Binary.ofFloat
  by_cases hzero : exponentBits x = 0
  · simp [hzero]
  · simp only [if_neg hzero]
    omega

/-- A magnitude and a sign determine a float. -/
lemma eq_of_ofFloat {x y : Float} (hsign : isNegative x = isNegative y)
    (h : Binary.ofFloat x = Binary.ofFloat y) : x = y := by
  have hx : fractionBits x < 2 ^ 52 := Nat.mod_lt _ (by omega)
  have hy : fractionBits y < 2 ^ 52 := Nat.mod_lt _ (by omega)
  have hexponent := congrArg Binary.exponent h
  have hmantissa := congrArg Binary.mantissa h
  rw [exponent_ofFloat, exponent_ofFloat] at hexponent
  rw [mantissa_ofFloat, mantissa_ofFloat] at hmantissa
  refine eq_of_parts hsign ?_ ?_ <;> split_ifs at hmantissa <;> omega

/-- The bits of the exponent and of the fraction as the type of floats cuts them out. -/
lemma toNat_unpackExponent (x : Float) :
    (@Float.Model.UnpackedFloat.unpackExponent .binary64 x.toBits.toBitVec).toNat =
      exponentBits x := by
  rw [Float.Model.UnpackedFloat.unpackExponent]
  simp [exponentBits, BitVec.extractLsb_toNat, UInt64.toNat_shiftRight]

lemma toNat_unpackMantissa (x : Float) :
    (@Float.Model.UnpackedFloat.unpackMantissa .binary64 x.toBits.toBitVec).toNat =
      fractionBits x := by
  rw [Float.Model.UnpackedFloat.unpackMantissa]
  simp [fractionBits, BitVec.extractLsb_toNat]

lemma unpackExponent_eq_iff (x : Float) :
    @Float.Model.UnpackedFloat.unpackExponent .binary64 x.toBits.toBitVec = -1 ↔
      exponentBits x = 2047 := by
  rw [← toNat_unpackExponent, ← BitVec.toNat_inj]
  rfl

lemma unpackMantissa_eq_iff (x : Float) :
    @Float.Model.UnpackedFloat.unpackMantissa .binary64 x.toBits.toBitVec = 0 ↔
      fractionBits x = 0 := by
  rw [← toNat_unpackMantissa, ← BitVec.toNat_inj]
  rfl

/-- What is not a number has an exponent without zero bits and a fraction that is not zero. -/
lemma isNaN_iff (x : Float) :
    x.isNaN = true ↔ exponentBits x = 2047 ∧ fractionBits x ≠ 0 := by
  rw [← unpackExponent_eq_iff, Ne, ← unpackMantissa_eq_iff]
  show (Float.Model.UnpackedFloat.unpack .binary64 x.toBits.toBitVec).isNaN = true ↔ _
  unfold Float.Model.UnpackedFloat.unpack
  dsimp only
  rw [apply_ite Float.Model.UnpackedFloat.isNaN, apply_ite Float.Model.UnpackedFloat.isNaN,
    apply_ite Float.Model.UnpackedFloat.isNaN, apply_dite Float.Model.UnpackedFloat.isNaN]
  change (if _ then if _ then false else true
    else if _ then if _ : _ then false else false else false) = true ↔ _
  split_ifs with hexponent hmantissa
  · exact iff_of_false id fun h => h.2 hmantissa
  · exact iff_of_true rfl ⟨hexponent, hmantissa⟩
  all_goals exact iff_of_false id fun h => hexponent h.1

/-- There is one float that is not a number. -/
lemma eq_of_isNaN {x y : Float} (hx : x.isNaN = true) (hy : y.isNaN = true) : x = y := by
  have hbits : ∀ {z : Float}, z.isNaN = true →
      z.toBits.toBitVec = Float.Model.UnpackedFloat.packedNaN .binary64 := by
    intro z hz
    rw [isNaN_iff, ← unpackExponent_eq_iff, Ne, ← unpackMantissa_eq_iff] at hz
    exact z.toModel.valid.eq_packedNaN hz.1 hz.2
  exact eq_of_toBits (UInt64.toBitVec_inj.1 ((hbits hx).trans (hbits hy).symm))

/-! ## Floats and their text -/

/-- A numeral starts with a digit or a point. -/
lemma exists_head_of_readNumeral? {text : List Char} {d : Numeral}
    (h : readNumeral? text = some d) :
    ∃ c rest, text = c :: rest ∧ (c.isDigit = true ∨ c = '.') := by
  cases text with
  | nil => simp [readNumeral?, takeDigits, takeFraction] at h
  | cons c rest =>
    refine ⟨c, rest, rfl, ?_⟩
    by_contra hc
    obtain ⟨hdigit, hpoint⟩ := not_or.1 hc
    have hnone : takeFraction (c :: rest) = ([], c :: rest) := by
      unfold takeFraction
      split
      · rename_i heq
        exact absurd (List.cons.inj heq).1 hpoint
      · rfl
    simp [readNumeral?, takeDigits, hdigit, hnone] at h

/-- The text of a float without its sign. -/
def Layout.magnitudeText (layout : Layout) (x : Float) : String :=
  if isFinite x then layout.decimalText ((Binary.ofFloat x).shortest layout.tie) else "inf"

/-- The text of a magnitude starts with a digit, a point or the letter of infinity. -/
lemma exists_head_magnitudeText (layout : Layout) (x : Float) :
    ∃ c rest, (layout.magnitudeText x).toList = c :: rest ∧
      (c.isDigit = true ∨ c = '.' ∨ c = 'i') := by
  unfold Layout.magnitudeText
  split
  · obtain ⟨d, hread, -⟩ := readsBack_decimalText layout ((Binary.ofFloat x).shortest layout.tie)
    obtain ⟨c, rest, htext, hc⟩ := exists_head_of_readNumeral? hread
    exact ⟨c, rest, htext, hc.imp_right .inl⟩
  · exact ⟨'i', ['n', 'f'], rfl, .inr (.inr rfl)⟩

lemma text_of_not_isNaN (layout : Layout) {x : Float} (hx : x.isNaN = false) : layout.text x =
    if isNegative x then "-" ++ layout.magnitudeText x else layout.magnitudeText x := by
  rw [Layout.text, hx]
  rfl

lemma takeSign_text (layout : Layout) {x : Float} (hx : x.isNaN = false) :
    takeSign (layout.text x).toList = (isNegative x, (layout.magnitudeText x).toList) := by
  rw [text_of_not_isNaN layout hx]
  cases hsign : isNegative x with
  | true => simp [takeSign]
  | false =>
    obtain ⟨c, rest, hmagnitude, hc⟩ := exists_head_magnitudeText layout x
    simp only [Bool.false_eq_true, if_false, hmagnitude]
    unfold takeSign
    split
    · rename_i heq
      obtain rfl := (List.cons.inj heq).1
      simp [Char.isDigit] at hc
    · rename_i heq
      obtain rfl := (List.cons.inj heq).1
      simp [Char.isDigit] at hc
    · rfl

/-- The word for infinity is no numeral. -/
lemma readNumeral?_inf : readNumeral? "inf".toList = none :=
  rfl

lemma text_eq_nan_iff (layout : Layout) (x : Float) : layout.text x = "NaN" ↔ x.isNaN = true := by
  constructor
  · intro h
    by_contra hx
    have hsign := takeSign_text layout (Bool.not_eq_true _ ▸ hx)
    obtain ⟨c, rest, hmagnitude, hc⟩ := exists_head_magnitudeText layout x
    rw [h, hmagnitude] at hsign
    obtain rfl : 'N' = c := (List.cons.inj (Prod.mk.inj hsign).2).1
    simp [Char.isDigit] at hc
  · intro hx
    rw [Layout.text, if_pos hx]

/-- Magnitudes with one text are finite together, and then they are one. -/
lemma ofFloat_eq_of_magnitudeText {layout : Layout} {x y : Float} (hx : isFinite x = true)
    (h : layout.magnitudeText x = layout.magnitudeText y) :
    isFinite y = true ∧ Binary.ofFloat x = Binary.ofFloat y := by
  rw [Layout.magnitudeText, if_pos hx, Layout.magnitudeText] at h
  cases hy : isFinite y with
  | false =>
    obtain ⟨d, hread, -⟩ := readsBack_decimalText layout ((Binary.ofFloat x).shortest layout.tie)
    rw [h, hy, if_neg Bool.false_ne_true, readNumeral?_inf] at hread
    simp at hread
  | true =>
    rw [if_pos hy] at h
    exact ⟨rfl, Binary.shortest_value_inj (Binary.isMagnitude_ofFloat x)
      (Binary.isMagnitude_ofFloat y) (value_eq_of_decimalText h)⟩

lemma parts_of_not_isFinite {x : Float} (hx : x.isNaN = false) (h : isFinite x = false) :
    exponentBits x = 2047 ∧ fractionBits x = 0 := by
  have hexponent : exponentBits x = 2047 := by simpa [isFinite] using h
  have hnumber : ¬x.isNaN = true := by
    rw [hx]
    exact Bool.false_ne_true
  rw [isNaN_iff] at hnumber
  exact ⟨hexponent, by_contra fun hfraction => hnumber ⟨hexponent, hfraction⟩⟩

/-- In every layout the text of a float determines the float. -/
lemma Layout.text_inj {layout : Layout} {x y : Float} (h : layout.text x = layout.text y) :
    x = y := by
  by_cases hx : x.isNaN = true
  · have hy : y.isNaN = true := by rwa [← text_eq_nan_iff layout, ← h, text_eq_nan_iff]
    exact eq_of_isNaN hx hy
  have hy : ¬y.isNaN = true := by rwa [← text_eq_nan_iff layout, ← h, text_eq_nan_iff]
  rw [Bool.not_eq_true] at hx hy
  -- the sign can be told from the rest of the text
  have hparts := takeSign_text layout hx
  rw [h, takeSign_text layout hy] at hparts
  have hsign : isNegative x = isNegative y := (Prod.mk.inj hparts).1.symm
  have hmagnitude : layout.magnitudeText x = layout.magnitudeText y :=
    String.toList_inj.1 (Prod.mk.inj hparts).2.symm
  cases hfinite : isFinite x with
  | true => exact eq_of_ofFloat hsign (ofFloat_eq_of_magnitudeText hfinite hmagnitude).2
  | false =>
    have hother : isFinite y = false := by
      by_contra hy
      have := (ofFloat_eq_of_magnitudeText (Bool.of_not_eq_false hy) hmagnitude.symm).1
      simp [this] at hfinite
    -- two infinities of one sign
    obtain ⟨hexponent, hfraction⟩ := parts_of_not_isFinite hx hfinite
    obtain ⟨hexponent', hfraction'⟩ := parts_of_not_isFinite hy hother
    exact eq_of_parts hsign (hexponent.trans hexponent'.symm) (hfraction.trans hfraction'.symm)

/-! ## Integers and their text -/

lemma takeSign_intText (n : Int) :
    takeSign (intText n).toList = (decide (n < 0), Nat.toDigits 10 n.natAbs) := by
  unfold intText
  by_cases hn : n < 0
  · simp [hn, takeSign, natText]
  · simp [hn, natText, takeSign_of_digits fun c => isDigit_of_mem_toDigits]

lemma intText_inj {m n : Int} (h : intText m = intText n) : m = n := by
  have hparts := takeSign_intText m
  rw [h, takeSign_intText] at hparts
  have hsign : (n < 0) = (m < 0) := by simpa using (Prod.mk.inj hparts).1
  have hsize := congrArg digitsValue (Prod.mk.inj hparts).2
  rw [digitsValue_toDigits, digitsValue_toDigits] at hsize
  have hsign' : n < 0 ↔ m < 0 := by rw [hsign]
  omega

lemma isDigit_or_minus_of_mem_intText {n : Int} {c : Char} (h : c ∈ (intText n).toList) :
    c.isDigit = true ∨ c = '-' := by
  unfold intText at h
  split at h
  · rcases List.mem_append.1 (String.toList_append ▸ h) with h | h
    · exact .inr (List.mem_singleton.1 h)
    · exact .inl (isDigit_of_mem_toDigits (String.toList_ofList ▸ h))
  · exact .inl (isDigit_of_mem_toDigits (String.toList_ofList ▸ h))

/-! ## Numbers among data -/

lemma point_mem_placesText (d : Numeral) : '.' ∈ (d.placesText true).toList := by
  unfold Numeral.placesText
  dsimp only
  split
  · simp
  · split <;> simp

lemma mark_mem_exponentText (d : Numeral) (plus : Bool) : 'e' ∈ (d.exponentText plus).toList := by
  simp [Numeral.exponentText]

/-- Among data a float shows a point, an exponent or a letter. -/
lemma exists_mark_dataText (x : Float) :
    ∃ c ∈ (dataLayout.text x).toList, c.isDigit = false ∧ c ≠ '-' := by
  by_cases hx : x.isNaN = true
  · rw [(text_eq_nan_iff dataLayout x).2 hx]
    exact ⟨'N', by decide, by decide, by decide⟩
  obtain ⟨c, hc, hmark⟩ :
      ∃ c ∈ (dataLayout.magnitudeText x).toList, c.isDigit = false ∧ c ≠ '-' := by
    unfold Layout.magnitudeText Layout.decimalText
    dsimp only
    split
    · split
      · exact ⟨'.', point_mem_placesText _, by decide, by decide⟩
      · exact ⟨'e', mark_mem_exponentText _ _, by decide, by decide⟩
    · exact ⟨'f', by decide, by decide, by decide⟩
  refine ⟨c, ?_, hmark⟩
  rw [text_of_not_isNaN dataLayout (Bool.not_eq_true _ ▸ hx)]
  split
  · rw [String.toList_append]
    exact List.mem_append_right _ hc
  · exact hc

/-- The characters that numbers are written with. -/
def isNumberChar (c : Char) : Bool :=
  c.isDigit || ['.', 'e', '+', '-', 'i', 'n', 'f', 'N', 'a'].contains c

/-- A text has only characters that numbers are written with. -/
def IsNumberText (text : List Char) : Prop :=
  text.all isNumberChar = true

instance (text : List Char) : Decidable (IsNumberText text) :=
  inferInstanceAs (Decidable (text.all isNumberChar = true))

namespace IsNumberText

lemma append {text other : List Char} (h : IsNumberText text) (h' : IsNumberText other) :
    IsNumberText (text ++ other) := by
  rw [IsNumberText, List.all_append, h, h']
  rfl

lemma of_digits {text : List Char} (h : ∀ c ∈ text, c.isDigit = true) : IsNumberText text :=
  List.all_eq_true.2 fun c hc => by rw [isNumberChar, h c hc, Bool.true_or]

lemma toDigits (n : Nat) : IsNumberText (Nat.toDigits 10 n) :=
  of_digits fun _ => isDigit_of_mem_toDigits

lemma zeros (count : Nat) : IsNumberText (List.replicate count '0') :=
  of_digits fun _ => isDigit_of_mem_zeros

lemma take {text : List Char} (h : IsNumberText text) (count : Nat) :
    IsNumberText (text.take count) :=
  List.all_eq_true.2 fun c hc => List.all_eq_true.1 h c (List.mem_of_mem_take hc)

lemma drop {text : List Char} (h : IsNumberText text) (count : Nat) :
    IsNumberText (text.drop count) :=
  List.all_eq_true.2 fun c hc => List.all_eq_true.1 h c (List.mem_of_mem_drop hc)

/-- A character and what follows it. -/
lemma cons {c : Char} {text : List Char} (hc : isNumberChar c = true) (h : IsNumberText text) :
    IsNumberText (c :: text) := by
  rw [IsNumberText, List.all_cons, hc, h]
  rfl

lemma placesText (d : Numeral) (fraction : Bool) : IsNumberText (d.placesText fraction).toList := by
  unfold Numeral.placesText
  dsimp only
  split
  · rw [String.toList_append, String.toList_ofList]
    refine append (append (toDigits d.digits) (zeros _)) ?_
    cases fraction <;> decide
  · split
    · rw [String.toList_ofList]
      exact append ((toDigits d.digits).take _) (cons rfl ((toDigits d.digits).drop _))
    · rw [String.toList_ofList]
      exact append (cons rfl (cons rfl (zeros _))) (toDigits d.digits)

lemma exponentText (d : Numeral) (plus : Bool) : IsNumberText (d.exponentText plus).toList := by
  unfold Numeral.exponentText
  simp only [String.toList_append, String.toList_ofList, natText]
  refine append (append (append (append ((toDigits d.digits).take 1) ?_) (by decide)) ?_)
    (toDigits _)
  · split
    · rfl
    · exact cons rfl ((toDigits d.digits).drop 1)
  · split
    · decide
    · cases plus <;> decide

lemma intText (n : Int) : IsNumberText (Decimal.intText n).toList := by
  unfold Decimal.intText
  split
  · rw [String.toList_append]
    exact append (by decide) (String.toList_ofList ▸ toDigits _)
  · exact String.toList_ofList ▸ toDigits _

lemma layoutText (layout : Layout) (x : Float) : IsNumberText (layout.text x).toList := by
  have hmagnitude : IsNumberText (layout.magnitudeText x).toList := by
    unfold Layout.magnitudeText Layout.decimalText
    dsimp only
    split
    · split
      · exact placesText _ _
      · exact exponentText _ _
    · decide
  by_cases hx : x.isNaN = true
  · rw [(text_eq_nan_iff layout x).2 hx]
    decide
  · rw [text_of_not_isNaN layout (Bool.not_eq_true _ ▸ hx)]
    split
    · rw [String.toList_append]
      exact append (by decide) hmagnitude
    · exact hmagnitude

end IsNumberText

end ViewTemplate.Decimal

namespace ViewTemplate.Number

open ViewTemplate.Decimal

lemma isNumberText_json (n : Number) : IsNumberText n.json.toList := by
  cases n with
  | int n => exact .intText n
  | float x => exact .layoutText dataLayout x

/-- What the text of a number starts with. -/
def startsNumber (c : Char) : Bool :=
  c.isDigit || ['.', '-', 'i', 'N'].contains c

lemma exists_head_intText (n : Int) :
    ∃ c rest, (intText n).toList = c :: rest ∧ startsNumber c = true := by
  obtain ⟨c, rest, hdigits⟩ :=
    List.exists_cons_of_ne_nil (Nat.toDigits_ne_nil (n := n.natAbs) (b := 10))
  have hc : c.isDigit = true := isDigit_of_mem_toDigits (hdigits ▸ List.mem_cons_self)
  unfold intText
  split
  · exact ⟨'-', _, String.toList_append, by decide⟩
  · exact ⟨c, rest, String.toList_ofList.trans hdigits, by simp [startsNumber, hc]⟩

lemma exists_head_text (layout : Layout) (x : Float) :
    ∃ c rest, (layout.text x).toList = c :: rest ∧ startsNumber c = true := by
  by_cases hx : x.isNaN = true
  · rw [(text_eq_nan_iff layout x).2 hx]
    exact ⟨'N', ['a', 'N'], rfl, by decide⟩
  · rw [text_of_not_isNaN layout (Bool.not_eq_true _ ▸ hx)]
    obtain ⟨c, rest, hmagnitude, hc⟩ := exists_head_magnitudeText layout x
    split
    · exact ⟨'-', _, String.toList_append, by decide⟩
    · refine ⟨c, rest, hmagnitude, ?_⟩
      rcases hc with hc | rfl | rfl
      · simp [startsNumber, hc]
      · decide
      · decide

lemma exists_head_json (n : Number) :
    ∃ c rest, n.json.toList = c :: rest ∧ startsNumber c = true := by
  cases n with
  | int n => exact exists_head_intText n
  | float x => exact exists_head_text dataLayout x

lemma json_int_ne_float (n : Int) (x : Float) : (Number.int n).json ≠ (Number.float x).json := by
  intro h
  obtain ⟨c, hc, hdigit, hminus⟩ := exists_mark_dataText x
  have hint : c ∈ (intText n).toList := by
    have hsame : intText n = dataLayout.text x := h
    rwa [hsame]
  rcases isDigit_or_minus_of_mem_intText hint with hdigit' | rfl
  · simp [hdigit] at hdigit'
  · exact hminus rfl

/-- The JSON text of a number determines the number and its kind. -/
lemma json_inj {m n : Number} (h : m.json = n.json) : m = n := by
  cases m with
  | int m =>
    cases n with
    | int n => exact congrArg Number.int (intText_inj h)
    | float y => exact absurd h (json_int_ne_float m y)
  | float x =>
    cases n with
    | int n => exact absurd h.symm (json_int_ne_float n x)
    | float y => exact congrArg Number.float (Layout.text_inj h)

end ViewTemplate.Number
