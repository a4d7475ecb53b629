import Mathlib.Data.List.TakeWhile
import Mathlib.Tactic.Common
import ViewTemplate.Script.Token

/-!
# How far a piece looks ahead

`nextPiece` takes the longest token at the front of a text, so where a piece ends depends on what
stands behind it.  It depends on little: a run of word characters, digits or blanks on the next
character, a number in front of a point on the next two, a symbol on the characters that could make
it longer, an open string literal on whether the text ends.  No symbol holds a character that can
start a word, so any two words look the same from the piece in front of them.

`LooksLike` says that two texts are the same up to such a place, and `Piece.StandsBefore.congr`
that a piece in front of the one is a piece in front of the other.  This is what an edit of a script
has to respect to leave the pieces outside of the edit as they are; `pieces_eq_of_wellCut` turns it
into a statement about the whole cut.
-/

namespace ViewTemplate.Script

/-! ## Texts that look alike -/

/-- Two texts look alike to a piece in front of them: they are the same up to a place where both go
on with a word, or up to their ends. -/
inductive LooksLike : List Char → List Char → Prop
  | ends : LooksLike [] []
  | word {c d : Char} (hc : isWordStart c = true) (hd : isWordStart d = true)
      (rest other : List Char) : LooksLike (c :: rest) (d :: other)
  | same (c : Char) {rest other : List Char} (h : LooksLike rest other) :
      LooksLike (c :: rest) (c :: other)

namespace LooksLike

lemma append (front : List Char) {text other : List Char} (h : LooksLike text other) :
    LooksLike (front ++ text) (front ++ other) := by
  induction front with
  | nil => exact h
  | cons c front ih => exact .same c ih

lemma eq_nil {other : List Char} (h : LooksLike [] other) : other = [] := by
  cases h
  rfl

end LooksLike

/-- A run of characters of a class does not go on into a text. -/
def StopsAt (q : Char → Bool) (text : List Char) : Prop :=
  ∀ c, text.head? = some c → q c = false

/-- A class of characters that does not tell the starts of words apart. -/
def WordBlind (q : Char → Bool) : Prop :=
  ∀ c d, isWordStart c = true → isWordStart d = true → q c = q d

/-- What stops a run is seen in a text that looks alike. -/
lemma LooksLike.stopsAt {q : Char → Bool} (hq : WordBlind q) {text other : List Char}
    (h : LooksLike text other) (hstop : StopsAt q text) : StopsAt q other := by
  intro d hd
  cases h with
  | ends => simp at hd
  | word hc hd' rest more =>
    obtain rfl := Option.some.inj hd
    rw [← hq _ _ hc hd']
    exact hstop _ rfl
  | same c h => exact hstop d hd

lemma takeWhile_eq_self_iff {q : Char → Bool} {run rest : List Char} :
    (run ++ rest).takeWhile q = run ↔ (∀ c ∈ run, q c = true) ∧ StopsAt q rest := by
  constructor
  · intro h
    have hall : ∀ c ∈ run, q c = true := by
      intro c hc
      rw [← h] at hc
      exact List.mem_takeWhile_imp hc
    refine ⟨hall, fun c hc => ?_⟩
    rw [List.takeWhile_append_of_pos hall] at h
    have hnil : rest.takeWhile q = [] := by simpa using h
    cases rest with
    | nil => simp at hc
    | cons d rest =>
      obtain rfl := Option.some.inj hc
      by_contra hd
      rw [Bool.not_eq_false] at hd
      simp [hd] at hnil
  · rintro ⟨hall, hstop⟩
    rw [List.takeWhile_append_of_pos hall]
    cases rest with
    | nil => simp
    | cons d rest => simp [hstop d rfl]

lemma dropWhile_append_of_stopsAt {q : Char → Bool} {run rest : List Char}
    (hall : ∀ c ∈ run, q c = true) (hstop : StopsAt q rest) :
    (run ++ rest).dropWhile q = rest := by
  rw [List.dropWhile_append_of_pos hall]
  cases rest with
  | nil => rfl
  | cons d rest => simp [hstop d rfl]

/-- A run ends at the same place in front of a text that looks alike. -/
lemma LooksLike.takeWhile {q : Char → Bool} (hq : WordBlind q) {run rest other : List Char}
    (h : LooksLike rest other) (hrun : (run ++ rest).takeWhile q = run) :
    (run ++ other).takeWhile q = run ∧ (run ++ other).dropWhile q = other := by
  obtain ⟨hall, hstop⟩ := takeWhile_eq_self_iff.1 hrun
  have hstop' := h.stopsAt hq hstop
  exact ⟨takeWhile_eq_self_iff.2 ⟨hall, hstop'⟩, dropWhile_append_of_stopsAt hall hstop'⟩

/-! ## Classes of characters

The classes are decided on code points, where a character that is in one of them is out of the
others by arithmetic. -/

lemma isWordStart_iff {c : Char} : isWordStart c = true ↔
    (65 ≤ c.toNat ∧ c.toNat ≤ 90) ∨ (97 ≤ c.toNat ∧ c.toNat ≤ 122) ∨ c.toNat = 95 := by
  have hchar : c = '_' ↔ c.toNat = 95 := Char.toNat_inj.symm
  unfold isWordStart Char.isAlpha Char.isUpper Char.isLower
  simp only [Bool.or_eq_true, Bool.and_eq_true, decide_eq_true_eq, beq_iff_eq,
    UInt32.le_iff_toNat_le, ge_iff_le, hchar]
  exact or_assoc

lemma isDigit_iff {c : Char} : c.isDigit = true ↔ 48 ≤ c.toNat ∧ c.toNat ≤ 57 := by
  simp only [Char.isDigit, Bool.and_eq_true, decide_eq_true_eq, UInt32.le_iff_toNat_le, ge_iff_le]
  exact Iff.rfl

lemma isWordPart_iff {c : Char} : isWordPart c = true ↔
    isWordStart c = true ∨ c.isDigit = true := by
  simp only [isWordPart, isWordStart, Char.isAlphanum, Bool.or_eq_true]
  tauto

lemma isSpacing_iff {c : Char} : isSpacing c = true ↔
    c.toNat = 32 ∨ c.toNat = 9 ∨ c.toNat = 13 ∨ c.toNat = 10 ∨ c.toNat = 12 := by
  have hspace : c = ' ' ↔ c.toNat = 32 := Char.toNat_inj.symm
  have htab : c = '\t' ↔ c.toNat = 9 := Char.toNat_inj.symm
  have hreturn : c = '\r' ↔ c.toNat = 13 := Char.toNat_inj.symm
  have hnewline : c = '\n' ↔ c.toNat = 10 := Char.toNat_inj.symm
  simp only [isSpacing, Bool.or_eq_true, beq_iff_eq, hspace, htab, hreturn, hnewline]
  tauto

lemma isDigit_eq_false_of_isWordStart {c : Char} (h : isWordStart c = true) :
    c.isDigit = false := by
  rw [isWordStart_iff] at h
  rw [← Bool.not_eq_true, isDigit_iff]
  omega

lemma isSpacing_eq_false_of_isWordStart {c : Char} (h : isWordStart c = true) :
    isSpacing c = false := by
  rw [isWordStart_iff] at h
  rw [← Bool.not_eq_true, isSpacing_iff]
  omega

lemma wordBlind_isWordPart : WordBlind isWordPart := by
  intro c d hc hd
  rw [isWordPart_iff.2 (.inl hc), isWordPart_iff.2 (.inl hd)]

lemma wordBlind_isDigit : WordBlind Char.isDigit := by
  intro c d hc hd
  rw [isDigit_eq_false_of_isWordStart hc, isDigit_eq_false_of_isWordStart hd]

lemma wordBlind_isSpacing : WordBlind isSpacing := by
  intro c d hc hd
  rw [isSpacing_eq_false_of_isWordStart hc, isSpacing_eq_false_of_isWordStart hd]

/-! ## Symbols -/

/-- No symbol holds a character that can start a word. -/
lemma Symbol.not_isWordStart_of_mem_spelling {s : Symbol} {c : Char} (h : c ∈ s.spelling) :
    isWordStart c = false := by
  have hall : ∀ s : Symbol, s.spelling.all (fun c => !isWordStart c) = true := by
    intro s
    cases s <;> decide
  have hc := List.all_eq_true.1 (hall s) c h
  simpa using hc

/-- A marker without word characters stands at the front of both of two texts that look alike, or of
none of them. -/
lemma LooksLike.isSome_afterMarker? {text other : List Char} (h : LooksLike text other)
    (marker : List Char) (hmarker : ∀ c ∈ marker, isWordStart c = false) :
    (Text.afterMarker? marker text).isSome = (Text.afterMarker? marker other).isSome := by
  induction marker generalizing text other with
  | nil => rfl
  | cons k marker ih =>
    have hk : isWordStart k = false := hmarker k List.mem_cons_self
    cases h with
    | ends => rfl
    | word hc hd rest more =>
      rename_i c d
      -- texts that look alike may go on with different words, but no marker starts with a word
      have hkc : k ≠ c := by
        rintro rfl
        simp [hk] at hc
      have hkd : k ≠ d := by
        rintro rfl
        simp [hk] at hd
      simp [Text.afterMarker?, hkc, hkd]
    | same c h =>
      by_cases hkc : k = c
      · simp only [Text.afterMarker?, if_pos hkc]
        exact ih h (fun c hc => hmarker c (List.mem_cons_of_mem k hc))
      · simp [Text.afterMarker?, hkc]

/-- The same symbol is found at the front of two texts that look alike. -/
lemma Symbol.split?_congr {text other : List Char} (h : LooksLike text other) :
    (split? text).map Prod.fst = (split? other).map Prod.fst := by
  unfold split?
  induction all with
  | nil => rfl
  | cons s rest ih =>
    have hs := h.isSome_afterMarker? s.spelling
      (fun c hc => not_isWordStart_of_mem_spelling hc)
    rw [List.findSome?_cons, List.findSome?_cons]
    cases htext : Text.afterMarker? s.spelling text with
    | none =>
      rw [htext] at hs
      have hother : Text.afterMarker? s.spelling other = none := by simpa using hs.symm
      simpa [hother] using ih
    | some after =>
      rw [htext] at hs
      obtain ⟨after', hother⟩ := Option.isSome_iff_exists.1 hs.symm
      simp [hother]

/-! ## String literals -/

lemma scanString_quote {quote : Char} (hquote : quote ≠ '\\') (rest : List Char) :
    scanString quote (quote :: rest) = ([], .closed, rest) := by
  rw [scanString]
  · exact if_pos rfl
  · exact fun _ h => absurd h hquote
  · exact fun _ _ h => absurd h hquote

lemma scanString_escape (quote : Char) {c : Char} (hc : c ≠ '\n') (rest : List Char) :
    scanString quote ('\\' :: c :: rest) =
      ('\\' :: c :: (scanString quote rest).1, (scanString quote rest).2.1,
        (scanString quote rest).2.2) := by
  rw [scanString]
  exact hc

lemma scanString_plain {quote c : Char} (hc : c ≠ '\\') (hquote : c ≠ quote) (rest : List Char) :
    scanString quote (c :: rest) =
      (c :: (scanString quote rest).1, (scanString quote rest).2.1,
        (scanString quote rest).2.2) := by
  rw [scanString]
  · exact if_neg hquote
  · exact fun _ h => absurd h hc
  · exact fun _ _ h => absurd h hc

/-- A string literal that is closed is read the same way whatever follows it. -/
lemma scanString_of_closed {quote : Char} (hquote : quote ≠ '\\') {text body after : List Char}
    (h : scanString quote text = (body, .closed, after)) (other : List Char) :
    scanString quote (body ++ quote :: other) = (body, .closed, other) := by
  fun_induction scanString quote text generalizing body with
  | case1 => simp at h
  | case2 rest => simp at h
  | case3 c rest hc inner ending follows hscan ih =>
    simp only [Prod.mk.injEq] at h
    obtain ⟨rfl, rfl, rfl⟩ := h
    rw [List.cons_append, List.cons_append, scanString_escape quote hc, ih hscan]
  | case4 rest =>
    simp only [Prod.mk.injEq] at h
    obtain ⟨rfl, -, -⟩ := h
    exact scanString_quote hquote other
  | case5 c rest _ hescape hne inner ending follows hscan ih =>
    simp only [Prod.mk.injEq] at h
    obtain ⟨rfl, rfl, rfl⟩ := h
    -- a backslash with nothing behind it would leave the string open
    have hc : c ≠ '\\' := by
      rintro rfl
      cases rest with
      | nil => simp [scanString] at hscan
      | cons d rest => exact hescape d rest rfl rfl
    rw [List.cons_append, scanString_plain hc hne, ih hscan]

/-- A string literal that breaks off does so in front of a newline, whatever follows that. -/
lemma scanString_of_broken {quote : Char} {text body after : List Char}
    (h : scanString quote text = (body, .broken, after)) :
    (∃ rest, after = '\n' :: rest) ∧
      ∀ other, scanString quote (body ++ '\n' :: other) = (body, .broken, '\n' :: other) := by
  fun_induction scanString quote text generalizing body with
  | case1 => simp at h
  | case2 rest =>
    simp only [Prod.mk.injEq] at h
    obtain ⟨rfl, -, rfl⟩ := h
    exact ⟨⟨rest, rfl⟩, fun other => by rw [List.singleton_append, scanString]⟩
  | case3 c rest hc inner ending follows hscan ih =>
    simp only [Prod.mk.injEq] at h
    obtain ⟨rfl, rfl, rfl⟩ := h
    obtain ⟨hafter, hall⟩ := ih hscan
    refine ⟨hafter, fun other => ?_⟩
    rw [List.cons_append, List.cons_append, scanString_escape quote hc, hall]
  | case4 rest => simp at h
  | case5 c rest _ hescape hne inner ending follows hscan ih =>
    simp only [Prod.mk.injEq] at h
    obtain ⟨rfl, rfl, rfl⟩ := h
    obtain ⟨hafter, hall⟩ := ih hscan
    have hc : c ≠ '\\' := by
      rintro rfl
      cases rest with
      | nil => simp [scanString] at hscan
      | cons d rest => exact hescape d rest rfl rfl
    refine ⟨hafter, fun other => ?_⟩
    rw [List.cons_append, scanString_plain hc hne, hall]

lemma scanString_of_missing {quote : Char} {text body after : List Char}
    (h : scanString quote text = (body, .missing, after)) : after = [] := by
  fun_induction scanString quote text generalizing body with
  | case1 => simp_all
  | case2 rest => simp at h
  | case3 c rest hc inner ending follows hscan ih =>
    simp only [Prod.mk.injEq] at h
    obtain ⟨rfl, rfl, rfl⟩ := h
    exact ih hscan
  | case4 rest => simp at h
  | case5 c rest _ hescape hne inner ending follows hscan ih =>
    simp only [Prod.mk.injEq] at h
    obtain ⟨rfl, rfl, rfl⟩ := h
    exact ih hscan

/-! ## Numbers -/

/-- No fraction starts here: a point and a digit do not follow. -/
def NoFraction (text : List Char) : Prop :=
  ∀ d rest, text = '.' :: d :: rest → d.isDigit = false

lemma numberPiece_integer {rest : List Char} (h : NoFraction rest) (digits : List Char) :
    numberPiece digits rest = (integerPiece digits, rest) := by
  unfold numberPiece
  split
  · rename_i d more
    rw [if_neg]
    rw [h d more rfl]
    exact Bool.false_ne_true
  · rfl

lemma numberPiece_float {d : Char} (hd : d.isDigit = true) (digits more : List Char) :
    numberPiece digits ('.' :: d :: more) =
      (floatPiece digits (d :: more.takeWhile Char.isDigit), more.dropWhile Char.isDigit) := by
  simp only [numberPiece, hd, if_true]

lemma LooksLike.noFraction {text other : List Char} (h : LooksLike text other)
    (htext : NoFraction text) : NoFraction other := by
  rintro d rest rfl
  cases h with
  | word hc hd _ _ => exact absurd hd (by decide)
  | same c h =>
    cases h with
    | word hc hd _ _ => exact isDigit_eq_false_of_isWordStart hd
    | same d h => exact htext _ _ rfl

lemma numberPiece_text (digits rest : List Char) :
    ∃ more, (numberPiece digits rest).1.text = digits ++ more := by
  by_cases hfraction : NoFraction rest
  · rw [numberPiece_integer hfraction]
    exact ⟨[], (List.append_nil digits).symm⟩
  · simp only [NoFraction, not_forall, Bool.not_eq_false] at hfraction
    obtain ⟨d, more, rfl, hd⟩ := hfraction
    rw [numberPiece_float hd]
    exact ⟨_, rfl⟩

/-- A number ends at the same place in front of a text that looks alike. -/
lemma numberPiece_congr {digits more after other : List Char} {p : Piece}
    (h : numberPiece digits (more ++ after) = (p, after)) (hp : p.text = digits ++ more)
    (hlike : LooksLike after other) : numberPiece digits (more ++ other) = (p, other) := by
  by_cases hfraction : NoFraction (more ++ after)
  · rw [numberPiece_integer hfraction, Prod.mk.injEq] at h
    obtain ⟨rfl, -⟩ := h
    have hmore : more = [] := by simpa [integerPiece] using hp.symm
    subst hmore
    exact numberPiece_integer (hlike.noFraction hfraction) digits
  · simp only [NoFraction, not_forall, Bool.not_eq_false] at hfraction
    obtain ⟨d, rest, hrest, hd⟩ := hfraction
    rw [hrest, numberPiece_float hd, Prod.mk.injEq] at h
    obtain ⟨rfl, -⟩ := h
    obtain rfl : more = '.' :: d :: rest.takeWhile Char.isDigit := by
      simpa [floatPiece] using hp.symm
    rw [List.cons_append, List.cons_append, List.cons.injEq, List.cons.injEq] at hrest
    have hrun := congrArg (List.takeWhile Char.isDigit) hrest.2.2
    obtain ⟨htake, hdrop⟩ := hlike.takeWhile wordBlind_isDigit hrun
    rw [List.cons_append, List.cons_append, numberPiece_float hd, htake, hdrop]

/-! ## Pieces -/

/-- A piece is what stands at the front of a text: its own text, and `after` behind it. -/
def Piece.StandsBefore (p : Piece) (after : List Char) : Prop :=
  ∃ c rest, p.text = c :: rest ∧ nextPiece c (rest ++ after) = (p, after)

lemma standsBefore_nextPiece (c : Char) (rest : List Char) :
    (nextPiece c rest).1.StandsBefore (nextPiece c rest).2 := by
  have happend := nextPiece_append c rest
  have hne := nextPiece_text_ne_nil c rest
  cases htext : (nextPiece c rest).1.text with
  | nil => exact absurd htext hne
  | cons d more =>
    rw [htext, List.cons_append, List.cons.injEq] at happend
    obtain ⟨rfl, hrest⟩ := happend
    exact ⟨d, more, htext, by rw [hrest]⟩

lemma dollarPiece_congr {more after other : List Char} {p : Piece}
    (h : dollarPiece (more ++ after) = (p, after)) (hp : p.text = '$' :: more)
    (hlike : LooksLike after other) : dollarPiece (more ++ other) = (p, other) := by
  cases more with
  | nil =>
    rw [List.nil_append] at h ⊢
    cases hlike with
    | ends => exact h
    | word hc hd rest others =>
      simp only [dollarPiece, hc, if_true, Prod.mk.injEq] at h
      obtain ⟨rfl, -⟩ := h
      simp at hp
    | same c hrest =>
      -- a dollar sign alone, and what follows it starts no word in the other text either
      by_cases hc : isWordStart c = true
      · simp only [dollarPiece, hc, if_true, Prod.mk.injEq] at h
        obtain ⟨rfl, -⟩ := h
        simp at hp
      · simp only [dollarPiece, if_neg hc, Prod.mk.injEq] at h ⊢
        exact ⟨h.1, trivial⟩
  | cons c more =>
    by_cases hc : isWordStart c = true
    · simp only [List.cons_append, dollarPiece, hc, if_true, Prod.mk.injEq] at h ⊢
      obtain ⟨rfl, -⟩ := h
      have hrun : (more ++ after).takeWhile isWordPart = more := by simpa using hp
      obtain ⟨htake, hdrop⟩ := hlike.takeWhile wordBlind_isWordPart hrun
      rw [hrun, htake]
      exact ⟨rfl, hdrop⟩
    · simp only [List.cons_append, dollarPiece, if_neg hc, Prod.mk.injEq] at h
      obtain ⟨rfl, -⟩ := h
      simp at hp

lemma stringPiece_congr {quote : Char} (hquote : quote ≠ '\\') {more after other : List Char}
    {p : Piece} (h : stringPiece quote (more ++ after) = (p, after)) (hp : p.text = quote :: more)
    (hlike : LooksLike after other) : stringPiece quote (more ++ other) = (p, other) := by
  obtain ⟨⟨body, ending, follows⟩, hscan⟩ :
      ∃ scanned, scanString quote (more ++ after) = scanned := ⟨_, rfl⟩
  rw [stringPiece, hscan] at h
  cases ending with
  | closed =>
    simp only [if_true, Prod.mk.injEq] at h
    obtain ⟨rfl, rfl⟩ := h
    obtain rfl : more = body ++ [quote] := by simpa using hp.symm
    have hother := scanString_of_closed hquote hscan other
    rw [stringPiece, List.append_assoc, List.singleton_append, hother]
    rfl
  | broken =>
    simp only [reduceCtorEq, if_false, Prod.mk.injEq] at h
    obtain ⟨rfl, rfl⟩ := h
    obtain rfl : more = body := by simpa using hp.symm
    -- the literal breaks off in front of a newline, with which the other text starts too
    obtain ⟨⟨rest, rfl⟩, hall⟩ := scanString_of_broken hscan
    cases hlike with
    | word hc _ _ _ => exact absurd hc (by decide)
    | same c hrest =>
      rw [stringPiece, hall]
      rfl
  | missing =>
    simp only [reduceCtorEq, if_false, Prod.mk.injEq] at h
    obtain ⟨rfl, rfl⟩ := h
    -- the literal takes all there is, so nothing follows it in either text
    obtain rfl := scanString_of_missing hscan
    obtain rfl := hlike.eq_nil
    rw [stringPiece, hscan]
    rfl

/-- A piece in front of a text is a piece in front of every text that looks alike.  The first
character decides which kind of piece it is, so the two sides take the same branch. -/
lemma Piece.StandsBefore.congr {p : Piece} {after other : List Char} (h : p.StandsBefore after)
    (hlike : LooksLike after other) : p.StandsBefore other := by
  obtain ⟨c, rest, htext, hnext⟩ := h
  refine ⟨c, rest, htext, ?_⟩
  unfold nextPiece at hnext ⊢
  by_cases hspacing : isSpacing c = true
  · simp only [hspacing, if_true, Prod.mk.injEq] at hnext ⊢
    obtain ⟨rfl, -⟩ := hnext
    have hrun : (rest ++ after).takeWhile isSpacing = rest := by simpa using htext
    obtain ⟨htake, hdrop⟩ := hlike.takeWhile wordBlind_isSpacing hrun
    rw [hrun, htake]
    exact ⟨rfl, hdrop⟩
  rw [if_neg hspacing] at hnext ⊢
  by_cases hword : isWordStart c = true
  · simp only [hword, if_true, Prod.mk.injEq] at hnext ⊢
    obtain ⟨rfl, -⟩ := hnext
    have hrun : (rest ++ after).takeWhile isWordPart = rest := by simpa using htext
    obtain ⟨htake, hdrop⟩ := hlike.takeWhile wordBlind_isWordPart hrun
    rw [hrun, htake]
    exact ⟨rfl, hdrop⟩
  rw [if_neg hword] at hnext ⊢
  by_cases hdollar : c = '$'
  · rw [if_pos hdollar] at hnext ⊢
    exact dollarPiece_congr hnext (by rw [htext, hdollar]) hlike
  rw [if_neg hdollar] at hnext ⊢
  by_cases hdigit : c.isDigit = true
  · rw [if_pos hdigit] at hnext ⊢
    -- The first digits, and what the number has behind them if it is a float.
    obtain ⟨digits, hdigits⟩ : ∃ digits, (rest ++ after).takeWhile Char.isDigit = digits :=
      ⟨_, rfl⟩
    obtain ⟨follows, hfollows⟩ : ∃ follows, (rest ++ after).dropWhile Char.isDigit = follows :=
      ⟨_, rfl⟩
    have hparts : digits ++ follows = rest ++ after := by
      rw [← hdigits, ← hfollows, List.takeWhile_append_dropWhile]
    rw [hdigits, hfollows] at hnext
    obtain ⟨more, hmore⟩ := numberPiece_text (c :: digits) follows
    rw [hnext, htext, List.cons_append, List.cons.injEq] at hmore
    obtain ⟨-, rfl⟩ := hmore
    rw [List.append_assoc] at hdigits hparts ⊢
    obtain rfl := List.append_cancel_left hparts
    obtain ⟨htake, hdrop⟩ := (hlike.append more).takeWhile wordBlind_isDigit hdigits
    rw [htake, hdrop]
    exact numberPiece_congr hnext htext hlike
  rw [if_neg hdigit] at hnext ⊢
  by_cases hquote : c = '"' ∨ c = '\''
  · rw [if_pos hquote] at hnext ⊢
    have hescape : c ≠ '\\' := by rcases hquote with rfl | rfl <;> decide
    exact stringPiece_congr hescape hnext htext hlike
  rw [if_neg hquote] at hnext ⊢
  have hsplit := Symbol.split?_congr (hlike.append (c :: rest))
  simp only [List.cons_append] at hsplit
  cases hfound : Symbol.split? (c :: (rest ++ after)) with
  | none =>
    rw [hfound] at hnext hsplit
    simp only [Prod.mk.injEq] at hnext
    obtain ⟨rfl, -⟩ := hnext
    obtain rfl : rest = [] := by simpa using htext
    have hother : Symbol.split? (c :: ([] ++ other)) = none := by simpa using hsplit.symm
    rw [hother]
    rfl
  | some found =>
    obtain ⟨s, follows⟩ := found
    rw [hfound] at hnext hsplit
    simp only [Prod.mk.injEq] at hnext
    obtain ⟨rfl, rfl⟩ := hnext
    obtain ⟨⟨s', follows'⟩, hother, hs⟩ := Option.map_eq_some_iff.1 hsplit.symm
    obtain rfl : s' = s := hs
    have hspelling : s'.spelling = c :: rest := htext
    have hrest := Symbol.split?_eq_some hother
    rw [hspelling, List.cons_append, List.cons.injEq] at hrest
    rw [hother, List.append_cancel_left hrest.2]

/-! ## Whole cuts -/

/-- Every piece of a row stands before the pieces behind it. -/
inductive WellCut : List Piece → Prop
  | nil : WellCut []
  | cons {p : Piece} {ps : List Piece} (h : p.StandsBefore (textOf ps)) (hrest : WellCut ps) :
      WellCut (p :: ps)

/-- A script is well cut into its pieces. -/
lemma wellCut_pieces (text : List Char) : WellCut (pieces text) := by
  fun_induction pieces text with
  | case1 => exact .nil
  | case2 c rest ih =>
    refine .cons ?_ ih
    rw [textOf_pieces]
    exact standsBefore_nextPiece c rest

/-- Pieces that are well cut are the pieces of their text. -/
lemma pieces_eq_of_wellCut {ps : List Piece} (h : WellCut ps) : pieces (textOf ps) = ps := by
  induction h with
  | nil => rw [textOf_nil, pieces]
  | @cons p ps hp _ ih =>
    obtain ⟨c, rest, htext, hnext⟩ := hp
    have hwhole : textOf (p :: ps) = c :: (rest ++ textOf ps) := by
      rw [textOf_cons, htext, List.cons_append]
    rw [hwhole, pieces, hnext, ih]

end ViewTemplate.Script
