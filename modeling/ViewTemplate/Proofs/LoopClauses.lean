import Mathlib.Data.List.Chain
import Mathlib.Tactic.Common
import ViewTemplate.Directive.Basic
import ViewTemplate.Proofs.EnclosingParentheses

/-!
# Loops get the clauses they were written with

The clauses of a loop are cut out of the text of its directive before any of them is read.  A loop
over items takes the shortest subject that has ` as ` and names behind it, and nothing else; it does
not look at quotes.  The other loop is split at the semicolons outside of quotes and brackets.

Neither can be led astray by what stands in a clause.  Behind the `as` that a loop over items finds,
no `a` has a blank in front of it (`loopNames?_eq_some`), and the last `as` of the clause has, so it
finds the last one.  And the split passes over the text of a clause as the search for the closing
parenthesis does, because a script that can be read has no semicolon inside of an expression.
-/

namespace ViewTemplate.Text

/-! ## Blanks and words -/

/-- Membership of a code point, by a walk along the edges that decides each one before the next. -/
def insideAt (n : Nat) : List Nat → Bool → Bool
  | [], inside => inside
  | edge :: edges, true => if edge ≤ n then insideAt n edges false else insideAt n edges true
  | edge :: edges, false => if edge ≤ n then insideAt n edges true else insideAt n edges false

lemma contains_eq_insideAt (k : CharClass) (c : Char) :
    k.contains c = insideAt c.toNat k.edges.toList false := by
  have hwalk : ∀ (edges : List Nat) (inside : Bool),
      edges.foldl (fun inside edge => if edge ≤ c.toNat then !inside else inside) inside =
        insideAt c.toNat edges inside := by
    intro edges
    induction edges with
    | nil => exact fun _ => rfl
    | cons edge edges ih =>
      intro inside
      rw [List.foldl_cons, ih]
      cases inside <;> simp only [insideAt] <;> split <;> rfl
  rw [CharClass.contains, ← Array.foldl_toList]
  exact hwalk _ _

/-- The code points of the blanks that are not ASCII. -/
def wideBlanks : List Nat :=
  [0x85, 0xA0, 0x1680, 0x2000, 0x2001, 0x2002, 0x2003, 0x2004, 0x2005, 0x2006, 0x2007, 0x2008,
    0x2009, 0x200A, 0x2028, 0x2029, 0x202F, 0x205F, 0x3000]

lemma isBlank_eq_false_of_isWordChar {c : Char} (h : isWordChar c = true) : isBlank c = false := by
  unfold isWordChar at h
  split at h
  · exact Script.isBlank_eq_false_of_isWordPart h
  · by_contra hblank
    simp only [isBlank, Bool.not_eq_false, Bool.or_eq_true, Bool.and_eq_true, decide_eq_true_eq,
      beq_iff_eq] at hblank
    have hcode : c.toNat ∈ wideBlanks := by
      simp only [wideBlanks, List.mem_cons, List.not_mem_nil, or_false]
      omega
    have hwide : ∀ n ∈ wideBlanks, insideAt n wordChar.edges.toList false = false := by
      decide +kernel
    rw [contains_eq_insideAt, hwide _ hcode] at h
    cases h

lemma isWordChar_of_isWordPart {c : Char} (h : Script.isWordPart c = true) :
    isWordChar c = true := by
  have hascii : c.toNat < 0x80 := by
    rw [Script.isWordPart_iff, Script.isWordStart_iff, Script.isDigit_iff] at h
    omega
  rw [isWordChar, if_pos hascii]
  exact h

end ViewTemplate.Text

namespace ViewTemplate.Directive

open Script
open Text (isBlank isWordChar)

/-! ## The names of a loop over items -/

/-- Whether a text is the name of a variable of a script. -/
def isVarName : List Char → Bool
  | [] => false
  | c :: rest => isWordStart c && rest.all isWordPart

lemma isWordPart_of_isVarName {name : List Char} (h : isVarName name = true) :
    ∀ c ∈ name, isWordPart c = true := by
  cases name with
  | nil => cases h
  | cons c rest =>
    obtain ⟨hc, hrest⟩ := Bool.and_eq_true_iff.1 h
    exact List.forall_mem_cons.2 ⟨isWordPart_iff.2 (.inl hc), List.all_eq_true.1 hrest⟩

/-- The second of two characters may follow the first one behind the `as` of a loop. -/
def Follows (c d : Char) : Prop :=
  isBlank c = true → d ≠ 'a'

lemma isChain_follows_cons {c : Char} {text : List Char} (hc : isBlank c = false)
    (h : text.IsChain Follows) : (c :: text).IsChain Follows :=
  List.isChain_cons.2 ⟨fun _ _ hblank => absurd hblank (by simp [hc]), h⟩

lemma isChain_follows_word {word text : List Char} (hword : ∀ c ∈ word, isWordChar c = true)
    (h : text.IsChain Follows) : (word ++ text).IsChain Follows := by
  induction word with
  | nil => exact h
  | cons c word ih =>
    refine isChain_follows_cons (Text.isBlank_eq_false_of_isWordChar ?_) (ih ?_)
    · exact hword c List.mem_cons_self
    · exact fun d hd => hword d (.tail c hd)

lemma isChain_follows_blanks {blanks text : List Char} (hblanks : ∀ c ∈ blanks, isBlank c = true)
    (hhead : text.head? ≠ some 'a') (h : text.IsChain Follows) :
    (blanks ++ text).IsChain Follows := by
  induction blanks with
  | nil => exact h
  | cons c blanks ih =>
    have hrest : ∀ d ∈ blanks, isBlank d = true := fun d hd => hblanks d (.tail c hd)
    refine List.isChain_cons.2 ⟨?_, ih hrest⟩
    rintro d hd - rfl
    cases blanks with
    | nil => exact hhead hd
    | cons b blanks =>
      obtain rfl := Option.some.inj hd
      exact absurd (hrest _ List.mem_cons_self) (by decide)

lemma afterBlanks?_eq_some {text rest : List Char} (h : afterBlanks? text = some rest) :
    ∃ blanks, text = blanks ++ rest ∧ ∀ c ∈ blanks, isBlank c = true := by
  unfold afterBlanks? at h
  split at h
  · rename_i c text
    split at h
    · rename_i hc
      obtain rfl := Option.some.inj h
      refine ⟨c :: text.takeWhile isBlank, ?_, ?_⟩
      · rw [List.cons_append, List.takeWhile_append_dropWhile]
      · exact List.forall_mem_cons.2 ⟨hc, fun d hd => List.mem_takeWhile_imp hd⟩
    · cases h
  · cases h

lemma loopName?_eq_some {text name rest : List Char} (h : loopName? text = some (name, rest)) :
    ∃ blanks, text = '$' :: (name ++ (blanks ++ rest)) ∧ (∀ c ∈ name, isWordChar c = true) ∧
      ∀ c ∈ blanks, isBlank c = true := by
  unfold loopName? at h
  split at h
  · rename_i text
    dsimp only at h
    split at h
    · cases h
    · obtain ⟨rfl, rfl⟩ := Prod.mk.inj (Option.some.inj h)
      refine ⟨(text.dropWhile isWordChar).takeWhile isBlank, ?_, ?_, ?_⟩
      · rw [List.takeWhile_append_dropWhile, List.takeWhile_append_dropWhile]
      · exact fun c hc => List.mem_takeWhile_imp hc
      · exact fun c hc => List.mem_takeWhile_imp hc
  · cases h

/-- Behind blanks and a name no `a` follows a blank if none does in the rest. -/
lemma isChain_follows_name {text name rest : List Char} (h : loopName? text = some (name, rest))
    {blanks : List Char} (hblanks : ∀ c ∈ blanks, isBlank c = true)
    (hhead : rest.head? ≠ some 'a') (hrest : rest.IsChain Follows) :
    (blanks ++ text).IsChain Follows := by
  obtain ⟨more, rfl, hname, hmore⟩ := loopName?_eq_some h
  refine isChain_follows_blanks hblanks (by simp) (isChain_follows_cons (by decide) ?_)
  exact isChain_follows_word hname (isChain_follows_blanks hmore hhead hrest)

/-- The names of a loop stand behind an `as`, and behind that no `a` has a blank in front of it. -/
lemma loopNames?_eq_some {text : List Char} {names : Option (List Char) × List Char}
    (h : loopNames? text = some names) :
    ∃ blanks rest, text = blanks ++ 'a' :: rest ∧ (∀ c ∈ blanks, isBlank c = true) ∧
      ('a' :: rest).IsChain Follows := by
  unfold loopNames? at h
  split at h
  · rename_i behind hbehind
    obtain ⟨blanks, rfl, hblanks⟩ := afterBlanks?_eq_some hbehind
    refine ⟨blanks, 's' :: behind, rfl, hblanks, ?_⟩
    refine isChain_follows_cons (by decide) (isChain_follows_cons (by decide) ?_)
    split at h
    · -- one name, which is that of the items
      rename_i value hvalue
      obtain ⟨named, hnamed, hname⟩ := Option.bind_eq_some_iff.1 hvalue
      obtain ⟨gap, rfl, hgap⟩ := afterBlanks?_eq_some hnamed
      exact isChain_follows_name hname hgap (by simp) .nil
    · -- a name for the keys, and behind the arrow one for the items
      rename_i key text hkey
      obtain ⟨named, hnamed, hname⟩ := Option.bind_eq_some_iff.1 hkey
      obtain ⟨gap, rfl, hgap⟩ := afterBlanks?_eq_some hnamed
      split at h
      · rename_i value hvalue
        refine isChain_follows_name hname hgap (by simp) ?_
        refine isChain_follows_cons (by decide) (isChain_follows_cons (by decide) ?_)
        rw [← @List.takeWhile_append_dropWhile _ isBlank text]
        exact isChain_follows_name hvalue (fun c hc => List.mem_takeWhile_imp hc) (by simp) .nil
      · cases h
    · cases h
  · cases h

/-! ## The subject of a loop over items -/

section Subject

variable {front blanks rest : List Char} {d : Char} (hlast : front.getLast? = some d)
  (hd : isBlank d = false) (hne : blanks ≠ []) (hblanks : ∀ c ∈ blanks, isBlank c = true)

include hlast hd hne hblanks

/-- A clause with more than blanks in front of an `as` does not begin with the names. -/
lemma loopNames?_eq_none : loopNames? (front ++ (blanks ++ 'a' :: rest)) = none := by
  rw [Option.eq_none_iff_forall_ne_some]
  intro names hnames
  obtain ⟨before, behind, htext, hbefore, hchain⟩ := loopNames?_eq_some hnames
  have hmem : d ∈ front := List.mem_of_getLast? hlast
  have hvisible : d ∉ before := fun hd' => absurd (hbefore d hd') (by simp [hd])
  rw [← List.append_assoc] at htext
  -- The `as` that was found stands behind the given one, at the same place or in front of it.
  obtain ⟨more, rfl, -⟩ | ⟨more, hfront, hmore⟩ := List.append_eq_append_iff.1 htext
  · exact hvisible (by simp [hmem])
  obtain rfl | ⟨more, c, rfl⟩ := List.eq_nil_or_concat' more
  · rw [List.append_nil] at hfront
    exact hvisible (by simp [← hfront, hmem])
  obtain ⟨gap, b, rfl⟩ := (List.eq_nil_or_concat' blanks).resolve_left hne
  rw [← List.append_assoc, ← List.append_assoc] at hfront
  obtain rfl : b = c := by simpa using (List.append_inj' hfront rfl).2
  rw [hmore] at hchain
  obtain ⟨-, -, hfollows⟩ := List.isChain_append.1 hchain
  exact hfollows b (by simp) 'a' rfl (hblanks b (by simp)) rfl

/-- The subject of a clause reaches up to the last `as`. -/
lemma itemClause?_append {key : Option (List Char)} {value : List Char}
    (hnames : loopNames? (blanks ++ 'a' :: rest) = some (key, value)) :
    itemClause? (front ++ (blanks ++ 'a' :: rest)) = some ⟨front, key, value⟩ := by
  induction front with
  | nil => cases hlast
  | cons c front ih =>
    rw [List.cons_append, itemClause?]
    cases front with
    | nil => rw [List.nil_append, hnames]
    | cons b front =>
      rw [List.getLast?_cons_cons] at hlast
      rw [loopNames?_eq_none hlast hd hne hblanks, ih hlast]
      rfl

end Subject

lemma stopsAt_nil (q : Char → Bool) : StopsAt q [] :=
  fun _ h => nomatch h

lemma afterBlanks?_append {blanks text : List Char} (hne : blanks ≠ [])
    (hblanks : ∀ c ∈ blanks, isBlank c = true) (hstop : StopsAt isBlank text) :
    afterBlanks? (blanks ++ text) = some text := by
  cases blanks with
  | nil => exact absurd rfl hne
  | cons c blanks =>
    obtain ⟨hc, hrest⟩ := List.forall_mem_cons.1 hblanks
    rw [List.cons_append, afterBlanks?, if_pos hc, dropWhile_append_of_stopsAt hrest hstop]

lemma loopName?_append {name : List Char} (hname : isVarName name = true) {rest : List Char}
    (hstop : StopsAt isWordChar rest) :
    loopName? ('$' :: (name ++ rest)) = some (name, rest.dropWhile isBlank) := by
  have hword : ∀ c ∈ name, isWordChar c = true :=
    fun c hc => Text.isWordChar_of_isWordPart (isWordPart_of_isVarName hname c hc)
  have hempty : name.isEmpty = false := by cases name <;> first | rfl | cases hname
  rw [loopName?, takeWhile_eq_self_iff.2 ⟨hword, hstop⟩, dropWhile_append_of_stopsAt hword hstop]
  simp [hempty]

/-- The name in front of what follows it on the same line. -/
lemma spacedName? {name : List Char} (hname : isVarName name = true) {rest : List Char}
    (hstop : StopsAt isWordChar rest) :
    (afterBlanks? (' ' :: '$' :: (name ++ rest))).bind loopName? =
      some (name, rest.dropWhile isBlank) := by
  have hblanks : ∀ c ∈ [' '], isBlank c = true := List.all_eq_true.1 (by decide)
  have hdollar : StopsAt isBlank ('$' :: (name ++ rest)) := by simp [StopsAt, isBlank]
  have hafter := afterBlanks?_append (List.cons_ne_nil ' ' []) hblanks hdollar
  rw [List.singleton_append] at hafter
  rw [hafter, Option.bind_some, loopName?_append hname hstop]

section Names

variable {value : List Char} (hvalue : isVarName value = true) {blanks : List Char}
  (hne : blanks ≠ []) (hblanks : ∀ c ∈ blanks, isBlank c = true)

include hvalue hne hblanks

lemma loopNames?_value : loopNames? (blanks ++ 'a' :: 's' :: ' ' :: '$' :: value) =
    some (none, value) := by
  have hname := spacedName? hvalue (stopsAt_nil isWordChar)
  rw [List.append_nil, List.dropWhile_nil] at hname
  rw [loopNames?, afterBlanks?_append hne hblanks (by simp [StopsAt, isBlank])]
  simp only [hname]

lemma loopNames?_key {key : List Char} (hkey : isVarName key = true) :
    loopNames? (blanks ++ 'a' :: 's' :: ' ' :: '$' :: (key ++ ' ' :: '=' :: '>' :: ' ' :: '$' ::
      value)) = some (some key, value) := by
  have harrow : StopsAt isWordChar (' ' :: '=' :: '>' :: ' ' :: '$' :: value) := by
    simp [StopsAt, isWordChar]
  have hfirst := spacedName? hkey harrow
  have hsecond := loopName?_append hvalue (stopsAt_nil isWordChar)
  have hspace (c : Char) (hc : isBlank c = false) (text : List Char) :
      (' ' :: c :: text).dropWhile isBlank = c :: text := by
    simp [hc, show isBlank ' ' = true by decide]
  rw [hspace '=' (by decide)] at hfirst
  rw [List.append_nil, List.dropWhile_nil] at hsecond
  rw [loopNames?, afterBlanks?_append hne hblanks (by simp [StopsAt, isBlank])]
  simp only [hfirst, hspace '$' (by decide), hsecond]

end Names

/-! ## Loops over items -/

lemma stripParens_of_skips {inner : List Char} (h : Skips .outside 0 inner .outside 0) :
    stripParens ('(' :: (inner ++ [')'])) = Text.trim inner := by
  have htrim : Text.trim ('(' :: (inner ++ [')'])) = '(' :: (inner ++ [')']) := by
    rw [Text.trim, Text.trimStart, List.dropWhile_cons_of_neg (by decide)]
    exact Template.trimEnd_of_last (by decide) ('(' :: inner)
  simp only [stripParens, htrim, h.cutAtClose?]

lemma isBlank_eq_false_of_trim {text : List Char} {d : Char}
    (h : (Text.trim text).getLast? = some d) : isBlank d = false := by
  rw [Text.trim, Text.trimEnd, List.getLast?_reverse] at h
  have hhead := List.head?_dropWhile_not isBlank (Text.trimStart text).reverse
  rwa [h] at hhead

lemma parseExpression_nil (e : Expr) : parseExpression [] ≠ .ok e := by
  intro h
  obtain ⟨t, more, hts, -⟩ := (parseExpression_eq_ok_iff.1 h).2.startsOperand rfl rfl
  rw [pieces] at hts
  cases hts

/-- What is left of an expression with a text behind it when the blanks around both are taken
away. -/
lemma trim_append {subject : List Char} {e : Expr} (h : parseExpression subject = .ok e)
    {d : Char} (hd : isBlank d = false) (text : List Char) :
    ∃ gap, Text.trim (subject ++ (text ++ [d])) = Text.trim subject ++ (gap ++ (text ++ [d])) ∧
      ∀ c ∈ gap, isBlank c = true := by
  have hne : Text.trimStart subject ≠ [] := by
    intro hnil
    have htrim := parseExpression_trim h
    rw [Text.trim, hnil] at htrim
    exact parseExpression_nil e htrim
  refine ⟨((Text.trimStart subject).reverse.takeWhile isBlank).reverse, ?_, ?_⟩
  · rw [Text.trim, Text.trim, ← List.append_assoc (Text.trimEnd _), Text.trimEnd_append_blanks]
    have hstart : Text.trimStart (subject ++ (text ++ [d])) =
        Text.trimStart subject ++ (text ++ [d]) := by
      rw [Text.trimStart, List.dropWhile_append, if_neg]
      · rfl
      · rw [List.isEmpty_iff]
        exact hne
    rw [hstart, ← List.append_assoc, Template.trimEnd_of_last hd]
  · intro c hc
    exact List.mem_takeWhile_imp (List.mem_reverse.1 hc)

/-- A loop over items, whatever names stand behind its subject. -/
lemma forEach_of_names {subject : List Char} {e : Expr} (h : parseExpression subject = .ok e)
    {names : List Char} {d : Char} (hd : isBlank d = false)
    (hignored : ∀ c ∈ names ++ [d], isIgnored c = true) {key : Option (List Char)}
    {value : List Char} (hnames : ∀ blanks, blanks ≠ [] → (∀ c ∈ blanks, isBlank c = true) →
      loopNames? (blanks ++ 'a' :: (names ++ [d])) = some (key, value)) :
    forEach ('(' :: (subject ++ ' ' :: 'a' :: (names ++ [d]) ++ [')'])) =
      .ok [.forEach e (key.map String.ofList) (String.ofList value)] := by
  have hskips : Skips .outside 0 (subject ++ (' ' :: 'a' :: (names ++ [d]))) .outside 0 := by
    refine (Skips.of_parseExpression h).append (Skips.ignored ?_)
    exact List.forall_mem_cons.2 ⟨by decide, List.forall_mem_cons.2 ⟨by decide, hignored⟩⟩
  obtain ⟨gap, htrim, hgap⟩ := trim_append h hd (' ' :: 'a' :: names)
  have hsubject := parseExpression_trim h
  obtain ⟨last, hlast⟩ : ∃ last, (Text.trim subject).getLast? = some last := by
    rw [← Option.isSome_iff_exists, List.getLast?_isSome]
    rintro hnil
    exact parseExpression_nil e (hnil ▸ hsubject)
  have hclause : itemClause? (Text.trim subject ++ ((gap ++ [' ']) ++ 'a' :: (names ++ [d]))) =
      some ⟨Text.trim subject, key, value⟩ := by
    have hblanks : ∀ c ∈ gap ++ [' '], isBlank c = true :=
      List.forall_mem_append.2 ⟨hgap, List.all_eq_true.1 (by decide)⟩
    have hne : gap ++ [' '] ≠ [] := by simp
    exact itemClause?_append hlast (isBlank_eq_false_of_trim hlast) hne hblanks
      (hnames _ hne hblanks)
  rw [List.append_assoc gap, List.singleton_append] at hclause
  have hrequired : required "foreach" .itemClause ('(' :: (subject ++ ' ' :: 'a' ::
      (names ++ [d]) ++ [')'])) =
        .ok (Text.trim subject ++ (gap ++ ' ' :: 'a' :: (names ++ [d]))) := by
    rw [required, stripParens_of_skips hskips]
    rw [← List.cons_append, ← List.cons_append, htrim, if_neg (by simp)]
  rw [forEach, hrequired, ok_bind]
  simp only [hclause, hsubject, lift, ok_bind]

lemma isIgnored_of_isWordPart {c : Char} (h : isWordPart c = true) : isIgnored c = true := by
  by_contra hloud
  simp only [isIgnored, Bool.not_eq_true', Bool.not_eq_false, List.contains_eq_mem,
    decide_eq_true_eq] at hloud
  have hmarks : ['"', '\'', '(', ')'].all (fun d => !isWordPart d) = true := by decide
  exact absurd (List.all_eq_true.1 hmarks c hloud) (by simp [h])

lemma exists_last_of_isVarName {name : List Char} (h : isVarName name = true) :
    ∃ front d, name = front ++ [d] ∧ isBlank d = false := by
  obtain rfl | ⟨front, d, rfl⟩ := List.eq_nil_or_concat' name
  · cases h
  · exact ⟨front, d, rfl, isBlank_eq_false_of_isWordPart (isWordPart_of_isVarName h d (by simp))⟩

section Items

variable {subject value : List Char} {e : Expr} (h : parseExpression subject = .ok e)
  (hvalue : isVarName value = true)

include h hvalue

lemma forEach_value :
    forEach ('(' :: (subject ++ " as $".toList ++ value ++ [')'])) =
      .ok [.forEach e none (String.ofList value)] := by
  have hignored : ∀ c ∈ "s $".toList ++ value, isIgnored c = true :=
    List.forall_mem_append.2 ⟨List.all_eq_true.1 (by decide),
      fun c hc => isIgnored_of_isWordPart (isWordPart_of_isVarName hvalue c hc)⟩
  obtain ⟨front, d, rfl, hd⟩ := exists_last_of_isVarName hvalue
  rw [← List.append_assoc] at hignored
  have hloop := forEach_of_names h hd hignored (fun blanks => loopNames?_value hvalue)
  simpa using hloop

lemma forEach_key {key : List Char} (hkey : isVarName key = true) :
    forEach ('(' :: (subject ++ " as $".toList ++ key ++ " => $".toList ++ value ++ [')'])) =
      .ok [.forEach e (some (String.ofList key)) (String.ofList value)] := by
  have hword {name : List Char} (hname : isVarName name = true) : ∀ c ∈ name, isIgnored c = true :=
    fun c hc => isIgnored_of_isWordPart (isWordPart_of_isVarName hname c hc)
  have hignored : ∀ c ∈ "s $".toList ++ key ++ " => $".toList ++ value, isIgnored c = true := by
    simp only [List.forall_mem_append]
    exact ⟨⟨⟨List.all_eq_true.1 (by decide), hword hkey⟩, List.all_eq_true.1 (by decide)⟩,
      hword hvalue⟩
  obtain ⟨front, d, rfl, hd⟩ := exists_last_of_isVarName hvalue
  rw [← List.append_assoc] at hignored
  have hloop := forEach_of_names h hd hignored fun blanks hne hblanks => by
    simpa using loopNames?_key hvalue hne hblanks hkey
  simpa using hloop

end Items

/-! ## The split at separators -/

/-- The split passes over `front` from one state to another, whatever follows. -/
def Splits (separator : Char) (state : Quoting) (depth : Nat) (front : List Char) (next : Quoting)
    (nextDepth : Nat) : Prop :=
  ∀ rest, splitFrom separator state depth (front ++ rest) =
    (splitFrom separator next nextDepth rest).map (front ++ ·) id

namespace Splits

variable {separator : Char} {state next last : Quoting} {depth nextDepth lastDepth : Nat}
  {front more : List Char}

lemma nil : Splits separator state depth [] state depth :=
  fun _ => rfl

lemma append (h : Splits separator state depth front next nextDepth)
    (hmore : Splits separator next nextDepth more last lastDepth) :
    Splits separator state depth (front ++ more) last lastDepth := by
  intro rest
  rw [List.append_assoc, h, hmore, Prod.map_map, Function.comp_id]
  simp only [Function.comp_def, List.append_assoc]

lemma cons {c : Char} (h : Splits separator state depth [c] next nextDepth)
    (hfront : Splits separator next nextDepth front last lastDepth) :
    Splits separator state depth (c :: front) last lastDepth :=
  h.append hfront

lemma inQuotes (h : InQuotes state front next) :
    Splits separator state depth front next depth := by
  induction h with
  | nil state => exact nil
  | inside _ ih => exact cons (fun _ => rfl) ih
  | escaped _ ih => exact cons (fun _ => rfl) ih

lemma openQuote {quote : Char} (h : quote = '"' ∨ quote = '\'') :
    Splits separator .outside depth [quote] (.inside quote) depth := by
  intro rest
  obtain rfl | rfl := h <;> rfl

lemma ignored (h : ∀ c ∈ front, c ≠ separator ∧ c ∉ ['"', '\'', '(', ')', '[', ']']) :
    Splits separator .outside depth front .outside depth := by
  induction front with
  | nil => exact nil
  | cons c front ih =>
    obtain ⟨hseparator, hc⟩ := h c List.mem_cons_self
    simp only [List.mem_cons, List.not_mem_nil, or_false, not_or] at hc
    refine cons (fun rest => ?_) (ih fun d hd => h d (.tail c hd))
    simp only [List.singleton_append, splitFrom, hc, hseparator, or_self, false_and, if_false]
    rfl

/-- The depth of the split is the number of open brackets. -/
lemma symbol {n m : Nesting} {s : Symbol} (h : n.next? (.symbol s) = some m)
    (hs : s ≠ .semicolon) :
    Splits ';' .outside (depth + n.brackets.length) s.spelling .outside
      (depth + m.brackets.length) := by
  have hplain : s.spelling.all (fun c => c ≠ ';' ∧ c ∉ ['"', '\'', '(', ')', '[', ']']) = true →
      Splits ';' .outside (depth + n.brackets.length) s.spelling .outside
        (depth + n.brackets.length) := by
    intro hall
    exact ignored fun c hc => by simpa using List.all_eq_true.1 hall c hc
  cases s
  case semicolon => exact absurd rfl hs
  case openParen =>
    obtain rfl := Option.some.inj h
    exact fun _ => rfl
  case openBracket =>
    obtain rfl := Option.some.inj h
    exact fun _ => rfl
  case closeParen | closeBracket =>
    simp only [Nesting.next?] at h
    split at h
    · rename_i hopen
      obtain ⟨outer, houter⟩ := List.head?_eq_some_iff.1 hopen
      obtain rfl := Option.some.inj h
      rw [houter]
      exact fun _ => rfl
    · cases h
  case greater | greaterEqual =>
    simp only [Nesting.next?] at h
    split at h
    · cases h
    · obtain rfl := Option.some.inj h
      exact hplain (by decide)
  all_goals
    obtain rfl := Option.some.inj h
    exact hplain (by decide)

lemma bracketScan (depth : Nat) : BracketScan fun before text after =>
    Splits ';' .outside (depth + before.length) text .outside (depth + after.length) where
  nil _ := nil
  append h hmore := h.append hmore
  plain _ h := by
    refine ignored fun c hc => ?_
    have hmarks : [';', '"', '\'', '(', ')', '[', ']'].all isMark = true := by decide
    have hloud : c ∉ [';', '"', '\'', '(', ')', '[', ']'] := by
      intro hmem
      exact absurd (List.all_eq_true.1 hmarks c hmem) (by simp [h c hc])
    exact ⟨fun hc => hloud (hc ▸ List.mem_cons_self), fun hmem => hloud (.tail _ hmem)⟩
  quoted _ hquote h := cons (openQuote hquote) (inQuotes h)

end Splits

/-- A cut of a text is passed over if it is nested and has no semicolon. -/
lemma splits_of_cutsTo {ps : List Piece} {text : List Char} {ts : List Token}
    (h : CutsTo ps text ts) (hwalk : Nesting.after? ⟨[], false⟩ ts = some ⟨[], false⟩)
    (hsemicolon : Token.symbol .semicolon ∉ ts) : Splits ';' .outside 0 text .outside 0 := by
  obtain ⟨hcut, hjunk, rfl, rfl⟩ := h
  refine (Splits.bracketScan 0).pieces hcut hjunk (fun s hs n m hnext => ?_) hwalk
  exact Splits.symbol hnext fun heq => hsemicolon (heq ▸ hs)

/-- What the split passes over up to a separator is the first part. -/
lemma splitTopLevel_first {first : List Char} (h : Splits ';' .outside 0 first .outside 0)
    (rest : List Char) :
    splitTopLevel ';' (first ++ ';' :: rest) = first :: splitTopLevel ';' rest := by
  have hcut : splitFrom ';' .outside 0 (';' :: rest) = ([], splitTopLevel ';' rest) := rfl
  rw [splitTopLevel, h, hcut]
  simp

lemma splitTopLevel_last {text : List Char} (h : Splits ';' .outside 0 text .outside 0) :
    splitTopLevel ';' text = [text] := by
  have hsplit := h []
  rw [List.append_nil, splitFrom] at hsplit
  simp [splitTopLevel, hsplit]

/-! ## Loops with a condition -/

/-- No expression has a semicolon in it. -/
lemma semicolon_mem_of_reads {p : Phrase} {ts rest : List Token} {found : Found}
    (h : Reads p ts found rest) (hmem : Token.symbol .semicolon ∈ ts) :
    Token.symbol .semicolon ∈ rest := by
  induction h
  case operator hop _ _ _ ih ihRest =>
    obtain heq | hmem := List.mem_cons.1 hmem
    · obtain rfl := Token.symbol.inj heq
      cases hop
    · simp_all
  all_goals simp_all

/-- The condition that a text stands for, which is none if the text is blank. -/
def IsCondition (text : List Char) : Option Expr → Prop
  | none => ∀ c ∈ text, isBlank c = true
  | some e => parseExpression text = .ok e

lemma cutsTo_pieces {source : List Char} (h : JunkFree (pieces source)) :
    CutsTo (pieces source) source (tokensAmong (pieces source)) :=
  ⟨wellCut_pieces source, h, textOf_pieces source, rfl⟩

lemma parseStatements_of_cutsTo {ps : List Piece} {text : List Char} {ts : List Token}
    (h : CutsTo ps text ts) {ss : List Stmt} (hreads : ReadsStatements ts ss) :
    parseStatements text = .ok ss := by
  obtain ⟨hcut, hjunk, rfl, rfl⟩ := h
  rw [parseStatements_eq_ok_iff, pieces_eq_of_wellCut hcut]
  exact ⟨hjunk, hreads⟩

lemma skips_of_parseStatements {source : List Char} {ss : List Stmt}
    (h : parseStatements source = .ok ss) : Skips .outside 0 source .outside 0 := by
  obtain ⟨hjunk, hreads⟩ := readsStatements_of_parseStatements h
  rw [← textOf_pieces source]
  exact Skips.pieces (wellCut_pieces source) hjunk (after?_of_readsStatements hreads [])

lemma notMem_of_isBlank {c : Char} (h : isBlank c = true) :
    c ∉ [';', '"', '\'', '(', ')', '[', ']'] := by
  have hall : [';', '"', '\'', '(', ')', '[', ']'].all (fun d => !isBlank d) = true := by decide
  intro hc
  exact absurd (List.all_eq_true.1 hall c hc) (by simp [h])

lemma IsCondition.skips {text : List Char} {test : Option Expr} (h : IsCondition text test) :
    Skips .outside 0 text .outside 0 := by
  cases test with
  | some e => exact Skips.of_parseExpression h
  | none =>
    refine Skips.ignored fun c hc => ?_
    have hplain := notMem_of_isBlank (h c hc)
    simp only [List.mem_cons, List.not_mem_nil, or_false, not_or] at hplain
    simp [isIgnored, hplain]

lemma IsCondition.splits {text : List Char} {test : Option Expr} (h : IsCondition text test) :
    Splits ';' .outside 0 text .outside 0 := by
  cases test with
  | some e =>
    obtain ⟨hjunk, hreads⟩ := parseExpression_eq_ok_iff.1 h
    refine splits_of_cutsTo (cutsTo_pieces hjunk) (after?_of_reads hreads []) fun hmem => ?_
    exact List.not_mem_nil (semicolon_mem_of_reads hreads hmem)
  | none =>
    refine Splits.ignored fun c hc => ?_
    have hplain := notMem_of_isBlank (h c hc)
    exact ⟨fun heq => hplain (heq ▸ List.mem_cons_self), fun hmem => hplain (.tail _ hmem)⟩

/-- A condition is left out if nothing is left of its text, and otherwise read from what is left. -/
lemma IsCondition.trim {text : List Char} {test : Option Expr} (h : IsCondition text test) :
    (test = none ∧ (Text.trim text).isEmpty = true) ∨
      ∃ e, test = some e ∧ (Text.trim text).isEmpty = false ∧
        parseExpression (Text.trim text) = .ok e := by
  cases test with
  | none =>
    have hblank : Text.trimStart text = [] := List.dropWhile_eq_nil_iff.2 h
    exact .inl ⟨rfl, by rw [Text.trim, hblank]; rfl⟩
  | some e =>
    have htrim := parseExpression_trim h
    refine .inr ⟨e, rfl, ?_, htrim⟩
    by_contra hempty
    rw [Bool.not_eq_false, List.isEmpty_iff] at hempty
    exact parseExpression_nil e (hempty ▸ htrim)

lemma dropWhile_append_cons {c : Char} (hc : isBlank c = false) (front rest : List Char) :
    (front ++ c :: rest).dropWhile isBlank = front.dropWhile isBlank ++ c :: rest := by
  rw [List.dropWhile_append, List.dropWhile_cons_of_neg (by simp [hc])]
  split
  · rename_i hempty
    rw [List.isEmpty_iff.1 hempty, List.nil_append]
  · rfl

/-- The blanks around a text with separators are those in front of the first part and those behind
the last one. -/
lemma trim_separated {c : Char} (hc : isBlank c = false) (first between last : List Char) :
    Text.trim (first ++ c :: (between ++ c :: last)) =
      Text.trimStart first ++ c :: (between ++ c :: Text.trimEnd last) := by
  rw [Text.trim, Text.trimStart, dropWhile_append_cons hc, ← List.cons_append, ← List.append_assoc,
    Text.trimEnd, List.reverse_append, List.reverse_cons, List.append_assoc, List.singleton_append,
    dropWhile_append_cons hc]
  simp [Text.trimEnd, Text.trimStart]

/-- The clauses of a loop with a condition. -/
lemma forLoop_of_clauses {start condition step : List Char} {first next : List Stmt}
    {test : Option Expr} (hstart : parseStatements start = .ok first)
    (hstartFree : Token.symbol .semicolon ∉ tokensAmong (pieces start))
    (hcondition : IsCondition condition test) (hstep : parseStatements step = .ok next)
    (hstepFree : Token.symbol .semicolon ∉ tokensAmong (pieces step)) :
    forLoop ('(' :: (start ++ ';' :: (condition ++ ';' :: step) ++ [')'])) =
      .ok [.forLoop first test next] := by
  obtain ⟨hstartJunk, hstartReads⟩ := readsStatements_of_parseStatements hstart
  obtain ⟨hstepJunk, hstepReads⟩ := readsStatements_of_parseStatements hstep
  obtain ⟨startCut, hstartCut⟩ := (cutsTo_pieces hstartJunk).trimStart
  obtain ⟨stepCut, hstepCut⟩ := (cutsTo_pieces hstepJunk).trimEnd
  have hsplit : splitTopLevel ';' (Text.trim (start ++ ';' :: (condition ++ ';' :: step))) =
      [Text.trimStart start, condition, Text.trimEnd step] := by
    have hfirst := splits_of_cutsTo hstartCut (after?_of_readsStatements hstartReads []) hstartFree
    have hlast := splits_of_cutsTo hstepCut (after?_of_readsStatements hstepReads []) hstepFree
    rw [trim_separated (by decide), splitTopLevel_first hfirst,
      splitTopLevel_first hcondition.splits, splitTopLevel_last hlast]
  have hskips : Skips .outside 0 (start ++ ';' :: (condition ++ ';' :: step)) .outside 0 := by
    have hsemicolon : Skips .outside 0 [';'] .outside 0 :=
      Skips.ignored (List.all_eq_true.1 (by decide))
    exact (skips_of_parseStatements hstart).append
      (hsemicolon.cons (hcondition.skips.append (hsemicolon.cons (skips_of_parseStatements hstep))))
  have hrequired : required "for" .loopClauses
      ('(' :: (start ++ ';' :: (condition ++ ';' :: step) ++ [')'])) =
        .ok (Text.trim (start ++ ';' :: (condition ++ ';' :: step))) := by
    rw [required, stripParens_of_skips hskips, trim_separated (by decide), if_neg (by simp)]
  rw [forLoop, hrequired, ok_bind]
  obtain ⟨rfl, hempty⟩ | ⟨e, rfl, hempty, htest⟩ := hcondition.trim
  · simp only [hsplit, parseStatements_of_cutsTo hstartCut hstartReads,
      parseStatements_of_cutsTo hstepCut hstepReads, hempty, if_true, lift, ok_bind]
  · simp only [hsplit, parseStatements_of_cutsTo hstartCut hstartReads,
      parseStatements_of_cutsTo hstepCut hstepReads, hempty, htest, Bool.false_eq_true, if_false,
      lift, ok_bind, Except.map]

/-- **Loops get the clauses they were written with.**  A loop over items gets its subject and its
names, whatever stands in the subject, and the other loop its start, its condition, which may be
left out, and its step. -/
theorem loops_get_clauses :
    (∀ (subject key value : String) (e : Expr), parseExpression subject.toList = .ok e →
      isVarName key.toList = true → isVarName value.toList = true →
      forEach ("(" ++ subject ++ " as $" ++ key ++ " => $" ++ value ++ ")").toList =
          .ok [.forEach e (some key) value] ∧
        forEach ("(" ++ subject ++ " as $" ++ value ++ ")").toList = .ok [.forEach e none value]) ∧
    ∀ (start condition step : String) (first next : List Stmt) (test : Option Expr),
      parseStatements start.toList = .ok first → parseStatements step.toList = .ok next →
      Token.symbol .semicolon ∉ tokensAmong (pieces start.toList) →
      Token.symbol .semicolon ∉ tokensAmong (pieces step.toList) →
      IsCondition condition.toList test →
      forLoop ("(" ++ start ++ ";" ++ condition ++ ";" ++ step ++ ")").toList =
        .ok [.forLoop first test next] := by
  constructor
  · intro subject key value e h hkey hvalue
    have hboth := forEach_key h hvalue hkey
    have hone := forEach_value h hvalue
    exact ⟨by simpa using hboth, by simpa using hone⟩
  · intro start condition step first next test hstart hstep hstartFree hstepFree hcondition
    have hloop := forLoop_of_clauses hstart hstartFree hcondition hstep hstepFree
    simpa using hloop

/-- A subject with the clauses of other loops in it, in quotes and as an array, and clauses with
semicolons and parentheses in quotes. -/
theorem loops_get_clauses_quoted :
    let subject : Expr := .array [(some (.literal (.text "x) as $k => $v")), .var "as"),
      (none, .literal (.text " as $b"))]
    parseExpression "['x) as $k => $v' => $as, ' as $b' ]".toList = .ok subject ∧
    forEach ("(" ++ "['x) as $k => $v' => $as, ' as $b' ]" ++ " as $" ++ "a" ++ " => $" ++ "as" ++
      ")").toList = .ok [.forEach subject (some "a") "as"] ∧
    parseStatements "$i = ');'".toList =
      .ok [.assign (.var "i") .set (.literal (.text ");"))] ∧
    forLoop ("(" ++ "$i = ');'" ++ ";" ++ " \n" ++ ";" ++ "" ++ ")").toList =
      .ok [.forLoop [.assign (.var "i") .set (.literal (.text ");"))] none []] := by
  intro subject
  have hlexemes : strictLexemes "['x) as $k => $v' => $as, ' as $b' ]".toList =
      .ok [⟨.symbol .openBracket, 0, 1⟩, ⟨.text "x) as $k => $v", 1, 17⟩,
        ⟨.symbol .fatArrow, 18, 20⟩, ⟨.var "as", 21, 24⟩, ⟨.symbol .comma, 24, 25⟩,
        ⟨.text " as $b", 26, 34⟩, ⟨.symbol .closeBracket, 35, 36⟩] := by
    decide +kernel
  have hsubject : parseExpression "['x) as $k => $v' => $as, ' as $b' ]".toList = .ok subject := by
    simp only [parseExpression, lexemesOf, hlexemes]
    rfl
  have hlexemes' : strictLexemes "$i = ');'".toList =
      .ok [⟨.var "i", 0, 2⟩, ⟨.symbol .assign, 3, 4⟩, ⟨.text ");", 5, 9⟩] := by
    decide +kernel
  have hstart : parseStatements "$i = ');'".toList =
      .ok [.assign (.var "i") .set (.literal (.text ");"))] := by
    simp only [parseStatements, lexemesOf, hlexemes']
    rfl
  have hstep : parseStatements "".toList = .ok [] := by
    simp only [parseStatements, lexemesOf, strictLexemes, String.toList_empty, pieces]
    rfl
  refine ⟨hsubject, ?_, hstart, ?_⟩
  · exact (loops_get_clauses.1 _ "a" "as" subject hsubject (by decide) (by decide)).1
  · refine loops_get_clauses.2 _ " \n" "" _ _ none hstart hstep ?_ ?_ ?_
    · have htokens : tokensAmong (pieces "$i = ');'".toList) =
          [.var "i", .symbol .assign, .text ");"] := by
        decide +kernel
      rw [htokens]
      simp
    · have htokens : tokensAmong (pieces "".toList) = [] := by decide +kernel
      rw [htokens]
      simp
    · exact List.all_eq_true.1 (by decide)

end ViewTemplate.Directive
