import Mathlib.Tactic.Common
import ViewTemplate.Directive.Clause
import ViewTemplate.Proofs.Nesting
import ViewTemplate.Proofs.ShortenedScripts

/-!
# The parentheses around the expression of a directive

A directive may write its expression in parentheses, and `stripParens` takes them away before the
expression is read.  It does not cut the expression into tokens: it looks for the parenthesis that
closes the first one, counts parentheses only, and has an idea of its own about quotes.

Where the expression can be read, the two agree.  A script that starts with a parenthesis is an
expression up to some closing parenthesis, and then goes on behind it (`exists_enclosed`).  The
search passes over that expression, because it leaves quotes where the script does and because the
brackets of an expression are nested (`Skips.of_parseExpression`).  So the parenthesis it finds is
the one the reader finds, and the two are taken away only if nothing stands behind it.

The search is one of several scans that directives make over the text of a script.  What such a scan
has to do at quotes, words and blanks to pass over every script is `BracketScan`.
-/

namespace ViewTemplate.Script

/-! ## Scripts that start with a parenthesis -/

/-- Whether a phrase is an expression of some level, from its first operand on. -/
def Phrase.isExpression : Phrase → Bool
  | .expression | .conditional | .binary _ | .unary | .steps | .primary => true
  | _ => false

/-- An expression that starts with a parenthesis starts with a whole expression in parentheses, and
it is that expression if nothing stands behind it. -/
lemma Reads.group_of_openParen {p : Phrase} {row rest : List Token} {found : Found}
    (h : Reads p row found rest) (hp : p.isExpression = true) {ts : List Token}
    (hrow : row = .symbol .openParen :: ts) :
    ∃ e behind, Reads .expression ts (.expr e) (.symbol .closeParen :: behind) ∧
      (behind = [] → found = .expr e ∧ rest = []) := by
  induction h with
  | alone h hstop ih | condition h hstop ih => exact ih rfl hrow
  | unsigned hnot hminus h ih => exact ih rfl hrow
  -- an operator behind the group leaves more than nothing behind it
  | coalesce h hother ih _ | ternary h hyes hno ih _ _ =>
    obtain ⟨e, behind, hgroup, hends⟩ := ih rfl hrow
    exact ⟨e, behind, hgroup, fun hnil => nomatch (hends hnil).2⟩
  -- with nothing behind the group there is no operator and no step either
  | binary h hrest ih _ | steps h hrest ih _ =>
    obtain ⟨e, behind, hgroup, hends⟩ := ih rfl hrow
    refine ⟨e, behind, hgroup, fun hnil => ?_⟩
    obtain ⟨hfirst, rfl⟩ := hends hnil
    obtain rfl := Found.expr.inj hfirst
    cases hrest
    exact ⟨rfl, rfl⟩
  | group h _ =>
    obtain ⟨-, rfl⟩ := List.cons.inj hrow
    exact ⟨_, _, h, fun hnil => ⟨rfl, hnil⟩⟩
  | not | negate | var | integer | float | text | array | literal | viewCall | viewCallAlone
  | staticCall | call => cases hrow
  | noOperator | operator | noStep | index | property | method | noArguments | someArguments
  | lastArgument | argument | noEntries | lastEntry | someEntries | item | pair => cases hp

/-- The first cut behind the tokens `front` of a row is in front of the token that follows them. -/
lemma exists_cut_of_tokensAmong {ps : List Piece} {front behind : List Token} {t : Token}
    (h : tokensAmong ps = front ++ t :: behind) :
    ∃ before p after, ps = before ++ p :: after ∧ p.kind = .token t ∧ tokensAmong before = front ∧
      tokensAmong after = behind := by
  obtain ⟨first, others, rfl, hfirst, hothers⟩ := List.filterMap_eq_append_iff.1 h
  obtain ⟨blanks, p, after, rfl, hblanks, hp, hafter⟩ := List.filterMap_eq_cons_iff.1 hothers
  refine ⟨first ++ blanks, p, after, by simp, ?_, ?_, hafter⟩
  · unfold Piece.token? at hp
    split at hp
    · rename_i hkind
      rw [hkind, Option.some.inj hp]
    · cases hp
  · have hnone : tokensAmong blanks = [] := List.filterMap_eq_nil_iff.2 hblanks
    have hfront : tokensAmong first = front := hfirst
    rw [tokensAmong_append, hnone, List.append_nil, hfront]

lemma pieces_openParen (inner : List Char) :
    pieces ('(' :: inner) = symbolPiece .openParen :: pieces inner := by
  have hcut : WellCut (symbolPiece .openParen :: pieces inner) :=
    .cons (standsBefore_openParen _) (wellCut_pieces inner)
  have htext : textOf (symbolPiece .openParen :: pieces inner) = '(' :: inner := by
    rw [textOf_cons, textOf_pieces]
    rfl
  rw [← htext, pieces_eq_of_wellCut hcut]

/-- A script that starts with a parenthesis is an expression up to a closing parenthesis, and it is
that expression if nothing stands behind it. -/
lemma exists_enclosed {inner : List Char} {e : Expr} (h : parseExpression ('(' :: inner) = .ok e) :
    ∃ enclosed behind first, inner = enclosed ++ ')' :: behind ∧
      parseExpression enclosed = .ok first ∧ (behind = [] → first = e) := by
  obtain ⟨hjunk, hreads⟩ := parseExpression_eq_ok_iff.1 h
  rw [pieces_openParen] at hjunk hreads
  obtain ⟨first, behind, hgroup, hends⟩ := hreads.group_of_openParen rfl rfl
  obtain ⟨front, htokens, hfront⟩ := hgroup.of_append [] rfl
  obtain ⟨before, p, after, hps, hp, rfl, rfl⟩ := exists_cut_of_tokensAmong htokens
  have hcut : WellCut (before ++ p :: after) := hps ▸ wellCut_pieces inner
  have hbefore : JunkFree before := by
    intro q hq
    refine hjunk q (.tail _ ?_)
    rw [hps]
    exact List.mem_append_left _ hq
  -- the piece at which the grammar closes the group is the closing parenthesis of the text
  have hparen : p.text = [')'] := by
    obtain _ | ⟨hstands, -⟩ := hcut.behind
    exact hstands.shape.spelling_of_symbol hp
  refine ⟨textOf before, textOf after, first, ?_, ?_, fun hnil => ?_⟩
  · calc inner = textOf (before ++ p :: after) := by rw [← hps, textOf_pieces]
      _ = textOf before ++ ')' :: textOf after := by rw [textOf_append, textOf_cons, hparen]; rfl
  · rw [parseExpression_textOf (hcut.of_append hbefore)]
    exact ⟨hbefore, hfront⟩
  · have hafter : after = [] := by
      cases hcut.behind with
      | cons _ hrest =>
        rw [← pieces_eq_of_wellCut hrest, hnil, pieces]
    rw [hafter] at hends
    exact (Found.expr.inj (hends rfl).1).symm

end ViewTemplate.Script

namespace ViewTemplate.Directive

open Script

/-! ## Scans over scripts -/

/-- Moving over characters inside of quotes. -/
inductive InQuotes : Quoting → List Char → Quoting → Prop
  | nil (state : Quoting) : InQuotes state [] state
  | inside {quote c : Char} {text : List Char} {next : Quoting}
      (h : InQuotes (insideNext quote c) text next) : InQuotes (.inside quote) (c :: text) next
  | escaped {quote c : Char} {text : List Char} {next : Quoting}
      (h : InQuotes (.inside quote) text next) : InQuotes (.escaped quote) (c :: text) next

/-- Quotes are left where the script leaves them. -/
lemma InQuotes.of_scanString {quote : Char} (hquote : quote ≠ '\\') {text body after : List Char}
    (h : scanString quote text = (body, .closed, after)) :
    InQuotes (.inside quote) (body ++ [quote]) .outside := by
  fun_induction scanString quote text generalizing body with
  | case1 => simp at h
  | case2 => simp at h
  | case3 c text _ inner ending follows hscan ih =>
    obtain ⟨rfl, rfl, rfl⟩ : '\\' :: c :: inner = body ∧ ending = .closed ∧ follows = after := by
      simpa using h
    have hescape : insideNext quote '\\' = .escaped quote := by simp [insideNext]
    exact .inside (hescape ▸ .escaped (ih hscan))
  | case4 text =>
    obtain ⟨rfl, rfl⟩ : [] = body ∧ text = after := by simpa using h
    have hclose : insideNext quote quote = .outside := by simp [insideNext, hquote]
    exact .inside (hclose ▸ .nil _)
  | case5 c text hbreak hescape hc inner ending follows hscan ih =>
    obtain ⟨rfl, rfl, rfl⟩ : c :: inner = body ∧ ending = .closed ∧ follows = after := by
      simpa using h
    have hplain : c ≠ '\\' := by
      -- A backslash at the very end escapes nothing and leaves the text open.
      rintro rfl
      cases text with
      | nil => simp [scanString] at hscan
      | cons d text => exact hescape d text rfl rfl
    have hstays : insideNext quote c = .inside quote := by simp [insideNext, hplain, hc]
    exact .inside (hstays ▸ ih hscan)

/-- What a scan of a directive needs to pass over scripts: `moves before text after` says that it
passes over a text outside of quotes, with the brackets `before` open in front of it and the
brackets `after` behind it. -/
structure BracketScan (moves : List Char → List Char → List Char → Prop) : Prop where
  nil (brackets : List Char) : moves brackets [] brackets
  append {before between after front more : List Char} (h : moves before front between)
    (hmore : moves between more after) : moves before (front ++ more) after
  /-- Words, numbers, variables and blanks mean nothing to the scan. -/
  plain {text : List Char} (brackets : List Char) (h : ∀ c ∈ text, isMark c = false) :
    moves brackets text brackets
  quoted {quote : Char} {text : List Char} (brackets : List Char)
    (hquote : quote = '"' ∨ quote = '\'') (h : InQuotes (.inside quote) text .outside) :
    moves brackets (quote :: text) brackets

lemma isMark_eq_false_of_shape {p : Piece} (h : p.Shape) (hjunk : p.kind ≠ .junk)
    (htext : ∀ s, p.kind ≠ .token (.text s)) (hsymbol : ∀ s, p.kind ≠ .token (.symbol s)) :
    ∀ c ∈ p.text, isMark c = false := by
  intro c hc
  by_contra hmark
  obtain ⟨s, hs, -⟩ := h.symbol_of_isMark hjunk htext hc (by simpa using hmark)
  exact hsymbol s hs

/-- A scan passes over a nested script if it passes over the symbols in it. -/
theorem BracketScan.pieces {moves : List Char → List Char → List Char → Prop}
    (hscan : BracketScan moves) {ps : List Piece} (hcut : WellCut ps) (hjunk : JunkFree ps)
    (hsymbol : ∀ s, Token.symbol s ∈ tokensAmong ps → ∀ n m : Nesting,
      n.next? (.symbol s) = some m → moves n.brackets s.spelling m.brackets)
    {n m : Nesting} (hwalk : n.after? (tokensAmong ps) = some m) :
    moves n.brackets (textOf ps) m.brackets := by
  induction hcut generalizing n with
  | nil =>
    obtain rfl := Option.some.inj hwalk
    exact hscan.nil _
  | @cons p rest hp _ ih =>
    have hrest : JunkFree rest := fun q hq => hjunk q (.tail p hq)
    have hpjunk := hjunk p List.mem_cons_self
    rw [textOf_cons]
    cases hkind : p.kind with
    | junk => exact absurd hkind hpjunk
    | blank =>
      rw [tokensAmong_cons_blank hkind] at hwalk hsymbol
      have hplain := isMark_eq_false_of_shape hp.shape hpjunk (by simp [hkind]) (by simp [hkind])
      exact hscan.append (hscan.plain _ hplain) (ih hrest hsymbol hwalk)
    | token t =>
      rw [tokensAmong_cons_token hkind] at hwalk hsymbol
      rw [Nesting.after?] at hwalk
      obtain ⟨n', hnext, hmore⟩ := Option.bind_eq_some_iff.1 hwalk
      refine hscan.append ?_ (ih hrest (fun s hs => hsymbol s (.tail t hs)) hmore)
      cases t with
      -- what stands in quotes is passed over as a whole, brackets included
      | text s =>
        obtain rfl := Option.some.inj hnext
        obtain ⟨quote, body, hquote, htext, hclosed⟩ := hp.shape.quoted_of_text hkind
        have hescape : quote ≠ '\\' := by obtain rfl | rfl := hquote <;> decide
        rw [htext]
        exact hscan.quoted _ hquote (.of_scanString hescape hclosed)
      | symbol s =>
        rw [hp.shape.spelling_of_symbol hkind]
        exact hsymbol s List.mem_cons_self n n' hnext
      | var name | word name | integer n | float x =>
        obtain rfl := Option.some.inj hnext
        exact hscan.plain _
          (isMark_eq_false_of_shape hp.shape hpjunk (by simp [hkind]) (by simp [hkind]))

/-! ## The search for the closing parenthesis -/

/-- The characters that mean nothing to the search outside of quotes. -/
def isIgnored (c : Char) : Bool :=
  !(['"', '\'', '(', ')'].contains c)

/-- The search passes over `front` from one state to another, whatever follows. -/
def Skips (state : Quoting) (depth : Nat) (front : List Char) (next : Quoting) (nextDepth : Nat) :
    Prop :=
  ∀ rest, cutAtClose? state depth (front ++ rest) =
    (cutAtClose? next nextDepth rest).map fun cut => (front ++ cut.1, cut.2)

namespace Skips

variable {state next last : Quoting} {depth nextDepth lastDepth : Nat} {front more : List Char}

lemma nil : Skips state depth [] state depth := by
  intro rest
  exact Option.map_id'.symm

lemma append (h : Skips state depth front next nextDepth)
    (hmore : Skips next nextDepth more last lastDepth) :
    Skips state depth (front ++ more) last lastDepth := by
  intro rest
  rw [List.append_assoc, h, hmore, Option.map_map]
  simp only [Function.comp_def, List.append_assoc]

lemma cons {c : Char} (h : Skips state depth [c] next nextDepth)
    (hfront : Skips next nextDepth front last lastDepth) :
    Skips state depth (c :: front) last lastDepth :=
  h.append hfront

lemma inside (quote c : Char) : Skips (.inside quote) depth [c] (insideNext quote c) depth :=
  fun _ => rfl

lemma escaped (quote c : Char) : Skips (.escaped quote) depth [c] (.inside quote) depth :=
  fun _ => rfl

lemma openQuote {quote : Char} (h : quote = '"' ∨ quote = '\'') :
    Skips .outside depth [quote] (.inside quote) depth := by
  intro rest
  obtain rfl | rfl := h <;> rfl

lemma openParen : Skips .outside depth ['('] .outside (depth + 1) :=
  fun _ => rfl

lemma closeParen : Skips .outside (depth + 1) [')'] .outside depth :=
  fun _ => rfl

lemma ignored (h : ∀ c ∈ front, isIgnored c = true) :
    Skips .outside depth front .outside depth := by
  induction front with
  | nil => exact nil
  | cons c front ih =>
    have hc := h c List.mem_cons_self
    simp only [isIgnored, List.contains_eq_mem, List.mem_cons, List.not_mem_nil, or_false,
      Bool.not_eq_true', decide_eq_false_iff_not, not_or] at hc
    obtain ⟨hdouble, hsingle, hopen, hclose⟩ := hc
    refine cons (fun rest => ?_) (ih fun d hd => h d (.tail c hd))
    rw [List.singleton_append, cutAtClose?, if_neg fun hparen => hclose hparen.1]
    simp only [hdouble, hsingle, hopen, hclose, or_self, if_false]
    rfl

lemma inQuotes {quoting : Quoting} (h : InQuotes quoting front next) :
    Skips quoting depth front next depth := by
  induction h with
  | nil state => exact nil
  | inside _ ih => exact cons (inside _ _) ih
  | escaped _ ih => exact cons (escaped _ _) ih

/-- The depth of the search is the number of parentheses among the open brackets. -/
lemma symbol {n m : Nesting} {s : Symbol} (h : n.next? (.symbol s) = some m) :
    Skips .outside (depth + n.brackets.count '(') s.spelling .outside
      (depth + m.brackets.count '(') := by
  cases s
  case openParen =>
    obtain rfl := Option.some.inj h
    rw [List.count_cons_self, ← Nat.add_assoc]
    exact openParen
  case closeParen =>
    simp only [Nesting.next?] at h
    split at h
    · rename_i hopen
      obtain ⟨outer, houter⟩ := List.head?_eq_some_iff.1 hopen
      obtain rfl := Option.some.inj h
      rw [houter, List.count_cons_self, ← Nat.add_assoc]
      exact closeParen
    · cases h
  case closeBracket =>
    simp only [Nesting.next?] at h
    split at h
    · rename_i hopen
      obtain ⟨outer, houter⟩ := List.head?_eq_some_iff.1 hopen
      obtain rfl := Option.some.inj h
      rw [houter, List.count_cons_of_ne (by decide)]
      exact ignored (List.all_eq_true.1 (by decide))
    · cases h
  case greater | greaterEqual =>
    simp only [Nesting.next?] at h
    split at h
    · cases h
    · obtain rfl := Option.some.inj h
      exact ignored (List.all_eq_true.1 (by decide))
  all_goals
    obtain rfl := Option.some.inj h
    exact ignored (List.all_eq_true.1 (by decide))

lemma bracketScan (depth : Nat) : BracketScan fun before text after =>
    Skips .outside (depth + before.count '(') text .outside (depth + after.count '(') where
  nil _ := nil
  append h hmore := h.append hmore
  plain _ h := by
    refine ignored fun c hc => ?_
    by_contra hloud
    simp only [isIgnored, Bool.not_eq_true', Bool.not_eq_false, List.contains_eq_mem,
      decide_eq_true_eq] at hloud
    have hmarks : ['"', '\'', '(', ')'].all isMark = true := by decide
    exact absurd (List.all_eq_true.1 hmarks c hloud) (by simp [h c hc])
  quoted _ hquote h := cons (openQuote hquote) (inQuotes h)

lemma pieces {ps : List Piece} (hcut : WellCut ps) (hjunk : JunkFree ps) {n m : Nesting}
    (hwalk : n.after? (tokensAmong ps) = some m) :
    Skips .outside (depth + n.brackets.count '(') (textOf ps) .outside
      (depth + m.brackets.count '(') :=
  (bracketScan depth).pieces hcut hjunk (fun _ _ _ _ => symbol) hwalk

end Skips

lemma Skips.of_parseExpression {inner : List Char} {e : Expr} (h : parseExpression inner = .ok e) :
    Skips .outside 0 inner .outside 0 := by
  obtain ⟨hjunk, hreads⟩ := parseExpression_eq_ok_iff.1 h
  rw [← textOf_pieces inner]
  exact Skips.pieces (wellCut_pieces inner) hjunk (after?_of_reads hreads [])

/-- The closing parenthesis stands behind what the search passes over. -/
lemma Skips.cutAtClose? {inner : List Char} (h : Skips .outside 0 inner .outside 0)
    (rest : List Char) : cutAtClose? .outside 0 (inner ++ ')' :: rest) = some (inner, rest) := by
  rw [h]
  exact congrArg some (Prod.ext (List.append_nil inner) rfl)

/-! ## Stripped expressions -/

lemma stripParens_of_ne {source : List Char} (h : (Text.trim source).head? ≠ some '(') :
    stripParens source = Text.trim source := by
  unfold stripParens
  split
  · rename_i inner htrim
    rw [htrim] at h
    exact absurd rfl h
  · rfl

lemma stripParens_of_enclosed {source enclosed behind : List Char} {first : Expr}
    (hsource : Text.trim source = '(' :: (enclosed ++ ')' :: behind))
    (h : parseExpression enclosed = .ok first) :
    stripParens source = if behind = [] then Text.trim enclosed else Text.trim source := by
  simp only [stripParens, hsource, (Skips.of_parseExpression h).cutAtClose?]
  cases behind <;> rfl

lemma length_trim_le (text : List Char) : (Text.trim text).length ≤ text.length := by
  have hend := List.length_dropWhile_le Text.isBlank (Text.trimStart text).reverse
  have hstart := List.length_dropWhile_le Text.isBlank text
  rw [Text.trim, Text.trimEnd, List.length_reverse]
  rw [List.length_reverse, Text.trimStart] at hend
  exact hend.trans hstart

/-- An expression between the first and the last character of a text is enclosed by them, and what
is left of the text is another text. -/
lemma stripParens_of_parens {source inner : List Char} {first : Expr}
    (hsource : Text.trim source = '(' :: (inner ++ [')'])) (h : parseExpression inner = .ok first) :
    stripParens source = Text.trim inner ∧ stripParens source ≠ Text.trim source := by
  have hstripped := stripParens_of_enclosed hsource h
  rw [if_pos rfl] at hstripped
  refine ⟨hstripped, fun hsame => ?_⟩
  have hlength := congrArg List.length (hsame.symm.trans hstripped)
  have hle := length_trim_le inner
  simp only [hsource, List.length_cons, List.length_append, List.length_nil] at hlength
  omega

/-- **Taking away the parentheses around an expression does not change it.**  They are taken away
exactly if what stands between them is the whole expression, and not if they belong to its first and
last operands, stand in quotes or have a call or an index behind them. -/
theorem parseExpression_stripParens {source : List Char} {e : Expr}
    (h : parseExpression source = .ok e) :
    parseExpression (stripParens source) = .ok e ∧
      (stripParens source ≠ Text.trim source ↔
        ∃ inner, Text.trim source = '(' :: (inner ++ [')']) ∧ parseExpression inner = .ok e) := by
  have htrim := parseExpression_trim h
  -- if nothing is stripped, then no parentheses enclose the whole expression
  have hkept (hsame : stripParens source = Text.trim source) :
      parseExpression (stripParens source) = .ok e ∧
        (stripParens source ≠ Text.trim source ↔
          ∃ inner, Text.trim source = '(' :: (inner ++ [')']) ∧
            parseExpression inner = .ok e) := by
    refine ⟨hsame ▸ htrim, iff_of_false (not_not.2 hsame) ?_⟩
    rintro ⟨inner, hinner, hparse⟩
    exact (stripParens_of_parens hinner hparse).2 hsame
  by_cases hparen : (Text.trim source).head? = some '('
  · obtain ⟨inner, hinner⟩ := List.head?_eq_some_iff.1 hparen
    obtain ⟨enclosed, behind, first, rfl, hfirst, hwhole⟩ := exists_enclosed (hinner ▸ htrim)
    by_cases hbehind : behind = []
    · -- the first parenthesis is closed at the very end
      subst hbehind
      obtain rfl := hwhole rfl
      obtain ⟨hstripped, hchanged⟩ := stripParens_of_parens hinner hfirst
      exact ⟨hstripped ▸ parseExpression_trim hfirst,
        iff_of_true hchanged ⟨enclosed, hinner, hfirst⟩⟩
    · -- it is closed earlier, as in `(a) + (b)`
      apply hkept
      rw [stripParens_of_enclosed hinner hfirst, if_neg hbehind]
  · exact hkept (stripParens_of_ne hparen)

/-- Parentheses around a whole expression with a parenthesis in quotes, and parentheses around its
first and last operands. -/
theorem parseExpression_stripParens_operands :
    parseExpression " (($a) . ')(') ".toList =
      .ok (.binary .concat (.var "a") (.literal (.text ")("))) ∧
    stripParens " (($a) . ')(') ".toList = "($a) . ')('".toList ∧
    parseExpression (stripParens " (($a) . ')(') ".toList) =
      .ok (.binary .concat (.var "a") (.literal (.text ")("))) ∧
    parseExpression "($a)[0] . (f())".toList =
      .ok (.binary .concat (.index (.var "a") (.literal (.ofNat 0))) (.call "f" [])) ∧
    stripParens "($a)[0] . (f())".toList = "($a)[0] . (f())".toList ∧
    parseExpression (stripParens "($a)[0] . (f())".toList) =
      .ok (.binary .concat (.index (.var "a") (.literal (.ofNat 0))) (.call "f" [])) := by
  have hlexemes : strictLexemes " (($a) . ')(') ".toList =
      .ok [⟨.symbol .openParen, 1, 2⟩, ⟨.symbol .openParen, 2, 3⟩, ⟨.var "a", 3, 5⟩,
        ⟨.symbol .closeParen, 5, 6⟩, ⟨.symbol .dot, 7, 8⟩, ⟨.text ")(", 9, 13⟩,
        ⟨.symbol .closeParen, 13, 14⟩] := by
    decide +kernel
  have hwhole : parseExpression " (($a) . ')(') ".toList =
      .ok (.binary .concat (.var "a") (.literal (.text ")("))) := by
    simp only [parseExpression, lexemesOf, hlexemes]
    rfl
  have hlexemes' : strictLexemes "($a)[0] . (f())".toList =
      .ok [⟨.symbol .openParen, 0, 1⟩, ⟨.var "a", 1, 3⟩, ⟨.symbol .closeParen, 3, 4⟩,
        ⟨.symbol .openBracket, 4, 5⟩, ⟨.integer 0, 5, 6⟩, ⟨.symbol .closeBracket, 6, 7⟩,
        ⟨.symbol .dot, 8, 9⟩, ⟨.symbol .openParen, 10, 11⟩, ⟨.word "f", 11, 12⟩,
        ⟨.symbol .openParen, 12, 13⟩, ⟨.symbol .closeParen, 13, 14⟩,
        ⟨.symbol .closeParen, 14, 15⟩] := by
    decide +kernel
  have hparts : parseExpression "($a)[0] . (f())".toList =
      .ok (.binary .concat (.index (.var "a") (.literal (.ofNat 0))) (.call "f" [])) := by
    simp only [parseExpression, lexemesOf, hlexemes']
    rfl
  exact ⟨hwhole, by decide, (parseExpression_stripParens hwhole).1, hparts, by decide,
    (parseExpression_stripParens hparts).1⟩

end ViewTemplate.Directive
