import Mathlib.Tactic.Common
import ViewTemplate.Proofs.BodyScan
import ViewTemplate.Proofs.Tiling

/-!
# Scripts in templates are never cut

A script that can be read may stand in a tag, in host code or in a directive whatever it holds:
closing markers in quotes, brackets in quotes, operators that end with the first character of a
closing marker.  `tokens_of_embedded_script` says so for the default delimiters, and says what the
tokens of such a template are.

All that is needed of the script is that it is `Nested`.  Expressions and statements both are,
because they follow the grammar.  The scan for the closing marker passes over a nested script
(`Nested.passes`), so it stops at the marker behind it, and the template has no other construct and
no literal text.
-/

namespace ViewTemplate.Template

open Script
open ViewTemplate.Text (newlines trim)

/-! ## Templates that are one construct -/

lemma opensWith?_nil (markers : List Marker) : opensWith? markers [] = none := by
  induction markers with
  | nil => rfl
  | cons m markers ih =>
    obtain ⟨k, opening, hopening⟩ := List.exists_cons_of_ne_nil m.opening_ne
    rw [opensWith?, ih, hopening]
    rfl

lemma readText_of_opensWith? {markers : List Marker} {text after : List Char} {m : Marker}
    (hslash : text.head? ≠ some '\\') (h : opensWith? markers text = some (m, after)) :
    readText markers text = ⟨[], [], text⟩ := by
  have hunit : textUnit? markers text = none := by
    cases text with
    | nil => rfl
    | cons c text =>
      have hc : c ≠ '\\' := by simpa using hslash
      simp [textUnit?, hc, h]
  rw [readText]
  split
  · rfl
  · rename_i unit hsome
    simp [hunit] at hsome

lemma readText_nil (markers : List Marker) : readText markers [] = ⟨[], [], []⟩ := by
  rw [readText]
  split
  · rfl
  · rename_i unit hsome
    simp [textUnit?] at hsome

lemma segmentsFrom_nil (markers : List Marker) (line : Nat) :
    segmentsFrom markers line [] = .ok [] := by
  rw [segmentsFrom_eq, readText_nil, opensWith?_nil]
  rfl

lemma segmentsFrom_construct {markers : List Marker} {text after rest : List Char} {m : Marker}
    {line : Nat} {segment : Segment} {segments : List Segment}
    (hslash : text.head? ≠ some '\\') (hopen : opensWith? markers text = some (m, after))
    (hread : readConstruct m line after = .ok (segment, rest))
    (hrest : segmentsFrom markers segment.lineAfter rest = .ok segments) :
    segmentsFrom markers line text = .ok (segment :: segments) := by
  rw [segmentsFrom_eq, readText_of_opensWith? hslash hopen]
  simp only [hopen]
  have hline : line + newlines [] = line := rfl
  rw [hline, hread]
  simp only [hrest]
  rfl

lemma trimEnd_of_last {d : Char} (hd : Text.isBlank d = false) (text : List Char) :
    Text.trimEnd (text ++ [d]) = text ++ [d] := by
  simp [Text.trimEnd, hd]

/-- Nothing is trimmed from a text that starts and ends with characters that are not blank. -/
lemma trimBlankLines_of_ends {c d : Char} (hc : Text.isBlank c = false)
    (hd : Text.isBlank d = false) (inner : List Char) :
    Text.trimBlankLines (c :: (inner ++ [d])) = ⟨c :: (inner ++ [d]), 0⟩ := by
  have hmargin : (c :: (inner ++ [d])).takeWhile Text.isBlank = [] := by simp [hc]
  have hbody : (c :: (inner ++ [d])).dropWhile Text.isBlank = c :: (inner ++ [d]) := by simp [hc]
  have htail : ((c :: (inner ++ [d])).reverse.takeWhile Text.isBlank).reverse = [] := by simp [hd]
  have hreturn : d ≠ '\r' := by
    rintro rfl
    exact absurd hd (by decide)
  have hkept : Text.dropCarriageReturn (c :: (inner ++ [d])) = c :: (inner ++ [d]) := by
    simp only [Text.dropCarriageReturn, ← List.cons_append, List.getLast?_append,
      List.getLast?_singleton, Option.some_or]
    split <;> simp_all
  have htrim : Text.trimEnd (c :: (inner ++ [d])) = c :: (inner ++ [d]) :=
    trimEnd_of_last hd (c :: inner)
  simp only [Text.trimBlankLines, hmargin, hbody, htail, htrim]
  simp [Text.lastLine, Text.firstLine, hkept, newlines]

lemma trim_of_spaces (text : List Char) : trim (' ' :: (text ++ [' '])) = trim text := by
  have hspace : Text.isBlank ' ' = true := by decide
  have hstart : Text.trimStart (' ' :: (text ++ [' '])) = Text.trimStart (text ++ [' ']) := by
    simp [Text.trimStart, hspace]
  rw [trim, hstart, trim, Text.trimStart, Text.trimStart, List.dropWhile_append]
  split
  · rename_i hempty
    simp [List.isEmpty_iff.1 hempty, hspace]
  · simp [Text.trimEnd, hspace]

lemma trim_of_parens (text : List Char) :
    trim ('(' :: (text ++ [')', ' '])) = '(' :: (text ++ [')']) := by
  have hopen : Text.isBlank '(' = false := by decide
  have hclose : Text.isBlank ')' = false := by decide
  have hspace : Text.isBlank ' ' = true := by decide
  simp [trim, Text.trimStart, Text.trimEnd, hopen, hclose, hspace]

/-! ## Bodies that are scripts -/

/-- A script that opens and closes its brackets, and in which no closing marker is hidden. -/
def Nested (source : List Char) : Prop :=
  JunkFree (pieces source) ∧
    ∀ brackets, Nesting.after? ⟨brackets, false⟩ (tokensAmong (pieces source)) =
      some ⟨brackets, false⟩

lemma nested_of_parseExpression {source : List Char} {e : Expr}
    (h : parseExpression source = .ok e) : Nested source := by
  obtain ⟨hjunk, hreads⟩ := parseExpression_eq_ok_iff.1 h
  exact ⟨hjunk, after?_of_reads hreads⟩

lemma nested_of_parseStatements {source : List Char} {ss : List Stmt}
    (h : parseStatements source = .ok ss) : Nested source := by
  obtain ⟨hjunk, hreads⟩ := readsStatements_of_parseStatements h
  exact ⟨hjunk, after?_of_readsStatements hreads⟩

lemma Nested.passes {source closing : List Char} (h : Nested source)
    (hclosing : closing ∈ defaultClosings) (brackets : List Char) {tail : List Char}
    (hbrace : tail.head? ≠ some '\x7d') (hgreater : tail.head? ≠ some '>') :
    Passes closing (.code brackets) source (.code brackets) tail := by
  have hpass := passes_pieces hclosing (wellCut_pieces source) h.1 (h.2 brackets) hbrace hgreater
  rwa [textOf_pieces] at hpass

lemma scanBody_closing {closing : List Char} (h : closing ≠ []) (rest : List Char) :
    scanBody closing (.code []) (closing ++ rest) = .closed [] rest := by
  obtain ⟨k, more, rfl⟩ := List.exists_cons_of_ne_nil h
  rw [List.cons_append, scanBody, if_pos rfl, ← List.cons_append, Text.afterMarker?_append]

/-- A body that the scan passes over ends at the closing marker behind it. -/
lemma scanBody_of_passes {closing body : List Char} (h : closing ≠ []) {rest : List Char}
    (hpass : Passes closing (.code []) body (.code []) (closing ++ rest)) :
    scanBody closing (.code []) (body ++ (closing ++ rest)) = .closed body rest := by
  rw [hpass, scanBody_closing h, prepend_closed, List.append_nil]

lemma ne_nil_of_mem_defaultClosings {closing : List Char} (h : closing ∈ defaultClosings) :
    closing ≠ [] := by
  have hall : ∀ k ∈ defaultClosings, k ≠ [] := by decide
  exact hall closing h

lemma afterMarker?_of_not_mark {closing : List Char} (hclosing : closing ∈ defaultClosings)
    {c : Char} (hc : c = ' ' ∨ c = '(' ∨ c = ')') (rest : List Char) :
    Text.afterMarker? closing (c :: rest) = none := by
  simp only [defaultClosings, List.mem_cons, List.not_mem_nil, or_false] at hclosing
  rcases hclosing with rfl | rfl | rfl | rfl <;> rcases hc with rfl | rfl | rfl <;> rfl

/-- The body of a tag or of host code that holds a script between two blanks. -/
lemma Nested.scanBody_spaced {source closing : List Char} (h : Nested source)
    (hclosing : closing ∈ defaultClosings) (rest : List Char) :
    scanBody closing (.code []) (' ' :: (source ++ ' ' :: (closing ++ rest))) =
      .closed (' ' :: (source ++ [' '])) rest := by
  have hspace : ∀ text, Passes closing (.code []) [' '] (.code []) text := fun text =>
    .char rfl fun _ => afterMarker?_of_not_mark hclosing (by simp) text
  have hpass : Passes closing (.code []) (' ' :: (source ++ [' '])) (.code []) (closing ++ rest) :=
    .cons (hspace _) ((h.passes hclosing [] (by simp) (by simp)).append (hspace _))
  simpa using scanBody_of_passes (ne_nil_of_mem_defaultClosings hclosing) hpass

/-- The body of a directive that holds a script between parentheses. -/
lemma Nested.scanBody_parens {source closing : List Char} (h : Nested source)
    (hclosing : closing ∈ defaultClosings) (rest : List Char) :
    scanBody closing (.code []) ('(' :: (source ++ ')' :: ' ' :: (closing ++ rest))) =
      .closed ('(' :: (source ++ [')', ' '])) rest := by
  have hopen : ∀ text, Passes closing (.code []) ['('] (.code ['(']) text := fun text =>
    .char rfl fun _ => afterMarker?_of_not_mark hclosing (by simp) text
  have hclose : ∀ text, Passes closing (.code ['(']) [')'] (.code []) text := fun text =>
    .char rfl (by simp)
  have hspace : ∀ text, Passes closing (.code []) [' '] (.code []) text := fun text =>
    .char rfl fun _ => afterMarker?_of_not_mark hclosing (by simp) text
  have hpass : Passes closing (.code []) ('(' :: (source ++ [')', ' '])) (.code [])
      (closing ++ rest) :=
    .cons (hopen _) ((h.passes hclosing ['('] (by simp) (by simp)).append
      (.cons (hclose _) (hspace _)))
  simpa using scanBody_of_passes (ne_nil_of_mem_defaultClosings hclosing) hpass

/-! ## Whole templates -/

/-- The default marker of tags whose output is sanitized. -/
def sanitizedMarker : Marker :=
  ⟨.body .sanitized, ['\x7b', '\x7b'], ['\x7d', '\x7d'], by decide, by decide⟩

/-- The default marker of tags whose output is not sanitized. -/
def unsanitizedMarker : Marker :=
  ⟨.body .unsanitized, ['\x7b', '\x7b', '!'], ['!', '\x7d', '\x7d'], by decide, by decide⟩

/-- The default marker of directives. -/
def directiveMarker : Marker :=
  ⟨.directive, ['<', '%'], ['%', '>'], by decide, by decide⟩

/-- The default marker of comments. -/
def commentMarker : Marker :=
  ⟨.body .comment, ['\x7b', '#'], ['#', '\x7d'], by decide, by decide⟩

/-- The markers of the default delimiters. -/
def defaultMarkers : List Marker :=
  [sanitizedMarker, unsanitizedMarker, directiveMarker, commentMarker, hostCodeMarker]

lemma markersOf_default : markersOf {} = .ok defaultMarkers := rfl

/-- A marker that starts and ends with characters that are neither blank nor a backslash. -/
structure Marker.Visible (m : Marker) : Prop where
  first : ∃ c opening, m.opening = c :: opening ∧ Text.isBlank c = false ∧ c ≠ '\\'
  last : ∃ closing d, m.closing = closing ++ [d] ∧ Text.isBlank d = false

/-- A template that is one construct has the tokens of that construct. -/
lemma tokens_construct (names : List String) {m : Marker} (hm : m.Visible) {inner : List Char}
    {segment : Segment}
    (hopen : opensWith? defaultMarkers (m.opening ++ (inner ++ m.closing)) =
      some (m, inner ++ m.closing))
    (hread : readConstruct m 1 (inner ++ m.closing) = .ok (segment, [])) {source : String}
    (hsource : source.toList = m.opening ++ (inner ++ m.closing)) :
    tokens {} names source = .ok (segment.tokens (passesThrough names)) := by
  obtain ⟨c, opening, hopening, hc, hslash⟩ := hm.first
  obtain ⟨closing, d, hclosing, hd⟩ := hm.last
  have hends : source.toList = c :: (opening ++ inner ++ closing ++ [d]) := by
    simp [hsource, hopening, hclosing]
  have htrim : Text.trimBlankLines source.toList = ⟨source.toList, 0⟩ := by
    rw [hends, trimBlankLines_of_ends hc hd]
  have hsegments : segments defaultMarkers source.toList = .ok [segment] := by
    rw [segments, htrim]
    refine segmentsFrom_construct ?_ (hsource ▸ hopen) hread (segmentsFrom_nil _ _)
    rw [hends, List.head?_cons]
    simpa using hslash
  simp only [tokens, markersOf_default, hsegments, Except.map, List.flatMap_cons,
    List.flatMap_nil, List.append_nil]

/-- The tokens of a script in a tag or in host code. -/
def scriptTokens (names : List String) (kind : BodyKind) (opening closing : String)
    (script : List Char) : List Token :=
  [⟨.opens (.body kind), opening, 1⟩,
    ⟨.text, String.ofList (markCalls (passesThrough names) (trim script)), 1⟩,
    ⟨.closes (.body kind), closing, 1 + newlines script⟩]

/-- A tag or host code with a nested script between two blanks has the tokens of that script. -/
lemma tokens_spaced (names : List String) {m : Marker} (hm : m.Visible) {kind : BodyKind}
    (hkind : m.construct = .body kind) (hcomment : kind ≠ .comment)
    (hopen : ∀ rest, opensWith? defaultMarkers (m.opening ++ ' ' :: rest) = some (m, ' ' :: rest))
    (hclosing : m.closing ∈ defaultClosings) {script : List Char} (h : Nested script)
    {source : String} (hsource : source.toList = m.opening ++ ' ' :: (script ++ ' ' :: m.closing)) :
    tokens {} names source =
      .ok (scriptTokens names kind (String.ofList m.opening) (String.ofList m.closing) script) := by
  have hscan := h.scanBody_spaced hclosing []
  rw [List.append_nil] at hscan
  have hinner : ' ' :: (script ++ ' ' :: m.closing) = ' ' :: (script ++ [' ']) ++ m.closing := by
    simp
  have hread : readConstruct m 1 (' ' :: (script ++ [' ']) ++ m.closing) =
      .ok (.block kind m.opening (' ' :: (script ++ [' '])) m.closing 1, []) := by
    rw [← hinner]
    cases kind with
    | comment => exact absurd rfl hcomment
    | sanitized | unsanitized | hostCode =>
      simp only [readConstruct, hkind, readBlock, readBody_eq, hscan]
  have htokens := tokens_construct names hm (by rw [← hinner]; exact hopen _) hread
    (by rw [hsource, hinner])
  rw [htokens]
  simp only [Segment.tokens, scriptTokens, trim_of_spaces]
  simp [newlines]

/-- The tokens of the directive `if` with a script between parentheses. -/
def ifTokens (names : List String) (script : List Char) : List Token :=
  [⟨.opens .directive, "<%", 1⟩, ⟨.directiveName, "if", 1⟩,
    ⟨.text, String.ofList (markCalls (passesThrough names) ('(' :: (script ++ [')']))), 1⟩,
    ⟨.closes .directive, "%>", 1 + newlines script⟩]

lemma tokens_if (names : List String) {script : List Char} (h : Nested script) {source : String}
    (hsource : source.toList =
      directiveMarker.opening ++ (" if(".toList ++ (script ++ ") %>".toList))) :
    tokens {} names source = .ok (ifTokens names script) := by
  have hscan := h.scanBody_parens (by decide : directiveMarker.closing ∈ defaultClosings) []
  rw [List.append_nil] at hscan
  have hread : readConstruct directiveMarker 1
      (" if(".toList ++ (script ++ [')', ' ']) ++ directiveMarker.closing) =
      .ok (.directive directiveMarker.opening [' '] ['i', 'f'] ('(' :: (script ++ [')', ' ']))
        directiveMarker.closing 1, []) := by
    have htext : " if(".toList ++ (script ++ [')', ' ']) ++ directiveMarker.closing =
        ' ' :: 'i' :: 'f' :: '(' :: (script ++ ')' :: ' ' :: directiveMarker.closing) := by simp
    have hi : isNameChar 'i' = true := rfl
    have hf : isNameChar 'f' = true := rfl
    have hparen : isNameChar '(' = false := rfl
    have hspace : Text.isBlank ' ' = true := by decide
    have hname : Text.isBlank 'i' = false := by decide
    rw [htext]
    change readDirective directiveMarker 1 _ = _
    simp only [readDirective, readNamed, List.takeWhile_cons, List.dropWhile_cons, hspace, hname,
      hi, hf, hparen, if_true, Bool.false_eq_true, if_false, List.isEmpty_cons, readBody_eq,
      hscan]
  have hvisible : directiveMarker.Visible :=
    ⟨⟨'<', ['%'], rfl, by decide, by decide⟩, ⟨['%'], '>', rfl, by decide⟩⟩
  have hopen : ∀ rest, opensWith? defaultMarkers (directiveMarker.opening ++ ' ' :: rest) =
      some (directiveMarker, ' ' :: rest) := fun _ => rfl
  have htokens := tokens_construct names hvisible (hopen _) hread
    (by rw [hsource]; simp [directiveMarker])
  rw [htokens]
  simp only [Segment.tokens, ifTokens, trim_of_parens]
  simp [newlines, directiveMarker]

/-- **Scripts in templates are never cut.**  With the default delimiters, a tag, host code or the
directive `if` around a script that can be read has one token for the script, which is the whole
script with its calls marked. -/
theorem tokens_of_embedded_script (names : List String) :
    (∀ (script : String) (e : Expr), parseExpression script.toList = .ok e →
      tokens {} names ("\x7b\x7b " ++ script ++ " \x7d\x7d") =
        .ok (scriptTokens names .sanitized "\x7b\x7b" "\x7d\x7d" script.toList) ∧
      tokens {} names ("\x7b\x7b! " ++ script ++ " !\x7d\x7d") =
        .ok (scriptTokens names .unsanitized "\x7b\x7b!" "!\x7d\x7d" script.toList) ∧
      tokens {} names ("<% if(" ++ script ++ ") %>") = .ok (ifTokens names script.toList)) ∧
    ∀ (script : String) (ss : List Stmt), parseStatements script.toList = .ok ss →
      tokens {} names ("<?host " ++ script ++ " ?>") =
        .ok (scriptTokens names .hostCode "<?host" "?>" script.toList) := by
  have hsanitized : sanitizedMarker.Visible :=
    ⟨⟨'\x7b', ['\x7b'], rfl, by decide, by decide⟩, ⟨['\x7d'], '\x7d', rfl, by decide⟩⟩
  have hunsanitized : unsanitizedMarker.Visible :=
    ⟨⟨'\x7b', ['\x7b', '!'], rfl, by decide, by decide⟩, ⟨['!', '\x7d'], '\x7d', rfl, by decide⟩⟩
  have hhost : hostCodeMarker.Visible :=
    ⟨⟨'<', ['?', 'h', 'o', 's', 't'], rfl, by decide, by decide⟩, ⟨['?'], '>', rfl, by decide⟩⟩
  refine ⟨fun script e he => ⟨?_, ?_, ?_⟩, fun script ss hss => ?_⟩
  · exact tokens_spaced names hsanitized rfl (by simp) (fun _ => rfl) (by decide)
      (nested_of_parseExpression he) (by simp [sanitizedMarker])
  · exact tokens_spaced names hunsanitized rfl (by simp) (fun _ => rfl) (by decide)
      (nested_of_parseExpression he) (by simp [unsanitizedMarker])
  · exact tokens_if names (nested_of_parseExpression he) (by simp [directiveMarker])
  · exact tokens_spaced names hhost rfl (by simp) (fun _ => rfl) (by decide)
      (nested_of_parseStatements hss) (by simp [hostCodeMarker, hostCodeDelimiters])

/-- Scripts that hold closing markers in quotes, and brackets in and out of them. -/
theorem tokens_of_embedded_script_markers :
    parseExpression "$a ? f([1], '\x7d\x7d')[0] : \"%> )\"".toList =
      .ok (.ternary (.var "a")
        (.index (.call "f" [.array [(none, .literal (.ofNat 1))], .literal (.text "\x7d\x7d")])
          (.literal (.ofNat 0)))
        (.literal (.text "%> )"))) ∧
    tokens {} [] ("\x7b\x7b " ++ "$a ? f([1], '\x7d\x7d')[0] : \"%> )\"" ++ " \x7d\x7d") =
      .ok (scriptTokens [] .sanitized "\x7b\x7b" "\x7d\x7d"
        "$a ? f([1], '\x7d\x7d')[0] : \"%> )\"".toList) ∧
    parseStatements "$x = '?>'; echo $x".toList =
      .ok [.assign (.var "x") .set (.literal (.text "?>")), .echo [.var "x"]] ∧
    tokens {} [] ("<?host " ++ "$x = '?>'; echo $x" ++ " ?>") =
      .ok (scriptTokens [] .hostCode "<?host" "?>" "$x = '?>'; echo $x".toList) := by
  have hlexemes : strictLexemes "$a ? f([1], '\x7d\x7d')[0] : \"%> )\"".toList =
      .ok [⟨.var "a", 0, 2⟩, ⟨.symbol .question, 3, 4⟩, ⟨.word "f", 5, 6⟩,
        ⟨.symbol .openParen, 6, 7⟩, ⟨.symbol .openBracket, 7, 8⟩, ⟨.integer 1, 8, 9⟩,
        ⟨.symbol .closeBracket, 9, 10⟩, ⟨.symbol .comma, 10, 11⟩, ⟨.text "\x7d\x7d", 12, 16⟩,
        ⟨.symbol .closeParen, 16, 17⟩, ⟨.symbol .openBracket, 17, 18⟩, ⟨.integer 0, 18, 19⟩,
        ⟨.symbol .closeBracket, 19, 20⟩, ⟨.symbol .colon, 21, 22⟩, ⟨.text "%> )", 23, 29⟩] := by
    decide +kernel
  have he : parseExpression "$a ? f([1], '\x7d\x7d')[0] : \"%> )\"".toList =
      .ok (.ternary (.var "a")
        (.index (.call "f" [.array [(none, .literal (.ofNat 1))], .literal (.text "\x7d\x7d")])
          (.literal (.ofNat 0)))
        (.literal (.text "%> )"))) := by
    simp only [parseExpression, lexemesOf, hlexemes]
    rfl
  have hlexemes' : strictLexemes "$x = '?>'; echo $x".toList =
      .ok [⟨.var "x", 0, 2⟩, ⟨.symbol .assign, 3, 4⟩, ⟨.text "?>", 5, 9⟩,
        ⟨.symbol .semicolon, 9, 10⟩, ⟨.word "echo", 11, 15⟩, ⟨.var "x", 16, 18⟩] := by
    decide +kernel
  have hss : parseStatements "$x = '?>'; echo $x".toList =
      .ok [.assign (.var "x") .set (.literal (.text "?>")), .echo [.var "x"]] := by
    simp only [parseStatements, lexemesOf, hlexemes']
    rfl
  exact ⟨he, ((tokens_of_embedded_script []).1 _ _ he).1, hss,
    (tokens_of_embedded_script []).2 _ _ hss⟩

end ViewTemplate.Template
