import ViewTemplate.Script.Calls
import ViewTemplate.Template.Marker
import ViewTemplate.Text.Letter
import ViewTemplate.Text.Lines

/-!
# Segments

The text of a template is cut into segments: runs of literal text and whole constructs.  A segment
keeps the text it was cut from, so the segments put together are the template again, and its tokens
are computed from it.

The body of a tag, a directive or host code ends at the first closing marker outside of quotes and
brackets.  The body of a comment ends at the first closing marker.  The scan counts lines as it goes
(`scanBodyFrom`), and what it has counted are the newlines it passed.
-/

namespace ViewTemplate.Template

open ViewTemplate.Text (newlines)

/-- A piece of a template. -/
inductive Segment where
  /-- Literal text: what stands in the template, and what it shows. -/
  | text (raw shown : List Char) (line : Nat)
  /-- A construct that holds only a body. -/
  | block (kind : BodyKind) (opening body closing : List Char) (line : Nat)
  /-- A directive: the blanks before its name, its name and its body. -/
  | directive (opening lead name body closing : List Char) (line : Nat)
  deriving Repr, DecidableEq

namespace Segment

/-- The text a segment was cut from. -/
def source : Segment → List Char
  | text raw _ _ => raw
  | block _ opening body closing _ => opening ++ body ++ closing
  | directive opening lead name body closing _ => opening ++ lead ++ name ++ body ++ closing

/-- The tokens of a segment, with the calls in bodies marked.  Only newlines between the markers
move the line on. -/
def tokens (passes : String → Bool) : Segment → List Token
  | text _ shown line => [⟨.text, String.ofList shown, line⟩]
  | block kind opening body closing line =>
    [⟨.opens (.body kind), String.ofList opening, line⟩,
      ⟨.text, String.ofList (Script.markCalls passes (Text.trim body)), line⟩,
      ⟨.closes (.body kind), String.ofList closing, line + newlines body⟩]
  | directive opening lead name body closing line =>
    let nameLine := line + newlines lead
    let argument := Text.trim body
    [⟨.opens .directive, String.ofList opening, line⟩,
      ⟨.directiveName, String.ofList name, nameLine⟩] ++
    (if argument.isEmpty then []
      else [⟨.text, String.ofList (Script.markCalls passes argument), nameLine⟩]) ++
    [⟨.closes .directive, String.ofList closing, nameLine + newlines body⟩]

end Segment

/-! ## Bodies -/

/-- Where the scan of a body stands: outside of quotes, inside of them, or behind a backslash inside
of them; with the brackets that are open, the innermost first. -/
inductive BodyState where
  | code (brackets : List Char)
  | quoted (quote : Char) (brackets : List Char)
  | escaped (quote : Char) (brackets : List Char)
  deriving Repr, DecidableEq

/-- The bracket that a closing bracket closes. -/
def matchingBracket? : Char → Option Char
  | ')' => some '('
  | ']' => some '['
  | _ => none

/-- Move over one character, unless it is a closing bracket that does not fit. -/
def BodyState.next? : BodyState → Char → Option BodyState
  | code brackets, c =>
    if c = '"' ∨ c = '\'' then some (quoted c brackets)
    else if c = '(' ∨ c = '[' then some (code (c :: brackets))
    else
      match matchingBracket? c with
      | none => some (code brackets)
      | some wanted => if brackets.head? = some wanted then some (code brackets.tail) else none
  | quoted quote brackets, c =>
    if c = '\\' then some (escaped quote brackets)
    else if c = quote then some (code brackets)
    else some (quoted quote brackets)
  | escaped quote brackets, _ => some (quoted quote brackets)

/-- How the scan of a body ends. -/
inductive BodyEnd where
  | closed (body rest : List Char)
  /-- A closing bracket that does not fit, and what stands before it. -/
  | unbalanced (before : List Char) (bracket : Char)
  | unterminated
  deriving Repr, DecidableEq

/-- The end of a body with one more character at its front. -/
def BodyEnd.cons (c : Char) : BodyEnd → BodyEnd
  | closed body rest => closed (c :: body) rest
  | unbalanced before bracket => unbalanced (c :: before) bracket
  | unterminated => unterminated

/-- Find the end of a body: the first closing marker outside of quotes and brackets. -/
def scanBody (closing : List Char) : BodyState → List Char → BodyEnd
  | _, [] => .unterminated
  | state, c :: text =>
    match (if state = .code [] then Text.afterMarker? closing (c :: text) else none) with
    | some rest => .closed [] rest
    | none =>
      match state.next? c with
      | none => .unbalanced [] c
      | some state => (scanBody closing state text).cons c

/-- A body that has an end is followed by its closing marker. -/
theorem scanBody_eq_closed {closing text body rest : List Char} {state : BodyState}
    (h : scanBody closing state text = .closed body rest) : text = body ++ closing ++ rest := by
  induction text generalizing state body with
  | nil => simp [scanBody] at h
  | cons c text ih =>
    unfold scanBody at h
    split at h
    · rename_i after hafter
      obtain ⟨rfl, rfl⟩ := BodyEnd.closed.inj h
      split at hafter
      · simpa using Text.afterMarker?_eq_some hafter
      · simp at hafter
    · split at h
      · simp at h
      · rename_i next _
        cases hs : scanBody closing next text with
        | closed b r =>
          rw [hs] at h
          obtain ⟨rfl, rfl⟩ := BodyEnd.closed.inj h
          simp [ih hs]
        | unbalanced b k => simp [hs, BodyEnd.cons] at h
        | unterminated => simp [hs, BodyEnd.cons] at h

/-- Find the end of a body that starts on a line, and the line of that end.  Every newline that is
passed moves the line on, inside of quotes too. -/
def scanBodyFrom (closing : List Char) : Nat → BodyState → List Char → BodyEnd × Nat
  | line, _, [] => (.unterminated, line)
  | line, state, c :: text =>
    match (if state = .code [] then Text.afterMarker? closing (c :: text) else none) with
    | some rest => (.closed [] rest, line)
    | none =>
      match state.next? c with
      | none => (.unbalanced [] c, line)
      | some state =>
        let found := scanBodyFrom closing (if c = '\n' then line + 1 else line) state text
        (found.1.cons c, found.2)

/-- What a scan of a text has passed when it ends. -/
def BodyEnd.passed (text : List Char) : BodyEnd → List Char
  | closed body _ => body
  | unbalanced before _ => before
  | unterminated => text

/-- The line of the end is the line of the start and the newlines in between. -/
theorem scanBodyFrom_eq (closing : List Char) (line : Nat) (state : BodyState) (text : List Char) :
    scanBodyFrom closing line state text =
      (scanBody closing state text,
        line + newlines ((scanBody closing state text).passed text)) := by
  induction text generalizing line state with
  | nil => rfl
  | cons c text ih =>
    rw [scanBodyFrom, scanBody]
    split
    · rfl
    · split
      · rfl
      · rename_i next _
        have hline (passed : List Char) : (if c = '\n' then line + 1 else line) + newlines passed =
            line + newlines (c :: passed) := by
          by_cases hc : c = '\n'
          · simp only [newlines, hc, if_true, List.count_cons_self]
            omega
          · simp [newlines, hc]
        simp only [ih, hline]
        cases scanBody closing next text <;> rfl

/-- The body in front of a closing marker and the text behind it, or why there is none.  `line` is
the line of the opening marker and `bodyLine` that of the body. -/
def readBody (c : Construct) (closing : List Char) (line bodyLine : Nat) (text : List Char) :
    Except ScanError (List Char × List Char) :=
  match scanBodyFrom closing bodyLine (.code []) text with
  | (.closed body rest, _) => .ok (body, rest)
  | (.unbalanced _ bracket, bracketLine) => .error (.unbalancedBracket c bracket bracketLine)
  | (.unterminated, _) => .error (.unterminated c line)

theorem readBody_eq (c : Construct) (closing : List Char) (line bodyLine : Nat)
    (text : List Char) :
    readBody c closing line bodyLine text =
      match scanBody closing (.code []) text with
      | .closed body rest => .ok (body, rest)
      | .unbalanced before bracket =>
        .error (.unbalancedBracket c bracket (bodyLine + newlines before))
      | .unterminated => .error (.unterminated c line) := by
  rw [readBody, scanBodyFrom_eq]
  cases scanBody closing (.code []) text <;> rfl

/-- Behind a body that was read the scan stands on the line of its end. -/
theorem scanBodyFrom_of_readBody {c : Construct} {closing text body rest : List Char}
    {line bodyLine : Nat} (h : readBody c closing line bodyLine text = .ok (body, rest)) :
    scanBodyFrom closing bodyLine (.code []) text =
      (.closed body rest, bodyLine + newlines body) := by
  rw [readBody_eq] at h
  split at h
  · rename_i hb
    obtain ⟨rfl, rfl⟩ := Prod.mk.inj (Except.ok.inj h)
    rw [scanBodyFrom_eq, hb]
    rfl
  · simp at h
  · simp at h

/-- A body that was read is followed by its closing marker. -/
theorem readBody_eq_ok {c : Construct} {closing text body rest : List Char} {line bodyLine : Nat}
    (h : readBody c closing line bodyLine text = .ok (body, rest)) :
    text = body ++ closing ++ rest := by
  have hscan := scanBodyFrom_of_readBody h
  rw [scanBodyFrom_eq] at hscan
  exact scanBody_eq_closed (congrArg Prod.fst hscan)

/-! ## Constructs -/

/-- The comment that starts behind an opening marker, and the text behind it. -/
def readComment (m : Marker) (line : Nat) (text : List Char) :
    Except ScanError (Segment × List Char) :=
  match Text.splitAtMarker? m.closing text with
  | some (body, rest) => .ok (.block .comment m.opening body m.closing line, rest)
  | none => .error (.unterminated (.body .comment) line)

/-- The tag or host code that starts behind an opening marker, and the text behind it. -/
def readBlock (m : Marker) (kind : BodyKind) (line : Nat) (text : List Char) :
    Except ScanError (Segment × List Char) :=
  match readBody (.body kind) m.closing line line text with
  | .ok (body, rest) => .ok (.block kind m.opening body m.closing line, rest)
  | .error e => .error e

/-- The characters of a directive name. -/
def isNameChar (c : Char) : Bool :=
  Text.isLetterOrDigit c || c == '_'

/-- The directive whose name comes next, and the text behind it.  `lead` is what stands between the
opening marker and the name. -/
def readNamed (m : Marker) (line : Nat) (lead text : List Char) :
    Except ScanError (Segment × List Char) :=
  if text.isEmpty then .error (.unterminated .directive line)
  else if (text.takeWhile isNameChar).isEmpty then .error (.missingDirectiveName line)
  else
    match readBody .directive m.closing line (line + newlines lead)
      (text.dropWhile isNameChar) with
    | .ok (body, rest) =>
      .ok (.directive m.opening lead (text.takeWhile isNameChar) body m.closing line, rest)
    | .error e => .error e

/-- The directive that starts behind an opening marker, and the text behind it. -/
def readDirective (m : Marker) (line : Nat) (text : List Char) :
    Except ScanError (Segment × List Char) :=
  readNamed m line (text.takeWhile Text.isBlank) (text.dropWhile Text.isBlank)

/-- The construct that starts behind an opening marker, and the text behind it. -/
def readConstruct (m : Marker) (line : Nat) (text : List Char) :
    Except ScanError (Segment × List Char) :=
  match m.construct with
  | .body .comment => readComment m line text
  | .body kind => readBlock m kind line text
  | .directive => readDirective m line text

/-- A comment that was read is the text it was read from. -/
theorem readComment_eq_ok {m : Marker} {line : Nat} {text rest : List Char} {segment : Segment}
    (h : readComment m line text = .ok (segment, rest)) :
    ∃ inner, segment.source = m.opening ++ inner ∧ text = inner ++ rest := by
  unfold readComment at h
  split at h
  · rename_i body _ hs
    obtain ⟨rfl, rfl⟩ := Prod.mk.inj (Except.ok.inj h)
    exact ⟨body ++ m.closing, by simp [Segment.source], Text.splitAtMarker?_eq_some hs⟩
  · simp at h

/-- A tag or host code that was read is the text it was read from. -/
theorem readBlock_eq_ok {m : Marker} {kind : BodyKind} {line : Nat} {text rest : List Char}
    {segment : Segment} (h : readBlock m kind line text = .ok (segment, rest)) :
    ∃ inner, segment.source = m.opening ++ inner ∧ text = inner ++ rest := by
  unfold readBlock at h
  split at h
  · rename_i body _ hb
    obtain ⟨rfl, rfl⟩ := Prod.mk.inj (Except.ok.inj h)
    exact ⟨body ++ m.closing, by simp [Segment.source], readBody_eq_ok hb⟩
  · simp at h

/-- A directive that was read is the text it was read from. -/
theorem readNamed_eq_ok {m : Marker} {line : Nat} {lead text rest : List Char} {segment : Segment}
    (h : readNamed m line lead text = .ok (segment, rest)) :
    ∃ inner, segment.source = m.opening ++ inner ∧ lead ++ text = inner ++ rest := by
  unfold readNamed at h
  split at h
  · simp at h
  · split at h
    · simp at h
    · split at h
      · rename_i body _ hb
        obtain ⟨rfl, rfl⟩ := Prod.mk.inj (Except.ok.inj h)
        have hname : text.takeWhile isNameChar ++ text.dropWhile isNameChar = text :=
          List.takeWhile_append_dropWhile
        refine ⟨lead ++ text.takeWhile isNameChar ++ body ++ m.closing,
          by simp [Segment.source], ?_⟩
        conv => lhs; rw [← hname, readBody_eq_ok hb]
        simp
      · simp at h

/-- A construct that was read is the text it was read from. -/
theorem readConstruct_eq_ok {m : Marker} {line : Nat} {text rest : List Char} {segment : Segment}
    (h : readConstruct m line text = .ok (segment, rest)) :
    ∃ inner, segment.source = m.opening ++ inner ∧ text = inner ++ rest := by
  unfold readConstruct at h
  split at h
  · exact readComment_eq_ok h
  · exact readBlock_eq_ok h
  · obtain ⟨inner, hsource, htext⟩ := readNamed_eq_ok h
    exact ⟨inner, hsource, by rw [← htext, List.takeWhile_append_dropWhile]⟩

/-- The text behind a construct is no longer than the text behind its opening marker. -/
theorem readConstruct_length_le {m : Marker} {line : Nat} {text rest : List Char}
    {segment : Segment} (h : readConstruct m line text = .ok (segment, rest)) :
    rest.length ≤ text.length := by
  obtain ⟨inner, _, htext⟩ := readConstruct_eq_ok h
  rw [htext, List.length_append]
  omega

end ViewTemplate.Template
