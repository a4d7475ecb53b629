import Mathlib.Tactic.Common
import ViewTemplate.Proofs.JoinedScripts
import ViewTemplate.Proofs.MarkedOnce

/-!
# What marking copies

`markCalls` writes a script anew piece by piece.  The same can be done with a cursor: go over the
lexemes of the script, and at each call that is marked copy the script from the cursor up to the
name of the call, write the front of the explicit form, and move the cursor behind the parenthesis,
and behind the blanks that follow it if the call has arguments.  At the end the rest is copied.  All
these copies are slices between byte positions, and a slice is out of range if its ends are out of
order, behind the end of the text or inside of a character (`slice?`).

`markCalls_copies` says that no slice is out of range, that both ways write the same, and that what
is written is the script with the fronts of the marked calls replaced (`Replaced`).

The cursor skips more blanks than a cut of the script does: those that part no tokens are junk.  It
still stops in front of a piece, because a piece that starts with a blank is blank
(`Piece.StandsBefore.all_isBlank`), and so in front of the next name.
-/

namespace ViewTemplate.Script

/-! ## Slices between byte positions -/

/-- A byte position at which a character starts or the text ends. -/
def IsBoundary (text : List Char) (position : Nat) : Prop :=
  ∃ front back, text = front ++ back ∧ byteSize front = position

/-- The text on both sides of a byte position, unless the position is behind the end of the text or
inside of a character. -/
def splitAtByte? : (position : Nat) → List Char → Option (List Char × List Char)
  | 0, text => some ([], text)
  | _ + 1, [] => none
  | n + 1, c :: text =>
    if c.utf8Size ≤ n + 1 then
      (splitAtByte? (n + 1 - c.utf8Size) text).map fun cut => (c :: cut.1, cut.2)
    else none

/-- The text between two byte positions, unless they are out of order, behind the end of the text or
inside of a character. -/
def slice? (text : List Char) (start stop : Nat) : Option (List Char) :=
  if start ≤ stop then
    (splitAtByte? start text).bind fun cut =>
      (splitAtByte? (stop - start) cut.2).map Prod.fst
  else none

lemma splitAtByte?_append (front back : List Char) :
    splitAtByte? (byteSize front) (front ++ back) = some (front, back) := by
  induction front with
  | nil =>
    rw [byteSize_nil, splitAtByte?]
    rfl
  | cons c front ih =>
    have hpos := c.utf8Size_pos
    obtain ⟨n, hn⟩ : ∃ n, byteSize (c :: front) = n + 1 :=
      Nat.exists_eq_add_of_le' (by rw [byteSize_cons]; omega)
    rw [hn, List.cons_append, splitAtByte?, ← hn, byteSize_cons, if_pos (Nat.le_add_right _ _),
      Nat.add_sub_cancel_left, ih]
    rfl

lemma slice?_append (front middle back : List Char) :
    slice? (front ++ (middle ++ back)) (byteSize front) (byteSize front + byteSize middle) =
      some middle := by
  rw [slice?, if_pos (Nat.le_add_right _ _), splitAtByte?_append, Option.bind_some,
    Nat.add_sub_cancel_left, splitAtByte?_append]
  rfl

lemma slice?_to_end (front back : List Char) :
    slice? (front ++ back) (byteSize front) (byteSize (front ++ back)) = some back := by
  simpa using slice?_append front back []

/-! ## The calls that are marked -/

/-- A call that is marked, among the lexemes of a script. -/
structure MarkedCall where
  /-- Where its name starts. -/
  start : Nat
  name : String
  /-- The place behind its parenthesis. -/
  behind : Nat
  /-- Whether the token behind the parenthesis is anything but the closing one. -/
  arguments : Bool

/-- Whether lexemes do not start with a closing parenthesis. -/
def hasArguments : List Lexeme → Bool
  | ⟨.symbol .closeParen, _, _⟩ :: _ => false
  | _ => true

/-- The call that a lexeme starts if it is marked: a word right in front of a parenthesis that names
a view function, behind a token that allows it. -/
def markedCall? (passes : String → Bool) (before : Option Token) :
    Lexeme → List Lexeme → Option MarkedCall
  | ⟨.word name, start, stop⟩, ⟨.symbol .openParen, paren, behind⟩ :: rest =>
    if paren = stop ∧ allowsCall before = true ∧ isViewName passes name = true then
      some ⟨start, name, behind, hasArguments rest⟩
    else none
  | _, _ => none

lemma markedCall?_eq_some {passes : String → Bool} {before : Option Token} {x : Lexeme}
    {rest : List Lexeme} {call : MarkedCall} (h : markedCall? passes before x rest = some call) :
    ∃ paren more, rest = paren :: more ∧ x.token = .word call.name ∧
      paren.token = .symbol .openParen ∧ paren.start = x.stop ∧ allowsCall before = true ∧
      isViewName passes call.name = true ∧
      call = ⟨x.start, call.name, paren.stop, hasArguments more⟩ := by
  unfold markedCall? at h
  split at h
  · split at h
    · rename_i hmarked
      obtain rfl := Option.some.inj h
      exact ⟨_, _, rfl, rfl, rfl, hmarked.1, hmarked.2.1, hmarked.2.2, rfl⟩
    · cases h
  · cases h

/-- The calls among lexemes that are marked. -/
def markedCalls (passes : String → Bool) : (before : Option Token) → List Lexeme → List MarkedCall
  | _, [] => []
  | before, x :: rest =>
    (markedCall? passes before x rest).toList ++ markedCalls passes (some x.token) rest

/-- The front of a call in the explicit form. -/
def explicitFront (name : String) (arguments : Bool) : List Char :=
  viewCallWord.toList ++ '(' :: '"' :: (name.toList ++ '"' :: if arguments then [',', ' '] else [])

/-- The blanks behind the parenthesis of a call that are left out. -/
def droppedBlanks (arguments : Bool) (behind : List Char) : List Char :=
  if arguments then behind.takeWhile Text.isBlank else []

/-- What is written from the text behind a parenthesis. -/
def keptBehind (arguments : Bool) (behind : List Char) : List Char :=
  if arguments then Text.trimStart behind else behind

lemma droppedBlanks_append_keptBehind (arguments : Bool) (behind : List Char) :
    droppedBlanks arguments behind ++ keptBehind arguments behind = behind := by
  cases arguments with
  | false => rfl
  | true => exact List.takeWhile_append_dropWhile

/-- A text that starts at a byte position of a script, and what is written for it: the names of
calls, their parentheses and the blanks that are left out are replaced by the fronts of calls in the
explicit form, and all else is copied. -/
inductive Replaced : (position : Nat) → List MarkedCall → (text written : List Char) → Prop
  | copy (position : Nat) (text : List Char) : Replaced position [] text text
  | call {position : Nat} {calls : List MarkedCall} {arguments : Bool} {written : List Char}
      (kept : List Char) (name : String) (behind : List Char)
      (h : Replaced (position + byteSize kept + byteSize name.toList + 1 +
        byteSize (droppedBlanks arguments behind)) calls (keptBehind arguments behind) written) :
      Replaced position
        (⟨position + byteSize kept, name, position + byteSize kept + byteSize name.toList + 1,
          arguments⟩ :: calls)
        (kept ++ (name.toList ++ '(' :: behind)) (kept ++ (explicitFront name arguments ++ written))

/-! ## Marked calls among pieces -/

/-- A piece that starts with a blank is blank, junk included. -/
lemma Piece.StandsBefore.all_isBlank {p : Piece} {after : List Char} (h : p.StandsBefore after)
    {c : Char} {rest : List Char} (htext : p.text = c :: rest) (hc : Text.isBlank c = true) :
    p.text.all Text.isBlank = true := by
  by_cases hkind : p.kind = .blank
  · exact List.all_eq_true.2 (h.isBlank_of_blank hkind)
  · have hspacing : isSpacing c = false :=
      h.stopsAt_isSpacing hkind [] c (by rw [htext]; rfl)
    obtain ⟨d, more, hmore, hnext⟩ := h
    obtain ⟨rfl, rfl⟩ := List.cons.inj (htext.symm.trans hmore)
    obtain ⟨e, none, hsingle, hjunk⟩ := standsBefore_wideBlank hc hspacing (rest ++ after)
    obtain ⟨rfl, rfl⟩ := List.cons.inj hsingle
    rw [List.nil_append, hnext] at hjunk
    rw [(Prod.mk.inj hjunk).1]
    simp [hc]

lemma le_start_of_mem_lexemesFrom {offset : Nat} {ps : List Piece} {x : Lexeme}
    (h : x ∈ lexemesFrom offset ps) : offset ≤ x.start := by
  induction ps generalizing offset with
  | nil => cases h
  | cons p rest ih =>
    have hlater : x ∈ lexemesFrom (offset + byteSize p.text) rest → offset ≤ x.start :=
      fun h => (Nat.le_add_right _ _).trans (ih h)
    cases hkind : p.kind with
    | token t =>
      rw [lexemesFrom_token hkind] at h
      obtain rfl | h := List.mem_cons.1 h
      · exact le_rfl
      · exact hlater h
    | blank | junk =>
      rw [lexemesFrom_skip (by simp [hkind])] at h
      exact hlater h

lemma exists_piece_of_start {offset : Nat} {ps : List Piece} (hcut : WellCut ps) {x : Lexeme}
    {xs : List Lexeme} (h : lexemesFrom offset ps = x :: xs) (hstart : x.start = offset) :
    ∃ p rest, ps = p :: rest ∧ p.kind = .token x.token ∧
      xs = lexemesFrom (offset + byteSize p.text) rest := by
  cases hcut with
  | nil => cases h
  | @cons p rest hp hrest =>
    refine ⟨p, rest, rfl, ?_⟩
    cases hkind : p.kind with
    | token t =>
      rw [lexemesFrom_token hkind] at h
      obtain ⟨rfl, rfl⟩ := List.cons.inj h
      exact ⟨rfl, rfl⟩
    | blank | junk =>
      rw [lexemesFrom_skip (by simp [hkind])] at h
      have hlater : offset + byteSize p.text ≤ x.start :=
        le_start_of_mem_lexemesFrom (h ▸ List.mem_cons_self)
      obtain ⟨c, more, htext, -⟩ := hp
      have hpos := c.utf8Size_pos
      rw [htext, byteSize_cons, hstart] at hlater
      omega

lemma callAhead?_openParen {paren : Piece} (hparen : paren.kind = .token (.symbol .openParen))
    (offset : Nat) (more : List Piece) :
    callAhead? (paren :: more) = some (hasArguments (lexemesFrom offset more)) := by
  rw [callAhead?, if_pos (by simp [Piece.isSymbol, hparen])]
  induction more generalizing offset with
  | nil => rfl
  | cons p rest ih =>
    cases hkind : p.kind with
    | token t =>
      rw [lexemesFrom_token hkind, List.findSome?_cons, Piece.token?, hkind]
      cases t with
      | symbol s => cases s <;> rfl
      | _ => rfl
    | blank | junk =>
      rw [lexemesFrom_skip (by simp [hkind]), List.findSome?_cons, Piece.token?, hkind]
      exact ih _

/-- A lexeme starts a call that is marked exactly if its piece does. -/
lemma markedCall?_lexemesFrom (passes : String → Bool) (before : Option Token) {p : Piece}
    {rest : List Piece} (hp : p.StandsBefore (textOf rest)) (hrest : WellCut rest) {t : Token}
    (hkind : p.kind = .token t) (offset : Nat) :
    markedCall? passes before ⟨t, offset, offset + byteSize p.text⟩
        (lexemesFrom (offset + byteSize p.text) rest) =
      (viewCall? passes before p rest).map fun call =>
        ⟨offset, call.1, offset + byteSize call.1.toList + 1, call.2⟩ := by
  cases hcall : viewCall? passes before p rest with
  | some call =>
    obtain ⟨name, arguments⟩ := call
    obtain ⟨hword, hallowed, hview, hahead, paren, more, rfl, hparen⟩ := viewCall?_eq_some hcall
    obtain rfl := PieceKind.token.inj (hkind.symm.trans hword)
    obtain _ | ⟨hstands, -⟩ := hrest
    -- the cursor goes behind the name and the parenthesis, which takes one byte
    have hsize : byteSize paren.text = 1 := by
      rw [hstands.shape.spelling_of_symbol hparen]
      rfl
    rw [callAhead?_openParen hparen (offset + byteSize p.text + byteSize paren.text)] at hahead
    rw [lexemesFrom_token hparen, markedCall?, if_pos ⟨rfl, hallowed, hview⟩,
      Option.some.inj hahead, hsize, hp.shape.text_of_word hword]
    rfl
  | none =>
    rw [Option.map_none]
    by_contra hsome
    obtain ⟨call, hcall'⟩ := Option.ne_none_iff_exists'.1 hsome
    obtain ⟨paren, xs, hxs, hword, hparen, hstart, hallowed, hview, -⟩ :=
      markedCall?_eq_some hcall'
    obtain ⟨q, more, rfl, hq, -⟩ := exists_piece_of_start hrest hxs hstart
    have hnot := viewCall?_eq_none_iff.1 hcall call.name (hkind.trans (congrArg _ hword))
      ⟨q, more, rfl, hq.trans (congrArg _ hparen)⟩
    rw [hallowed, hview] at hnot
    cases hnot

/-- The blanks that marking leaves out are those that trimming does. -/
lemma exists_behind_blanks {ps : List Piece} (hcut : WellCut ps) :
    ∃ qs, WellCut qs ∧ qs.length ≤ ps.length ∧ textOf qs = Text.trimStart (textOf ps) ∧
      (∀ passes before,
        markPieces passes .blanks before ps = markPieces passes .nothing before qs) ∧
      ∀ offset, lexemesFrom offset ps =
        lexemesFrom (offset + byteSize ((textOf ps).takeWhile Text.isBlank)) qs := by
  induction hcut with
  | nil => exact ⟨[], .nil, le_rfl, rfl, fun _ _ => by rw [markPieces, markPieces], fun _ => rfl⟩
  | @cons p rest hp hrest ih =>
    by_cases hblank : p.text.all Text.isBlank = true
    · obtain ⟨qs, hqs, hlength, htext, hmark, hlexemes⟩ := ih
      have hall := List.all_eq_true.1 hblank
      refine ⟨qs, hqs, hlength.trans (Nat.le_succ _), ?_, fun passes before => ?_, fun offset => ?_⟩
      · rw [htext, textOf_cons, Text.trimStart, Text.trimStart,
          List.dropWhile_append_of_pos hall]
      · rw [markPieces_blanks, if_pos hblank, hmark]
      · have hkind : ∀ t, p.kind ≠ .token t := by
          intro t ht
          rw [hp.not_all_isBlank ht] at hblank
          cases hblank
        rw [lexemesFrom_skip hkind, hlexemes, textOf_cons, List.takeWhile_append_of_pos hall,
          byteSize_append, Nat.add_assoc]
    · -- A piece that is not blank starts with a character that is not blank.
      obtain ⟨c, more, htext, -⟩ := id hp
      have hc : ¬Text.isBlank c = true := fun hc => hblank (hp.all_isBlank htext hc)
      have hfront : textOf (p :: rest) = c :: (more ++ textOf rest) := by
        rw [textOf_cons, htext, List.cons_append]
      refine ⟨p :: rest, .cons hp hrest, le_rfl, ?_, fun passes before => ?_, fun offset => ?_⟩
      · rw [hfront, Text.trimStart, List.dropWhile_cons_of_neg hc]
      · rw [markPieces_blanks, if_neg hblank]
      · rw [hfront, List.takeWhile_cons_of_neg hc, byteSize_nil, Nat.add_zero]

lemma textOf_viewCallFront_eq (name : String) (arguments : Bool) :
    textOf (viewCallFront name arguments) = explicitFront name arguments := by
  cases arguments with
  | false | true =>
    simp only [explicitFront, viewCallFront, textOf, symbolPiece, Symbol.spelling,
      List.flatMap_cons, List.flatMap_append, List.append_assoc]
    rfl

/-- The lexemes of a marked call are its name and its parenthesis. -/
lemma exists_marked {passes : String → Bool} {before : Option Token} {p : Piece} {rest : List Piece}
    (hp : p.StandsBefore (textOf rest)) (hrest : WellCut rest) {name : String} {arguments : Bool}
    (hcall : viewCall? passes before p rest = some (name, arguments)) (offset : Nat) :
    ∃ paren more, rest = paren :: more ∧ WellCut more ∧
      textOf (p :: rest) = name.toList ++ '(' :: textOf more ∧
      markedCalls passes before (lexemesFrom offset (p :: rest)) =
        ⟨offset, name, offset + byteSize name.toList + 1, arguments⟩ ::
          markedCalls passes (some (.symbol .openParen))
            (lexemesFrom (offset + byteSize name.toList + 1) more) := by
  obtain ⟨hword, -, -, -, paren, more, rfl, hparen⟩ := viewCall?_eq_some hcall
  have hname := hp.shape.text_of_word hword
  have hmarked := markedCall?_lexemesFrom passes before hp hrest hword offset
  obtain _ | ⟨hstands, hmore⟩ := hrest
  have hopen : paren.text = ['('] := hstands.shape.spelling_of_symbol hparen
  refine ⟨paren, more, rfl, hmore, ?_, ?_⟩
  · rw [textOf_cons, textOf_cons, hopen, hname]
    rfl
  · rw [lexemesFrom_token hword, markedCalls, hmarked, hcall, lexemesFrom_token hparen, hopen,
      hname]
    rfl

/-- What is written for pieces, with text that is copied in front of them. -/
lemma replaced_markPieces (passes : String → Bool) {ps : List Piece} (hcut : WellCut ps)
    (before : Option Token) (position : Nat) (kept : List Char) :
    Replaced position
      (markedCalls passes before (lexemesFrom (position + byteSize kept) ps)) (kept ++ textOf ps)
      (kept ++ textOf (markPieces passes .nothing before ps)) := by
  -- The induction is on the number of pieces: behind a call it goes on where the blanks end.
  induction hlength : ps.length using Nat.strong_induction_on
    generalizing ps before position kept with
  | _ n ih =>
    cases hcut with
    | nil =>
      rw [markPieces]
      exact .copy position _
    | @cons p rest hp hrest =>
      rw [markPieces_nothing]
      cases hcall : viewCall? passes before p rest with
      | none =>
        have hlater := ih rest.length (by simp [← hlength]) hrest (p.token?.or before) position
          (kept ++ p.text) rfl
        simp only [textOf_cons, List.append_assoc, byteSize_append, ← Nat.add_assoc] at hlater ⊢
        cases hkind : p.kind with
        | token t =>
          have hmarked := markedCall?_lexemesFrom passes before hp hrest hkind
            (position + byteSize kept)
          rw [hcall, Option.map_none] at hmarked
          rw [lexemesFrom_token hkind, markedCalls, hmarked]
          simpa [Piece.token?, hkind] using hlater
        | blank | junk =>
          rw [lexemesFrom_skip (by simp [hkind])]
          simpa [Piece.token?, hkind] using hlater
      | some call =>
        obtain ⟨name, arguments⟩ := call
        obtain ⟨paren, more, rfl, hmore, htext, hcalls⟩ :=
          exists_marked hp hrest hcall (position + byteSize kept)
        have hshorter : more.length < n := by
          simp only [List.length_cons] at hlength
          omega
        rw [hcalls, htext]
        dsimp only
        rw [textOf_append, textOf_viewCallFront_eq, markPieces]
        refine .call kept name (textOf more) ?_
        cases arguments with
        | false =>
          simpa [droppedBlanks, keptBehind] using ih more.length hshorter hmore
            (some (.symbol .openParen)) (position + byteSize kept + byteSize name.toList + 1) [] rfl
        | true =>
          obtain ⟨qs, hqs, hle, hbehind, hmark, hlexemes⟩ := exists_behind_blanks hmore
          rw [if_pos rfl, hmark, hlexemes]
          simpa [droppedBlanks, keptBehind, hbehind] using ih qs.length (hle.trans_lt hshorter) hqs
            (some (.symbol .openParen)) (position + byteSize kept + byteSize name.toList + 1 +
              byteSize ((textOf more).takeWhile Text.isBlank)) [] rfl

lemma replaced_markCalls (passes : String → Bool) (source : List Char) :
    Replaced 0 (markedCalls passes none (lexemes source)) source (markCalls passes source) := by
  have h := replaced_markPieces passes (wellCut_pieces source) none 0 []
  rwa [textOf_pieces] at h

/-! ## Copying with a cursor -/

/-- How far a script has been copied: the byte position up to which it has been dealt with, and what
has been written. -/
structure Copying where
  cursor : Nat := 0
  written : List Char := []

namespace Copying

/-- The byte position from which copying goes on behind a call, unless a slice is out of range. -/
def resume? (source : List Char) (call : MarkedCall) : Option Nat :=
  if call.arguments then
    (slice? source call.behind (byteSize source)).map fun rest =>
      call.behind + (byteSize rest - byteSize (Text.trimStart rest))
  else some call.behind

/-- Copy up to a call and write its front, unless a slice is out of range. -/
def write? (source : List Char) (s : Copying) (call : MarkedCall) : Option Copying := do
  let kept ← slice? source s.cursor call.start
  let cursor ← resume? source call
  some ⟨cursor, s.written ++ (kept ++ explicitFront call.name call.arguments)⟩

/-- Go over one lexeme. -/
def step? (passes : String → Bool) (source : List Char) (before : Option Token) (x : Lexeme)
    (rest : List Lexeme) (s : Copying) : Option Copying :=
  match markedCall? passes before x rest with
  | none => some s
  | some call => s.write? source call

/-- Go over lexemes. -/
def run? (passes : String → Bool) (source : List Char) :
    (before : Option Token) → List Lexeme → Copying → Option Copying
  | _, [], s => some s
  | before, x :: rest, s =>
    (s.step? passes source before x rest).bind (run? passes source (some x.token) rest)

/-- Copy what is left of a script. -/
def finish? (source : List Char) (s : Copying) : Option (List Char) :=
  (slice? source s.cursor (byteSize source)).map (s.written ++ ·)

/-- The states in front of lexemes that copying a script comes to, with the token before them. -/
inductive Visits (passes : String → Bool) (source : List Char) :
    (before : Option Token) → List Lexeme → Copying → Prop
  | start : Visits passes source none (lexemes source) {}
  | step {before : Option Token} {x : Lexeme} {rest : List Lexeme} {s next : Copying}
      (h : Visits passes source before (x :: rest) s)
      (hstep : s.step? passes source before x rest = some next) :
      Visits passes source (some x.token) rest next

end Copying

/-- Copy a script with its calls marked, unless a slice is out of range. -/
def copyCalls? (passes : String → Bool) (source : List Char) : Option (List Char) :=
  (Copying.run? passes source none (lexemes source) {}).bind (Copying.finish? source)

namespace Copying

variable {passes : String → Bool} {source output : List Char} {before : Option Token}
  {xs rest : List Lexeme} {x : Lexeme} {s : Copying}

/-- The cursor parts the script into what has been dealt with and what is left, and the output is
what has been written and what is written for the text that is left. -/
def Invariant (passes : String → Bool) (source output : List Char) (before : Option Token)
    (xs : List Lexeme) (s : Copying) : Prop :=
  ∃ front text written, source = front ++ text ∧ byteSize front = s.cursor ∧
    output = s.written ++ written ∧ Replaced s.cursor (markedCalls passes before xs) text written

lemma resume?_append (front behind : List Char) (start : Nat) (name : String) (arguments : Bool) :
    resume? (front ++ behind) ⟨start, name, byteSize front, arguments⟩ =
      some (byteSize front + byteSize (droppedBlanks arguments behind)) := by
  cases arguments with
  | false => rfl
  | true =>
    have hsize := congrArg byteSize (droppedBlanks_append_keptBehind true behind)
    rw [byteSize_append, keptBehind, if_pos rfl] at hsize
    rw [resume?, if_pos rfl, slice?_to_end, Option.map_some]
    dsimp only
    rw [← hsize, Nat.add_sub_cancel_right]

lemma write?_append (front written kept : List Char) (name : String) (behind : List Char)
    (arguments : Bool) :
    write? (front ++ (kept ++ (name.toList ++ '(' :: behind))) ⟨byteSize front, written⟩
        ⟨byteSize front + byteSize kept, name,
          byteSize front + byteSize kept + byteSize name.toList + 1, arguments⟩ =
      some ⟨byteSize front + byteSize kept + byteSize name.toList + 1 +
          byteSize (droppedBlanks arguments behind),
        written ++ (kept ++ explicitFront name arguments)⟩ := by
  have hresume := resume?_append (front ++ (kept ++ (name.toList ++ ['(']))) behind
    (byteSize front + byteSize kept) name arguments
  have hparen : byteSize ['('] = 1 := rfl
  simp only [byteSize_append, hparen, List.append_assoc, List.singleton_append, ← Nat.add_assoc]
    at hresume
  simp only [write?, slice?_append, hresume]
  rfl

/-- A call that is marked starts behind the cursor, and it can be written. -/
lemma Invariant.write (h : Invariant passes source output before (x :: rest) s) {call : MarkedCall}
    (hcall : markedCall? passes before x rest = some call) :
    s.cursor ≤ x.start ∧ IsBoundary source x.start ∧
      ∃ next, s.write? source call = some next ∧
        Invariant passes source output (some x.token) rest next := by
  obtain ⟨cursor, done⟩ := s
  obtain ⟨front, text, written, rfl, rfl, rfl, hreplaced⟩ := h
  have hstart : call.start = x.start := by
    obtain ⟨paren, more, -, -, -, -, -, -, hfields⟩ := markedCall?_eq_some hcall
    rw [hfields]
  rw [markedCalls, hcall, Option.toList_some, List.singleton_append] at hreplaced
  -- The call is the next to be replaced, so the text that is left shows where its name stands.
  cases hreplaced with
  | @call _ _ arguments written kept name behind hlater =>
    rw [← hstart]
    refine ⟨Nat.le_add_right _ _,
      ⟨front ++ kept, name.toList ++ '(' :: behind, by rw [List.append_assoc], byteSize_append ..⟩,
      _, write?_append front done kept name behind arguments,
      front ++ (kept ++ (name.toList ++ '(' :: droppedBlanks arguments behind)),
      keptBehind arguments behind, written, ?_, ?_, ?_, hlater⟩
    · simp [droppedBlanks_append_keptBehind]
    · have hparen : '('.utf8Size = 1 := rfl
      simp [byteSize_append, byteSize_cons, hparen, Nat.add_assoc]
    · simp

/-- Going over a lexeme does not fail, and the cursor keeps parting the script. -/
lemma Invariant.step (h : Invariant passes source output before (x :: rest) s) :
    ∃ next, s.step? passes source before x rest = some next ∧
      Invariant passes source output (some x.token) rest next := by
  rw [step?]
  cases hcall : markedCall? passes before x rest with
  | none =>
    obtain ⟨front, text, written, hsource, hcursor, houtput, hreplaced⟩ := h
    rw [markedCalls, hcall] at hreplaced
    exact ⟨s, rfl, front, text, written, hsource, hcursor, houtput, hreplaced⟩
  | some call => exact (h.write hcall).2.2

lemma Invariant.run (h : Invariant passes source output before xs s) :
    ∃ last, run? passes source before xs s = some last ∧
      ∃ t, Invariant passes source output t [] last := by
  induction xs generalizing before s with
  | nil => exact ⟨s, rfl, before, h⟩
  | cons x rest ih =>
    obtain ⟨next, hstep, hnext⟩ := h.step
    obtain ⟨last, hrun, hlast⟩ := ih hnext
    exact ⟨last, by rw [run?, hstep, Option.bind_some, hrun], hlast⟩

lemma Invariant.finish (h : Invariant passes source output before [] s) :
    s.finish? source = some output := by
  obtain ⟨cursor, done⟩ := s
  obtain ⟨front, text, written, rfl, rfl, rfl, hreplaced⟩ := h
  cases hreplaced
  rw [finish?, slice?_to_end, Option.map_some]

lemma invariant_start (passes : String → Bool) (source : List Char) :
    Invariant passes source (markCalls passes source) none (lexemes source) {} :=
  ⟨[], source, _, rfl, rfl, rfl, replaced_markCalls passes source⟩

lemma Visits.invariant (h : Visits passes source before xs s) :
    Invariant passes source (markCalls passes source) before xs s := by
  induction h with
  | start => exact invariant_start passes source
  | step _ hstep ih =>
    obtain ⟨next, hnext, hinvariant⟩ := ih.step
    obtain rfl := Option.some.inj (hstep.symm.trans hnext)
    exact hinvariant

end Copying

/-- **No slice is out of range.**  Wherever copying comes to, the cursor is at a character of the
script or at its end, and at a call that is marked it is not behind the start of the name.  What
copying writes is what marking writes: the script with the fronts of the marked calls replaced, and
all else unchanged and in order. -/
theorem markCalls_copies (passes : String → Bool) (source : List Char) :
    (∀ before xs s, Copying.Visits passes source before xs s →
      IsBoundary source s.cursor ∧
        ∀ x rest call, xs = x :: rest → markedCall? passes before x rest = some call →
          s.cursor ≤ x.start ∧ IsBoundary source x.start) ∧
      copyCalls? passes source = some (markCalls passes source) ∧
      Replaced 0 (markedCalls passes none (lexemes source)) source (markCalls passes source) := by
  refine ⟨fun before xs s hvisits => ⟨?_, ?_⟩, ?_, replaced_markCalls passes source⟩
  · obtain ⟨front, text, written, hsource, hcursor, -, -⟩ := hvisits.invariant
    exact ⟨front, text, hsource, hcursor⟩
  · rintro x rest call rfl hcall
    obtain ⟨hle, hboundary, -⟩ := hvisits.invariant.write hcall
    exact ⟨hle, hboundary⟩
  · obtain ⟨last, hrun, token, hlast⟩ := (Copying.invariant_start passes source).run
    rw [copyCalls?, hrun, Option.bind_some, hlast.finish]

/-- Behind the parenthesis of `f` stands a blank that parts no tokens.  The cursor skips it and
stops right at the next name. -/
theorem markCalls_copies_wide_blank :
    Copying.Visits (· == "trim") "f(\u00a0g('é'))".toList (some (.symbol .openParen))
        [⟨.word "g", 4, 5⟩, ⟨.symbol .openParen, 5, 6⟩, ⟨.text "é", 6, 10⟩,
          ⟨.symbol .closeParen, 10, 11⟩, ⟨.symbol .closeParen, 11, 12⟩]
        ⟨4, "__view_fn(\"f\", ".toList⟩ ∧
      IsBoundary "f(\u00a0g('é'))".toList 4 ∧
      copyCalls? (· == "trim") "f(\u00a0g('é'))".toList =
        some "__view_fn(\"f\", __view_fn(\"g\", 'é'))".toList := by
  have hlexemes : lexemes "f(\u00a0g('é'))".toList =
      [⟨.word "f", 0, 1⟩, ⟨.symbol .openParen, 1, 2⟩, ⟨.word "g", 4, 5⟩,
        ⟨.symbol .openParen, 5, 6⟩, ⟨.text "é", 6, 10⟩, ⟨.symbol .closeParen, 10, 11⟩,
        ⟨.symbol .closeParen, 11, 12⟩] := by
    decide +kernel
  have hmarked : markCalls (· == "trim") "f(\u00a0g('é'))".toList =
      "__view_fn(\"f\", __view_fn(\"g\", 'é'))".toList := by
    decide +kernel
  have hstart : Copying.Visits (· == "trim") "f(\u00a0g('é'))".toList none
      (lexemes "f(\u00a0g('é'))".toList) {} := .start
  rw [hlexemes] at hstart
  have hname := hstart.step
    (show _ = some ⟨4, "__view_fn(\"f\", ".toList⟩ by rfl)
  have hparen := hname.step rfl
  obtain ⟨hstates, hcopied, -⟩ := markCalls_copies (· == "trim") "f(\u00a0g('é'))".toList
  exact ⟨hparen, ((hstates _ _ _ hparen).2 _ _ _ rfl (by rfl)).2, hmarked ▸ hcopied⟩

end ViewTemplate.Script
