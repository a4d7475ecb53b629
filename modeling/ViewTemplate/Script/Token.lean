import ViewTemplate.Script.Symbol
import ViewTemplate.Decimal.Reading

/-!
# Tokens of the script language

A script is cut into pieces: tokens, the blanks between them, and junk, which is text that starts no
token.  The cut loses nothing (`nextPiece_append`, `textOf_pieces`), so the tokens can be read
strictly, where junk is an error, or leniently, where it is passed over, and a text can be edited
piece by piece.
-/

namespace ViewTemplate.Script

/-- A token of the script language. -/
inductive Token where
  /-- A variable, without its dollar sign. -/
  | var (name : String)
  /-- A word: a keyword, a literal name or a function name. -/
  | word (name : String)
  | integer (n : Nat)
  | float (x : Float)
  /-- A quoted text with its escapes resolved. -/
  | text (s : String)
  | symbol (s : Symbol)
  deriving DecidableEq

/-- What a piece of a script is. -/
inductive PieceKind where
  | token (t : Token)
  | blank
  | junk
  deriving DecidableEq

/-- A piece of a script with the text it covers. -/
structure Piece where
  kind : PieceKind
  text : List Char
  deriving DecidableEq

/-- The token of a piece, if it is one. -/
def Piece.token? (p : Piece) : Option Token :=
  match p.kind with
  | .token t => some t
  | _ => none

/-- Whether a piece is the given symbol. -/
def Piece.isSymbol (p : Piece) (s : Symbol) : Bool :=
  match p.kind with
  | .token (.symbol t) => t = s
  | _ => false

/-! ## The shapes of tokens -/

/-- The blanks between tokens. -/
def isSpacing (c : Char) : Bool :=
  c == ' ' || c == '\t' || c == '\r' || c == '\n' || c.toNat == 12

/-- The characters a word may start with. -/
def isWordStart (c : Char) : Bool :=
  c.isAlpha || c == '_'

/-- The characters that may go on a word. -/
def isWordPart (c : Char) : Bool :=
  c.isAlphanum || c == '_'

/-- The text a string literal stands for.  A backslash before any other character than those named
here stands for itself. -/
def unescape : List Char → List Char
  | [] => []
  | '\\' :: 'n' :: rest => '\n' :: unescape rest
  | '\\' :: 't' :: rest => '\t' :: unescape rest
  | '\\' :: 'r' :: rest => '\r' :: unescape rest
  | '\\' :: '0' :: rest => Char.ofNat 0 :: unescape rest
  | '\\' :: '\\' :: rest => '\\' :: unescape rest
  | '\\' :: '"' :: rest => '"' :: unescape rest
  | '\\' :: '\'' :: rest => '\'' :: unescape rest
  | '\\' :: '$' :: rest => '$' :: unescape rest
  | c :: rest => c :: unescape rest

/-- How the scan of a string literal ends. -/
inductive StringEnd where
  | closed
  /-- A backslash stands before a newline, which no escape allows. -/
  | broken
  /-- The text ends first. -/
  | missing
  deriving Repr, DecidableEq

/-- Scan a string literal behind its opening quote: the characters up to the closing quote, how the
scan ends, and what follows the literal. -/
def scanString (quote : Char) : List Char → List Char × StringEnd × List Char
  | [] => ([], .missing, [])
  | '\\' :: '\n' :: rest => (['\\'], .broken, '\n' :: rest)
  | '\\' :: c :: rest =>
    let (body, ending, after) := scanString quote rest
    ('\\' :: c :: body, ending, after)
  | c :: rest =>
    if c = quote then ([], .closed, rest)
    else
      let (body, ending, after) := scanString quote rest
      (c :: body, ending, after)

/-- The piece of a string literal that starts with `quote`. -/
def stringPiece (quote : Char) (rest : List Char) : Piece × List Char :=
  let (body, ending, after) := scanString quote rest
  if ending = .closed then
    (⟨.token (.text (String.ofList (unescape body))), quote :: body ++ [quote]⟩, after)
  else (⟨.junk, quote :: body⟩, after)

/-- The piece of a run of digits: an integer if it fits 64 bits. -/
def integerPiece (digits : List Char) : Piece :=
  let n := Decimal.digitsValue digits
  ⟨if n < 0x8000000000000000 then .token (.integer n) else .junk, digits⟩

/-- The piece of digits on both sides of a point. -/
def floatPiece (whole fraction : List Char) : Piece :=
  let x := Decimal.decimalFloat (Decimal.digitsValue (whole ++ fraction)) (-fraction.length)
  ⟨.token (.float x), whole ++ '.' :: fraction⟩

/-- The piece of a run of digits: a float if a point and more digits follow, otherwise an
integer. -/
def numberPiece (digits rest : List Char) : Piece × List Char :=
  match rest with
  | '.' :: d :: more =>
    if d.isDigit then
      (floatPiece digits (d :: more.takeWhile Char.isDigit), more.dropWhile Char.isDigit)
    else (integerPiece digits, rest)
  | _ => (integerPiece digits, rest)

/-- The piece of a dollar sign: a variable if a word follows. -/
def dollarPiece (rest : List Char) : Piece × List Char :=
  match rest with
  | [] => (⟨.junk, ['$']⟩, [])
  | c :: more =>
    if isWordStart c then
      let name := c :: more.takeWhile isWordPart
      (⟨.token (.var (String.ofList name)), '$' :: name⟩, more.dropWhile isWordPart)
    else (⟨.junk, ['$']⟩, rest)

/-- The piece at the front of a text that starts with `c`: the longest token, a run of blanks, or
the longest text that could still have become a token. -/
def nextPiece (c : Char) (rest : List Char) : Piece × List Char :=
  if isSpacing c then
    (⟨.blank, c :: rest.takeWhile isSpacing⟩, rest.dropWhile isSpacing)
  else if isWordStart c then
    let name := c :: rest.takeWhile isWordPart
    (⟨.token (.word (String.ofList name)), name⟩, rest.dropWhile isWordPart)
  else if c = '$' then dollarPiece rest
  else if c.isDigit then
    numberPiece (c :: rest.takeWhile Char.isDigit) (rest.dropWhile Char.isDigit)
  else if c = '"' ∨ c = '\'' then stringPiece c rest
  else
    match Symbol.split? (c :: rest) with
    | some (s, after) => (⟨.token (.symbol s), s.spelling⟩, after)
    | none => (⟨.junk, [c]⟩, rest)

/-! ## The cut loses nothing -/

/-- A string literal, closed or not, and what follows it are the whole text. -/
theorem scanString_append (quote : Char) (text : List Char) :
    (scanString quote text).1 ++
      (if (scanString quote text).2.1 = .closed then [quote] else []) ++
      (scanString quote text).2.2 = text := by
  fun_induction scanString quote text <;> simp_all

theorem stringPiece_append (quote : Char) (rest : List Char) :
    (stringPiece quote rest).1.text ++ (stringPiece quote rest).2 = quote :: rest := by
  have h := scanString_append quote rest
  by_cases hc : (scanString quote rest).2.1 = .closed <;> simp_all [stringPiece]

theorem numberPiece_append (digits rest : List Char) :
    (numberPiece digits rest).1.text ++ (numberPiece digits rest).2 = digits ++ rest := by
  unfold numberPiece
  split
  · split <;> simp [floatPiece, integerPiece, List.takeWhile_append_dropWhile]
  · rfl

theorem dollarPiece_append (rest : List Char) :
    (dollarPiece rest).1.text ++ (dollarPiece rest).2 = '$' :: rest := by
  cases rest with
  | nil => rfl
  | cons c more =>
    by_cases h : isWordStart c <;> simp [dollarPiece, h, List.takeWhile_append_dropWhile]

/-- A piece and what follows it are the whole text. -/
theorem nextPiece_append (c : Char) (rest : List Char) :
    (nextPiece c rest).1.text ++ (nextPiece c rest).2 = c :: rest := by
  unfold nextPiece
  split
  · simp [List.takeWhile_append_dropWhile]
  split
  · simp [List.takeWhile_append_dropWhile]
  split
  · rename_i h
    rw [dollarPiece_append, h]
  split
  · rw [numberPiece_append, List.cons_append, List.takeWhile_append_dropWhile]
  split
  · exact stringPiece_append c rest
  split
  · rename_i s after hs
    exact (Symbol.split?_eq_some hs).symm
  · rfl

/-- A piece covers at least one character. -/
theorem nextPiece_text_ne_nil (c : Char) (rest : List Char) : (nextPiece c rest).1.text ≠ [] := by
  unfold nextPiece
  split
  · simp
  split
  · simp
  split
  · cases rest with
    | nil => simp [dollarPiece]
    | cons d more => by_cases h : isWordStart d <;> simp [dollarPiece, h]
  split
  · unfold numberPiece
    split
    · split <;> simp [floatPiece, integerPiece]
    · simp [integerPiece]
  split
  · unfold stringPiece
    dsimp only
    split <;> simp
  split
  · rename_i s after hs
    cases s <;> simp [Symbol.spelling]
  · simp

/-- What follows a piece is shorter than the text. -/
theorem nextPiece_rest_length (c : Char) (rest : List Char) :
    (nextPiece c rest).2.length < (c :: rest).length := by
  have h := congrArg List.length (nextPiece_append c rest)
  have hpos := List.length_pos_iff.2 (nextPiece_text_ne_nil c rest)
  rw [List.length_append] at h
  omega

/-- A script cut into pieces. -/
def pieces : List Char → List Piece
  | [] => []
  | c :: rest =>
    (nextPiece c rest).1 :: pieces (nextPiece c rest).2
termination_by text => text.length
decreasing_by exact nextPiece_rest_length c rest

/-- The text that pieces cover. -/
def textOf (ps : List Piece) : List Char :=
  ps.flatMap (·.text)

@[simp] theorem textOf_nil : textOf [] = [] := rfl

@[simp] theorem textOf_cons (p : Piece) (ps : List Piece) :
    textOf (p :: ps) = p.text ++ textOf ps := rfl

/-- The pieces in order are the whole script. -/
theorem textOf_pieces (text : List Char) : textOf (pieces text) = text := by
  fun_induction pieces text with
  | case1 => rfl
  | case2 c rest ih => rw [textOf_cons, ih, nextPiece_append]

end ViewTemplate.Script
