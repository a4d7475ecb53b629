import ViewTemplate.Decimal.Reading
import ViewTemplate.Settings.Basic
import ViewTemplate.Text.Search

/-!
# Settings files

A settings file is TOML with tables, texts in double quotes, integers, booleans and comments.  It is
read line by line into the changes it makes.  No table and no value may be given twice.
-/

namespace ViewTemplate.Toml

/-- The blanks inside of a line. -/
def isSpace (c : Char) : Bool :=
  c == ' ' || c == '\t'

/-- The text behind blanks. -/
def skipSpaces (text : List Char) : List Char :=
  text.dropWhile isSpace

/-- Whether nothing but blanks and a comment is left of a line.  Comments hold no control
characters other than tabs. -/
def isLineEnd (text : List Char) : Bool :=
  match skipSpaces text with
  | [] => true
  | '#' :: comment => comment.all fun c => c == '\t' || (0x20 ≤ c.toNat && c.toNat != 0x7f)
  | _ => false

/-- The value of a digit to the base sixteen. -/
def hexDigit? (c : Char) : Option Nat :=
  if '0' ≤ c ∧ c ≤ '9' then some (c.toNat - '0'.toNat)
  else if 'a' ≤ c ∧ c ≤ 'f' then some (c.toNat - 'a'.toNat + 10)
  else if 'A' ≤ c ∧ c ≤ 'F' then some (c.toNat - 'A'.toNat + 10)
  else none

/-- The character whose number is written with digits to the base sixteen. -/
def charOfHex? (digits : List Char) : Option Char := do
  let values ← digits.mapM hexDigit?
  let n := values.foldl (fun n d => 16 * n + d) 0
  if n.isValidChar then some (Char.ofNat n) else none

/-- The character a letter stands for behind a backslash. -/
def escape? : Char → Option Char
  | 'b' => some '\x08'
  | 't' => some '\t'
  | 'n' => some '\n'
  | 'f' => some '\x0c'
  | 'r' => some '\r'
  | '"' => some '"'
  | '\\' => some '\\'
  | _ => none

/-- The rest of a text in double quotes, and what follows it.  `fuel` bounds the characters read. -/
def string? : (fuel : Nat) → List Char → Option (List Char × List Char)
  | 0, _ => none
  | _ + 1, [] => none
  | _ + 1, '"' :: rest => some ([], rest)
  | fuel + 1, '\\' :: 'u' :: rest => do
    if rest.length < 4 then none
    else
      let c ← charOfHex? (rest.take 4)
      let (text, rest) ← string? fuel (rest.drop 4)
      some (c :: text, rest)
  | fuel + 1, '\\' :: 'U' :: rest => do
    if rest.length < 8 then none
    else
      let c ← charOfHex? (rest.take 8)
      let (text, rest) ← string? fuel (rest.drop 8)
      some (c :: text, rest)
  | fuel + 1, '\\' :: e :: rest => do
    let c ← escape? e
    let (text, rest) ← string? fuel rest
    some (c :: text, rest)
  | fuel + 1, c :: rest =>
    if (c.toNat < 0x20 && c != '\t') || c.toNat == 0x7f || c == '\\' then none
    else do
      let (text, rest) ← string? fuel rest
      some (c :: text, rest)

/-- A text in double quotes at the front, and what follows it. -/
def quoted? : List Char → Option (String × List Char)
  | '"' :: rest => do
    let (text, rest) ← string? (rest.length + 1) rest
    some (String.ofList text, rest)
  | _ => none

/-- One name of a path at the front, and what follows it. -/
def name? (text : List Char) : Option (String × List Char) :=
  match text with
  | '"' :: _ => quoted? text
  | _ =>
    let name := text.takeWhile Settings.isKeyChar
    if name.isEmpty then none else some (String.ofList name, text.dropWhile Settings.isKeyChar)

/-- A path of names with dots between them at the front, and what follows it. -/
def path? : (fuel : Nat) → List Char → Option (SettingPath × List Char)
  | 0, _ => none
  | fuel + 1, text => do
    let (name, rest) ← name? (skipSpaces text)
    match skipSpaces rest with
    | '.' :: rest =>
      let (names, rest) ← path? fuel rest
      some (name :: names, rest)
    | rest => some ([name], rest)

/-- Whether underscores stand only between digits. -/
def underscoresFit (digits : List Char) : Bool :=
  digits.head? != some '_' && digits.getLast? != some '_' && !Text.hasMarker ['_', '_'] digits

/-- An integer of 64 bits.  It has no zeros in front, and underscores may stand between its
digits. -/
def integer? (text : List Char) : Option Int :=
  let digits := match text with
    | '+' :: digits => digits
    | '-' :: digits => digits
    | digits => digits
  if digits.isEmpty || !digits.all (fun c => c.isDigit || c == '_') || !underscoresFit digits then
    none
  else if digits.head? == some '0' && digits.length ≠ 1 then none
  else Decimal.readInt64? (text.filter (· != '_'))

/-- The value at the front, and what follows it. -/
def value? (text : List Char) : Option (Setting × List Char) :=
  match text with
  | '"' :: _ => (quoted? text).map fun (s, rest) => (.text s, rest)
  | _ =>
    let isPart (c : Char) := c.isAlphanum || c == '_' || c == '+' || c == '-' || c == '.'
    let word := text.takeWhile isPart
    let rest := text.dropWhile isPart
    if word = "true".toList then some (.bool true, rest)
    else if word = "false".toList then some (.bool false, rest)
    else (integer? word).map fun n => (.int n, rest)

/-- What has been read of a file. -/
structure Reading where
  /-- The table that values go into. -/
  table : SettingPath := []
  /-- The tables with a line of their own. -/
  tables : List SettingPath := []
  values : List SettingPath := []
  /-- The changes, the last one first. -/
  changes : List SettingChange := []

namespace Reading

/-- Open a table.  It may not have been opened before, and no value may stand on the way to it. -/
def openTable? (r : Reading) (path : SettingPath) : Option Reading :=
  if r.tables.contains path || r.values.any fun p => p.isPrefixOf path then none
  else some { r with
    table := path, tables := path :: r.tables, changes := .table path :: r.changes }

/-- Give a value a name in the table that is open.  Nothing may stand there yet. -/
def addValue? (r : Reading) (names : SettingPath) (v : Setting) : Option Reading :=
  let path := r.table ++ names
  let isTaken := r.values.any fun p => p.isPrefixOf path || path.isPrefixOf p
  let isTable := r.tables.any fun p => path.isPrefixOf p
  if isTaken || isTable then none
  else some { r with values := path :: r.values, changes := .value path v :: r.changes }

/-- Read one line. -/
def line? (r : Reading) (line : List Char) : Option Reading :=
  if isLineEnd line then some r
  else
    match skipSpaces line with
    | '[' :: rest => do
      let (path, rest) ← path? (rest.length + 1) rest
      match rest with
      | ']' :: rest => if isLineEnd rest then r.openTable? path else none
      | _ => none
    | text => do
      let (names, rest) ← path? (text.length + 1) text
      match rest with
      | '=' :: rest =>
        let (v, rest) ← value? (skipSpaces rest)
        if isLineEnd rest then r.addValue? names v else none
      | _ => none

end Reading

/-- The text behind a byte order mark, if there is one. -/
def skipOrderMark : List Char → List Char
  | '\ufeff' :: text => text
  | text => text

/-- The changes that a settings file makes, if it is one. -/
def changes? (source : String) : Option (List SettingChange) := do
  let lines := (Text.splitAt '\n' (skipOrderMark source.toList)).map Text.dropCarriageReturn
  let r ← lines.foldlM Reading.line? ({} : Reading)
  some r.changes.reverse

end ViewTemplate.Toml
