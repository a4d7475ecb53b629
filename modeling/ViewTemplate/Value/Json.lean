import ViewTemplate.Value.Basic
import ViewTemplate.Decimal.Layout
import ViewTemplate.Text.Quoted

/-!
# The JSON text of a value

Values are written without blanks, names in their order, and strings with only those characters
escaped that must be.
-/

namespace ViewTemplate

open ViewTemplate.Decimal (intText dataLayout)
open ViewTemplate.Text (hexDigits)

def Number.json : Number → String
  | .int n => intText n
  | .float x => dataLayout.text x

namespace Value

/-- One character inside a JSON string.  Controls without an escape of their own are written with
four digits in base sixteen. -/
def jsonChar (c : Char) : List Char :=
  if c = '"' then ['\\', '"']
  else if c = '\\' then ['\\', '\\']
  else if c = '\n' then ['\\', 'n']
  else if c = '\r' then ['\\', 'r']
  else if c = '\t' then ['\\', 't']
  else if c.toNat = 8 then ['\\', 'b']
  else if c.toNat = 12 then ['\\', 'f']
  else if c.toNat < 0x20 then
    let digits := hexDigits c.toNat
    ['\\', 'u'] ++ List.replicate (4 - digits.length) '0' ++ digits
  else [c]

/-- A string as a JSON string. -/
def jsonString (s : String) : List Char :=
  '"' :: s.toList.flatMap jsonChar ++ ['"']

mutual

/-- The characters of a value's JSON text. -/
def jsonChars : Value → List Char
  | null => "null".toList
  | bool true => "true".toList
  | bool false => "false".toList
  | number n => n.json.toList
  | text s => jsonString s
  | list [] => ['[', ']']
  | list (x :: xs) => '[' :: x.jsonChars ++ jsonItems xs
  | map [] => ['\x7b', '\x7d']
  | map ((name, x) :: rest) => '\x7b' :: jsonString name ++ ':' :: x.jsonChars ++ jsonEntries rest
termination_by structural v => v

/-- The items after the first one, each behind a comma, and the closing bracket. -/
def jsonItems : List Value → List Char
  | [] => [']']
  | x :: xs => ',' :: x.jsonChars ++ jsonItems xs
termination_by structural xs => xs

/-- The entries after the first one, each behind a comma, and the closing brace. -/
def jsonEntries : List (String × Value) → List Char
  | [] => ['\x7d']
  | (name, x) :: rest => ',' :: jsonString name ++ ':' :: x.jsonChars ++ jsonEntries rest
termination_by structural xs => xs

end

def json (v : Value) : String :=
  String.ofList v.jsonChars

end Value

end ViewTemplate
