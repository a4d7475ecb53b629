import ViewTemplate.Text.CaseTable

/-!
# Upper and lower case

Changing case maps each character to one or more characters.  Only the capital sigma looks at its
neighbours: its lower case has a form of its own at the end of a word.
-/

namespace ViewTemplate.Text

/-- The upper case of a character. -/
def upperChars (c : Char) : List Char :=
  let n := c.toNat
  if n < 0x80 then [c.toUpper]
  else
    match longUppers.find? (·.1 == n) with
    | some (_, image) => image.map Char.ofNat
    | none =>
      match upperRuns.findSome? (·.image? n) with
      | some m => [Char.ofNat m]
      | none => [c]

/-- The lower case of a character that stands alone. -/
def lowerChars (c : Char) : List Char :=
  let n := c.toNat
  if n < 0x80 then [c.toLower]
  -- The dotted capital I keeps its dot as a combining mark.
  else if n = 0x130 then ['i', Char.ofNat 0x307]
  else
    match lowerRuns.findSome? (·.image? n) with
    | some m => [Char.ofNat m]
    | none => [c]

/-- Whether the first character of a text that is not passed over is a cased one. -/
def meetsCased (text : List Char) : Bool :=
  match text.dropWhile caseIgnorable.contains with
  | c :: _ => cased.contains c
  | [] => false

/-- The lower case of a text, `before` being the characters already read, the last one first.  A
capital sigma that ends a word takes its final form. -/
def lowerFrom (before : List Char) : List Char → List Char
  | [] => []
  | c :: rest =>
    let image :=
      if c.toNat = 0x3A3 then
        if meetsCased before && !meetsCased rest then [Char.ofNat 0x3C2] else [Char.ofNat 0x3C3]
      else lowerChars c
    image ++ lowerFrom (c :: before) rest

def upperCase (text : String) : String :=
  String.ofList (text.toList.flatMap upperChars)

def lowerCase (text : String) : String :=
  String.ofList (lowerFrom [] text.toList)

/-- The text with its first character in upper case. -/
def capitalize (text : String) : String :=
  match text.toList with
  | [] => ""
  | c :: rest => String.ofList (upperChars c ++ rest)

end ViewTemplate.Text
