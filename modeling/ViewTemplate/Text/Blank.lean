/-!
# Blank characters and trimming

A character is blank when it separates words or lines in any script: the ASCII blanks, the next-line
control, the no-break space and the space separators up to the ideographic one.  `trim` removes the
blanks at both ends of a text, and `trimStart` those at its front only.
-/

namespace ViewTemplate.Text

/-- The characters that count as white space: tab to carriage return, space, next line and the
line, paragraph and space separators. -/
def isBlank (c : Char) : Bool :=
  let n := c.toNat
  (9 ≤ n && n ≤ 13) || n == 0x20 || n == 0x85 || n == 0xA0 || n == 0x1680 ||
    (0x2000 ≤ n && n ≤ 0x200A) || n == 0x2028 || n == 0x2029 || n == 0x202F || n == 0x205F ||
    n == 0x3000

/-- The text without the blanks at its front. -/
def trimStart (text : List Char) : List Char :=
  text.dropWhile isBlank

/-- The text without the blanks at its end. -/
def trimEnd (text : List Char) : List Char :=
  (text.reverse.dropWhile isBlank).reverse

/-- The text without the blanks at either end. -/
def trim (text : List Char) : List Char :=
  trimEnd (trimStart text)

/-- `trim` on strings. -/
def trimString (text : String) : String :=
  String.ofList (trim text.toList)

@[simp] theorem trimStart_nil : trimStart [] = [] := rfl

@[simp] theorem trim_nil : trim [] = [] := rfl

end ViewTemplate.Text
