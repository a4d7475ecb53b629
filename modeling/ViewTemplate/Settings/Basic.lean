import ViewTemplate.Decimal.Layout
import ViewTemplate.Decimal.Reading
import ViewTemplate.Text.Case
import ViewTemplate.Text.Lines
import ViewTemplate.View.Delimiters

/-!
# Settings

Settings are plain values under paths of names.  They are put together in layers: every layer
changes what the layers before it said, and the first layer says everything.  `Configuration` is
what the program reads from them.
-/

namespace ViewTemplate

/-- A value of a setting. -/
inductive Setting where
  | text (s : String)
  | int (n : Int)
  | bool (b : Bool)
  deriving Repr, DecidableEq

/-- Where a setting stands: the names of the tables around it, and its own. -/
abbrev SettingPath := List String

/-- One thing a layer says. -/
inductive SettingChange where
  /-- There is a table at a path. -/
  | table (path : SettingPath)
  | value (path : SettingPath) (v : Setting)
  deriving Repr, DecidableEq

/-- Values under paths. -/
abbrev Settings := List (SettingPath × Setting)

namespace Settings

/-- The settings after a change.  A value takes the place of a whole table, and a table that of a
value. -/
def change (s : Settings) : SettingChange → Settings
  | .table path => s.filter fun (p, _) => !p.isPrefixOf path
  | .value path v =>
    (s.filter fun (p, _) => !(p.isPrefixOf path || path.isPrefixOf p)) ++ [(path, v)]

/-- The settings after a layer. -/
def changeAll (s : Settings) (layer : List SettingChange) : Settings :=
  layer.foldl change s

def find? (s : Settings) (path : SettingPath) : Option Setting :=
  s.lookup path

end Settings

namespace Setting

/-- A setting as text. -/
def toText : Setting → String
  | text s => s
  | int n => Decimal.intText n
  | bool true => "true"
  | bool false => "false"

/-- A setting as a count that fits 64 bits. -/
def toCount? : Setting → Option Nat
  | int n => if 0 ≤ n then some n.toNat else none
  | bool true => some 1
  | bool false => some 0
  | text s =>
    let lower := Text.lowerCase s
    if lower = "true" ∨ lower = "on" ∨ lower = "yes" then some 1
    else if lower = "false" ∨ lower = "off" ∨ lower = "no" then some 0
    else Decimal.readIndex? s.toList

/-- A setting as a choice between yes and no. -/
def toBool? : Setting → Option Bool
  | bool b => some b
  | int n => some (n != 0)
  | text s =>
    let lower := Text.lowerCase s
    if lower = "1" ∨ lower = "true" ∨ lower = "on" ∨ lower = "yes" then some true
    else if lower = "0" ∨ lower = "false" ∨ lower = "off" ∨ lower = "no" then some false
    else none

end Setting

/-- What the program reads from its settings. -/
structure Configuration where
  delimiters : Delimiters
  maxDepth : Nat
  cacheEnabled : Bool
  /-- How many seconds compiled output is kept; zero means without end. -/
  cacheSeconds : Nat
  deriving Repr, DecidableEq

/-- How long compiled output is kept, if not without end. -/
def Configuration.lifetime (c : Configuration) : Option Nat :=
  if c.cacheSeconds = 0 then none else some c.cacheSeconds

/-- The table of the delimiters of a kind. -/
def delimiterTable : DelimiterKind → SettingPath
  | .sanitized => ["delimiters", "sanitized_tag"]
  | .unsanitized => ["delimiters", "unsanitized_tag"]
  | .directive => ["delimiters", "directive"]
  | .comment => ["delimiters", "comment"]

namespace Settings

/-- The settings that hold when no layer says otherwise. -/
def defaults : Settings :=
  (DelimiterKind.all.flatMap fun kind =>
    let pair := ({} : Delimiters).get kind
    [(delimiterTable kind ++ ["open"], Setting.text pair.opening),
      (delimiterTable kind ++ ["close"], Setting.text pair.closing)]) ++
  [(["inheritance", "max_depth"], .int 32),
    (["cache", "enabled"], .bool true),
    (["cache", "ttl_seconds"], .int 0)]

/-- The pair of delimiters of a kind. -/
def pair? (s : Settings) (kind : DelimiterKind) : Option DelimiterPair := do
  let opening ← s.find? (delimiterTable kind ++ ["open"])
  let closing ← s.find? (delimiterTable kind ++ ["close"])
  some ⟨opening.toText, closing.toText⟩

/-- The configuration that settings describe, if every part of it is there and of its kind. -/
def configuration? (s : Settings) : Option Configuration := do
  let sanitized ← s.pair? .sanitized
  let unsanitized ← s.pair? .unsanitized
  let directive ← s.pair? .directive
  let comment ← s.pair? .comment
  let maxDepth ← (← s.find? ["inheritance", "max_depth"]).toCount?
  let cacheEnabled ← (← s.find? ["cache", "enabled"]).toBool?
  let cacheSeconds ← (← s.find? ["cache", "ttl_seconds"]).toCount?
  some ⟨⟨sanitized, unsanitized, directive, comment⟩, maxDepth, cacheEnabled, cacheSeconds⟩

/-- Whether a character may stand in a name of a setting. -/
def isKeyChar (c : Char) : Bool :=
  c.isAlphanum || c == '_' || c == '-'

/-- A path written with dots, if every name in it is one. -/
def path? (key : String) : Option SettingPath :=
  let names := Text.splitAt '.' key.toList
  if names.all fun name => !name.isEmpty && name.all isKeyChar then
    some (names.map String.ofList)
  else none

end Settings

end ViewTemplate
