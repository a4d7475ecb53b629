import ViewTemplate.Script.Eval
import ViewTemplate.Text.Case
import ViewTemplate.Text.Markup

/-!
# Plain functions

The functions every script can call by their bare names: counting, changing case, joining, ranges
and a few tests.  `Native.all` lists them in the order of their names.
-/

namespace ViewTemplate.Script

/-- A plain function of the script language. -/
structure Native where
  name : String
  run : List Value → Except ScriptError Value

namespace Native

/-- The argument at a position, counted from zero. -/
def arg (function : String) (args : List Value) (position : Nat) : Except ScriptError Value :=
  match args[position]? with
  | some v => .ok v
  | none => .error (.invalidArgument function (.missing (position + 1)))

/-- The argument at a position as an integer of 64 bits; floats lose their fraction. -/
def intArg (function : String) (args : List Value) (position : Nat) : Except ScriptError Int := do
  let v ← arg function args position
  match v with
  | .number n =>
    match n.toInt64? with
    | some i => .ok i
    | none => .ok (Decimal.truncate n.toFloat)
  | .text s =>
    match Decimal.readInt64? (Text.trim s.toList) with
    | some i => .ok i
    | none => .error (.invalidArgument function (.notInteger v))
  | _ => .error (.invalidArgument function (.notInteger v))

/-- The items of a collection, without their keys. -/
def collection (function : String) : Value → Except ScriptError (List Value)
  | .list items => .ok items
  | .map entries => .ok (entries.map (·.2))
  | v => .error (.invalidArgument function (.notCollection v))

/-- A function that changes the text its first argument is shown as. -/
def onText (name : String) (change : String → Value) : Native where
  name := name
  run args := do
    let v ← arg name args 0
    .ok (change v.display)

/-- A function that looks at its first argument. -/
def onValue (name : String) (look : Value → Value) : Native where
  name := name
  run args := do
    let v ← arg name args 0
    .ok (look v)

/-- The number of items of a collection. -/
def count : Native where
  name := "count"
  run args := do
    let v ← arg "count" args 0
    let items ← collection "count" v
    .ok (.ofNat items.length)

/-- The items of a collection joined by a separator. -/
def implode : Native where
  name := "implode"
  run args := do
    let separator ← arg "implode" args 0
    let v ← arg "implode" args 1
    let items ← collection "implode" v
    .ok (.text (String.intercalate separator.display (items.map Value.display)))

/-- Whether a collection has an item that is the same as the first argument. -/
def inArray : Native where
  name := "in_array"
  run args := do
    let wanted ← arg "in_array" args 0
    let v ← arg "in_array" args 1
    let items : List Value := match v with
      | .list items => items
      | .map entries => entries.map fun entry => entry.2
      | _ => []
    .ok (.bool (items.any fun item => item.same wanted))

/-- The integers from one end to the other, both included, upwards or downwards. -/
def rangeItems (first last : Int) : List Value :=
  let size := (last - first).natAbs + 1
  if first ≤ last then (List.range size).map fun (i : Nat) => .ofInt (first + i)
  else (List.range size).map fun (i : Nat) => .ofInt (first - i)

/-- The list of the integers from one end to the other, if it is not too long. -/
def range : Native where
  name := "range"
  run args := do
    let first ← intArg "range" args 0
    let last ← intArg "range" args 1
    let size := (last - first).natAbs + 1
    if maxRangeItems < size then .error (.invalidArgument "range" (.rangeTooLong size))
    else .ok (.list (rangeItems first last))

/-- A text several times over, if it does not grow too long. -/
def strRepeat : Native where
  name := "str_repeat"
  run args := do
    let v ← arg "str_repeat" args 0
    let times ← intArg "str_repeat" args 1
    let text := v.display
    if times < 0 then .error (.invalidArgument "str_repeat" .negativeCount)
    else if maxRepeatBytes < text.utf8ByteSize * times.toNat then
      .error (.invalidArgument "str_repeat" .resultTooLong)
    else if text.isEmpty then .ok (.text "")
    else .ok (.text (Nat.repeat (fun done => done ++ text) times.toNat ""))

/-- The keys of a collection. -/
def arrayKeys : Native where
  name := "array_keys"
  run args := do
    let v ← arg "array_keys" args 0
    match v.items? with
    | some items => .ok (.list (items.map (·.1)))
    | none => .error (.invalidArgument "array_keys" (.notCollection v))

/-- Every plain function, in the order of their names. -/
def all : List Native :=
  [arrayKeys,
    count,
    onValue "empty" fun v => .bool (!v.truthy),
    onText "htmlspecialchars" fun s => .text (Text.escapeMarkup s),
    implode,
    inArray,
    onValue "is_null" fun v => .bool v.isNull,
    onValue "json_encode" fun v => .text v.json,
    range,
    strRepeat,
    onText "strlen" fun s => .ofNat s.length,
    onText "strtolower" fun s => .text (Text.lowerCase s),
    onText "strtoupper" fun s => .text (Text.upperCase s),
    onText "trim" fun s => .text (Text.trimString s),
    onText "ucfirst" fun s => .text (Text.capitalize s)]

def names : List String :=
  all.map (·.name)

def find? (name : String) : Option Native :=
  all.find? (·.name == name)

def call (name : String) (args : List Value) : Except ScriptError Value :=
  match find? name with
  | some native => native.run args
  | none => .error (.unknownNative name)

end Native

end ViewTemplate.Script
