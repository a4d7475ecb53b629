import ViewTemplate.Cache.Sha256
import ViewTemplate.Value.Json
import ViewTemplate.View.Basic

/-!
# Fingerprints

The fingerprint of a view is the digest of everything its output depends on: name, contents,
variables in their order, and delimiters.  Every field is preceded by its length, so the fields can
be told apart again.
-/

namespace ViewTemplate.View

/-- A number as eight bytes, the lowest first. -/
def lengthBytes (n : Nat) : List UInt8 :=
  (List.range 8).map fun i => UInt8.ofNat (n >>> (8 * i))

/-- A field: the number of its bytes, and the bytes. -/
def fieldBytes (s : String) : List UInt8 :=
  let bytes := s.toUTF8.data.toList
  lengthBytes bytes.length ++ bytes

/-- The fields that the output of a view depends on. -/
def fingerprintFields (view : View) : List String :=
  [view.name, view.contents, (Value.map view.vars).json] ++
    DelimiterKind.all.flatMap fun kind =>
      [(view.delimiters.get kind).opening, (view.delimiters.get kind).closing]

/-- The bytes whose digest is the fingerprint. -/
def fingerprintBytes (view : View) : List UInt8 :=
  view.fingerprintFields.flatMap fieldBytes

/-- A byte as two digits to the base sixteen. -/
def byteDigits (b : UInt8) : List Char :=
  [Nat.digitChar (b.toNat / 16), Nat.digitChar (b.toNat % 16)]

def fingerprint (view : View) : String :=
  String.ofList ((Sha256.digest view.fingerprintBytes).flatMap byteDigits)

end ViewTemplate.View
