import Mathlib.Tactic.Common
import ViewTemplate.Cache.Fingerprint
import ViewTemplate.Proofs.JsonText

/-!
# Fingerprints tell views apart

A fingerprint is the digest of the fields of a view, each preceded by its length.  The lengths make
the fields readable one after the other, and the field of the variables is their JSON text, so the
bytes that go into the digest determine the view (`fingerprintBytes_inj`).  Views with the same
fingerprint can then differ only if the digest has the same value at different bytes
(`eq_of_fingerprint`).
-/

namespace ViewTemplate.View

/-! ## Fields -/

lemma length_lengthBytes (n : Nat) : (lengthBytes n).length = 8 := by
  simp [lengthBytes]

/-- The lowest bytes of a number determine what is left of it when the others are cut off. -/
lemma mod_eq_of_bytes {m n count : Nat}
    (h : ∀ i < count, m / 2 ^ (8 * i) % 2 ^ 8 = n / 2 ^ (8 * i) % 2 ^ 8) :
    m % 2 ^ (8 * count) = n % 2 ^ (8 * count) := by
  induction count with
  | zero => simp [Nat.mod_one]
  | succ count ih =>
    have hfront := ih fun i hi => h i (Nat.lt_succ_of_lt hi)
    rw [Nat.mul_succ, Nat.pow_add, Nat.mod_mul, Nat.mod_mul, hfront, h count (Nat.lt_succ_self _)]

lemma lengthBytes_inj {m n : Nat} (hm : m < 2 ^ 64) (hn : n < 2 ^ 64)
    (h : lengthBytes m = lengthBytes n) : m = n := by
  have hbytes : ∀ i < 8, m / 2 ^ (8 * i) % 2 ^ 8 = n / 2 ^ (8 * i) % 2 ^ 8 := by
    intro i hi
    have hat := congrArg (fun bytes => bytes[i]?.map UInt8.toNat) h
    simpa [lengthBytes, hi, Nat.shiftRight_eq_div_pow] using hat
  have hmod := mod_eq_of_bytes hbytes
  rwa [Nat.mod_eq_of_lt hm, Nat.mod_eq_of_lt hn] at hmod

/-- The length of a text fits in the eight bytes in front of it. -/
def FitsField (s : String) : Prop :=
  s.utf8ByteSize < 2 ^ 64

lemma toUTF8_inj {s t : String} (h : s.toUTF8.data.toList = t.toUTF8.data.toList) : s = t :=
  String.toByteArray_inj.1 (ByteArray.ext (Array.toList_inj.1 h))

/-- Bytes that start with a field start with the same one, and go on alike. -/
lemma fieldBytes_append_inj {s t : String} (hs : FitsField s) (ht : FitsField t)
    {rest other : List UInt8} (h : fieldBytes s ++ rest = fieldBytes t ++ other) :
    s = t ∧ rest = other := by
  unfold fieldBytes at h
  dsimp only at h
  rw [List.append_assoc, List.append_assoc] at h
  obtain ⟨hlength, hbytes⟩ := List.append_inj h (by rw [length_lengthBytes, length_lengthBytes])
  have hsize := lengthBytes_inj hs ht hlength
  obtain ⟨hs, hrest⟩ := List.append_inj hbytes hsize
  exact ⟨toUTF8_inj hs, hrest⟩

lemma fieldBytes_ne_nil (s : String) : fieldBytes s ≠ [] := by
  intro h
  have hlength := congrArg List.length h
  simp [fieldBytes, length_lengthBytes] at hlength

lemma flatMap_fieldBytes_inj {fields others : List String} (hfields : ∀ s ∈ fields, FitsField s)
    (hothers : ∀ s ∈ others, FitsField s)
    (h : fields.flatMap fieldBytes = others.flatMap fieldBytes) : fields = others := by
  induction fields generalizing others with
  | nil =>
    cases others with
    | nil => rfl
    | cons t others => simp [fieldBytes_ne_nil] at h
  | cons s fields ih =>
    cases others with
    | nil => simp [fieldBytes_ne_nil] at h
    | cons t others =>
      rw [List.flatMap_cons, List.flatMap_cons] at h
      obtain ⟨rfl, hrest⟩ := fieldBytes_append_inj (hfields s List.mem_cons_self)
        (hothers t List.mem_cons_self) h
      rw [ih (fun s hs => hfields s (List.mem_cons_of_mem _ hs))
        (fun s hs => hothers s (List.mem_cons_of_mem _ hs)) hrest]

/-! ## Views -/

lemma eq_of_fingerprintFields {u w : View} (h : u.fingerprintFields = w.fingerprintFields) :
    u = w := by
  obtain ⟨name, contents, vars, ⟨⟨_, _⟩, ⟨_, _⟩, ⟨_, _⟩, ⟨_, _⟩⟩⟩ := u
  obtain ⟨name', contents', vars', ⟨⟨_, _⟩, ⟨_, _⟩, ⟨_, _⟩, ⟨_, _⟩⟩⟩ := w
  simp only [fingerprintFields, DelimiterKind.all, Delimiters.get, List.flatMap_cons,
    List.flatMap_nil, List.cons_append, List.nil_append, List.cons.injEq, and_true] at h
  obtain ⟨rfl, rfl, hvars, rfl, rfl, rfl, rfl, rfl, rfl, rfl, rfl⟩ := h
  obtain rfl : vars = vars' := Value.map.inj (Value.json_inj hvars)
  rfl

/-- The lengths of all fields of a view fit in the bytes in front of them. -/
def FitsFields (view : View) : Prop :=
  ∀ s ∈ view.fingerprintFields, FitsField s

/-- The bytes that go into the digest determine the view. -/
lemma fingerprintBytes_inj {u w : View} (hu : u.FitsFields) (hw : w.FitsFields)
    (h : u.fingerprintBytes = w.fingerprintBytes) : u = w :=
  eq_of_fingerprintFields (flatMap_fieldBytes_inj hu hw h)

/-- **The bytes of a fingerprint say everything about a view.**  Two views have the same bytes
exactly if they have the same name, the same contents, the same delimiters of every kind, and the
same variables: the same names in the same order bound to the same values, which are lists and maps
with their items and names in order again, down to numbers, where integers and floats differ. -/
theorem fingerprintBytes_eq_iff {u w : View} (hu : u.FitsFields) (hw : w.FitsFields) :
    u.fingerprintBytes = w.fingerprintBytes ↔
      u.name = w.name ∧ u.contents = w.contents ∧
        (∀ kind, u.delimiters.get kind = w.delimiters.get kind) ∧ u.vars = w.vars := by
  constructor
  · intro h
    obtain rfl := fingerprintBytes_inj hu hw h
    exact ⟨rfl, rfl, fun _ => rfl, rfl⟩
  · rintro ⟨hname, hcontents, hdelimiters, hvars⟩
    have hfields : u.fingerprintFields = w.fingerprintFields := by
      simp only [fingerprintFields, hname, hcontents, hvars, hdelimiters]
    rw [fingerprintBytes, fingerprintBytes, hfields]

/-- Views that differ inside of a map in their variables. -/
def nestedView (entries : List (String × Value)) : View where
  name := "a"
  contents := "bc"
  vars := [("m", .list [.map entries])]
  distinct := List.nodup_singleton _

/-- The order of names in a nested map counts, and so does the kind of a number in it. -/
theorem fingerprintBytes_eq_iff_nested :
    let one := Value.number (.int 1)
    let u := nestedView [("x", one), ("y", .text "\"")]
    let swapped := nestedView [("y", .text "\""), ("x", one)]
    let float := nestedView [("x", .number (.float 1)), ("y", .text "\"")]
    (u.FitsFields ∧ swapped.FitsFields ∧ float.FitsFields) ∧
      u.fingerprintBytes ≠ swapped.fingerprintBytes ∧
      u.fingerprintBytes ≠ float.fingerprintBytes := by
  intro one u swapped float
  have hu : u.FitsFields := by
    unfold FitsFields FitsField
    decide +kernel
  have hswapped : swapped.FitsFields := by
    unfold FitsFields FitsField
    decide +kernel
  have hfloat : float.FitsFields := by
    unfold FitsFields FitsField
    decide +kernel
  refine ⟨⟨hu, hswapped, hfloat⟩, ?_, ?_⟩
  · intro h
    obtain ⟨-, -, -, hvars⟩ := (fingerprintBytes_eq_iff hu hswapped).1 h
    simp [u, swapped, one, nestedView] at hvars
  · intro h
    obtain ⟨-, -, -, hvars⟩ := (fingerprintBytes_eq_iff hu hfloat).1 h
    simp [u, float, one, nestedView] at hvars

/-! ## Fingerprints -/

lemma byteDigits_inj {a b : UInt8} (h : byteDigits a = byteDigits b) : a = b := by
  have hdigit : ∀ m < 16, ∀ n < 16, Nat.digitChar m = Nat.digitChar n → m = n := by
    intro m hm n hn hchar
    have hvalue := JsonText.hexValue?_digitChar m hm
    rw [hchar, JsonText.hexValue?_digitChar n hn] at hvalue
    exact (Option.some.inj hvalue).symm
  have ha : a.toNat < 256 := a.toNat_lt
  have hb : b.toNat < 256 := b.toNat_lt
  simp only [byteDigits, List.cons.injEq, and_true] at h
  have hhigh := hdigit _ (by omega) _ (by omega) h.1
  have hlow := hdigit _ (by omega) _ (by omega) h.2
  exact UInt8.toNat_inj.1 (by omega)

lemma flatMap_byteDigits_inj {bytes others : List UInt8}
    (h : bytes.flatMap byteDigits = others.flatMap byteDigits) : bytes = others := by
  induction bytes generalizing others with
  | nil =>
    cases others with
    | nil => rfl
    | cons b others => simp [byteDigits] at h
  | cons a bytes ih =>
    cases others with
    | nil => simp [byteDigits] at h
    | cons b others =>
      rw [List.flatMap_cons, List.flatMap_cons] at h
      obtain ⟨hbyte, hrest⟩ := List.append_inj h rfl
      rw [byteDigits_inj hbyte, ih hrest]

/-- The digest does not collide at the bytes of two views. -/
def DigestApart (u w : View) : Prop :=
  Sha256.digest u.fingerprintBytes = Sha256.digest w.fingerprintBytes →
    u.fingerprintBytes = w.fingerprintBytes

lemma eq_of_fingerprint {u w : View} (hu : u.FitsFields) (hw : w.FitsFields)
    (hdigest : DigestApart u w) (h : u.fingerprint = w.fingerprint) : u = w :=
  fingerprintBytes_inj hu hw (hdigest (flatMap_byteDigits_inj (String.ofList_injective h)))

end ViewTemplate.View
