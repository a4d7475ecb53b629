import Mathlib.Tactic.Common
import ViewTemplate.Proofs.NumberText
import ViewTemplate.Value.Reader

/-!
# The JSON text of a value determines the value

A JSON string is read back as it was written (`readString?_flatMap`), so no character of a string
can be taken for the end of it.  For whole values there is no such result, since a float may be read
back as its neighbour; but the text still determines the value, with the order of all names in it
(`jsonChars_append_inj`).  Values are told apart by the first character of their text, and a number
ends where a character follows that numbers do not have.
-/

namespace ViewTemplate.JsonText

open ViewTemplate.Value (jsonChar jsonString)
open ViewTemplate.Text (hexDigits)

/-! ## Strings -/

lemma hexValue?_digitChar : ∀ n < 16, hexValue? (Nat.digitChar n) = some n := by
  decide

lemma hexDigits_padded {n : Nat} (h : n < 0x20) :
    List.replicate (4 - (hexDigits n).length) '0' ++ hexDigits n =
      ['0', '0', Nat.digitChar (n / 16), Nat.digitChar (n % 16)] := by
  unfold hexDigits
  by_cases hn : n < 16
  · rw [Nat.toDigits_of_lt_base hn, Nat.div_eq_of_lt hn, Nat.mod_eq_of_lt hn]
    rfl
  · rw [Nat.toDigits_of_base_le (by omega) (by omega), Nat.toDigits_of_lt_base (by omega)]
    rfl

lemma readUnicodeEscape?_hexDigits {c : Char} (h : c.toNat < 0x20) (rest : List Char) :
    readUnicodeEscape? (List.replicate (4 - (hexDigits c.toNat).length) '0' ++
      hexDigits c.toNat ++ rest) = some (c, rest) := by
  have hzero : hexValue? '0' = some 0 := rfl
  have hvalue : 4096 * 0 + 256 * 0 + 16 * (c.toNat / 16) + c.toNat % 16 = c.toNat := by omega
  rw [hexDigits_padded h]
  simp only [List.cons_append, List.nil_append, readUnicodeEscape?, readHex4?, hzero,
    hexValue?_digitChar _ (show c.toNat / 16 < 16 by omega),
    hexValue?_digitChar _ (show c.toNat % 16 < 16 by omega), Option.bind_eq_bind, Option.bind_some,
    hvalue]
  rw [if_neg (by omega), if_neg (by omega), Char.ofNat_toNat]

lemma readString?_jsonChar (fuel : Nat) (read : List Char) (c : Char) (rest : List Char) :
    readString? (fuel + 1) read (jsonChar c ++ rest) = readString? fuel (c :: read) rest := by
  unfold jsonChar
  split_ifs with hquote hslash hn hr ht hb hf hcontrol
  · rw [hquote]
    rfl
  · rw [hslash]
    rfl
  · rw [hn]
    rfl
  · rw [hr]
    rfl
  · rw [ht]
    rfl
  · rw [show c = Char.ofNat 8 by rw [← hb, Char.ofNat_toNat]]
    rfl
  · rw [show c = Char.ofNat 12 by rw [← hf, Char.ofNat_toNat]]
    rfl
  · have hescape := readUnicodeEscape?_hexDigits hcontrol rest
    rw [List.append_assoc] at hescape
    simp [readString?, hescape]
  · simp [readString?, hquote, hslash, hcontrol]

/-- The characters of a string are read up to its closing quote. -/
lemma readString?_flatMap (text : List Char) {fuel : Nat} (hfuel : text.length < fuel)
    (read rest : List Char) :
    readString? fuel read (text.flatMap jsonChar ++ '"' :: rest) =
      some (String.ofList (read.reverse ++ text), rest) := by
  induction text generalizing fuel read with
  | nil =>
    obtain ⟨fuel, rfl⟩ := Nat.exists_eq_add_one_of_ne_zero (Nat.ne_zero_of_lt hfuel)
    simp [readString?]
  | cons c text ih =>
    obtain ⟨fuel, rfl⟩ := Nat.exists_eq_add_one_of_ne_zero (Nat.ne_zero_of_lt hfuel)
    rw [List.length_cons] at hfuel
    rw [List.flatMap_cons, List.append_assoc, readString?_jsonChar, ih (by omega),
      List.reverse_cons, List.append_assoc]
    rfl

/-- Texts that start with a string start with the same one, and go on alike. -/
lemma jsonString_append_inj {s t : String} {rest other : List Char}
    (h : jsonString s ++ rest = jsonString t ++ other) : s = t ∧ rest = other := by
  have hbody : s.toList.flatMap jsonChar ++ '"' :: rest =
      t.toList.flatMap jsonChar ++ '"' :: other := by
    simpa [jsonString] using h
  have hfuel : s.toList.length < s.toList.length + t.toList.length + 1 := by omega
  have hread := readString?_flatMap s.toList hfuel [] rest
  rw [hbody, readString?_flatMap t.toList (by omega)] at hread
  simpa using (Option.some.inj hread).symm

end ViewTemplate.JsonText

namespace ViewTemplate.Value

open ViewTemplate.Decimal (IsNumberText isNumberChar)
open ViewTemplate.JsonText (jsonString_append_inj)
open ViewTemplate.Script (StopsAt takeWhile_eq_self_iff dropWhile_append_of_stopsAt)

/-! ## Values -/

/-- The kind of the values whose text starts with a character. -/
def kindOf? (c : Char) : Option Kind :=
  if c = 'n' then some .null
  else if c = 't' ∨ c = 'f' then some .bool
  else if c = '"' then some .string
  else if c = '[' then some .array
  else if c = '\x7b' then some .map
  else if Number.startsNumber c then some .number
  else none

lemma kindOf?_of_startsNumber {c : Char} (h : Number.startsNumber c = true) :
    kindOf? c = some .number := by
  have hother : ∀ d : Char, Number.startsNumber d = false → c ≠ d := by
    rintro d hd rfl
    rw [h] at hd
    cases hd
  simp [kindOf?, hother 'n' rfl, hother 't' rfl, hother 'f' rfl, hother '"' rfl, hother '[' rfl,
    hother '\x7b' rfl, h]

/-- The text of a value starts with a character of its kind. -/
lemma exists_head_jsonChars (v : Value) :
    ∃ c rest, v.jsonChars = c :: rest ∧ kindOf? c = some v.kind := by
  match v with
  | null => exact ⟨'n', _, rfl, rfl⟩
  | bool true => exact ⟨'t', _, rfl, rfl⟩
  | bool false => exact ⟨'f', _, rfl, rfl⟩
  | number n =>
    obtain ⟨c, rest, htext, hc⟩ := n.exists_head_json
    exact ⟨c, rest, htext, kindOf?_of_startsNumber hc⟩
  | text s => exact ⟨'"', _, rfl, rfl⟩
  | list [] => exact ⟨'[', _, rfl, rfl⟩
  | list (x :: xs) => exact ⟨'[', _, rfl, rfl⟩
  | map [] => exact ⟨'\x7b', _, rfl, rfl⟩
  | map ((name, x) :: rest) => exact ⟨'\x7b', _, rfl, rfl⟩

lemma kind_eq_of_append {v w : Value} {rest other : List Char}
    (h : v.jsonChars ++ rest = w.jsonChars ++ other) : v.kind = w.kind := by
  obtain ⟨c, more, hv, hc⟩ := v.exists_head_jsonChars
  obtain ⟨d, more', hw, hd⟩ := w.exists_head_jsonChars
  rw [hv, hw] at h
  obtain rfl : c = d := (List.cons.inj h).1
  exact Option.some.inj (hc.symm.trans hd)

lemma number_append_inj {m n : Number} {rest other : List Char}
    (hrest : StopsAt isNumberChar rest) (hother : StopsAt isNumberChar other)
    (h : m.json.toList ++ rest = n.json.toList ++ other) : m = n ∧ rest = other := by
  have hm := List.all_eq_true.1 m.isNumberText_json
  have hn := List.all_eq_true.1 n.isNumberText_json
  have htake := congrArg (List.takeWhile isNumberChar) h
  have hdrop := congrArg (List.dropWhile isNumberChar) h
  rw [takeWhile_eq_self_iff.2 ⟨hm, hrest⟩, takeWhile_eq_self_iff.2 ⟨hn, hother⟩] at htake
  rw [dropWhile_append_of_stopsAt hm hrest, dropWhile_append_of_stopsAt hn hother] at hdrop
  exact ⟨Number.json_inj (String.toList_inj.1 htake), hdrop⟩

lemma stopsAt_jsonItems (xs : List Value) (rest : List Char) :
    StopsAt isNumberChar (jsonItems xs ++ rest) := by
  intro c hc
  cases xs <;> obtain rfl := Option.some.inj hc <;> rfl

lemma stopsAt_jsonEntries (entries : List (String × Value)) (rest : List Char) :
    StopsAt isNumberChar (jsonEntries entries ++ rest) := by
  intro c hc
  cases entries <;> obtain rfl := Option.some.inj hc <;> rfl

/-- The text of a value does not start like the end of a collection. -/
lemma jsonChars_append_ne {v : Value} {c : Char} (hc : kindOf? c = none) {rest other : List Char} :
    v.jsonChars ++ rest ≠ c :: other := by
  intro h
  obtain ⟨d, more, hv, hd⟩ := v.exists_head_jsonChars
  rw [hv] at h
  obtain rfl : d = c := (List.cons.inj h).1
  rw [hc] at hd
  cases hd

mutual

/-- Texts that start with a value start with the same one, and go on alike. -/
lemma jsonChars_append_inj (v w : Value) {rest other : List Char}
    (hrest : StopsAt isNumberChar rest) (hother : StopsAt isNumberChar other)
    (h : v.jsonChars ++ rest = w.jsonChars ++ other) : v = w ∧ rest = other := by
  -- the first character tells the kind, so the two values are of one kind
  have hkind := kind_eq_of_append h
  cases v with
  | null =>
    cases w <;> simp only [kind, reduceCtorEq] at hkind
    exact ⟨rfl, List.append_cancel_left h⟩
  | bool a =>
    cases w <;> simp only [kind, reduceCtorEq] at hkind
    rename_i b
    cases a <;> cases b
    · exact ⟨rfl, List.append_cancel_left h⟩
    · exact absurd (List.cons.inj h).1 (by decide)
    · exact absurd (List.cons.inj h).1 (by decide)
    · exact ⟨rfl, List.append_cancel_left h⟩
  | number m =>
    cases w <;> simp only [kind, reduceCtorEq] at hkind
    obtain ⟨rfl, rfl⟩ := number_append_inj hrest hother h
    exact ⟨rfl, rfl⟩
  | text s =>
    cases w <;> simp only [kind, reduceCtorEq] at hkind
    obtain ⟨rfl, rfl⟩ := jsonString_append_inj h
    exact ⟨rfl, rfl⟩
  | list xs =>
    cases w <;> simp only [kind, reduceCtorEq] at hkind
    rename_i ys
    cases xs with
    | nil =>
      cases ys with
      | nil => exact ⟨rfl, List.append_cancel_left h⟩
      | cons y ys =>
        -- an empty list ends where an item would start
        have hbody : y.jsonChars ++ (jsonItems ys ++ other) = ']' :: rest := by
          simpa [jsonChars] using h.symm
        exact absurd hbody (jsonChars_append_ne rfl)
    | cons x xs =>
      cases ys with
      | nil =>
        have hbody : x.jsonChars ++ (jsonItems xs ++ rest) = ']' :: other := by
          simpa [jsonChars] using h
        exact absurd hbody (jsonChars_append_ne rfl)
      | cons y ys =>
        have hitems : jsonItems (x :: xs) ++ rest = jsonItems (y :: ys) ++ other := by
          simpa [jsonChars, jsonItems] using h
        obtain ⟨hxs, rfl⟩ := jsonItems_append_inj (x :: xs) (y :: ys) hitems
        exact ⟨congrArg list hxs, rfl⟩
  | map xs =>
    cases w <;> simp only [kind, reduceCtorEq] at hkind
    rename_i ys
    cases xs with
    | nil =>
      cases ys with
      | nil => exact ⟨rfl, List.append_cancel_left h⟩
      | cons entry ys => exact absurd (List.cons.inj (List.cons.inj h).2).1 (by decide)
    | cons entry xs =>
      cases ys with
      | nil => exact absurd (List.cons.inj (List.cons.inj h).2).1 (by decide)
      | cons entry' ys =>
        have hentries : jsonEntries (entry :: xs) ++ rest =
            jsonEntries (entry' :: ys) ++ other := by
          simpa [jsonChars, jsonEntries] using h
        obtain ⟨hxs, rfl⟩ := jsonEntries_append_inj (entry :: xs) (entry' :: ys) hentries
        exact ⟨congrArg map hxs, rfl⟩
termination_by structural v

lemma jsonItems_append_inj (xs ys : List Value) {rest other : List Char}
    (h : jsonItems xs ++ rest = jsonItems ys ++ other) : xs = ys ∧ rest = other := by
  cases xs with
  | nil =>
    cases ys with
    | nil => exact ⟨rfl, List.append_cancel_left h⟩
    | cons y ys => exact absurd (List.cons.inj h).1 (by decide)
  | cons x xs =>
    cases ys with
    | nil => exact absurd (List.cons.inj h).1 (by decide)
    | cons y ys =>
      have hbody : x.jsonChars ++ (jsonItems xs ++ rest) =
          y.jsonChars ++ (jsonItems ys ++ other) := by
        simpa [jsonItems] using h
      obtain ⟨rfl, hitems⟩ := jsonChars_append_inj x y (stopsAt_jsonItems xs rest)
        (stopsAt_jsonItems ys other) hbody
      obtain ⟨rfl, rfl⟩ := jsonItems_append_inj xs ys hitems
      exact ⟨rfl, rfl⟩
termination_by structural xs

lemma jsonEntries_append_inj (xs ys : List (String × Value)) {rest other : List Char}
    (h : jsonEntries xs ++ rest = jsonEntries ys ++ other) : xs = ys ∧ rest = other := by
  cases xs with
  | nil =>
    cases ys with
    | nil => exact ⟨rfl, List.append_cancel_left h⟩
    | cons entry ys => exact absurd (List.cons.inj h).1 (by decide)
  | cons entry xs =>
    obtain ⟨name, x⟩ := entry
    cases ys with
    | nil => exact absurd (List.cons.inj h).1 (by decide)
    | cons entry ys =>
      obtain ⟨name', y⟩ := entry
      have hbody : jsonString name ++ ':' :: (x.jsonChars ++ (jsonEntries xs ++ rest)) =
          jsonString name' ++ ':' :: (y.jsonChars ++ (jsonEntries ys ++ other)) := by
        simpa [jsonEntries] using h
      obtain ⟨rfl, hvalue⟩ := jsonString_append_inj hbody
      obtain ⟨rfl, hentries⟩ := jsonChars_append_inj x y (stopsAt_jsonEntries xs rest)
        (stopsAt_jsonEntries ys other) (List.cons.inj hvalue).2
      obtain ⟨rfl, rfl⟩ := jsonEntries_append_inj xs ys hentries
      exact ⟨rfl, rfl⟩
termination_by structural xs

end

/-- The JSON text of a value determines the value. -/
lemma json_inj {v w : Value} (h : v.json = w.json) : v = w := by
  have hchars : v.jsonChars ++ [] = w.jsonChars ++ [] := by
    rw [String.ofList_injective h]
  exact (jsonChars_append_inj v w (Decimal.stopsAt_nil _) (Decimal.stopsAt_nil _) hchars).1

end ViewTemplate.Value
