import Mathlib.Data.List.Basic
import Mathlib.Tactic.Common
import ViewTemplate.Text.Markup
import ViewTemplate.Text.Search

/-!
# Escaping is a map of characters

`escapeMarkup` goes over the whole text five times, once for each character that means something in
markup, and each time it meets what the times before have written.  Two things could go wrong: a
replacement could hold a character that is replaced later, and two texts could come out alike.

Neither happens.  No entity holds a character that is replaced behind it, so replacing one character
after the other is replacing all of them at once (`foldl_replaceChar`), and `escapeMarkup` writes
every character as its `entity`.  And an entity is told from the text around it where it starts, so
`unescapeMarkup`, which reads the text once from the left, gets every text back.
-/

namespace ViewTemplate.Text

/-! ## One replacement after the other -/

/-- What replacing a row of characters makes of one character. -/
def replacementIn (entries : List (Char × List Char)) (c : Char) : List Char :=
  (entries.lookup c).getD [c]

lemma replacementIn_cons (entry : Char × List Char) (entries : List (Char × List Char)) (c : Char) :
    replacementIn (entry :: entries) c =
      if c = entry.1 then entry.2 else replacementIn entries c := by
  obtain ⟨key, replacement⟩ := entry
  by_cases h : c = key
  · simp [replacementIn, h]
  · have hne : (c == key) = false := by simpa using h
    rw [replacementIn, List.lookup_cons, hne, if_neg h]
    rfl

lemma replacementIn_of_notMem {entries : List (Char × List Char)} {c : Char}
    (h : ∀ entry ∈ entries, entry.1 ≠ c) : replacementIn entries c = [c] := by
  induction entries with
  | nil => rfl
  | cons entry entries ih =>
    rw [replacementIn_cons, if_neg (h entry List.mem_cons_self).symm]
    exact ih fun other hother => h other (.tail entry hother)

lemma flatMap_eq_self {f : Char → List Char} {text : List Char} (h : ∀ c ∈ text, f c = [c]) :
    text.flatMap f = text := by
  rw [List.flatMap_congr h, List.flatMap_singleton']

/-- Replacing one character after the other is replacing all of them at once, if no replacement
holds a character that is replaced behind it. -/
lemma foldl_replaceChar {entries : List (Char × List Char)}
    (h : entries.Pairwise fun entry later => later.1 ∉ entry.2) (text : List Char) :
    entries.foldl (fun text entry => replaceChar entry.1 entry.2 text) text =
      text.flatMap (replacementIn entries) := by
  induction entries generalizing text with
  | nil => exact (flatMap_eq_self fun _ _ => rfl).symm
  | cons entry entries ih =>
    obtain ⟨hfirst, hrest⟩ := List.pairwise_cons.1 h
    have hkept : entry.2.flatMap (replacementIn entries) = entry.2 := by
      refine flatMap_eq_self fun c hc => replacementIn_of_notMem fun later hlater => ?_
      rintro rfl
      exact hfirst later hlater hc
    rw [List.foldl_cons, ih hrest, replaceChar, List.flatMap_assoc]
    refine List.flatMap_congr fun c _ => ?_
    rw [replacementIn_cons]
    split
    · exact hkept
    · exact List.flatMap_singleton _ _

/-! ## Entities -/

/-- How a character is written inside of markup. -/
def entity (c : Char) : List Char :=
  match c with
  | '&' => "&amp;".toList
  | '<' => "&lt;".toList
  | '>' => "&gt;".toList
  | '"' => "&quot;".toList
  | '\'' => "&#x27;".toList
  | _ => [c]

/-- A character is written as one of the entities, or it means nothing in markup and stays. -/
lemma entity_cases (c : Char) :
    (c, entity c) ∈ entities ∨ c ∉ ['&', '<', '>', '"', '\''] ∧ entity c = [c] := by
  unfold entity
  split
  iterate 5 exact .inl (by decide)
  rename_i hamp hless hgreater hquote hapostrophe
  exact .inr ⟨by simp_all, rfl⟩

lemma replacementIn_entities (c : Char) : replacementIn entities c = entity c := by
  unfold entity
  split
  iterate 5 rfl
  rename_i hamp hless hgreater hquote hapostrophe
  refine replacementIn_of_notMem fun entry hentry => ?_
  simp only [entities, List.mem_cons, List.not_mem_nil, or_false] at hentry
  rcases hentry with rfl | rfl | rfl | rfl | rfl <;> exact Ne.symm ‹_›

lemma toList_escapeMarkup (s : String) : (escapeMarkup s).toList = s.toList.flatMap entity := by
  have hordered : entities.Pairwise fun entry later => later.1 ∉ entry.2 := by decide
  rw [escapeMarkup, String.toList_ofList, foldl_replaceChar hordered]
  exact List.flatMap_congr fun c _ => replacementIn_entities c

/-! ## Escaped text inside of markup -/

lemma notMem_entity {c d : Char} (h : d ∈ ['<', '>', '"', '\'']) : d ∉ entity c := by
  obtain hentity | ⟨hplain, hentity⟩ := entity_cases c
  · have hall : ∀ entry ∈ entities, ['<', '>', '"', '\''].all (!entry.2.contains ·) = true := by
      decide
    have hd := List.all_eq_true.1 (hall _ hentity) d h
    simpa using hd
  · rw [hentity, List.mem_singleton]
    rintro rfl
    exact hplain (.tail _ h)

/-- An ampersand is the first character of an entity and stands nowhere else in it. -/
lemma entity_ampersand {c : Char} {before after : List Char}
    (h : entity c = before ++ '&' :: after) : before = [] ∧ (c, '&' :: after) ∈ entities := by
  obtain hentity | ⟨hplain, hentity⟩ := entity_cases c
  · have hstart : ∀ entry ∈ entities, entry.2.head? = some '&' ∧ '&' ∉ entry.2.tail := by decide
    obtain ⟨-, hrest⟩ := hstart _ hentity
    rw [h] at hentity hrest
    cases before with
    | nil => exact ⟨rfl, hentity⟩
    | cons d before => exact absurd (List.mem_append_right before List.mem_cons_self) hrest
  · obtain ⟨rfl, hsame⟩ := List.append_eq_singleton_iff.1 (h.symm.trans hentity) |>.resolve_right
      fun hfull => nomatch hfull.2
    obtain ⟨rfl, -⟩ := List.cons.inj hsame
    exact absurd List.mem_cons_self hplain

/-- Every ampersand of an escaped text starts an entity. -/
lemma entity_at_ampersand {text before after : List Char}
    (h : text.flatMap entity = before ++ '&' :: after) :
    ∃ entry ∈ entities, entry.2 <+: '&' :: after := by
  induction text generalizing before with
  | nil => simp at h
  | cons c text ih =>
    rw [List.flatMap_cons] at h
    -- The ampersand stands in the text of the first character or behind it.
    obtain ⟨more, rfl, hmore⟩ | ⟨more, hfirst, hmore⟩ := List.append_eq_append_iff.1 h
    · exact ih hmore
    · cases more with
      | nil => exact @ih [] hmore.symm
      | cons d more =>
        obtain ⟨rfl, rfl⟩ := List.cons.inj hmore
        obtain ⟨-, hentity⟩ := entity_ampersand hfirst
        exact ⟨_, hentity, List.prefix_append _ _⟩

/-! ## Reading escaped text -/

/-- The character of the entity that a text starts with, and what follows the entity. -/
def entityAt? (text : List Char) : Option (Char × List Char) :=
  entities.findSome? fun entry => (afterMarker? entry.2 text).map fun rest => (entry.1, rest)

lemma entityAt?_length_lt {text rest : List Char} {c : Char} (h : entityAt? text = some (c, rest)) :
    rest.length < text.length := by
  obtain ⟨entry, hentry, hafter⟩ := List.exists_of_findSome?_eq_some h
  obtain ⟨behind, hbehind, hpair⟩ := Option.map_eq_some_iff.1 hafter
  obtain ⟨-, rfl⟩ := Prod.mk.inj hpair
  have hsome : ∀ entry ∈ entities, 0 < entry.2.length := by decide
  have hpos := hsome entry hentry
  rw [afterMarker?_eq_some hbehind, List.length_append]
  omega

/-- The text with every entity replaced by its character, reading from the left and going on behind
each entity. -/
def unescapeMarkup : List Char → List Char
  | [] => []
  | c :: text =>
    match h : entityAt? (c :: text) with
    | some (d, rest) =>
      have := entityAt?_length_lt h
      d :: unescapeMarkup rest
    | none => c :: unescapeMarkup text
termination_by text => text.length
decreasing_by
  · assumption
  · exact Nat.lt_succ_self text.length

/-- No entity is the front of another one. -/
lemma entityAt?_append {entry : Char × List Char} (h : entry ∈ entities) (rest : List Char) :
    entityAt? (entry.2 ++ rest) = some (entry.1, rest) := by
  simp only [entities, List.mem_cons, List.not_mem_nil, or_false] at h
  rcases h with rfl | rfl | rfl | rfl | rfl <;> rfl

lemma entityAt?_of_ne {c : Char} (h : c ≠ '&') (text : List Char) :
    entityAt? (c :: text) = none := by
  have hstart : ∀ entry ∈ entities, entry.2.head? = some '&' := by decide
  refine List.findSome?_eq_none_iff.2 fun entry hentry => ?_
  obtain ⟨more, hmore⟩ := List.head?_eq_some_iff.1 (hstart entry hentry)
  rw [hmore, afterMarker?, if_neg h.symm, Option.map_none]

lemma unescapeMarkup_of_some {c d : Char} {text rest : List Char}
    (h : entityAt? (c :: text) = some (d, rest)) :
    unescapeMarkup (c :: text) = d :: unescapeMarkup rest := by
  rw [unescapeMarkup]
  split
  · rename_i hsome
    obtain ⟨rfl, rfl⟩ := Prod.mk.inj (Option.some.inj (hsome.symm.trans h))
    rfl
  · rename_i hnone
    cases hnone.symm.trans h

lemma unescapeMarkup_of_none {c : Char} {text : List Char} (h : entityAt? (c :: text) = none) :
    unescapeMarkup (c :: text) = c :: unescapeMarkup text := by
  rw [unescapeMarkup]
  split
  · rename_i hsome
    cases hsome.symm.trans h
  · rfl

lemma unescapeMarkup_entity (c : Char) (rest : List Char) :
    unescapeMarkup (entity c ++ rest) = c :: unescapeMarkup rest := by
  obtain hentity | ⟨hplain, hentity⟩ := entity_cases c
  · have hfound := entityAt?_append hentity rest
    obtain ⟨d, more, hmore⟩ := List.exists_cons_of_ne_nil fun hnil => by
      rw [show entity c ++ rest = [] from hnil] at hfound
      cases hfound
    rw [hmore] at hfound ⊢
    exact unescapeMarkup_of_some hfound
  · rw [hentity, List.singleton_append]
    exact unescapeMarkup_of_none
      (entityAt?_of_ne (fun hamp => hplain (hamp ▸ List.mem_cons_self)) rest)

lemma unescapeMarkup_flatMap (text : List Char) : unescapeMarkup (text.flatMap entity) = text := by
  induction text with
  | nil => rw [List.flatMap_nil, unescapeMarkup]
  | cons c text ih => rw [List.flatMap_cons, unescapeMarkup_entity, ih]

/-- **Escaping is a safe and reversible map of characters.**  A text is escaped character by
character, and so part by part; what comes out holds none of the characters that open or close
something in markup and no ampersand but at the front of an entity; and reading the entities once
from the left gives the text back. -/
theorem escapeMarkup_maps_characters (s : String) :
    (escapeMarkup s).toList = s.toList.flatMap entity ∧
    (∀ t, escapeMarkup (s ++ t) = escapeMarkup s ++ escapeMarkup t) ∧
    (∀ c ∈ ['<', '>', '"', '\''], c ∉ (escapeMarkup s).toList) ∧
    (∀ before after, (escapeMarkup s).toList = before ++ '&' :: after →
      ∃ entry ∈ entities, entry.2 <+: '&' :: after) ∧
    unescapeMarkup (escapeMarkup s).toList = s.toList := by
  refine ⟨toList_escapeMarkup s, fun t => ?_, fun c hc hmem => ?_, fun before after h => ?_, ?_⟩
  · refine String.toList_inj.1 ?_
    simp only [toList_escapeMarkup, String.toList_append, List.flatMap_append]
  · rw [toList_escapeMarkup] at hmem
    obtain ⟨d, -, hd⟩ := List.mem_flatMap.1 hmem
    exact notMem_entity hc hd
  · rw [toList_escapeMarkup] at h
    exact entity_at_ampersand h
  · rw [toList_escapeMarkup, unescapeMarkup_flatMap]

end ViewTemplate.Text
