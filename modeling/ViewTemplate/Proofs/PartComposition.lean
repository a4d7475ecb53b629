import Mathlib.Data.Finset.Sort
import Mathlib.Tactic.Common
import ViewTemplate.Page.Parts

/-!
# Parts compose across generations

The text of a part is put together from one definition for each generation, by replacing a marker in
a text again and again.  Here is what comes out of it.  A definition whose text was written by a
template is a `PartBody`: fragments of text and places for the outer definition.  The result is
`PartTable.resolve_after`: whatever was defined and in whatever order, the text of a part is the
nearest body, with the next outer one in each of its places, and so on outwards (`nested`).

Two things are proved on the way.  The table keeps exactly the latest text of each generation, in
ascending order (`Keeps`), which every definition preserves.  And replacing the marker from the left
is the same as filling the places of a body (`fillPlace_text`), so that it does not matter that the
table fills the outer text in before it knows what the places of that text stand for.  The marker
starts with a control character that no fragment holds; without that, a fragment could look like a
place, or could become one together with what stands around it.
-/

namespace ViewTemplate.Text

/-! ## Replacing a marker -/

lemma replaceMarker_of_none {marker text : List Char} (h : splitAtMarker? marker text = none)
    (replacement : List Char) : replaceMarker marker replacement text = text := by
  rw [replaceMarker]
  split
  · rfl
  · split
    · rfl
    · rename_i before rest hsome
      rw [h] at hsome
      simp at hsome

lemma splitAtMarker?_eq_none_iff {marker text : List Char} :
    splitAtMarker? marker text = none ↔ ¬hasMarker marker text = true := by
  simp [hasMarker]

lemma replaceMarker_of_some {marker text before rest : List Char} (hm : marker ≠ [])
    (h : splitAtMarker? marker text = some (before, rest)) (replacement : List Char) :
    replaceMarker marker replacement text =
      before ++ replacement ++ replaceMarker marker replacement rest := by
  rw [replaceMarker, dif_neg (by simpa using hm)]
  split
  · rename_i hnone
    rw [h] at hnone
    simp at hnone
  · rename_i before' rest' hsome
    rw [h] at hsome
    obtain ⟨rfl, rfl⟩ := Prod.mk.inj (Option.some.inj hsome)
    rfl

lemma splitAtMarker?_marker {marker : List Char} (hm : marker ≠ []) (text : List Char) :
    splitAtMarker? marker (marker ++ text) = some ([], text) := by
  obtain ⟨c, more, rfl⟩ := List.exists_cons_of_ne_nil hm
  have hafter := afterMarker?_append (c :: more) text
  rw [List.cons_append] at hafter ⊢
  rw [splitAtMarker?, hafter]

/-- A marker does not start in a text that lacks its first character. -/
lemma splitAtMarker?_append {c : Char} (marker : List Char) {front : List Char} (hc : c ∉ front)
    (text : List Char) :
    splitAtMarker? (c :: marker) (front ++ text) =
      (splitAtMarker? (c :: marker) text).map fun cut => (front ++ cut.1, cut.2) := by
  induction front with
  | nil => simp
  | cons d front ih =>
    obtain ⟨hd, hfront⟩ := not_or.1 (List.mem_cons.not.1 hc)
    have hafter : afterMarker? (c :: marker) (d :: (front ++ text)) = none := by
      rw [afterMarker?, if_neg hd]
    rw [List.cons_append, splitAtMarker?, hafter, ih hfront, Option.map_map]
    rfl

lemma replaceMarker_append {c : Char} (marker : List Char) {front : List Char} (hc : c ∉ front)
    (replacement text : List Char) :
    replaceMarker (c :: marker) replacement (front ++ text) =
      front ++ replaceMarker (c :: marker) replacement text := by
  have hsplit := splitAtMarker?_append marker hc text
  cases hcut : splitAtMarker? (c :: marker) text with
  | none =>
    rw [hcut, Option.map_none] at hsplit
    rw [replaceMarker_of_none hcut, replaceMarker_of_none hsplit]
  | some cut =>
    obtain ⟨before, rest⟩ := cut
    rw [hcut, Option.map_some] at hsplit
    rw [replaceMarker_of_some (by simp) hcut, replaceMarker_of_some (by simp) hsplit]
    simp

lemma replaceMarker_marker {marker : List Char} (hm : marker ≠ []) (replacement text : List Char) :
    replaceMarker marker replacement (marker ++ text) =
      replacement ++ replaceMarker marker replacement text := by
  rw [replaceMarker_of_some hm (splitAtMarker?_marker hm text), List.nil_append]

end ViewTemplate.Text

namespace ViewTemplate

/-! ## Bodies of definitions -/

/-- A piece of the definition of a part: a place for the outer definition, or a text without the
control character that places start with. -/
inductive PartPiece where
  | place
  | fragment (text : String) (clean : '\x01' ∉ text.toList)

/-- What the definition of a part consists of. -/
abbrev PartBody := List PartPiece

/-- A body with a text in each of its places. -/
def PartBody.filled (outer : List Char) : PartBody → List Char
  | [] => []
  | .place :: rest => outer ++ filled outer rest
  | .fragment text _ :: rest => text.toList ++ filled outer rest

/-- A body as a template writes it. -/
def PartBody.text (body : PartBody) : String :=
  String.ofList (PartBody.filled parentPlace.toList body)

/-- The nearest body with the outer ones in its places; the places of the last one are empty. -/
def PartBody.nested : List PartBody → List Char
  | [] => []
  | body :: outer => PartBody.filled (nested outer) body

namespace PartBody

/-- A body with the pieces of another one in each of its places. -/
def replaced (outer : PartBody) : PartBody → PartBody
  | [] => []
  | .place :: rest => outer ++ replaced outer rest
  | .fragment text clean :: rest => .fragment text clean :: replaced outer rest

lemma filled_append (outer : List Char) (front back : PartBody) :
    filled outer (front ++ back) = filled outer front ++ filled outer back := by
  induction front with
  | nil => rfl
  | cons piece front ih =>
    cases piece with
    | place => simp [filled, ih]
    | fragment text clean => simp [filled, ih]

/-- Filling is associative. -/
lemma filled_replaced (text : List Char) (outer body : PartBody) :
    filled text (replaced outer body) = filled (filled text outer) body := by
  induction body with
  | nil => rfl
  | cons piece rest ih =>
    cases piece with
    | place => rw [replaced, filled_append, ih, filled]
    | fragment text clean => rw [replaced, filled, ih, filled]

/-- Replacing the marker in the text of a body fills the places of the body. -/
lemma fillPlace_text (body : PartBody) (outer : List Char) :
    PartTable.fillPlace body.text.toList outer = filled outer body := by
  unfold PartTable.fillPlace text
  rw [String.toList_ofList]
  induction body with
  | nil => exact Text.replaceMarker_of_none rfl outer
  | cons piece rest ih =>
    cases piece with
    | place =>
      have hne : parentPlace.toList ≠ [] := by decide
      rw [filled, Text.replaceMarker_marker hne, ih, filled]
    | fragment text clean =>
      rw [filled, filled, ← ih]
      exact Text.replaceMarker_append _ clean outer _

/-- It does not matter that filling stops at a text without places: the definitions further out
would change nothing. -/
lemma fillPlaces_eq_foldl (text : List Char) (outer : List (List Char)) :
    PartTable.fillPlaces text outer = outer.foldl PartTable.fillPlace text := by
  have hstays {text : List Char} (h : ¬Text.hasMarker parentPlace.toList text = true)
      (next : List Char) : PartTable.fillPlace text next = text :=
    Text.replaceMarker_of_none (Text.splitAtMarker?_eq_none_iff.2 h) next
  induction outer generalizing text with
  | nil => rfl
  | cons next outer ih =>
    rw [PartTable.fillPlaces, List.foldl_cons]
    split
    · exact ih _
    · rename_i hplace
      rw [hstays hplace]
      exact (List.foldl_fixed' (hstays hplace) outer).symm

/-- Filling the outer definitions in one after the other gives the nested text. -/
lemma compose_text (body : PartBody) (outer : List PartBody) :
    PartTable.compose body.text.toList (outer.map fun b => b.text.toList) =
      nested (body :: outer) := by
  rw [PartTable.compose, fillPlaces_eq_foldl]
  induction outer generalizing body with
  | nil => exact fillPlace_text body []
  | cons next outer ih =>
    have hstep : PartTable.fillPlace body.text.toList next.text.toList =
        (replaced next body).text.toList := by
      rw [fillPlace_text, text, text, String.toList_ofList, String.toList_ofList, filled_replaced]
    rw [List.map_cons, List.foldl_cons, hstep, ih, nested, filled_replaced, nested, nested]

end PartBody

/-! ## Definitions in order -/

/-- One definition of a part. -/
structure PartDefinition where
  name : String
  generation : Nat
  body : PartBody

/-- The definitions of a part in one generation, in the order in which they were made. -/
def PartDefinition.of (ds : List PartDefinition) (name : String) (generation : Nat) :
    List PartDefinition :=
  ds.filter fun d => d.name = name ∧ d.generation = generation

/-- The latest body of a part in a generation. -/
def PartDefinition.latest? (ds : List PartDefinition) (name : String) (generation : Nat) :
    Option PartBody :=
  (PartDefinition.of ds name generation).getLast?.map (·.body)

/-- The generations that define a part, in ascending order. -/
def PartDefinition.generations (ds : List PartDefinition) (name : String) : List Nat :=
  ((ds.filter (·.name = name)).map (·.generation)).toFinset.sort

/-- The latest bodies of a part, one for each generation, the nearest first. -/
def PartDefinition.latestBodies (ds : List PartDefinition) (name : String) : List PartBody :=
  (PartDefinition.generations ds name).filterMap (PartDefinition.latest? ds name)

/-- The table after definitions made in order. -/
def PartTable.after (ds : List PartDefinition) : PartTable :=
  ds.foldl (fun table d => table.define d.name d.generation d.body.text) {}

namespace PartTable

lemma after_concat (ds : List PartDefinition) (d : PartDefinition) :
    after (ds ++ [d]) = (after ds).define d.name d.generation d.body.text := by
  rw [after, List.foldl_append]
  rfl

lemma definitions_define_self (table : PartTable) (name : String) (generation : Nat)
    (text : String) :
    (table.define name generation text).definitions name =
      insertDefinition generation text (table.definitions name) := by
  rw [definitions, define, Bindings.find?_bind_self]
  rfl

lemma definitions_define_of_ne (table : PartTable) {name other : String} (h : other ≠ name)
    (generation : Nat) (text : String) :
    (table.define name generation text).definitions other = table.definitions other := by
  rw [definitions, define, Bindings.find?_bind_of_ne _ _ h]
  rfl

/-- Definitions in ascending order of their generations, each with one definition. -/
def Ascending (rows : List (Nat × String)) : Prop :=
  rows.Pairwise fun a b => a.1 < b.1

/-- A new definition replaces that of its own generation and no other. -/
lemma mem_insertDefinition {rows : List (Nat × String)} (h : Ascending rows) (generation : Nat)
    (text : String) (row : Nat × String) :
    row ∈ insertDefinition generation text rows ↔
      row = (generation, text) ∨ (row ∈ rows ∧ row.1 ≠ generation) := by
  induction rows with
  | nil => simp [insertDefinition]
  | cons first rest ih =>
    obtain ⟨g, t⟩ := first
    obtain ⟨hfirst, hrest⟩ := List.pairwise_cons.1 h
    have hlater : row ∈ rest → g < row.1 := fun hrow => hfirst row hrow
    have hinner := ih hrest
    unfold insertDefinition
    split
    · grind
    · split
      · grind
      · grind

lemma ascending_insertDefinition {rows : List (Nat × String)} (h : Ascending rows)
    (generation : Nat) (text : String) : Ascending (insertDefinition generation text rows) := by
  induction rows with
  | nil => exact List.pairwise_singleton _ _
  | cons first rest ih =>
    obtain ⟨g, t⟩ := first
    obtain ⟨hfirst, hrest⟩ := List.pairwise_cons.1 h
    unfold insertDefinition
    split
    · rename_i hlt
      refine List.pairwise_cons.2 ⟨fun row hrow => ?_, h⟩
      rcases List.mem_cons.1 hrow with rfl | hrow
      · exact hlt
      · exact hlt.trans (hfirst row hrow)
    · split
      · rename_i heq
        subst heq
        exact List.pairwise_cons.2 ⟨hfirst, hrest⟩
      · -- the definition goes in further on, and what is put there is above the first row
        rename_i hlt hne
        refine List.pairwise_cons.2 ⟨fun row hrow => ?_, ih hrest⟩
        rcases (mem_insertDefinition hrest generation text row).1 hrow with rfl | ⟨hrow, -⟩
        · exact Nat.lt_of_le_of_ne (Nat.le_of_not_lt hlt) (Ne.symm hne)
        · exact hfirst row hrow

/-- The definitions that a table keeps of a part are the latest texts of its generations. -/
structure Keeps (rows : List (Nat × String)) (latest? : Nat → Option PartBody) : Prop where
  ascending : Ascending rows
  mem_iff : ∀ row, row ∈ rows ↔ ∃ body, latest? row.1 = some body ∧ body.text = row.2

/-- A definition takes the place of the latest one of its generation. -/
lemma Keeps.insertDefinition {rows : List (Nat × String)} {latest? : Nat → Option PartBody}
    (h : Keeps rows latest?) (generation : Nat) (body : PartBody) :
    Keeps (PartTable.insertDefinition generation body.text rows)
      (Function.update latest? generation (some body)) where
  ascending := ascending_insertDefinition h.ascending generation body.text
  mem_iff row := by
    rw [mem_insertDefinition h.ascending, h.mem_iff]
    obtain ⟨g, t⟩ := row
    by_cases hg : g = generation
    · subst hg
      simp [eq_comm]
    · simp [hg]

end PartTable

namespace PartDefinition

open PartTable (Keeps)

lemma latest?_concat (ds : List PartDefinition) (d : PartDefinition) (name : String) :
    latest? (ds ++ [d]) name =
      if d.name = name then Function.update (latest? ds name) d.generation (some d.body)
      else latest? ds name := by
  funext generation
  by_cases hname : d.name = name
  · by_cases hgeneration : generation = d.generation
    · subst hgeneration
      simp [latest?, of, hname, List.filter_append]
    · have hne : d.generation ≠ generation := fun h => hgeneration h.symm
      simp [latest?, of, hname, hne, hgeneration, List.filter_append]
  · simp [latest?, of, hname, List.filter_append]

/-- The table keeps the latest text of every generation. -/
lemma keeps_after (ds : List PartDefinition) (name : String) :
    Keeps ((PartTable.after ds).definitions name) (latest? ds name) := by
  induction ds using List.reverseRecOn with
  | nil =>
    refine ⟨List.Pairwise.nil, fun row => ?_⟩
    simp [PartTable.after, PartTable.definitions, Bindings.find?, latest?, of]
  | append_singleton ds d ih =>
    rw [PartTable.after_concat, latest?_concat]
    by_cases hname : d.name = name
    · subst hname
      rw [PartTable.definitions_define_self, if_pos rfl]
      exact ih.insertDefinition d.generation d.body
    · rw [PartTable.definitions_define_of_ne _ (Ne.symm hname), if_neg hname]
      exact ih

lemma mem_generations {ds : List PartDefinition} {name : String} {generation : Nat} :
    generation ∈ generations ds name ↔ ∃ body, latest? ds name generation = some body := by
  have hlatest : (∃ body, latest? ds name generation = some body) ↔ of ds name generation ≠ [] := by
    rw [← Option.isSome_iff_exists, latest?, Option.isSome_map, Option.isSome_iff_ne_none, ne_eq,
      List.getLast?_eq_none_iff]
  rw [hlatest]
  simp [generations, of, and_assoc]

lemma pairwise_generations (ds : List PartDefinition) (name : String) :
    (generations ds name).Pairwise (· < ·) :=
  (Finset.sortedLT_sort _).pairwise

/-- The table has one definition for each generation that defines the part. -/
lemma map_fst_definitions (ds : List PartDefinition) (name : String) :
    ((PartTable.after ds).definitions name).map (·.1) = generations ds name := by
  have hkeeps := keeps_after ds name
  have hascending : (((PartTable.after ds).definitions name).map (·.1)).Pairwise (· < ·) :=
    List.pairwise_map.2 hkeeps.ascending
  refine hascending.eq_of_mem_iff (pairwise_generations ds name) fun generation => ?_
  rw [mem_generations, List.mem_map]
  constructor
  · rintro ⟨row, hrow, rfl⟩
    obtain ⟨body, hlatest, -⟩ := (hkeeps.mem_iff row).1 hrow
    exact ⟨body, hlatest⟩
  · rintro ⟨body, hlatest⟩
    exact ⟨(generation, body.text), (hkeeps.mem_iff _).2 ⟨body, hlatest, rfl⟩, rfl⟩

lemma map_snd_definitions (ds : List PartDefinition) (name : String) :
    ((PartTable.after ds).definitions name).map (·.2) =
      (latestBodies ds name).map PartBody.text := by
  have hkeeps := keeps_after ds name
  have htexts : ∀ row ∈ (PartTable.after ds).definitions name,
      (latest? ds name row.1).map PartBody.text = some row.2 := by
    intro row hrow
    obtain ⟨body, hlatest, htext⟩ := (hkeeps.mem_iff row).1 hrow
    rw [hlatest, Option.map_some, htext]
  calc ((PartTable.after ds).definitions name).map (·.2)
      = ((PartTable.after ds).definitions name).filterMap fun row =>
          (latest? ds name row.1).map PartBody.text := by
        rw [List.filterMap_congr htexts, List.filterMap_eq_map']
    _ = (((PartTable.after ds).definitions name).map (·.1)).filterMap fun generation =>
          (latest? ds name generation).map PartBody.text := by
        rw [List.filterMap_map]
        rfl
    _ = (latestBodies ds name).map PartBody.text := by
        rw [map_fst_definitions, latestBodies, List.map_filterMap]

lemma latest?_congr {ds ds' : List PartDefinition} {generation : Nat}
    (h : ds'.filter (·.generation = generation) = ds.filter (·.generation = generation))
    (name : String) : latest? ds' name generation = latest? ds name generation := by
  have hof : ∀ es : List PartDefinition,
      of es name generation = (es.filter (·.generation = generation)).filter (·.name = name) := by
    intro es
    rw [of, List.filter_filter]
    congr 1
    funext d
    simp
  rw [latest?, latest?, hof, hof, h]

/-- The latest bodies of a part do not depend on the order of different generations. -/
lemma latestBodies_congr {ds ds' : List PartDefinition} (h : ∀ generation,
      ds'.filter (·.generation = generation) = ds.filter (·.generation = generation))
    (name : String) : latestBodies ds' name = latestBodies ds name := by
  have hlatest : latest? ds' name = latest? ds name :=
    funext fun generation => latest?_congr (h generation) name
  have hgenerations : generations ds' name = generations ds name := by
    refine (pairwise_generations ds' name).eq_of_mem_iff (pairwise_generations ds name)
      fun generation => ?_
    rw [mem_generations, mem_generations, hlatest]
  rw [latestBodies, latestBodies, hgenerations, hlatest]

lemma latestBodies_eq_nil {ds : List PartDefinition} {name : String} (h : ∀ d ∈ ds, d.name ≠ name) :
    latestBodies ds name = [] := by
  have hnone : ds.filter (·.name = name) = [] := by simpa using h
  rw [latestBodies, generations, hnone]
  simp

end PartDefinition

namespace PartTable

open PartDefinition (latestBodies)

lemma resolve_of_texts {table : PartTable} {name : String} {bodies : List PartBody}
    (h : (table.definitions name).map (·.2) = bodies.map PartBody.text) :
    table.resolve name = String.ofList (PartBody.nested bodies) := by
  unfold resolve
  cases hrows : table.definitions name with
  | nil =>
    rw [hrows, List.map_nil, eq_comm, List.map_eq_nil_iff] at h
    rw [h]
    rfl
  | cons row rest =>
    obtain ⟨generation, nearest⟩ := row
    rw [hrows] at h
    cases bodies with
    | nil => simp at h
    | cons body outer =>
      obtain ⟨rfl, houter⟩ := List.cons.inj h
      have htexts : (rest.map fun row => row.2.toList) = outer.map fun b => b.text.toList := by
        calc (rest.map fun row => row.2.toList)
            = (rest.map (·.2)).map String.toList := by rw [List.map_map]; rfl
          _ = outer.map fun b => b.text.toList := by rw [houter, List.map_map]; rfl
      rw [← PartBody.compose_text, ← htexts]

lemma resolve_after_eq (ds : List PartDefinition) (name : String) :
    (after ds).resolve name = String.ofList (PartBody.nested (latestBodies ds name)) :=
  resolve_of_texts (PartDefinition.map_snd_definitions ds name)

/-- **Parts compose across generations.**  Whatever was defined, the text of a part is its nearest
latest body with the next outer one in each place, and so on outwards; a part that was not defined
is empty; and the order in which different generations made their definitions does not matter. -/
theorem resolve_after (ds : List PartDefinition) (name : String) :
    (after ds).resolve name = String.ofList (PartBody.nested (latestBodies ds name)) ∧
    ((∀ d ∈ ds, d.name ≠ name) → (after ds).resolve name = "") ∧
    ∀ ds' : List PartDefinition,
      (∀ generation,
        ds'.filter (·.generation = generation) = ds.filter (·.generation = generation)) →
      (after ds').resolve name = (after ds).resolve name := by
  refine ⟨resolve_after_eq ds name, fun hundefined => ?_, fun ds' hsame => ?_⟩
  · rw [resolve_after_eq, PartDefinition.latestBodies_eq_nil hundefined]
    rfl
  · rw [resolve_after_eq, resolve_after_eq, PartDefinition.latestBodies_congr hsame]

/-- Three generations, defined from the outermost to the nearest and the other way round; the
nearest one is defined twice. -/
theorem resolve_after_three :
    (after [⟨"foo", 2, [.fragment "bar" (by decide)]⟩, ⟨"foo", 0, [.fragment "old" (by decide)]⟩,
      ⟨"foo", 1, [.place, .fragment "baz" (by decide)]⟩,
      ⟨"foo", 0, [.fragment "blah" (by decide), .place]⟩]).resolve "foo" = "blahbarbaz" ∧
    (after [⟨"foo", 0, [.fragment "old" (by decide)]⟩,
      ⟨"foo", 0, [.fragment "blah" (by decide), .place]⟩,
      ⟨"foo", 1, [.place, .fragment "baz" (by decide)]⟩,
      ⟨"foo", 2, [.fragment "bar" (by decide)]⟩]).resolve "foo" = "blahbarbaz" ∧
    (after [⟨"foo", 2, [.fragment "bar" (by decide)]⟩]).resolve "side" = "" := by
  have hfoo : (after [⟨"foo", 2, [.fragment "bar" (by decide)]⟩,
      ⟨"foo", 0, [.fragment "old" (by decide)]⟩,
      ⟨"foo", 1, [.place, .fragment "baz" (by decide)]⟩,
      ⟨"foo", 0, [.fragment "blah" (by decide), .place]⟩]).resolve "foo" = "blahbarbaz" := by
    decide +kernel
  refine ⟨hfoo, ?_, (resolve_after _ "side").2.1 (by decide)⟩
  rw [← hfoo]
  refine (resolve_after _ "foo").2.2 _ fun generation => ?_
  rcases generation with _ | _ | _ | n <;> simp

end PartTable

end ViewTemplate
