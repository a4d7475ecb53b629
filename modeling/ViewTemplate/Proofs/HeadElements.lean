import Mathlib.Data.List.Basic
import Mathlib.Tactic.Common
import ViewTemplate.Page.Head
import ViewTemplate.Proofs.EscapedMarkup
import ViewTemplate.Proofs.Readers

/-!
# The markup of a page head

What a function for the page head writes is fixed markup with contents in its gaps.  The arguments
of the call choose the contents and, where every path has an element of its own, the number of
elements; they do not reach the markup itself.

`Element` is the markup without its contents, and `Element.contents` the texts that the arguments
ask for, before they are escaped.  `writes_of_call` says of every function and of all arguments that
it accepts that it writes its element once for each row of contents, every text escaped once.
Escaped text has no mark of its own, so all marks of the result are those of the element
(`marks_written`).
-/

namespace ViewTemplate.Head

open ViewTemplate.Script (bind_eq_ok_iff)
open ViewTemplate.Text (entity escapeMarkup notMem_entity toList_escapeMarkup)

/-! ## Elements -/

/-- The values a function is given in its first argument: the items of a list, or one value. -/
def paths (args : List Value) : List Value :=
  match args.head? with
  | some (.list items) => items
  | some v => [v]
  | none => []

lemma paths_of_list {args items : List Value} (h : args.head? = some (.list items)) :
    paths args = items := by
  rw [paths, h]

lemma paths_of_ne {args : List Value} {v : Value} (hv : ∀ items, v ≠ .list items)
    (h : args.head? = some v) : paths args = [v] := by
  rw [paths, h]
  cases v with
  | list items => exact absurd rfl (hv items)
  | _ => rfl

/-- The type of scripts: the second argument, if there is one. -/
def scriptType (args : List Value) : String :=
  match args[1]? with
  | some v => v.display
  | none => "text/javascript"

/-- Where the contents of elements come from. -/
inductive Contents where
  /-- One element has the first arguments, as many as it has gaps. -/
  | arguments
  /-- One element has all paths, joined by commas. -/
  | joinedPaths
  /-- There is an element for each path. -/
  | eachPath
  /-- There is an element for each path, and each has the type of the scripts too. -/
  | eachScript
  deriving Repr, DecidableEq

/-- The number of elements that are written for a number of paths. -/
def Contents.copies : Contents → Nat → Nat
  | arguments, _ => 1
  | joinedPaths, _ => 1
  | eachPath, paths => paths
  | eachScript, paths => paths

/-- An element without its contents: its first fixed text, and the fixed text behind each of its
gaps. -/
structure Element where
  opening : String
  behind : List String
  source : Contents
  deriving Repr, DecidableEq

namespace Element

/-- The element with texts in its gaps. -/
def fill (e : Element) (texts : List String) : String :=
  e.opening ++ String.join (List.zipWith (· ++ ·) texts e.behind)

/-- What stands in the gaps of each element that is written, as it is shown and not yet escaped. -/
def contents (e : Element) (args : List Value) : List (List String) :=
  match e.source with
  | .arguments => [(args.take e.behind.length).map Value.display]
  | .joinedPaths => [[String.intercalate "," ((paths args).map Value.display)]]
  | .eachPath => (paths args).map fun path => [path.display]
  | .eachScript => (paths args).map fun path => [scriptType args, path.display]

/-- The elements, one below the other, every text in them escaped. -/
def written (e : Element) (args : List Value) : String :=
  String.intercalate "\n" ((e.contents args).map fun texts => e.fill (texts.map escapeMarkup))

end Element

/-- The elements by the names of the functions that write them. -/
def elements : Bindings Element :=
  [("charset", ⟨"<meta charset=\"", ["\">"], .arguments⟩),
    ("css", ⟨"<link href=\"", ["\" rel=\"stylesheet\">"], .eachPath⟩),
    ("favicon", ⟨"<link href=\"", ["\" rel=\"shortcut icon\">"], .arguments⟩),
    ("http_equiv", ⟨"<meta http-equiv=\"", ["\" content=\"", "\">"], .arguments⟩),
    ("meta_description", ⟨"<meta name=\"description\" content=\"", ["\">"], .arguments⟩),
    ("meta_keywords", ⟨"<meta name=\"keywords\" content=\"", ["\">"], .joinedPaths⟩),
    ("page_title", ⟨"<title>", ["</title>"], .arguments⟩),
    ("script", ⟨"<script type=\"", ["\" src=\"", "\"></script>"], .eachScript⟩)]

/-! ## Marks -/

/-- The characters of a text that open or close something in markup, in their order. -/
def marks (text : String) : List Char :=
  text.toList.filter fun c => ['<', '>', '"'].contains c

/-- The marks of an element without its contents. -/
def Element.marks (e : Element) : List Char :=
  Head.marks e.opening ++ e.behind.flatMap Head.marks

lemma marks_append (s t : String) : marks (s ++ t) = marks s ++ marks t := by
  rw [marks, String.toList_append, List.filter_append]
  rfl

lemma notMem_escapeMarkup {c : Char} (h : c ∈ ['<', '>', '"', '\'']) (s : String) :
    c ∉ (escapeMarkup s).toList := by
  intro hmem
  rw [toList_escapeMarkup] at hmem
  obtain ⟨d, -, hd⟩ := List.mem_flatMap.1 hmem
  exact notMem_entity h hd

lemma marks_escapeMarkup (s : String) : marks (escapeMarkup s) = [] := by
  rw [marks, List.filter_eq_nil_iff]
  intro c hc hmark
  have hmem : c ∈ ['<', '>', '"'] := by simpa using hmark
  exact notMem_escapeMarkup (List.mem_append_left ['\''] hmem) s hc

/-- Lines below one another have the marks of each line. -/
lemma marks_intercalate (lines : List String) :
    marks (String.intercalate "\n" lines) = lines.flatMap marks := by
  induction lines with
  | nil => simp [marks]
  | cons line lines ih =>
    by_cases hlast : lines = []
    · simp [hlast]
    · have hbreak : marks "\n" = [] := by decide
      rw [String.intercalate_cons_of_ne_nil hlast, marks_append, marks_append, ih, hbreak,
        List.append_nil, List.flatMap_cons]

/-- Escaped texts between fixed texts add no marks to them. -/
lemma marks_join {texts behind : List String} (h : texts.length = behind.length) :
    marks (String.join (List.zipWith (· ++ ·) (texts.map escapeMarkup) behind)) =
      behind.flatMap marks := by
  induction behind generalizing texts with
  | nil => simp [marks]
  | cons fixed behind ih =>
    obtain ⟨text, texts, rfl⟩ := List.exists_cons_of_length_eq_add_one h
    have hrest : texts.length = behind.length := Nat.succ.inj h
    rw [List.map_cons, List.zipWith_cons_cons, String.join_cons, marks_append, marks_append,
      marks_escapeMarkup, ih hrest, List.nil_append, List.flatMap_cons]

lemma marks_fill (e : Element) {texts : List String} (h : texts.length = e.behind.length) :
    marks (e.fill (texts.map escapeMarkup)) = e.marks := by
  rw [Element.fill, marks_append, marks_join h, Element.marks]

lemma length_contents (e : Element) (args : List Value) :
    (e.contents args).length = e.source.copies (paths args).length := by
  unfold Element.contents
  split <;> rename_i hsource <;> simp [hsource, Contents.copies]

/-- The marks of what is written are those of the element, once for each copy of it. -/
lemma marks_written (e : Element) {args : List Value}
    (h : ∀ texts ∈ e.contents args, texts.length = e.behind.length) :
    marks (e.written args) =
      (List.replicate (e.source.copies (paths args).length) e.marks).flatten := by
  have hrows : (e.contents args).map (fun texts => marks (e.fill (texts.map escapeMarkup))) =
      (e.contents args).map fun _ => e.marks :=
    List.map_congr_left fun texts htexts => marks_fill e (h texts htexts)
  rw [Element.written, marks_intercalate, List.flatMap_def, List.map_map, ← length_contents,
    ← List.map_const']
  exact congrArg List.flatten hrows

/-! ## What the functions write -/

/-- What a function that has succeeded wrote: its element, in every gap of it a text. -/
def Writes (e : Element) (args : List Value) (v : Value) : Prop :=
  v = .text (e.written args) ∧ ∀ texts ∈ e.contents args, texts.length = e.behind.length

lemma textArg_eq_ok {function text : String} {args : List Value} {position : Nat}
    (h : textArg function args position = .ok text) :
    ∃ v, args[position]? = some v ∧ text = escaped v := by
  unfold textArg at h
  split at h
  iterate 3 cases h
  rename_i v _ _ hv
  exact ⟨v, hv, (Except.ok.inj h).symm⟩

lemma textArgs_eq_ok {function : String} {args : List Value} {texts : List String}
    (h : textArgs function args = .ok texts) : texts = (paths args).map escaped := by
  unfold textArgs at h
  split at h
  · rename_i items hitems
    rw [paths_of_list hitems, Except.ok.inj h]
  · rename_i first hlist hfirst
    cases htext : textArg function args 0 with
    | error reason => simp [htext, Except.map] at h
    | ok text =>
      obtain ⟨v, hv, rfl⟩ := textArg_eq_ok htext
      rw [← List.head?_eq_getElem?, hfirst] at hv
      obtain rfl := Option.some.inj hv
      have hone : [escaped first] = texts := by
        simpa only [htext, Except.map, Except.ok.injEq] using h
      rw [paths_of_ne hlist hfirst, ← hone, List.map_singleton]
  · cases h

lemma writes_of_textArg {function opening closing : String} {args : List Value} {v : Value}
    (h : (do
      let text ← textArg function args 0
      Except.ok (Value.text (opening ++ text ++ closing))) = .ok v) :
    Writes ⟨opening, [closing], .arguments⟩ args v := by
  obtain ⟨text, htext, hv⟩ := bind_eq_ok_iff.1 h
  obtain ⟨first, hfirst, rfl⟩ := textArg_eq_ok htext
  have htake : args.take 1 = [first] := by
    rw [List.take_one, List.head?_eq_getElem?, hfirst]
    rfl
  refine ⟨?_, by simp [Element.contents, htake]⟩
  rw [← Except.ok.inj hv]
  simp [Element.written, Element.contents, Element.fill, htake, escaped, String.append_assoc]

lemma writes_httpEquiv {args : List Value} {v : Value} (h : httpEquiv args = .ok v) :
    Writes ⟨"<meta http-equiv=\"", ["\" content=\"", "\">"], .arguments⟩ args v := by
  obtain ⟨name, hname, h⟩ := bind_eq_ok_iff.1 h
  obtain ⟨content, hcontent, hv⟩ := bind_eq_ok_iff.1 h
  obtain ⟨first, hfirst, rfl⟩ := textArg_eq_ok hname
  obtain ⟨second, hsecond, rfl⟩ := textArg_eq_ok hcontent
  have htake : args.take 2 = [first, second] := by
    rw [List.take_add_one, List.take_one, List.head?_eq_getElem?, hfirst, hsecond]
    rfl
  refine ⟨?_, by simp [Element.contents, htake]⟩
  rw [← Except.ok.inj hv]
  simp [Element.written, Element.contents, Element.fill, htake, escaped, String.append_assoc]

/-- Escaping part by part is escaping the whole, and a comma stays as it is. -/
lemma escapeMarkup_intercalate (texts : List String) :
    escapeMarkup (String.intercalate "," texts) =
      String.intercalate "," (texts.map escapeMarkup) := by
  induction texts with
  | nil => decide
  | cons text texts ih =>
    by_cases hlast : texts = []
    · simp [hlast]
    · have hmore : texts.map escapeMarkup ≠ [] := by simpa using hlast
      have hcomma : ",".toList.flatMap entity = ",".toList := by decide
      rw [List.map_cons, String.intercalate_cons_of_ne_nil hlast,
        String.intercalate_cons_of_ne_nil hmore, ← ih, ← String.toList_inj]
      simp only [toList_escapeMarkup, String.toList_append, List.flatMap_append, hcomma]

lemma writes_metaKeywords {args : List Value} {v : Value} (h : metaKeywords args = .ok v) :
    Writes ⟨"<meta name=\"keywords\" content=\"", ["\">"], .joinedPaths⟩ args v := by
  obtain ⟨keywords, hkeywords, hv⟩ := bind_eq_ok_iff.1 h
  refine ⟨?_, by simp [Element.contents]⟩
  rw [← Except.ok.inj hv, textArgs_eq_ok hkeywords]
  simp [Element.written, Element.contents, Element.fill, escapeMarkup_intercalate,
    String.append_assoc]
  rfl

lemma writes_css {args : List Value} {v : Value} (h : css args = .ok v) :
    Writes ⟨"<link href=\"", ["\" rel=\"stylesheet\">"], .eachPath⟩ args v := by
  obtain ⟨texts, htexts, hv⟩ := bind_eq_ok_iff.1 h
  refine ⟨?_, by simp [Element.contents]⟩
  rw [← Except.ok.inj hv, textArgs_eq_ok htexts]
  simp [Element.written, Element.contents, Element.fill, joinLines, escaped, Function.comp_def,
    String.append_assoc]

/-- The type of scripts is escaped like any other text, and the type they have by default stays as
it is. -/
lemma writes_script {args : List Value} {v : Value} (h : script args = .ok v) :
    Writes ⟨"<script type=\"", ["\" src=\"", "\"></script>"], .eachScript⟩ args v := by
  obtain ⟨texts, htexts, hv⟩ := bind_eq_ok_iff.1 h
  refine ⟨?_, by simp [Element.contents]⟩
  obtain ⟨kind, hkind, rfl⟩ : ∃ kind, kind = escapeMarkup (scriptType args) ∧
      joinLines (texts.map fun path =>
        "<script type=\"" ++ kind ++ "\" src=\"" ++ path ++ "\"></script>") = v := by
    refine ⟨_, ?_, Except.ok.inj hv⟩
    unfold scriptType
    cases args[1]? with
    | none => decide
    | some kind => rfl
  rw [hkind, textArgs_eq_ok htexts]
  simp [Element.written, Element.contents, Element.fill, joinLines, escaped, Function.comp_def,
    String.append_assoc]

/-! ## Calls -/

lemma call_eq_ok {functions : ViewFunctions} {name : String} {args : List Value} {v : Value}
    (h : functions.call name args = .ok v) : ∃ run, (name, run) ∈ functions ∧ run args = .ok v := by
  unfold ViewFunctions.call at h
  split at h
  · cases h
  · rename_i run hrun
    refine ⟨run, Bindings.mem_of_find? hrun, ?_⟩
    split at h
    · rename_i w hw
      rw [hw, Except.ok.inj h]
    · cases h

lemma writes_of_call {name : String} {args : List Value} {v : Value}
    (h : ViewFunctions.call functions name args = .ok v) :
    ∃ e, Bindings.find? elements name = some e ∧ Writes e args v := by
  obtain ⟨run, hmem, hrun⟩ := call_eq_ok h
  simp only [functions, List.mem_cons, List.not_mem_nil, or_false, Prod.mk.injEq] at hmem
  rcases hmem with ⟨rfl, rfl⟩ | ⟨rfl, rfl⟩ | ⟨rfl, rfl⟩ | ⟨rfl, rfl⟩ | ⟨rfl, rfl⟩ | ⟨rfl, rfl⟩ |
    ⟨rfl, rfl⟩ | ⟨rfl, rfl⟩
  · exact ⟨_, rfl, writes_of_textArg hrun⟩
  · exact ⟨_, rfl, writes_css hrun⟩
  · exact ⟨_, rfl, writes_of_textArg hrun⟩
  · exact ⟨_, rfl, writes_httpEquiv hrun⟩
  · exact ⟨_, rfl, writes_of_textArg hrun⟩
  · exact ⟨_, rfl, writes_metaKeywords hrun⟩
  · exact ⟨_, rfl, writes_of_textArg hrun⟩
  · exact ⟨_, rfl, writes_script hrun⟩

/-- **The elements of a page head cannot be broken out of.**  A function that succeeds gives copies
of its element, one below the other, with a text in every gap; the texts are those that the
arguments ask for, escaped, and so they have no character that opens or closes something.  The marks
of the result are those of the element as often as it was written, which the function and the number
of paths decide; two calls with as many paths give the same marks, whatever else their arguments
are. -/
theorem head_markup_is_fixed {name : String} {args : List Value} {v : Value}
    (h : ViewFunctions.call functions name args = .ok v) :
    ∃ e, Bindings.find? elements name = some e ∧
      v = .text (String.intercalate "\n"
        ((e.contents args).map fun texts => e.fill (texts.map escapeMarkup))) ∧
      (e.contents args).length = e.source.copies (paths args).length ∧
      (∀ texts ∈ e.contents args, texts.length = e.behind.length ∧
        ∀ text ∈ texts, ∀ c ∈ ['<', '>', '"', '\''], c ∉ (escapeMarkup text).toList) ∧
      marks v.display =
        (List.replicate (e.source.copies (paths args).length) e.marks).flatten ∧
      ∀ others w, ViewFunctions.call functions name others = .ok w →
        (paths others).length = (paths args).length → marks w.display = marks v.display := by
  obtain ⟨e, he, rfl, hgaps⟩ := writes_of_call h
  refine ⟨e, he, rfl, length_contents e args, fun texts htexts => ⟨hgaps texts htexts, ?_⟩,
    marks_written e hgaps, ?_⟩
  · intro text _ c hc
    exact notMem_escapeMarkup hc text
  · intro others w hcall hpaths
    obtain ⟨e', he', rfl, hgaps'⟩ := writes_of_call hcall
    obtain rfl : e = e' := Option.some.inj (he.symm.trans he')
    calc marks (e.written others)
        = (List.replicate (e.source.copies (paths others).length) e.marks).flatten :=
          marks_written e hgaps'
      _ = (List.replicate (e.source.copies (paths args).length) e.marks).flatten := by rw [hpaths]
      _ = marks (e.written args) := (marks_written e hgaps).symm

/-- Two paths, one of them a map, and a type, all of which try to end the element. -/
def hostileArgs : List Value :=
  [.list [.text "a\"><b>", .map [("k", .text "'")]], .text "\"'"]

/-- Two elements are written, and the marks are theirs. -/
theorem head_markup_is_fixed_hostile :
    ∃ v, ViewFunctions.call functions "script" hostileArgs = .ok v ∧
      marks v.display = "<\"\"\"\"><><\"\"\"\"><>".toList := by
  have hcall : ViewFunctions.call functions "script" hostileArgs = .ok (joinLines [
    "<script type=\"&quot;&#x27;\" src=\"a&quot;&gt;&lt;b&gt;\"></script>",
    "<script type=\"&quot;&#x27;\" src=\"\x7b&quot;k&quot;:&quot;&#x27;&quot;\x7d\"></script>"]) :=
    rfl
  obtain ⟨e, he, -, -, -, hmarks, -⟩ := head_markup_is_fixed hcall
  obtain rfl := Option.some.inj he
  exact ⟨_, hcall, hmarks.trans (by decide)⟩

end ViewTemplate.Head
