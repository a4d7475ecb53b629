import Mathlib.Tactic.Common
import ViewTemplate.Proofs.PieceBoundaries
import ViewTemplate.Template.Scanner

/-!
# The tokens of a template tile it

Nothing of a template is lost, doubled or moved by the cut into tokens.  `Tiled` says what that
means: the text is the concatenation, in the order of the tokens, of one segment for each text token
at the top and one for each construct.  A text segment is what the token shows once escapes are
resolved (`showLiteral?`), and a construct is its opening marker, what stands inside, and its
closing marker.  `tiled_of_tokens` gets it for every template that can be cut, whatever the
delimiters.

What an escape is can depend on the text behind the segment: two backslashes at its end stand for
one only if a marker follows.  So `showLiteral?` takes that text along.
-/

namespace ViewTemplate.Template

open ViewTemplate.Script (StopsAt)
open ViewTemplate.Text (newlines trim)

/-! ## Literal text and its escapes -/

/-- How many characters of a text a backslash in front of it escapes: a backslash before a marker,
or a marker. -/
def escapes? (markers : List Marker) (text : List Char) : Option Nat :=
  if text.head? = some '\\' ∧ (opensWith? markers text.tail).isSome then some 1
  else (opensWith? markers text).map fun found => found.1.opening.length

/-- What literal text shows when `behind` follows it, unless a marker starts in it that is not
escaped.  A backslash that escapes is left out, and what it escapes is kept as it stands: the next
`keep` characters, all of which belong to the literal text. -/
def showLiteral? (markers : List Marker) (behind : List Char) :
    (keep : Nat) → List Char → Option (List Char)
  | 0, [] => some []
  | _ + 1, [] => none
  | keep + 1, c :: raw => (showLiteral? markers behind keep raw).map (c :: ·)
  | 0, c :: raw =>
    match (if c = '\\' then escapes? markers (raw ++ behind) else none) with
    | some n => showLiteral? markers behind n raw
    | none =>
      if (opensWith? markers (c :: (raw ++ behind))).isSome then none
      else (showLiteral? markers behind 0 raw).map (c :: ·)

lemma showLiteral?_keep (markers : List Marker) (behind front raw : List Char) :
    showLiteral? markers behind front.length (front ++ raw) =
      (showLiteral? markers behind 0 raw).map (front ++ ·) := by
  induction front with
  | nil => simp
  | cons c front ih =>
    rw [List.length_cons, List.cons_append, showLiteral?, ih, Option.map_map]
    rfl

lemma plain_eq_some {markers : List Marker} {c : Char} {text : List Char} {unit : TextUnit}
    (h : (match opensWith? markers (c :: text) with
      | some _ => none
      | none => some (⟨[c], [c], text⟩ : TextUnit)) = some unit) :
    opensWith? markers (c :: text) = none ∧ unit = ⟨[c], [c], text⟩ := by
  split at h
  · simp at h
  · rename_i hnone
    exact ⟨hnone, (Option.some.inj h).symm⟩

/-- A unit of literal text is an escape or one character. -/
lemma textUnit?_cases {markers : List Marker} {text : List Char} {unit : TextUnit}
    (h : textUnit? markers text = some unit) :
    (∃ front rest, text = '\\' :: (front ++ rest) ∧
      escapes? markers (front ++ rest) = some front.length ∧ unit = ⟨'\\' :: front, front, rest⟩) ∨
    ∃ c rest, text = c :: rest ∧ (c = '\\' → escapes? markers rest = none) ∧
      opensWith? markers text = none ∧ unit = ⟨[c], [c], rest⟩ := by
  cases text with
  | nil => simp [textUnit?] at h
  | cons c text =>
    simp only [textUnit?] at h
    split at h
    · rename_i hc
      subst hc
      split at h
      · -- a backslash in front of a backslash and a marker
        rename_i escaped hescaped
        obtain rfl := Option.some.inj h
        split at hescaped
        · split at hescaped
          · rename_i more hmore
            obtain rfl := Option.some.inj hescaped
            exact .inl ⟨['\\'], more, rfl, if_pos ⟨rfl, hmore⟩, rfl⟩
          · simp at hescaped
        · simp at hescaped
      · rename_i hnone
        have hslash : ¬(text.head? = some '\\' ∧ (opensWith? markers text.tail).isSome) := by
          rintro ⟨hhead, hopens⟩
          obtain ⟨more, rfl⟩ := List.head?_eq_some_iff.1 hhead
          simp_all
        split at h
        · -- a backslash in front of a marker
          rename_i m after hm
          obtain rfl := Option.some.inj h
          have htext := (opensWith?_eq_some hm).2
          subst htext
          exact .inl ⟨m.opening, after, rfl, by rw [escapes?, if_neg hslash, hm]; rfl, rfl⟩
        · -- a backslash that escapes nothing is a character like any other
          rename_i hm
          exact .inr ⟨'\\', text, rfl, fun _ => by rw [escapes?, if_neg hslash, hm]; rfl,
            plain_eq_some h⟩
    · rename_i hc
      exact .inr ⟨c, text, rfl, fun hslash => absurd hslash hc, plain_eq_some h⟩

lemma textUnit?_eq_none {markers : List Marker} {text : List Char}
    (h : textUnit? markers text = none) : text = [] ∨ (opensWith? markers text).isSome = true := by
  cases text with
  | nil => exact .inl rfl
  | cons c text =>
    right
    cases hm : opensWith? markers (c :: text) with
    | some found => rfl
    | none =>
      simp only [textUnit?, hm] at h
      split at h
      · split at h
        · simp at h
        · split at h <;> simp at h
      · simp at h

/-- A run of literal text shows its raw text with the escapes resolved. -/
lemma showLiteral?_readText (markers : List Marker) (text : List Char) :
    showLiteral? markers (readText markers text).rest 0 (readText markers text).raw =
      some (readText markers text).shown := by
  fun_induction readText markers text with
  | case1 => rfl
  | case2 text unit hunit _ run ih =>
    have hsource : run.raw ++ run.rest = unit.rest := readText_source markers unit.rest
    have hrun : showLiteral? markers run.rest 0 run.raw = some run.shown := ih
    obtain ⟨front, rest, rfl, hescapes, rfl⟩ | ⟨c, rest, rfl, hc, hopens, rfl⟩ :=
      textUnit?_cases hunit
    · rw [List.cons_append, showLiteral?, if_pos rfl, List.append_assoc, hsource, hescapes]
      simp only [showLiteral?_keep, hrun, Option.map_some]
    · have hescapes : (if c = '\\' then escapes? markers rest else none) = none := by
        split
        · exact hc ‹_›
        · rfl
      rw [List.cons_append, List.nil_append, showLiteral?, hsource, hescapes, hopens, hrun]
      rfl

lemma readText_raw_eq_nil {markers : List Marker} {text : List Char}
    (h : (readText markers text).shown = []) : (readText markers text).raw = [] := by
  revert h
  fun_cases readText markers text with
  | case1 => exact fun _ => rfl
  | case2 unit hunit _ run =>
    intro h
    exact absurd (List.append_eq_nil_iff.1 h).1 (textUnit?_eq_some hunit).2.2

lemma readText_rest (markers : List Marker) (text : List Char) :
    (readText markers text).rest = [] ∨
      (opensWith? markers (readText markers text).rest).isSome = true := by
  fun_induction readText markers text with
  | case1 text hunit => exact textUnit?_eq_none hunit
  | case2 text unit hunit _ run ih => exact ih

/-! ## Constructs -/

/-- What a construct that was read consists of. -/
inductive Construct.Spans (m : Marker) (line : Nat) : Segment → List Char → Prop
  | block {kind : BodyKind} (hm : m.construct = .body kind) (body : List Char) :
      Spans m line (.block kind m.opening body m.closing line) (body ++ m.closing)
  | directive (hm : m.construct = .directive) {lead name : List Char}
      (hlead : ∀ c ∈ lead, Text.isBlank c = true) (hname : ∀ c ∈ name, isNameChar c = true)
      (hne : name ≠ []) {body : List Char} (hbody : StopsAt isNameChar body) :
      Spans m line (.directive m.opening lead name body m.closing line)
        (lead ++ name ++ body ++ m.closing)

lemma spans_of_readBlock {m : Marker} {kind : BodyKind} (hm : m.construct = .body kind)
    {line : Nat} {text rest : List Char} {segment : Segment}
    (h : readBlock m kind line text = .ok (segment, rest)) :
    ∃ inner, Construct.Spans m line segment inner ∧ text = inner ++ rest := by
  unfold readBlock at h
  split at h
  · rename_i body _ hbody
    obtain ⟨rfl, rfl⟩ := Prod.mk.inj (Except.ok.inj h)
    exact ⟨body ++ m.closing, .block hm body, readBody_eq_ok hbody⟩
  · simp at h

lemma spans_of_readComment {m : Marker} (hm : m.construct = .body .comment) {line : Nat}
    {text rest : List Char} {segment : Segment}
    (h : readComment m line text = .ok (segment, rest)) :
    ∃ inner, Construct.Spans m line segment inner ∧ text = inner ++ rest := by
  unfold readComment at h
  split at h
  · rename_i body _ hbody
    obtain ⟨rfl, rfl⟩ := Prod.mk.inj (Except.ok.inj h)
    exact ⟨body ++ m.closing, .block hm body, Text.splitAtMarker?_eq_some hbody⟩
  · simp at h

lemma spans_of_readNamed {m : Marker} (hm : m.construct = .directive) {line : Nat}
    {lead text rest : List Char} (hlead : ∀ c ∈ lead, Text.isBlank c = true) {segment : Segment}
    (h : readNamed m line lead text = .ok (segment, rest)) :
    ∃ inner, Construct.Spans m line segment inner ∧ lead ++ text = inner ++ rest := by
  unfold readNamed at h
  split at h
  · simp at h
  split at h
  · simp at h
  rename_i hname
  split at h
  · rename_i body _ hbody
    obtain ⟨rfl, rfl⟩ := Prod.mk.inj (Except.ok.inj h)
    have hbehind := readBody_eq_ok hbody
    -- the name is taken as far as it goes, so the body does not go on with it
    have hstops : StopsAt isNameChar body := by
      intro c hc
      have hhead := List.head?_dropWhile_not isNameChar text
      obtain ⟨more, rfl⟩ := List.head?_eq_some_iff.1 hc
      rwa [hbehind] at hhead
    refine ⟨_, .directive hm hlead (fun c hc => List.mem_takeWhile_imp hc)
      (by simpa using hname) hstops, ?_⟩
    calc lead ++ text
        = lead ++ (text.takeWhile isNameChar ++ text.dropWhile isNameChar) := by
          rw [List.takeWhile_append_dropWhile]
      _ = _ := by
          rw [hbehind]
          simp
  · simp at h

/-- A construct that was read is the text it was read from. -/
lemma spans_of_readConstruct {m : Marker} {line : Nat} {text rest : List Char} {segment : Segment}
    (h : readConstruct m line text = .ok (segment, rest)) :
    ∃ inner, Construct.Spans m line segment inner ∧ text = inner ++ rest := by
  unfold readConstruct at h
  split at h
  · rename_i hm
    exact spans_of_readComment hm h
  · rename_i kind _ hm
    exact spans_of_readBlock hm h
  · rename_i hm
    obtain ⟨inner, hspans, htext⟩ :=
      spans_of_readNamed hm (fun c hc => List.mem_takeWhile_imp hc) h
    rw [List.takeWhile_append_dropWhile] at htext
    exact ⟨inner, hspans, htext⟩

/-! ## Whole templates -/

/-- The tokens tile a text: one segment for each text token at the top, and one for each construct.
A construct starts with the longest marker that fits. -/
inductive Tiled (markers : List Marker) (passes : String → Bool) : List Char → List Token → Prop
  | nil : Tiled markers passes [] []
  | text {raw behind shown : List Char} {tokens : List Token} (hne : raw ≠ [])
      (hshown : showLiteral? markers behind 0 raw = some shown)
      (hbehind : Tiled markers passes behind tokens) (line : Nat) :
      Tiled markers passes (raw ++ behind) (⟨.text, String.ofList shown, line⟩ :: tokens)
  | block {m : Marker} {kind : BodyKind} (hkind : m.construct = .body kind)
      {raw behind : List Char} {tokens : List Token}
      (hopens : opensWith? markers (m.opening ++ (raw ++ m.closing ++ behind)) =
        some (m, raw ++ m.closing ++ behind))
      (hbehind : Tiled markers passes behind tokens) (opens inside closes : Nat) :
      Tiled markers passes (m.opening ++ (raw ++ m.closing ++ behind))
        (⟨.opens (.body kind), String.ofList m.opening, opens⟩ ::
          ⟨.text, String.ofList (Script.markCalls passes (trim raw)), inside⟩ ::
          ⟨.closes (.body kind), String.ofList m.closing, closes⟩ :: tokens)
  | directive {m : Marker} (hkind : m.construct = .directive) {raw lead name body : List Char}
      (hraw : raw = lead ++ name ++ body) (hlead : ∀ c ∈ lead, Text.isBlank c = true)
      (hname : ∀ c ∈ name, isNameChar c = true) (hne : name ≠ []) (hbody : StopsAt isNameChar body)
      {behind : List Char} {tokens : List Token}
      (hopens : opensWith? markers (m.opening ++ (raw ++ m.closing ++ behind)) =
        some (m, raw ++ m.closing ++ behind))
      (hbehind : Tiled markers passes behind tokens) (opens named closes : Nat) :
      Tiled markers passes (m.opening ++ (raw ++ m.closing ++ behind))
        (⟨.opens .directive, String.ofList m.opening, opens⟩ ::
          ⟨.directiveName, String.ofList name, named⟩ ::
          (if trim body = [] then []
            else [⟨.text, String.ofList (Script.markCalls passes (trim body)), named⟩]) ++
          ⟨.closes .directive, String.ofList m.closing, closes⟩ :: tokens)

/-- The cut of a text: its front run of literal text, and then the next construct and the rest. -/
lemma segmentsFrom_eq (markers : List Marker) (line : Nat) (text : List Char) :
    segmentsFrom markers line text =
      match opensWith? markers (readText markers text).rest with
      | none => .ok (textSegment (readText markers text) line)
      | some (m, after) =>
        match readConstruct m (line + newlines (readText markers text).shown) after with
        | .error e => .error e
        | .ok (segment, rest) =>
          match segmentsFrom markers segment.lineAfter rest with
          | .error e => .error e
          | .ok segments =>
            .ok (textSegment (readText markers text) line ++ segment :: segments) := by
  rw [segmentsFrom]
  split
  · rename_i hnone
    rw [hnone]
  · rename_i m after hsome
    split
    · rename_i e herror
      simp only [hsome, herror]
    · rename_i segment rest hok
      cases hbehind : segmentsFrom markers segment.lineAfter rest <;>
        simp only [hsome, hok, hbehind]

/-- The run of literal text at the front is one tile, or none if it is empty. -/
lemma tiled_textSegment {markers : List Marker} {passes : String → Bool} {text : List Char}
    {tokens : List Token} (h : Tiled markers passes (readText markers text).rest tokens)
    (line : Nat) :
    Tiled markers passes text
      ((textSegment (readText markers text) line).flatMap (Segment.tokens passes) ++ tokens) := by
  have hsource := readText_source markers text
  unfold textSegment
  split
  · rename_i hempty
    rw [readText_raw_eq_nil (List.isEmpty_iff.1 hempty), List.nil_append] at hsource
    rw [hsource] at h
    exact h
  · rename_i hshown
    have hne : (readText markers text).raw ≠ [] := by
      intro hraw
      have hnone := showLiteral?_readText markers text
      rw [hraw, showLiteral?, Option.some.injEq] at hnone
      exact hshown (by rw [← hnone]; rfl)
    have htile := Tiled.text hne (showLiteral?_readText markers text) h line
    rw [hsource] at htile
    exact htile

lemma tiled_segment {markers : List Marker} {passes : String → Bool} {m : Marker} {line : Nat}
    {segment : Segment} {inner : List Char} (hsegment : Construct.Spans m line segment inner)
    {behind : List Char} {tokens : List Token}
    (hopens : opensWith? markers (m.opening ++ (inner ++ behind)) = some (m, inner ++ behind))
    (h : Tiled markers passes behind tokens) :
    Tiled markers passes (m.opening ++ (inner ++ behind)) (segment.tokens passes ++ tokens) := by
  cases hsegment with
  | block hkind body => exact .block hkind hopens h line line (line + newlines body)
  | @directive hkind lead name hlead hname hne body hbody =>
    have htile := Tiled.directive hkind rfl hlead hname hne hbody hopens h line
      (line + newlines lead) (line + newlines lead + newlines body)
    simpa [Segment.tokens] using htile

lemma tiled_of_segmentsFrom {markers : List Marker} (passes : String → Bool) {line : Nat}
    {text : List Char} {segments : List Segment}
    (h : segmentsFrom markers line text = .ok segments) :
    Tiled markers passes text (segments.flatMap (Segment.tokens passes)) := by
  -- What is left behind a construct is shorter than the text.
  induction hlength : text.length using Nat.strongRecOn generalizing line text segments with
  | ind length ih =>
    rw [segmentsFrom_eq] at h
    split at h
    · rename_i hnone
      obtain rfl := Except.ok.inj h
      have hrest : (readText markers text).rest = [] := by
        have hends := readText_rest markers text
        simpa [hnone] using hends
      have htile : Tiled markers passes (readText markers text).rest [] := by
        rw [hrest]
        exact .nil
      simpa using tiled_textSegment htile line
    · rename_i m after hopens
      split at h
      · simp at h
      · rename_i segment rest hread
        split at h
        · simp at h
        · rename_i others hothers
          obtain rfl := Except.ok.inj h
          have htext := (opensWith?_eq_some hopens).2
          obtain ⟨inner, hspans, hafter⟩ := spans_of_readConstruct hread
          have hshorter : rest.length < length := by
            have hlt := opensWith?_length_lt hopens
            have hle := readConstruct_length_le hread
            have hrun := readText_length_le markers text
            omega
          have htile : Tiled markers passes (readText markers text).rest
              (segment.tokens passes ++ others.flatMap (Segment.tokens passes)) := by
            rw [htext, hafter] at hopens ⊢
            exact tiled_segment hspans hopens (ih rest.length hshorter hothers rfl)
          simpa using tiled_textSegment htile line

/-- **Nothing of a template is lost, doubled or moved.**  The tokens of a template tile the text
between its blank lines. -/
theorem tiled_of_tokens {delimiters : Delimiters} {names : List String} {source : String}
    {toks : List Token} (h : tokens delimiters names source = .ok toks) :
    ∃ markers, markersOf delimiters = .ok markers ∧
      Tiled markers (passesThrough names) (Text.trimBlankLines source.toList).kept toks := by
  unfold tokens at h
  split at h
  · simp at h
  · rename_i markers hmarkers
    refine ⟨markers, hmarkers, ?_⟩
    cases hsegments : segments markers source.toList with
    | error e => simp [hsegments, Except.map] at h
    | ok cut =>
      rw [hsegments] at h
      obtain rfl := Except.ok.inj h
      exact tiled_of_segmentsFrom (passesThrough names) hsegments

/-- A directive, an escaped marker, two backslashes in front of a marker, and a comment. -/
theorem tiled_of_tokens_escapes :
    tokens {} [] "<% if(f($x)) %>\n\\\x7b#\\\\\x7b# x #\x7d" =
      .ok [⟨.opens .directive, "<%", 1⟩, ⟨.directiveName, "if", 1⟩,
        ⟨.text, "(__view_fn(\"f\", $x))", 1⟩, ⟨.closes .directive, "%>", 1⟩,
        ⟨.text, "\n\x7b#\\", 1⟩,
        ⟨.opens (.body .comment), "\x7b#", 2⟩, ⟨.text, "x", 2⟩,
        ⟨.closes (.body .comment), "#\x7d", 2⟩] ∧
    ∃ markers, markersOf {} = .ok markers ∧
      Tiled markers (passesThrough [])
        (Text.trimBlankLines "<% if(f($x)) %>\n\\\x7b#\\\\\x7b# x #\x7d".toList).kept
        [⟨.opens .directive, "<%", 1⟩, ⟨.directiveName, "if", 1⟩,
          ⟨.text, "(__view_fn(\"f\", $x))", 1⟩, ⟨.closes .directive, "%>", 1⟩,
          ⟨.text, "\n\x7b#\\", 1⟩,
          ⟨.opens (.body .comment), "\x7b#", 2⟩, ⟨.text, "x", 2⟩,
          ⟨.closes (.body .comment), "#\x7d", 2⟩] := by
  have htokens : tokens {} [] "<% if(f($x)) %>\n\\\x7b#\\\\\x7b# x #\x7d" =
      .ok [⟨.opens .directive, "<%", 1⟩, ⟨.directiveName, "if", 1⟩,
        ⟨.text, "(__view_fn(\"f\", $x))", 1⟩, ⟨.closes .directive, "%>", 1⟩,
        ⟨.text, "\n\x7b#\\", 1⟩,
        ⟨.opens (.body .comment), "\x7b#", 2⟩, ⟨.text, "x", 2⟩,
        ⟨.closes (.body .comment), "#\x7d", 2⟩] := by
    decide +kernel
  exact ⟨htokens, tiled_of_tokens htokens⟩

end ViewTemplate.Template
