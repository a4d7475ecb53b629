import Mathlib.Tactic.Common
import ViewTemplate.Proofs.EscapedMarkers
import ViewTemplate.Script.Lexeme

/-!
# The longest marker opens

The delimiters of a view may be chosen freely, and one opening may be the front of another.
`longest_marker_opens` says which choices are refused and what the accepted ones mean.  Refused are
those with an empty delimiter and those in which two constructs open alike, host code included.  For
the others there is one marker for each construct, and where several of them fit, the longest one
opens.

There is always just one longest marker: two openings of the same length that fit the same text are
the same opening.  So the order in which markers are listed does not matter, and a search through
sorted markers may stop at the first one that fits (`find?_sortedMarkers`).  Lengths are counted in
characters here and in bytes there, but among the fronts of one text the two orders agree
(`byteSize_lt_of_extends`).
-/

namespace ViewTemplate.Script

lemma byteSize_lt_of_extends {text longer : List Char} (h : text <+: longer)
    (hlength : text.length < longer.length) : byteSize text < byteSize longer := by
  obtain ⟨more, rfl⟩ := h
  cases more with
  | nil => simp at hlength
  | cons c more =>
    have hpos := c.utf8Size_pos
    simp only [byteSize_append, byteSize_cons]
    omega

end ViewTemplate.Script

namespace ViewTemplate.Template

open ViewTemplate.Script (byteSize byteSize_lt_of_extends)

/-! ## Markers of delimiters -/

/-- The delimiters of a construct: those chosen for it, or the fixed ones of host code. -/
def delimitersOf (d : Delimiters) : Construct → DelimiterPair
  | .body .sanitized => d.sanitized
  | .body .unsanitized => d.unsanitized
  | .directive => d.directive
  | .body .comment => d.comment
  | .body .hostCode => hostCodeDelimiters

/-- A delimiter of a pair is empty. -/
def HasEmpty (pair : DelimiterPair) : Prop :=
  pair.opening = "" ∨ pair.closing = ""

/-- The marker has the delimiters of its construct. -/
structure Marker.Encloses (d : Delimiters) (m : Marker) : Prop where
  opening_eq : m.opening = (delimitersOf d m.construct).opening.toList
  closing_eq : m.closing = (delimitersOf d m.construct).closing.toList

lemma Marker.Encloses.unique {d : Delimiters} {m other : Marker} (hm : m.Encloses d)
    (hother : other.Encloses d) (h : m.construct = other.construct) : m = other := by
  have hopening : m.opening = other.opening := by rw [hm.opening_eq, h, hother.opening_eq]
  have hclosing : m.closing = other.closing := by rw [hm.closing_eq, h, hother.closing_eq]
  cases m
  cases other
  simp_all

lemma delimitersOf_ofDelimiter (d : Delimiters) (kind : DelimiterKind) :
    delimitersOf d (.ofDelimiter kind) = d.get kind := by
  cases kind <;> rfl

lemma hostCodeMarker_encloses (d : Delimiters) : hostCodeMarker.Encloses d :=
  ⟨rfl, rfl⟩

lemma ofPair?_eq_none_iff {c : Construct} {pair : DelimiterPair} :
    Marker.ofPair? c pair = none ↔ HasEmpty pair := by
  unfold Marker.ofPair?
  split
  · rename_i h
    refine iff_of_false (by simp) ?_
    rintro (hempty | hempty)
    · exact h.1 (String.toList_eq_nil_iff.2 hempty)
    · exact h.2 (String.toList_eq_nil_iff.2 hempty)
  · rename_i h
    refine iff_of_true rfl ?_
    by_contra hfull
    obtain ⟨hopening, hclosing⟩ := not_or.1 hfull
    exact h ⟨mt String.toList_eq_nil_iff.1 hopening, mt String.toList_eq_nil_iff.1 hclosing⟩

lemma ofPair?_eq_some {d : Delimiters} {kind : DelimiterKind} {m : Marker}
    (h : Marker.ofPair? (.ofDelimiter kind) (d.get kind) = some m) :
    m.construct = .ofDelimiter kind ∧ m.Encloses d := by
  unfold Marker.ofPair? at h
  split at h
  · obtain rfl := Option.some.inj h
    refine ⟨rfl, ?_, ?_⟩ <;> rw [delimitersOf_ofDelimiter]
  · cases h

/-- The chosen delimiters have one marker each, unless one of them is empty. -/
lemma chosenMarkers_cases (d : Delimiters) (kinds : List DelimiterKind) :
    ((∃ kind ∈ kinds, HasEmpty (d.get kind)) ∧ ∃ fault, chosenMarkers d kinds = .error fault) ∨
      (∀ kind ∈ kinds, ¬HasEmpty (d.get kind)) ∧ ∃ markers, chosenMarkers d kinds = .ok markers ∧
        markers.map Marker.construct = kinds.map .ofDelimiter ∧ ∀ m ∈ markers, m.Encloses d := by
  induction kinds with
  | nil => exact .inr ⟨by simp, [], rfl, rfl, by simp⟩
  | cons kind kinds ih =>
    rw [chosenMarkers]
    cases hpair : Marker.ofPair? (.ofDelimiter kind) (d.get kind) with
    | none => exact .inl ⟨⟨kind, List.mem_cons_self, ofPair?_eq_none_iff.1 hpair⟩, _, rfl⟩
    | some m =>
      obtain ⟨⟨other, hother, hempty⟩, fault, hfault⟩ | ⟨hfull, markers, hmarkers, hmap, hall⟩ := ih
      · exact .inl ⟨⟨other, .tail _ hother, hempty⟩, fault, by rw [hfault]; rfl⟩
      · obtain ⟨hconstruct, hencloses⟩ := ofPair?_eq_some hpair
        have hkind : ¬HasEmpty (d.get kind) := by
          rw [← ofPair?_eq_none_iff (c := .ofDelimiter kind), hpair]
          simp
        refine .inr ⟨List.forall_mem_cons.2 ⟨hkind, hfull⟩, m :: markers, by rw [hmarkers]; rfl, ?_,
          List.forall_mem_cons.2 ⟨hencloses, hall⟩⟩
        rw [List.map_cons, List.map_cons, hconstruct, hmap]

/-- The constructs in the order of their markers. -/
def constructs : List Construct :=
  DelimiterKind.all.map .ofDelimiter ++ [.body .hostCode]

lemma mem_constructs (c : Construct) : c ∈ constructs := by
  cases c with
  | directive => decide
  | body kind => cases kind <;> decide

lemma nodup_constructs : constructs.Nodup := by
  decide

/-! ## Accepted delimiters -/

/-- No delimiter is empty, and no two constructs open alike. -/
structure Accepted (d : Delimiters) : Prop where
  full : ∀ c, ¬HasEmpty (delimitersOf d c)
  apart : ∀ a b, (delimitersOf d a).opening = (delimitersOf d b).opening → a = b

lemma hasEmpty_iff {d : Delimiters} : (∃ c, HasEmpty (delimitersOf d c)) ↔
    ∃ kind ∈ DelimiterKind.all, HasEmpty (d.get kind) := by
  constructor
  · rintro ⟨c, hc⟩
    obtain hc' | hc' := List.mem_append.1 (mem_constructs c)
    · obtain ⟨kind, hkind, rfl⟩ := List.mem_map.1 hc'
      exact ⟨kind, hkind, delimitersOf_ofDelimiter d kind ▸ hc⟩
    · obtain rfl := List.mem_singleton.1 hc'
      obtain hempty | hempty := hc <;> simp [delimitersOf, hostCodeDelimiters] at hempty
  · rintro ⟨kind, -, hkind⟩
    exact ⟨.ofDelimiter kind, (delimitersOf_ofDelimiter d kind).symm ▸ hkind⟩

lemma sharedOpening?_eq_none {markers : List Marker} (h : (markers.map Marker.opening).Nodup) :
    sharedOpening? markers = none := by
  induction markers with
  | nil => rfl
  | cons first rest ih =>
    rw [List.map_cons, List.nodup_cons] at h
    have hnone : rest.find? (fun other => other.opening == first.opening) = none := by
      refine List.find?_eq_none.2 fun other hother heq => h.1 ?_
      rw [← beq_iff_eq.1 heq]
      exact List.mem_map_of_mem hother
    rw [sharedOpening?, hnone]
    exact ih h.2

/-- Markers that stand for all constructs open differently exactly if the constructs do. -/
lemma nodup_openings_iff {d : Delimiters} {markers : List Marker}
    (hmap : markers.map Marker.construct = constructs) (hall : ∀ m ∈ markers, m.Encloses d) :
    (markers.map Marker.opening).Nodup ↔
      ∀ a b, (delimitersOf d a).opening = (delimitersOf d b).opening → a = b := by
  have hopenings : markers.map Marker.opening =
      constructs.map fun c => (delimitersOf d c).opening.toList := by
    rw [← hmap, List.map_map]
    exact List.map_congr_left fun m hm => (hall m hm).opening_eq
  rw [hopenings, List.nodup_map_iff_inj_on nodup_constructs]
  simp only [mem_constructs, forall_const, String.toList_inj]

/-- What becomes of delimiters: one marker for each construct, or a fault. -/
lemma markersOf_cases (d : Delimiters) :
    (¬Accepted d ∧ ∃ fault, markersOf d = .error fault) ∨
      Accepted d ∧ ∃ markers, markersOf d = .ok markers ∧ ∀ m, m ∈ markers ↔ m.Encloses d := by
  unfold markersOf
  obtain ⟨hempty, fault, hfault⟩ | ⟨hfull, chosen, hchosen, hmap, hall⟩ :=
    chosenMarkers_cases d DelimiterKind.all
  · obtain ⟨c, hc⟩ := hasEmpty_iff.2 hempty
    rw [hfault]
    exact .inl ⟨fun h => h.full c hc, fault, rfl⟩
  · have hfull' : ∀ c, ¬HasEmpty (delimitersOf d c) := by
      intro c hc
      obtain ⟨kind, hkind, hempty⟩ := hasEmpty_iff.1 ⟨c, hc⟩
      exact hfull kind hkind hempty
    -- with host code there is one marker for each construct
    have hmap' : (chosen ++ [hostCodeMarker]).map Marker.construct = constructs := by
      rw [List.map_append, hmap]
      rfl
    have hall' : ∀ m ∈ chosen ++ [hostCodeMarker], m.Encloses d := by
      intro m hm
      obtain hm | hm := List.mem_append.1 hm
      · exact hall m hm
      · exact List.mem_singleton.1 hm ▸ hostCodeMarker_encloses d
    have hnodup := nodup_openings_iff hmap' hall'
    rw [hchosen]
    dsimp only
    cases hshared : sharedOpening? (chosen ++ [hostCodeMarker]) with
    | some pair =>
      refine .inl ⟨fun h => ?_, _, rfl⟩
      rw [sharedOpening?_eq_none (hnodup.2 h.apart)] at hshared
      cases hshared
    | none =>
      refine .inr ⟨⟨hfull', hnodup.1 (nodup_of_sharedOpening? hshared)⟩, _, rfl, fun m => ?_⟩
      refine ⟨hall' m, fun hm => ?_⟩
      -- a marker that encloses its construct is the one that was made for it
      have hconstruct : m.construct ∈ (chosen ++ [hostCodeMarker]).map Marker.construct := by
        rw [hmap']
        exact mem_constructs m.construct
      obtain ⟨other, hother, heq⟩ := List.mem_map.1 hconstruct
      rwa [hm.unique (hall' other hother) heq.symm]

lemma Accepted.exists_marker {d : Delimiters} (h : Accepted d) (c : Construct) :
    ∃ m : Marker, m.Encloses d ∧ m.construct = c := by
  obtain ⟨hopening, hclosing⟩ := not_or.1 (h.full c)
  exact ⟨⟨c, _, _, mt String.toList_eq_nil_iff.1 hopening, mt String.toList_eq_nil_iff.1 hclosing⟩,
    ⟨rfl, rfl⟩, rfl⟩

lemma not_accepted_iff {d : Delimiters} : ¬Accepted d ↔ (∃ c, HasEmpty (delimitersOf d c)) ∨
    ∃ a b, a ≠ b ∧ (delimitersOf d a).opening = (delimitersOf d b).opening := by
  constructor
  · intro h
    by_contra hnone
    obtain ⟨hfull, hapart⟩ := not_or.1 hnone
    refine h ⟨fun c hc => hfull ⟨c, hc⟩, fun a b hopening => ?_⟩
    by_contra hne
    exact hapart ⟨a, b, hne, hopening⟩
  · rintro (⟨c, hc⟩ | ⟨a, b, hne, hopening⟩) h
    · exact h.full c hc
    · exact hne (h.apart a b hopening)

lemma exists_opening_iff {d : Delimiters} {markers : List Marker}
    (hmem : ∀ m, m ∈ markers ↔ m.Encloses d) (hall : ∀ c, ∃ m ∈ markers, m.construct = c)
    (text : List Char) : (∃ c, (delimitersOf d c).opening.toList <+: text) ↔
      ∃ m ∈ markers, m.opening <+: text := by
  constructor
  · rintro ⟨c, hc⟩
    obtain ⟨m, hm, rfl⟩ := hall c
    exact ⟨m, hm, ((hmem m).1 hm).opening_eq ▸ hc⟩
  · rintro ⟨m, hm, hfits⟩
    exact ⟨m.construct, ((hmem m).1 hm).opening_eq ▸ hfits⟩

/-! ## The longest marker -/

/-- Of all markers that fit a text, this one is longer than the others. -/
structure LongestMarker (markers : List Marker) (text : List Char) (m : Marker) : Prop where
  mem : m ∈ markers
  fits : m.opening <+: text
  longer : ∀ other ∈ markers, other.opening <+: text → other ≠ m →
    other.opening.length < m.opening.length

lemma LongestMarker.unique {markers : List Marker} {text : List Char} {m other : Marker}
    (hm : LongestMarker markers text m) (hother : LongestMarker markers text other) :
    m = other := by
  by_contra hne
  have hlonger := hm.longer other hother.mem hother.fits (Ne.symm hne)
  have hshorter := hother.longer m hm.mem hm.fits hne
  omega

section

variable {markers : List Marker} (hnodup : (markers.map Marker.opening).Nodup)
include hnodup

/-- Two markers of the same length that fit the same text are the same. -/
lemma lt_length_of_le {text : List Char} {m other : Marker} (hm : m ∈ markers)
    (hfits : m.opening <+: text) (hother : other ∈ markers) (hfits' : other.opening <+: text)
    (hle : other.opening.length ≤ m.opening.length) (hne : other ≠ m) :
    other.opening.length < m.opening.length := by
  refine lt_of_le_of_ne hle fun hlength => hne ?_
  have hshorter := List.prefix_of_prefix_length_le hfits' hfits hle
  exact List.inj_on_of_nodup_map hnodup hother hm (hshorter.eq_of_length hlength)

/-- What opens is the longest marker, with the text behind it. -/
lemma opensWith?_eq_some_iff {text after : List Char} {m : Marker} :
    opensWith? markers text = some (m, after) ↔
      LongestMarker markers text m ∧ text = m.opening ++ after := by
  constructor
  · intro h
    obtain ⟨hm, rfl⟩ := opensWith?_eq_some h
    have hfits : m.opening <+: m.opening ++ after := List.prefix_append _ _
    refine ⟨⟨hm, hfits, fun other hother hfits' => ?_⟩, rfl⟩
    exact lt_length_of_le hnodup hm hfits hother hfits' (length_le_of_opensWith? h hother hfits')
  · rintro ⟨h, rfl⟩
    refine opensWith?_of_nodup hnodup h.mem fun other hother hfits => ?_
    by_cases hne : other = m
    · rw [hne]
    · exact (h.longer other hother hfits hne).le

lemma exists_longestMarker {text : List Char} (h : ∃ m ∈ markers, m.opening <+: text) :
    ∃ m, LongestMarker markers text m := by
  obtain ⟨m, hm, hfits⟩ := h
  cases hfound : opensWith? markers text with
  | none => exact absurd hfits (opensWith?_eq_none_iff.1 hfound m hm)
  | some found => exact ⟨found.1, ((opensWith?_eq_some_iff hnodup).1 hfound).1⟩

/-- The order in which markers are listed does not matter. -/
lemma opensWith?_of_perm {listed : List Marker} (h : listed.Perm markers) (text : List Char) :
    opensWith? listed text = opensWith? markers text := by
  have hlisted : (listed.map Marker.opening).Nodup := ((h.map _).nodup_iff).2 hnodup
  refine Option.ext fun found => ?_
  obtain ⟨m, after⟩ := found
  rw [opensWith?_eq_some_iff hlisted, opensWith?_eq_some_iff hnodup]
  refine and_congr_left fun _ => ⟨fun hm => ?_, fun hm => ?_⟩
  · exact ⟨h.mem_iff.1 hm.mem, hm.fits, fun other ho => hm.longer other (h.mem_iff.2 ho)⟩
  · exact ⟨h.mem_iff.2 hm.mem, hm.fits, fun other ho => hm.longer other (h.mem_iff.1 ho)⟩

end

/-- Markers are listed by the number of bytes of their openings, the longest first. -/
def LongestFirst (markers : List Marker) : Prop :=
  markers.Pairwise fun a b => byteSize b.opening ≤ byteSize a.opening

/-- Among markers listed longest first, the first one that fits is the longest. -/
lemma LongestFirst.find?_eq {markers : List Marker} (h : LongestFirst markers)
    (hnodup : (markers.map Marker.opening).Nodup) (text : List Char) :
    markers.find? (fun m => m.opening.isPrefixOf text) =
      (opensWith? markers text).map Prod.fst := by
  cases hfound : markers.find? (fun m => m.opening.isPrefixOf text) with
  | none =>
    have hnone : opensWith? markers text = none := by
      refine opensWith?_eq_none_iff.2 fun m hm hfits => ?_
      exact List.find?_eq_none.1 hfound m hm (List.isPrefixOf_iff_prefix.2 hfits)
    rw [hnone]
    rfl
  | some m =>
    obtain ⟨hfits, before, behind, rfl, hbefore⟩ := List.find?_eq_some_iff_append.1 hfound
    have hfits := List.isPrefixOf_iff_prefix.1 hfits
    have hm : m ∈ before ++ m :: behind := by simp
    have hlongest : LongestMarker (before ++ m :: behind) text m := by
      refine ⟨hm, hfits, fun other hother hfits' hne => ?_⟩
      refine lt_length_of_le hnodup hm hfits hother hfits' ?_ hne
      -- Another marker that fits stands behind this one, so it takes no more bytes.
      have hbehind : other ∈ behind := by
        obtain hother | hother := List.mem_append.1 hother
        · have hmisses := hbefore other hother
          rw [List.isPrefixOf_iff_prefix.2 hfits'] at hmisses
          cases hmisses
        · exact (List.mem_cons.1 hother).resolve_left hne
      have hbytes : byteSize other.opening ≤ byteSize m.opening :=
        (List.pairwise_cons.1 (List.pairwise_append.1 h).2.1).1 other hbehind
      by_contra hlt
      have hlt : m.opening.length < other.opening.length := Nat.lt_of_not_le hlt
      have hshorter := List.prefix_of_prefix_length_le hfits hfits' hlt.le
      exact absurd (byteSize_lt_of_extends hshorter hlt) (Nat.not_lt.2 hbytes)
    obtain ⟨after, hafter⟩ := hfits
    rw [(opensWith?_eq_some_iff hnodup).2 ⟨hlongest, hafter.symm⟩]
    rfl

/-- The markers sorted by the number of bytes of their openings, the longest first. -/
def sortedMarkers (markers : List Marker) : List Marker :=
  markers.mergeSort fun a b => decide (byteSize b.opening ≤ byteSize a.opening)

lemma longestFirst_sortedMarkers (markers : List Marker) :
    LongestFirst (sortedMarkers markers) := by
  have hsorted : (sortedMarkers markers).Pairwise fun a b =>
      decide (byteSize b.opening ≤ byteSize a.opening) = true := by
    refine List.pairwise_mergeSort (fun a b c hab hbc => ?_) (fun a b => ?_) markers
    · exact decide_eq_true ((of_decide_eq_true hbc).trans (of_decide_eq_true hab))
    · simpa only [Bool.or_eq_true, decide_eq_true_eq] using Nat.le_total _ _
  exact hsorted.imp of_decide_eq_true

/-- The first of the sorted markers that fits is the one that opens. -/
lemma find?_sortedMarkers {markers : List Marker} (hnodup : (markers.map Marker.opening).Nodup)
    (text : List Char) :
    (sortedMarkers markers).find? (fun m => m.opening.isPrefixOf text) =
      (opensWith? markers text).map Prod.fst := by
  have hperm : (sortedMarkers markers).Perm markers := List.mergeSort_perm _ _
  rw [(longestFirst_sortedMarkers markers).find?_eq (((hperm.map _).nodup_iff).2 hnodup),
    opensWith?_of_perm hnodup hperm]

/-- **The longest marker opens.**  Delimiters are refused exactly if one of them is empty or two
constructs open with the same text.  Otherwise there is one marker for each construct, with its
delimiters.  No marker opens a text exactly if no opening stands at its front.  If one does, exactly
one marker is longer than all others that fit, and that one opens.  It is the first one that fits
when the markers are sorted by size.  The order in which they are listed does not matter, and if
they are listed longest first, it is the first one that fits. -/
theorem longest_marker_opens (d : Delimiters) :
    ((∃ fault, markersOf d = .error fault) ↔
      (∃ c, (delimitersOf d c).opening = "" ∨ (delimitersOf d c).closing = "") ∨
        ∃ a b, a ≠ b ∧ (delimitersOf d a).opening = (delimitersOf d b).opening) ∧
    ∀ markers, markersOf d = .ok markers →
      (∀ m, m ∈ markers ↔ m.Encloses d) ∧ (∀ c, ∃ m ∈ markers, m.construct = c) ∧
      ∀ text,
        (opensWith? markers text = none ↔ ∀ c, ¬ (delimitersOf d c).opening.toList <+: text) ∧
        ((∃ c, (delimitersOf d c).opening.toList <+: text) →
          ∃! m, LongestMarker markers text m) ∧
        (∀ m after, opensWith? markers text = some (m, after) ↔
          LongestMarker markers text m ∧ text = m.opening ++ after) ∧
        (sortedMarkers markers).find? (fun m => m.opening.isPrefixOf text) =
          (opensWith? markers text).map Prod.fst ∧
        ∀ listed, listed.Perm markers →
          opensWith? listed text = opensWith? markers text ∧
          (LongestFirst listed → listed.find? (fun m => m.opening.isPrefixOf text) =
            (opensWith? markers text).map Prod.fst) := by
  obtain ⟨hrefused, fault, hfault⟩ | ⟨haccepted, found, hfound, hmem⟩ := markersOf_cases d
  · refine ⟨iff_of_true ⟨fault, hfault⟩ (not_accepted_iff.1 hrefused), fun markers hmarkers => ?_⟩
    rw [hfault] at hmarkers
    cases hmarkers
  · refine ⟨iff_of_false ?_ fun h => not_accepted_iff.2 h haccepted, fun markers hmarkers => ?_⟩
    · rintro ⟨fault, hfault⟩
      rw [hfound] at hfault
      cases hfault
    · obtain rfl := Except.ok.inj (hfound.symm.trans hmarkers)
      have hnodup := nodup_openings hfound
      have hall : ∀ c, ∃ m ∈ found, m.construct = c := fun c =>
        (haccepted.exists_marker c).imp fun m hm => ⟨(hmem m).2 hm.1, hm.2⟩
      refine ⟨hmem, hall, fun text => ?_⟩
      have hfits := exists_opening_iff hmem hall text
      refine ⟨?_, fun h => ?_, fun m after => ?_, ?_, fun listed hlisted => ?_⟩
      · have hnone := not_congr hfits
        push Not at hnone
        rw [opensWith?_eq_none_iff, hnone]
      · obtain ⟨m, hm⟩ := exists_longestMarker hnodup (hfits.1 h)
        exact ⟨m, hm, fun other hother => hother.unique hm⟩
      · exact opensWith?_eq_some_iff hnodup
      · exact find?_sortedMarkers hnodup text
      · have horder := opensWith?_of_perm hnodup hlisted text
        refine ⟨horder, fun hfirst => ?_⟩
        rw [← horder]
        exact hfirst.find?_eq (((hlisted.map _).nodup_iff).2 hnodup) text

/-- Delimiters whose openings are fronts of each other and of the opening of host code, but for one
that has fewer characters than that and as many bytes. -/
def overlappingDelimiters : Delimiters where
  sanitized := ⟨"<", ">"⟩
  unsanitized := ⟨"<?", "?>"⟩
  directive := ⟨"<?ho", "?>"⟩
  comment := ⟨"€€", "€"⟩

def overlappingMarkers : List Marker :=
  [⟨.body .sanitized, ['<'], ['>'], by decide, by decide⟩,
    ⟨.body .unsanitized, ['<', '?'], ['?', '>'], by decide, by decide⟩,
    ⟨.directive, ['<', '?', 'h', 'o'], ['?', '>'], by decide, by decide⟩,
    ⟨.body .comment, ['€', '€'], ['€'], by decide, by decide⟩, hostCodeMarker]

/-- Host code opens although three shorter openings stand at the front of the same text. -/
theorem longest_marker_opens_overlapping :
    markersOf overlappingDelimiters = .ok overlappingMarkers ∧
    LongestFirst overlappingMarkers.reverse ∧
    (∃! m, LongestMarker overlappingMarkers "<?host 1".toList m) ∧
    LongestMarker overlappingMarkers "<?host 1".toList hostCodeMarker ∧
    (sortedMarkers overlappingMarkers).find? (fun m => m.opening.isPrefixOf "<?host 1".toList) =
      some hostCodeMarker ∧
    overlappingMarkers.reverse.find? (fun m => m.opening.isPrefixOf "<?host 1".toList) =
      some hostCodeMarker := by
  have hmarkers : markersOf overlappingDelimiters = .ok overlappingMarkers := rfl
  have hfirst : LongestFirst overlappingMarkers.reverse := by
    unfold LongestFirst
    decide
  have hopens : opensWith? overlappingMarkers "<?host 1".toList =
      some (hostCodeMarker, " 1".toList) := rfl
  obtain ⟨-, hone, hlongest, hsorted, hlisted⟩ :=
    ((longest_marker_opens overlappingDelimiters).2 _ hmarkers).2.2 "<?host 1".toList
  refine ⟨hmarkers, hfirst, hone ⟨.body .hostCode, " 1".toList, rfl⟩,
    ((hlongest _ _).1 hopens).1, ?_, ?_⟩
  · rw [hsorted, hopens]
    rfl
  · rw [(hlisted _ (List.reverse_perm _)).2 hfirst, hopens]
    rfl

end ViewTemplate.Template
