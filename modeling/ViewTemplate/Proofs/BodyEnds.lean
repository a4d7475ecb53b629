import Mathlib.Data.List.Induction
import Mathlib.Tactic.Common
import ViewTemplate.Proofs.BodyScan

/-!
# Where a body ends

The scan of a body walks over characters with a stack of open brackets, and at every place where the
stack is empty it first looks for the closing marker, which may itself start with a quote or a
bracket.  `readBody_ends_first` says what it finds without a walk.

`Balanced` is the grammar of text that a body may be: single characters, quoted strings as units,
and groups in brackets.  `Unclosed` is text that is balanced but for some brackets that are open at
its end.  A body is the shortest balanced front of the text that is followed by the closing marker.
A bracket is out of place if it follows unclosed text whose innermost open bracket is not its
partner.

The walk and the grammar agree (`unclosed_iff`), and the scan finds the first of all ends
(`scanBody_eq_iff`).
-/

namespace ViewTemplate.Template

open ViewTemplate.Text (newlines)

/-! ## Balanced text -/

/-- The characters that open and close a quoted string. -/
def IsQuote (c : Char) : Prop :=
  c = '"' ∨ c = '\''

/-- What may stand inside of quotes: characters that are neither the quote nor a backslash, and
backslashes with the character that each one escapes. -/
inductive QuoteBody (quote : Char) : List Char → Prop
  | nil : QuoteBody quote []
  | plain {body : List Char} {c : Char} (hbody : QuoteBody quote body) (hquote : c ≠ quote)
      (hescape : c ≠ '\\') : QuoteBody quote (body ++ [c])
  | escape {body : List Char} (hbody : QuoteBody quote body) (c : Char) :
      QuoteBody quote (body ++ ['\\', c])

/-- An opening bracket and the closing one that belongs to it. -/
inductive BracketPair : (opening closing : Char) → Prop
  | paren : BracketPair '(' ')'
  | square : BracketPair '[' ']'

/-- Text whose brackets are matched and whose quoted strings are closed. -/
inductive Balanced : List Char → Prop
  | nil : Balanced []
  | plain {c : Char} (hc : isQuiet c = true) : Balanced [c]
  | quoted {quote : Char} {body : List Char} (hquote : IsQuote quote)
      (hbody : QuoteBody quote body) : Balanced (quote :: (body ++ [quote]))
  | group {opening closing : Char} {inner : List Char} (hpair : BracketPair opening closing)
      (hinner : Balanced inner) : Balanced (opening :: (inner ++ [closing]))
  | append {front back : List Char} (hfront : Balanced front) (hback : Balanced back) :
      Balanced (front ++ back)

/-- Text that is balanced but for brackets that are still open, the innermost first. -/
inductive Unclosed : (text brackets : List Char) → Prop
  | balanced {text : List Char} (h : Balanced text) : Unclosed text []
  | opened {front inner brackets : List Char} {opening closing : Char}
      (hfront : Unclosed front brackets) (hpair : BracketPair opening closing)
      (hinner : Balanced inner) : Unclosed (front ++ opening :: inner) (opening :: brackets)

lemma unclosed_nil_iff {text : List Char} : Unclosed text [] ↔ Balanced text := by
  constructor
  · intro h
    cases h with
    | balanced h => exact h
  · exact .balanced

lemma Unclosed.append {front back brackets : List Char} (hfront : Unclosed front brackets)
    (hback : Balanced back) : Unclosed (front ++ back) brackets := by
  cases hfront with
  | balanced h => exact .balanced (h.append hback)
  | opened hfront hpair hinner =>
    rw [List.append_assoc, List.cons_append]
    exact .opened hfront hpair (hinner.append hback)

/-! ## The walk over balanced text -/

lemma next?_quote {quote : Char} (h : IsQuote quote) (brackets : List Char) :
    (BodyState.code brackets).next? quote = some (.quoted quote brackets) :=
  if_pos h

lemma next?_opening {opening closing : Char} (h : BracketPair opening closing)
    (brackets : List Char) :
    (BodyState.code brackets).next? opening = some (.code (opening :: brackets)) := by
  cases h <;> rfl

/-- A closing bracket is passed if its partner is the innermost bracket that is open. -/
lemma next?_closing {opening closing : Char} (h : BracketPair opening closing)
    (brackets : List Char) :
    (BodyState.code brackets).next? closing =
      if brackets.head? = some opening then some (.code brackets.tail) else none := by
  cases h <;> rfl

lemma foldlM_quoteBody {quote : Char} {body : List Char} (h : QuoteBody quote body)
    (brackets : List Char) :
    body.foldlM BodyState.next? (.quoted quote brackets) = some (.quoted quote brackets) := by
  induction h with
  | nil => rfl
  | plain hbody hquote hescape ih =>
    rw [List.foldlM_append, ih]
    simp [BodyState.next?, hquote, hescape]
  | escape hbody c ih =>
    rw [List.foldlM_append, ih]
    simp [BodyState.next?]

/-- Balanced text is passed with the brackets around it left open. -/
lemma foldlM_balanced {text : List Char} (h : Balanced text) (brackets : List Char) :
    text.foldlM BodyState.next? (.code brackets) = some (.code brackets) := by
  induction h generalizing brackets with
  | nil => rfl
  | plain hc => simp [next?_of_isQuiet hc]
  | @quoted quote body hquote hbody =>
    have hescape : quote ≠ '\\' := by obtain rfl | rfl := hquote <;> decide
    rw [List.foldlM_cons, next?_quote hquote, Option.bind_eq_bind, Option.bind_some,
      List.foldlM_append, foldlM_quoteBody hbody]
    simp [BodyState.next?, hescape]
  | group hpair hinner ih =>
    rw [List.foldlM_cons, next?_opening hpair, Option.bind_eq_bind, Option.bind_some,
      List.foldlM_append, ih]
    simp [next?_closing hpair]
  | append hfront hback ihfront ihback =>
    rw [List.foldlM_append, ihfront]
    exact ihback brackets

lemma foldlM_unclosed {text brackets : List Char} (h : Unclosed text brackets) :
    text.foldlM BodyState.next? (.code []) = some (.code brackets) := by
  induction h with
  | balanced h => exact foldlM_balanced h []
  | opened hfront hpair hinner ih =>
    rw [List.foldlM_append, ih, Option.bind_eq_bind, Option.bind_some, List.foldlM_cons,
      next?_opening hpair]
    exact foldlM_balanced hinner _

/-- What the text in front of a state is. -/
def BodyState.Behind (text : List Char) : BodyState → Prop
  | .code brackets => Unclosed text brackets
  | .quoted quote brackets => ∃ front body, text = front ++ quote :: body ∧
      Unclosed front brackets ∧ IsQuote quote ∧ QuoteBody quote body
  | .escaped quote brackets => ∃ front body, text = front ++ quote :: (body ++ ['\\']) ∧
      Unclosed front brackets ∧ IsQuote quote ∧ QuoteBody quote body

lemma char_cases (c : Char) : IsQuote c ∨ (∃ closing, BracketPair c closing) ∨
    (∃ opening, BracketPair opening c) ∨ isQuiet c = true := by
  by_cases hquiet : isQuiet c = true
  · exact .inr (.inr (.inr hquiet))
  simp only [isQuiet, List.contains_eq_mem, List.mem_cons, List.not_mem_nil, or_false,
    Bool.not_eq_true', decide_eq_false_iff_not, not_not] at hquiet
  obtain rfl | rfl | rfl | rfl | rfl | rfl := hquiet
  · exact .inl (.inl rfl)
  · exact .inl (.inr rfl)
  · exact .inr (.inl ⟨_, .paren⟩)
  · exact .inr (.inr (.inl ⟨_, .paren⟩))
  · exact .inr (.inl ⟨_, .square⟩)
  · exact .inr (.inr (.inl ⟨_, .square⟩))

/-- A bracket that closes the innermost open one makes a group of what stands between them. -/
lemma Unclosed.close {text brackets : List Char} {opening closing : Char}
    (h : Unclosed text brackets) (hpair : BracketPair opening closing)
    (hhead : brackets.head? = some opening) : Unclosed (text ++ [closing]) brackets.tail := by
  cases h with
  | balanced h => simp at hhead
  | opened hfront _ hinner =>
    obtain rfl := Option.some.inj hhead
    rw [List.append_assoc, List.cons_append]
    exact hfront.append (.group hpair hinner)

lemma BodyState.Behind.next {text : List Char} {state next : BodyState} {c : Char}
    (h : state.Behind text) (hnext : state.next? c = some next) : next.Behind (text ++ [c]) := by
  cases state with
  | code brackets =>
    have hunclosed : Unclosed text brackets := h
    -- outside of quotes: a quote, an opening or a closing bracket, or a character without meaning
    obtain hquote | ⟨closing, hpair⟩ | ⟨opening, hpair⟩ | hquiet := char_cases c
    · obtain rfl := Option.some.inj ((next?_quote hquote brackets).symm.trans hnext)
      exact ⟨text, [], rfl, hunclosed, hquote, .nil⟩
    · obtain rfl := Option.some.inj ((next?_opening hpair brackets).symm.trans hnext)
      exact Unclosed.opened hunclosed hpair .nil
    · rw [next?_closing hpair] at hnext
      split at hnext
      · rename_i hhead
        obtain rfl := Option.some.inj hnext
        exact hunclosed.close hpair hhead
      · simp at hnext
    · obtain rfl := Option.some.inj ((next?_of_isQuiet hquiet brackets).symm.trans hnext)
      exact hunclosed.append (.plain hquiet)
  | quoted quote brackets =>
    obtain ⟨front, body, rfl, hfront, hquote, hbody⟩ := h
    simp only [BodyState.next?] at hnext
    split at hnext
    · rename_i hescape
      obtain rfl := Option.some.inj hnext
      exact ⟨front, body, by simp [hescape], hfront, hquote, hbody⟩
    · rename_i hescape
      split at hnext
      · -- the quotes end here, and with them a unit of balanced text
        rename_i hclose
        obtain rfl := Option.some.inj hnext
        rw [List.append_assoc, List.cons_append, hclose]
        exact hfront.append (.quoted hquote hbody)
      · rename_i hclose
        obtain rfl := Option.some.inj hnext
        exact ⟨front, body ++ [c], by simp, hfront, hquote, hbody.plain hclose hescape⟩
  | escaped quote brackets =>
    obtain ⟨front, body, rfl, hfront, hquote, hbody⟩ := h
    obtain rfl := Option.some.inj hnext
    exact ⟨front, body ++ ['\\', c], by simp, hfront, hquote, hbody.escape c⟩

lemma behind_of_foldlM {text : List Char} {state : BodyState}
    (h : text.foldlM BodyState.next? (.code []) = some state) : state.Behind text := by
  induction text using List.reverseRecOn generalizing state with
  | nil =>
    obtain rfl := Option.some.inj h
    exact .balanced .nil
  | append_singleton text c ih =>
    rw [List.foldlM_append] at h
    obtain ⟨last, hlast, hnext⟩ := Option.bind_eq_some_iff.1 h
    exact (ih hlast).next (by simpa using hnext)

lemma unclosed_iff {text brackets : List Char} :
    Unclosed text brackets ↔ text.foldlM BodyState.next? (.code []) = some (.code brackets) :=
  ⟨foldlM_unclosed, behind_of_foldlM⟩

/-! ## The first end -/

/-- The walk from a state comes to a place outside of quotes and brackets where the closing marker
stands. -/
structure EndsFrom (closing : List Char) (state : BodyState) (text body rest : List Char) :
    Prop where
  text_eq : text = body ++ (closing ++ rest)
  walk : body.foldlM BodyState.next? state = some (.code [])

/-- The walk from a state comes to a bracket that it cannot pass. -/
structure StopsFrom (state : BodyState) (text before : List Char) (bracket : Char) : Prop where
  text_eq : ∃ behind, text = before ++ bracket :: behind
  walk : ∃ last, before.foldlM BodyState.next? state = some last ∧ last.next? bracket = none

/-- How a walk that looks for the first end comes out. -/
def BodyEnd.Found (closing : List Char) (state : BodyState) (text : List Char) : BodyEnd → Prop
  | .closed body rest => EndsFrom closing state text body rest ∧
      ∀ other behind, EndsFrom closing state text other behind → body.length ≤ other.length
  | .unbalanced before bracket => StopsFrom state text before bracket ∧
      ∀ body rest, ¬EndsFrom closing state text body rest
  | .unterminated => (∀ body rest, ¬EndsFrom closing state text body rest) ∧
      ∀ before bracket, ¬StopsFrom state text before bracket

section

variable {closing text : List Char} {state next : BodyState} {c : Char}

lemma not_endsFrom_nil (hclosing : closing ≠ []) (body rest : List Char) :
    ¬EndsFrom closing state [] body rest := by
  intro h
  obtain ⟨-, hnil⟩ := List.append_eq_nil_iff.1 h.text_eq.symm
  exact hclosing (List.append_eq_nil_iff.1 hnil).1

lemma not_stopsFrom_nil (before : List Char) (bracket : Char) :
    ¬StopsFrom state [] before bracket := by
  intro h
  obtain ⟨behind, htext⟩ := h.text_eq
  simp at htext

/-- An end is here or behind the next character. -/
lemma endsFrom_cons_iff {body rest : List Char} :
    EndsFrom closing state (c :: text) body rest ↔
      (body = [] ∧ state = .code [] ∧ Text.afterMarker? closing (c :: text) = some rest) ∨
      ∃ more next, body = c :: more ∧ state.next? c = some next ∧
        EndsFrom closing next text more rest := by
  constructor
  · rintro ⟨htext, hwalk⟩
    cases body with
    | nil =>
      refine .inl ⟨rfl, Option.some.inj hwalk, ?_⟩
      rw [htext, List.nil_append, Text.afterMarker?_append]
    | cons d more =>
      obtain ⟨rfl, hmore⟩ := List.cons.inj htext
      rw [List.foldlM_cons] at hwalk
      obtain ⟨next, hnext, hwalk⟩ := Option.bind_eq_some_iff.1 hwalk
      exact .inr ⟨more, next, rfl, hnext, hmore, hwalk⟩
  · rintro (⟨rfl, rfl, hmarker⟩ | ⟨more, next, rfl, hnext, htext, hwalk⟩)
    · exact ⟨by rw [Text.afterMarker?_eq_some hmarker, List.nil_append], rfl⟩
    · refine ⟨by rw [htext, List.cons_append], ?_⟩
      rw [List.foldlM_cons, hnext]
      exact hwalk

lemma stopsFrom_cons_iff {before : List Char} {bracket : Char} :
    StopsFrom state (c :: text) before bracket ↔
      (before = [] ∧ bracket = c ∧ state.next? c = none) ∨
      ∃ more next, before = c :: more ∧ state.next? c = some next ∧
        StopsFrom next text more bracket := by
  constructor
  · rintro ⟨⟨behind, htext⟩, last, hwalk, hstop⟩
    cases before with
    | nil =>
      obtain ⟨rfl, -⟩ := List.cons.inj htext
      obtain rfl := Option.some.inj hwalk
      exact .inl ⟨rfl, rfl, hstop⟩
    | cons d more =>
      obtain ⟨rfl, hmore⟩ := List.cons.inj htext
      rw [List.foldlM_cons] at hwalk
      obtain ⟨next, hnext, hwalk⟩ := Option.bind_eq_some_iff.1 hwalk
      exact .inr ⟨more, next, rfl, hnext, ⟨behind, hmore⟩, last, hwalk, hstop⟩
  · rintro (⟨rfl, rfl, hstop⟩ | ⟨more, next, rfl, hnext, ⟨behind, rfl⟩, last, hwalk, hstop⟩)
    · exact ⟨⟨text, rfl⟩, state, rfl, hstop⟩
    · refine ⟨⟨behind, rfl⟩, last, ?_, hstop⟩
      rw [List.foldlM_cons, hnext]
      exact hwalk

/-- One character of the scan: where the marker does not stand here and the character can be passed,
what is found behind it is found. -/
lemma BodyEnd.Found.cons {e : BodyEnd}
    (hclear : ¬(state = .code [] ∧ (Text.afterMarker? closing (c :: text)).isSome))
    (hnext : state.next? c = some next) (h : e.Found closing next text) :
    (e.cons c).Found closing state (c :: text) := by
  -- no end stands here, so every end from here on is one behind the character
  have hends {body rest : List Char} (hbody : EndsFrom closing state (c :: text) body rest) :
      ∃ more, body = c :: more ∧ EndsFrom closing next text more rest := by
    obtain ⟨-, hstate, hmarker⟩ | ⟨more, other, rfl, hother, hmore⟩ := endsFrom_cons_iff.1 hbody
    · exact absurd ⟨hstate, by rw [hmarker]; rfl⟩ hclear
    · obtain rfl := Option.some.inj (hnext.symm.trans hother)
      exact ⟨more, rfl, hmore⟩
  cases e with
  | closed body rest =>
    obtain ⟨hbody, hfirst⟩ := h
    refine ⟨endsFrom_cons_iff.2 (.inr ⟨body, next, rfl, hnext, hbody⟩), ?_⟩
    intro other behind hother
    obtain ⟨more, rfl, hmore⟩ := hends hother
    exact Nat.succ_le_succ (hfirst more behind hmore)
  | unbalanced before bracket =>
    obtain ⟨hstops, hnone⟩ := h
    refine ⟨stopsFrom_cons_iff.2 (.inr ⟨before, next, rfl, hnext, hstops⟩), ?_⟩
    intro body rest hbody
    obtain ⟨more, -, hmore⟩ := hends hbody
    exact hnone more rest hmore
  | unterminated =>
    obtain ⟨hnone, hfree⟩ := h
    refine ⟨?_, ?_⟩
    · intro body rest hbody
      obtain ⟨more, -, hmore⟩ := hends hbody
      exact hnone more rest hmore
    · intro before bracket hstops
      obtain ⟨-, -, hstop⟩ | ⟨more, other, -, hother, hmore⟩ := stopsFrom_cons_iff.1 hstops
      · simp [hnext] at hstop
      · obtain rfl := Option.some.inj (hnext.symm.trans hother)
        exact hfree more bracket hmore

end

/-- The scan finds the first end. -/
lemma found_scanBody {closing : List Char} (hclosing : closing ≠ []) (state : BodyState)
    (text : List Char) : (scanBody closing state text).Found closing state text := by
  induction text generalizing state with
  | nil => exact ⟨not_endsFrom_nil hclosing, not_stopsFrom_nil⟩
  | cons c text ih =>
    unfold scanBody
    split
    · -- the marker stands here, and no end is nearer
      rename_i rest hmarker
      split at hmarker
      · rename_i hstate
        refine ⟨endsFrom_cons_iff.2 (.inl ⟨rfl, hstate, hmarker⟩), ?_⟩
        intro other behind _
        exact Nat.zero_le _
      · simp at hmarker
    · rename_i hmarker
      have hclear : ¬(state = .code [] ∧ (Text.afterMarker? closing (c :: text)).isSome) := by
        rintro ⟨hstate, hsome⟩
        rw [if_pos hstate] at hmarker
        simp [hmarker] at hsome
      split
      · -- the walk stops here, and an end further on would have to be walked to
        rename_i hstop
        refine ⟨stopsFrom_cons_iff.2 (.inl ⟨rfl, rfl, hstop⟩), ?_⟩
        intro body rest hbody
        obtain ⟨-, hstate, hfound⟩ | ⟨more, next, -, hnext, -⟩ := endsFrom_cons_iff.1 hbody
        · exact hclear ⟨hstate, by rw [hfound]; rfl⟩
        · simp [hstop] at hnext
      · rename_i next hnext
        exact (ih next).cons hclear hnext

lemma EndsFrom.unique {closing text body rest other behind : List Char} {state : BodyState}
    (h : EndsFrom closing state text body rest) (hother : EndsFrom closing state text other behind)
    (hlength : body.length = other.length) : body = other ∧ rest = behind := by
  obtain ⟨rfl, hrest⟩ := List.append_inj (h.text_eq.symm.trans hother.text_eq) hlength
  exact ⟨rfl, List.append_cancel_left hrest⟩

lemma StopsFrom.unique {text before other : List Char} {state : BodyState} {bracket second : Char}
    (h : StopsFrom state text before bracket) (hother : StopsFrom state text other second) :
    before = other ∧ bracket = second := by
  induction text generalizing state before other with
  | nil => exact absurd h (not_stopsFrom_nil _ _)
  | cons c text ih =>
    obtain ⟨rfl, rfl, hstop⟩ | ⟨more, next, rfl, hnext, hmore⟩ := stopsFrom_cons_iff.1 h
    · obtain ⟨rfl, rfl, -⟩ | ⟨_, next, -, hnext, -⟩ := stopsFrom_cons_iff.1 hother
      · exact ⟨rfl, rfl⟩
      · simp [hstop] at hnext
    · obtain ⟨-, -, hstop⟩ | ⟨others, next', rfl, hnext', hothers⟩ := stopsFrom_cons_iff.1 hother
      · simp [hstop] at hnext
      · obtain rfl := Option.some.inj (hnext.symm.trans hnext')
        obtain ⟨rfl, rfl⟩ := ih hmore hothers
        exact ⟨rfl, rfl⟩

lemma BodyEnd.Found.unique {closing text : List Char} {state : BodyState} {e other : BodyEnd}
    (h : e.Found closing state text) (hother : other.Found closing state text) : e = other := by
  cases e with
  | closed body rest =>
    cases other with
    | closed body' rest' =>
      -- each of the two ends is the first one, so they are equally far
      have hlength := Nat.le_antisymm (h.2 _ _ hother.1) (hother.2 _ _ h.1)
      obtain ⟨rfl, rfl⟩ := h.1.unique hother.1 hlength
      rfl
    | unbalanced before bracket => exact absurd h.1 (hother.2 _ _)
    | unterminated => exact absurd h.1 (hother.1 _ _)
  | unbalanced before bracket =>
    cases other with
    | closed body rest => exact absurd hother.1 (h.2 _ _)
    | unbalanced before' bracket' =>
      obtain ⟨rfl, rfl⟩ := h.1.unique hother.1
      rfl
    | unterminated => exact absurd h.1 (hother.2 _ _)
  | unterminated =>
    cases other with
    | closed body rest => exact absurd hother.1 (h.1 _ _)
    | unbalanced before bracket => exact absurd hother.1 (h.2 _ _)
    | unterminated => rfl

lemma scanBody_eq_iff {closing : List Char} (hclosing : closing ≠ []) {state : BodyState}
    {text : List Char} {e : BodyEnd} :
    scanBody closing state text = e ↔ e.Found closing state text := by
  constructor
  · rintro rfl
    exact found_scanBody hclosing state text
  · exact (found_scanBody hclosing state text).unique

/-! ## Bodies -/

/-- A balanced front of a text that is followed by a closing marker. -/
structure EndsAt (closing text body rest : List Char) : Prop where
  balanced : Balanced body
  text_eq : text = body ++ closing ++ rest

/-- A closing bracket behind text in which its partner is not the innermost open bracket. -/
structure Misplaced (text before : List Char) (bracket : Char) : Prop where
  text_eq : ∃ behind, text = before ++ bracket :: behind
  unmatched : ∃ brackets opening, Unclosed before brackets ∧ BracketPair opening bracket ∧
    brackets.head? ≠ some opening

lemma endsAt_iff {closing text body rest : List Char} :
    EndsAt closing text body rest ↔ EndsFrom closing (.code []) text body rest := by
  constructor
  · rintro ⟨hbalanced, htext⟩
    exact ⟨by rw [htext, List.append_assoc], foldlM_balanced hbalanced []⟩
  · rintro ⟨htext, hwalk⟩
    exact ⟨unclosed_nil_iff.1 (unclosed_iff.2 hwalk), by rw [htext, List.append_assoc]⟩

/-- Only a closing bracket outside of quotes stops the walk. -/
lemma next?_eq_none_iff {state : BodyState} {c : Char} :
    state.next? c = none ↔ ∃ brackets opening, state = .code brackets ∧ BracketPair opening c ∧
      brackets.head? ≠ some opening := by
  constructor
  · intro h
    cases state with
    | code brackets =>
      obtain hquote | ⟨closing, hpair⟩ | ⟨opening, hpair⟩ | hquiet := char_cases c
      · simp [next?_quote hquote] at h
      · simp [next?_opening hpair] at h
      · rw [next?_closing hpair] at h
        split at h
        · simp at h
        · exact ⟨brackets, opening, rfl, hpair, ‹_›⟩
      · simp [next?_of_isQuiet hquiet] at h
    | quoted quote brackets =>
      simp only [BodyState.next?] at h
      split at h
      · simp at h
      · split at h <;> simp at h
    | escaped quote brackets => simp [BodyState.next?] at h
  · rintro ⟨brackets, opening, rfl, hpair, hhead⟩
    rw [next?_closing hpair, if_neg hhead]

lemma misplaced_iff {text before : List Char} {bracket : Char} :
    Misplaced text before bracket ↔ StopsFrom (.code []) text before bracket := by
  constructor
  · rintro ⟨htext, brackets, opening, hunclosed, hpair, hhead⟩
    exact ⟨htext, .code brackets, foldlM_unclosed hunclosed,
      next?_eq_none_iff.2 ⟨brackets, opening, rfl, hpair, hhead⟩⟩
  · rintro ⟨htext, last, hwalk, hstop⟩
    obtain ⟨brackets, opening, rfl, hpair, hhead⟩ := next?_eq_none_iff.1 hstop
    exact ⟨htext, brackets, opening, unclosed_iff.2 hwalk, hpair, hhead⟩

/-- No balanced front reaches beyond a misplaced bracket. -/
lemma Misplaced.length_le {closing text before body rest : List Char} {bracket : Char}
    (h : Misplaced text before bracket) (hbody : EndsAt closing text body rest) :
    body.length ≤ before.length := by
  obtain ⟨⟨behind, htext⟩, last, hwalk, hstop⟩ := misplaced_iff.1 h
  obtain ⟨hends, hbalanced⟩ := endsAt_iff.1 hbody
  by_contra hlength
  -- The bracket would stand inside of the body, and the walk over the body would stop there.
  obtain ⟨more, hmore⟩ : before ++ [bracket] <+: body := by
    have hfront : before ++ [bracket] <+: text := ⟨behind, by rw [htext, List.append_assoc]; rfl⟩
    have hwhole : body <+: text := ⟨closing ++ rest, hends.symm⟩
    refine List.prefix_of_prefix_length_le hfront hwhole ?_
    rw [List.length_append, List.length_singleton]
    omega
  rw [← hmore, List.foldlM_append, List.foldlM_append, hwalk] at hbalanced
  simp [hstop] at hbalanced

/-- **A body ends at the first closing marker that counts.**  It is the shortest balanced front of
the text that is followed by the closing marker.  A closing bracket is reported, on its line, if it
is misplaced and comes before the end of any such front; and if there is neither such a front nor a
misplaced bracket, the construct has no end. -/
theorem readBody_ends_first (m : Marker) (line bodyLine : Nat) (text : List Char) :
    (∀ body rest, readBody m.construct m.closing line bodyLine text = .ok (body, rest) ↔
      EndsAt m.closing text body rest ∧
        ∀ other behind, EndsAt m.closing text other behind → body.length ≤ other.length) ∧
    (∀ bracket place, readBody m.construct m.closing line bodyLine text =
        .error (.unbalancedBracket m.construct bracket place) ↔
      ∃ before, Misplaced text before bracket ∧ place = bodyLine + newlines before ∧
        ∀ body rest, EndsAt m.closing text body rest → before.length < body.length) ∧
    (readBody m.construct m.closing line bodyLine text =
        .error (.unterminated m.construct line) ↔
      (∀ body rest, ¬EndsAt m.closing text body rest) ∧
        ∀ before bracket, ¬Misplaced text before bracket) := by
  -- each result of the scan is characterised by what it must have found
  have hscan (e : BodyEnd) : scanBody m.closing (.code []) text = e ↔
      e.Found m.closing (.code []) text := scanBody_eq_iff m.closing_ne
  have hclosed := fun body rest => hscan (.closed body rest)
  have hunbalanced := fun before bracket => hscan (.unbalanced before bracket)
  have hunterminated := hscan .unterminated
  simp only [BodyEnd.Found, ← endsAt_iff, ← misplaced_iff] at hclosed hunbalanced hunterminated
  refine ⟨?_, ?_, ?_⟩
  · intro body rest
    rw [← hclosed]
    rw [readBody_eq]
    cases scanBody m.closing (.code []) text <;> simp
  · intro bracket place
    constructor
    · intro h
      rw [readBody_eq] at h
      split at h
      · simp at h
      · rename_i before bracket' hends
        obtain ⟨-, rfl, rfl⟩ : True ∧ bracket' = bracket ∧ bodyLine + newlines before = place := by
          simpa using h
        obtain ⟨hmisplaced, hnone⟩ := (hunbalanced before bracket').1 hends
        exact ⟨before, hmisplaced, rfl, fun body rest hbody => absurd hbody (hnone body rest)⟩
      · simp at h
    · rintro ⟨before, hmisplaced, rfl, hbefore⟩
      -- an end further on would have the misplaced bracket in its balanced body
      have hnone : ∀ body rest, ¬EndsAt m.closing text body rest := fun body rest hbody =>
        absurd (hmisplaced.length_le hbody) (Nat.not_le.2 (hbefore body rest hbody))
      rw [readBody_eq, (hunbalanced before bracket).2 ⟨hmisplaced, hnone⟩]
  · rw [← hunterminated]
    rw [readBody_eq]
    cases scanBody m.closing (.code []) text <;> simp

/-- A closing marker of brackets: it counts behind the brackets that match, and not inside of the
string. -/
example : readBody .directive [']', ']'] 1 1 "a[b[\"]]\"]]]]x".toList =
    .ok ("a[b[\"]]\"]]".toList, ['x']) := rfl

end ViewTemplate.Template
