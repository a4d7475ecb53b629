import Mathlib.Tactic.Common
import ViewTemplate.Script.Exec

/-!
# Statements that fail change nothing

Storing a value at a place makes what is missing on the way: the variable, the maps, the entries,
the item behind the last one of a list.  Done in place, each of these is written before the steps
behind it are looked at, so a step that fails could leave some of them behind.  `assignInPlace` is
this way of storing: it gives what the variables hold at the end of the attempt, whether it failed
or not.

It never leaves anything behind (`assignInPlace_eq`).  What is made on the way is null, a null is
taken for an empty map by the next step, and from there on no step can fail (`store_null`).  So a
step that fails has only passed containers that were there, and those are as they were.

`runInPlace` runs statements by storing in place.  It does what `runStatements` does, and a run that
fails has done the statements before the failing one and nothing of that one but its echoes.
-/

namespace ViewTemplate

namespace Bindings

variable {α : Type}

/-- The bindings with a name bound to a value unless it is bound already. -/
def ensure (b : Bindings α) (name : String) (value : α) : Bindings α :=
  if has b name then b else bind b name value

lemma bind_bind (b : Bindings α) (name : String) (first second : α) :
    bind (bind b name first) name second = bind b name second := by
  induction b with
  | nil => simp [bind]
  | cons entry rest ih =>
    by_cases h : entry.1 = name
    · simp [bind, h]
    · simp [bind, h, ih]

lemma bind_of_find? {b : Bindings α} {name : String} {value : α} (h : find? b name = some value) :
    bind b name value = b := by
  induction b with
  | nil => simp [find?] at h
  | cons entry rest ih =>
    obtain ⟨k, v⟩ := entry
    by_cases hk : k = name
    · have hv : v = value := by simpa [find?, hk] using h
      rw [bind, if_pos hk, hv]
    · have hne : (name == k) = false := by simpa using fun e => hk e.symm
      have hrest : find? rest name = some value := by
        simpa [find?, List.lookup_cons, hne] using h
      rw [bind, if_neg hk, ih hrest]

lemma ensure_of_some {b : Bindings α} {name : String} {value : α} (h : find? b name = some value)
    (other : α) : ensure b name other = b := by
  simp [ensure, has, h]

lemma ensure_of_none {b : Bindings α} {name : String} (h : find? b name = none) (value : α) :
    ensure b name value = bind b name value := by
  simp [ensure, has, h]

end Bindings

namespace Script

/-! ## Storing in place -/

/-- What an attempt to change something leaves behind, and why it stopped, if it did. -/
structure Attempt (α : Type) where
  left : α
  error : Option ScriptError

namespace Attempt

variable {α β : Type}

/-- The attempt on a part, seen from the whole. -/
def map (f : α → β) (a : Attempt α) : Attempt β :=
  ⟨f a.left, a.error⟩

/-- The attempt that changes nothing unless it succeeds. -/
def whole (before : α) : Except ScriptError α → Attempt α
  | .ok after => ⟨after, none⟩
  | .error e => ⟨before, some e⟩

end Attempt

/-- The name that a step has in a map. -/
def PathStep.name : PathStep → String
  | .key k => k.display
  | .property name => name

/-- Store a value in an entry of a map, which is made if it is missing. -/
def openInPlace (entries : Bindings Value) (name : String) (inner : Value → Attempt Value) :
    Attempt (Bindings Value) :=
  let opened := Bindings.ensure entries name .null
  (inner ((Bindings.find? opened name).getD .null)).map (Bindings.bind opened name)

/-- Store a value in an item of a list, which is made if it is the one behind the last. -/
def reachInPlace (items : List Value) (i : Nat) (inner : Value → Attempt Value) :
    Attempt (List Value) :=
  let grown := if i = items.length then items ++ [.null] else items
  match grown[i]? with
  | none => ⟨grown, some (.undefinedIndex (Decimal.natText i))⟩
  | some item => (inner item).map (grown.set i)

/-- Store a value behind one step into a container. -/
def enterInPlace (inner : Value → Attempt Value) : Value → PathStep → Attempt Value
  | .list items, .key k =>
    match k with
    | .number n =>
      match n.toIndex? with
      | none => ⟨.list items, some (.wrongType (.badListKey k))⟩
      | some i => (reachInPlace items i inner).map .list
    | _ => ⟨.list items, some (.wrongType (.badListKey k))⟩
  | .map entries, step => (openInPlace entries step.name inner).map .map
  | other, _ => ⟨other, some (.wrongType (.notAssignable other.kind))⟩

/-- Store a value at the end of a path, changing every container on the way as soon as it is
reached.  A null becomes an empty map when it is entered. -/
def storeInPlace (v : Value) : (path : List PathStep) → Value → Attempt Value
  | [], _ => ⟨v, none⟩
  | step :: path, .null => enterInPlace (storeInPlace v path) (.map []) step
  | step :: path, container => enterInPlace (storeInPlace v path) container step

/-- Store a value at the place an expression names, in place. -/
def assignInPlace (functions : Functions) (vars : Vars) (target : Expr) (v : Value) :
    Attempt Vars :=
  match placeOf functions vars target with
  | .error e => ⟨vars, some e⟩
  | .ok place => openInPlace vars place.root (storeInPlace v place.path)

/-! ## Nothing is left behind -/

lemma store_null (v : Value) (path : List PathStep) : ∃ made, store v path .null = .ok made := by
  induction path with
  | nil => exact ⟨v, rfl⟩
  | cons step path ih =>
    obtain ⟨made, hmade⟩ := ih
    cases step with
    | key k => exact ⟨.map [(k.display, made)], by simp [store, Bindings.find?, hmade, bind,
        Except.bind, Bindings.bind]⟩
    | property name => exact ⟨.map [(name, made)], by simp [store, Bindings.find?, hmade, bind,
        Except.bind, Bindings.bind]⟩

/-- An entry is stored as a whole if its value is, and if a missing one can always be made. -/
lemma openInPlace_eq {inner : Value → Attempt Value} {result : Value → Except ScriptError Value}
    (hinner : ∀ old, inner old = .whole old (result old)) (hnull : ∃ made, result .null = .ok made)
    (entries : Bindings Value) (name : String) :
    openInPlace entries name inner =
      .whole entries ((result ((Bindings.find? entries name).getD .null)).map
        (Bindings.bind entries name)) := by
  unfold openInPlace
  cases hfind : Bindings.find? entries name with
  | none =>
    obtain ⟨made, hmade⟩ := hnull
    simp only [Bindings.ensure_of_none hfind, Bindings.find?_bind_self, hinner, hmade,
      Option.getD_some, Option.getD_none, Attempt.whole, Attempt.map, Except.map,
      Bindings.bind_bind]
  | some item =>
    simp only [Bindings.ensure_of_some hfind, hfind, hinner, Option.getD_some]
    cases result item with
    | ok changed => rfl
    | error e => simp only [Attempt.whole, Attempt.map, Except.map, Bindings.bind_of_find? hfind]

lemma store_map (v : Value) (step : PathStep) (path : List PathStep) (entries : Bindings Value) :
    store v (step :: path) (.map entries) =
      ((store v path ((Bindings.find? entries step.name).getD .null)).map
        (Bindings.bind entries step.name)).map .map := by
  cases step with
  | key k =>
    simp only [store, PathStep.name]
    cases store v path ((Bindings.find? entries k.display).getD .null) <;> rfl
  | property name =>
    simp only [store, PathStep.name]
    cases store v path ((Bindings.find? entries name).getD .null) <;> rfl

/-- An item of a list is stored as a whole if its value is, and so is one behind the last. -/
lemma reachInPlace_eq {v : Value} {path : List PathStep}
    (hinner : ∀ old, storeInPlace v path old = .whole old (store v path old)) (items : List Value)
    (i : Nat) :
    (reachInPlace items i (storeInPlace v path)).map Value.list =
      .whole (.list items)
        (if i = items.length then do
          let item ← store v path .null
          .ok (.list (items ++ [item]))
        else
          match items[i]? with
          | none => .error (.undefinedIndex (Decimal.natText i))
          | some item => do
            let item ← store v path item
            .ok (.list (items.set i item))) := by
  unfold reachInPlace
  by_cases hi : i = items.length
  · -- behind the last item: in the null that is put there storing cannot fail
    obtain ⟨made, hmade⟩ := store_null v path
    subst hi
    simp [hinner, hmade, Attempt.map, Attempt.whole, bind, Except.bind]
  · simp only [if_neg hi]
    cases hitem : items[i]? with
    | none => rfl
    | some item =>
      simp only [hinner]
      cases store v path item with
      | ok changed => rfl
      | error e =>
        -- a failed store has put the item back where it was
        obtain ⟨hlt, rfl⟩ := List.getElem?_eq_some_iff.1 hitem
        simp only [Attempt.whole, Attempt.map, List.set_getElem_self]
        rfl

/-- Storing in place changes a value as a whole or not at all. -/
lemma storeInPlace_eq (v : Value) (path : List PathStep) (old : Value) :
    storeInPlace v path old = .whole old (store v path old) := by
  induction path generalizing old with
  | nil => rfl
  | cons step path ih =>
    -- Null and maps are entered by name, which makes what is missing.
    have hmap (entries : Bindings Value) :
        (openInPlace entries step.name (storeInPlace v path)).map Value.map =
          .whole (.map entries) (store v (step :: path) (.map entries)) := by
      rw [openInPlace_eq ih (store_null v path), store_map]
      cases store v path ((Bindings.find? entries step.name).getD .null) <;> rfl
    cases old with
    | null =>
      obtain ⟨made, hmade⟩ := store_null v (step :: path)
      have hempty : store v (step :: path) (.map []) = .ok made := hmade
      have hentered := hmap []
      rw [hempty] at hentered
      rw [hmade]
      exact hentered
    | map entries => exact hmap entries
    | list items =>
      cases step with
      | property name => rfl
      | key k =>
        cases k with
        | number n =>
          simp only [storeInPlace, enterInPlace, store]
          cases n.toIndex? with
          | none => rfl
          | some i => exact reachInPlace_eq ih items i
        | _ => rfl
    | _ => rfl

/-- Storing at the place of an expression in place gives the variables after the assignment, or
leaves them as they were. -/
lemma assignInPlace_eq (functions : Functions) (vars : Vars) (target : Expr) (v : Value) :
    assignInPlace functions vars target v = .whole vars (assign functions vars target v) := by
  unfold assignInPlace assign
  cases placeOf functions vars target with
  | error e => rfl
  | ok place =>
    simp only [openInPlace_eq (storeInPlace_eq v place.path) (store_null v place.path)]
    change _ = Attempt.whole vars (assignPlace vars place v)
    unfold assignPlace
    cases store v place.path ((Bindings.find? vars place.root).getD .null) <;> rfl

/-! ## Running statements in place -/

/-- Store a value that was computed, in place, or stop with the error of computing it. -/
def Run.storing (functions : Functions) (vars : Vars) (out : String) (target : Expr) :
    Except ScriptError Value → Run
  | .error e => ⟨vars, out, some e⟩
  | .ok v =>
    let attempt := assignInPlace functions vars target v
    ⟨attempt.left, out, attempt.error⟩

/-- The value that an assignment stores. -/
def assignedValue (functions : Functions) (vars : Vars) (target : Expr) (op : AssignOp)
    (value : Expr) : Except ScriptError Value := do
  let v ← eval functions vars value
  match op.combine? with
  | none => .ok v
  | some op =>
    let old ← current functions vars target
    op.apply old v

/-- The value of a place with one added to it or taken from it. -/
def steppedValue (functions : Functions) (vars : Vars) (target : Expr) (op : ArithmeticOp) :
    Except ScriptError Value := do
  let old ← current functions vars target
  arithmetic op old (.ofInt 1)

/-- Run one statement, storing in place. -/
def runStatementInPlace (functions : Functions) (vars : Vars) (out : String) : Stmt → Run
  | .echo values => echo functions vars out values
  | .expr e =>
    match eval functions vars e with
    | .ok _ => ⟨vars, out, none⟩
    | .error err => ⟨vars, out, some err⟩
  | .assign target op value =>
    .storing functions vars out target (assignedValue functions vars target op value)
  | .increment target =>
    .storing functions vars out target (steppedValue functions vars target .add)
  | .decrement target =>
    .storing functions vars out target (steppedValue functions vars target .subtract)

/-- Run statements in order, storing in place, up to the first that fails. -/
def runInPlace (functions : Functions) : Vars → String → List Stmt → Run
  | vars, out, [] => ⟨vars, out, none⟩
  | vars, out, s :: rest =>
    match runStatementInPlace functions vars out s with
    | ⟨vars, out, none⟩ => runInPlace functions vars out rest
    | stopped => stopped

lemma Run.storing_eq (functions : Functions) (vars : Vars) (out : String) (target : Expr)
    (computed : Except ScriptError Value) :
    Run.storing functions vars out target computed =
      .ofVars vars out (computed >>= assign functions vars target) := by
  cases computed with
  | error e => rfl
  | ok v =>
    simp only [Run.storing, assignInPlace_eq]
    change _ = Run.ofVars vars out (assign functions vars target v)
    cases assign functions vars target v <;> rfl

lemma runStatementInPlace_eq (functions : Functions) (vars : Vars) (out : String) (s : Stmt) :
    runStatementInPlace functions vars out s = runStatement functions vars out s := by
  cases s with
  | echo values => rfl
  | expr e =>
    simp only [runStatementInPlace, runStatement]
    cases eval functions vars e <;> rfl
  | assign target op value =>
    simp only [runStatementInPlace, runStatement, Run.storing_eq]
    congr 1
    unfold assignedValue runAssign
    rw [bind_assoc]
    congr 1
    funext v
    cases op.combine? with
    | none => rfl
    | some op => rw [bind_assoc]
  | increment target =>
    simp only [runStatementInPlace, runStatement, Run.storing_eq, steppedValue, runStep,
      bind_assoc]
  | decrement target =>
    simp only [runStatementInPlace, runStatement, Run.storing_eq, steppedValue, runStep,
      bind_assoc]

lemma runInPlace_eq (functions : Functions) (vars : Vars) (out : String) (statements : List Stmt) :
    runInPlace functions vars out statements = runStatements functions vars out statements := by
  induction statements generalizing vars out with
  | nil => rfl
  | cons s rest ih =>
    rw [runInPlace, runStatements, runStatementInPlace_eq]
    obtain ⟨changed, written, error⟩ := runStatement functions vars out s
    cases error with
    | none => exact ih changed written
    | some e => rfl

/-! ## Runs that fail -/

/-- A statement fails and has echoed some values before: an `echo` those of its operands in front of
the one that fails, any other statement none. -/
inductive FailsAfter (functions : Functions) (vars : Vars) (e : ScriptError) :
    Stmt → List Value → Prop
  | echo {shown more : List Expr} {failing : Expr} {values : List Value}
      (hshown : evalAll functions vars shown = .ok values)
      (hfailing : eval functions vars failing = .error e) :
      FailsAfter functions vars e (.echo (shown ++ failing :: more)) values
  | other {s : Stmt} (hs : ∀ operands, s ≠ .echo operands) : FailsAfter functions vars e s []

/-- An `echo` that fails has written its operands up to the one that fails. -/
lemma echo_eq_failed {functions : Functions} {vars : Vars} {operands : List Expr} {e : ScriptError}
    {out : String} (h : (echo functions vars out operands).error = some e) :
    ∃ values, FailsAfter functions vars e (.echo operands) values ∧
      echo functions vars out operands =
        ⟨vars, out ++ String.join (values.map Value.display), some e⟩ := by
  induction operands generalizing out with
  | nil => simp [echo] at h
  | cons operand rest ih =>
    cases hoperand : eval functions vars operand with
    | error err =>
      simp only [echo, hoperand, Option.some.injEq] at h ⊢
      subst h
      exact ⟨[], FailsAfter.echo (rfl : evalAll functions vars [] = .ok []) hoperand, by simp⟩
    | ok v =>
      simp only [echo, hoperand] at h ⊢
      obtain ⟨values, hfails, hrun⟩ := ih h
      -- this operand has been written before the one that fails
      refine ⟨v :: values, ?_, ?_⟩
      · cases hfails with
        | @echo shown more failing _ hshown hfailing =>
          have hall : evalAll functions vars (operand :: shown) = .ok (v :: values) := by
            simp [evalAll, hoperand, hshown, bind, Except.bind]
          exact .echo hall hfailing
        | other hs => exact absurd rfl (hs rest)
      · rw [hrun, List.map_cons, String.join_cons, String.append_assoc]

lemma runStatement_eq_failed {functions : Functions} {vars : Vars} {s : Stmt} {e : ScriptError}
    {out : String} (h : (runStatement functions vars out s).error = some e) :
    ∃ values, FailsAfter functions vars e s values ∧
      runStatement functions vars out s =
        ⟨vars, out ++ String.join (values.map Value.display), some e⟩ := by
  have hvars {result : Except ScriptError Vars}
      (hresult : (Run.ofVars vars out result).error = some e) :
      Run.ofVars vars out result =
        ⟨vars, out ++ String.join (([] : List Value).map Value.display), some e⟩ := by
    cases result with
    | ok changed => simp [Run.ofVars] at hresult
    | error err => simpa [Run.ofVars] using hresult
  cases s with
  | echo operands => exact echo_eq_failed h
  | expr e => exact ⟨[], .other (by simp), hvars h⟩
  | assign target op value => exact ⟨[], .other (by simp), hvars h⟩
  | increment target => exact ⟨[], .other (by simp), hvars h⟩
  | decrement target => exact ⟨[], .other (by simp), hvars h⟩

/-- A run that fails has done the statements before the failing one, and of that one only echoes. -/
lemma runStatements_eq_failed {functions : Functions} {vars : Vars} {statements : List Stmt}
    {e : ScriptError} {out : String}
    (h : (runStatements functions vars out statements).error = some e) :
    ∃ before s behind kept written values, statements = before ++ s :: behind ∧
      runStatements functions vars out before = ⟨kept, written, none⟩ ∧
      FailsAfter functions kept e s values ∧
      runStatement functions kept written s =
        ⟨kept, written ++ String.join (values.map Value.display), some e⟩ ∧
      runStatements functions vars out statements = runStatement functions kept written s := by
  induction statements generalizing vars out with
  | nil => simp [runStatements] at h
  | cons s rest ih =>
    cases hs : runStatement functions vars out s with
    | mk changed shown error =>
      cases error with
      | some err =>
        have hrun : runStatements functions vars out (s :: rest) = ⟨changed, shown, some err⟩ := by
          simp only [runStatements, hs]
        rw [hrun] at h ⊢
        have hfailed : (runStatement functions vars out s).error = some e := by rw [hs]; exact h
        obtain ⟨values, hfails, heq⟩ := runStatement_eq_failed hfailed
        exact ⟨[], s, rest, vars, out, values, rfl, rfl, hfails, heq, hs.symm⟩
      | none =>
        -- the statement is done, and the failing one stands behind it
        have hrun (more : List Stmt) : runStatements functions vars out (s :: more) =
            runStatements functions changed shown more := by
          simp only [runStatements, hs]
        rw [hrun] at h
        obtain ⟨before, failing, behind, kept, written, values, rfl, hbefore, hfails, hfailing,
          heq⟩ := ih h
        exact ⟨s :: before, failing, behind, kept, written, values, rfl, by rw [hrun, hbefore],
          hfails, hfailing, by rw [hrun, heq]⟩

/-- **A statement that fails changes nothing.**  Storing in place, which writes while it walks, does
what `assign` does, and leaves the variables alone when it fails.  So statements that are run in
place do what `runStatements` does, and a run that fails has the variables that the statements
before the failing one left, and their output with what the failing one had echoed. -/
theorem failed_statement_changes_nothing (functions : Functions) (vars : Vars) :
    (∀ (target : Expr) (v : Value),
      assignInPlace functions vars target v = .whole vars (assign functions vars target v) ∧
      ∀ e, (assignInPlace functions vars target v).error = some e →
        (assignInPlace functions vars target v).left = vars) ∧
    ∀ (out : String) (statements : List Stmt),
      runInPlace functions vars out statements = runStatements functions vars out statements ∧
      ∀ e, (runInPlace functions vars out statements).error = some e →
        ∃ before s behind kept written values, statements = before ++ s :: behind ∧
          runInPlace functions vars out before = ⟨kept, written, none⟩ ∧
          FailsAfter functions kept e s values ∧
          runStatementInPlace functions kept written s =
            ⟨kept, written ++ String.join (values.map Value.display), some e⟩ ∧
          runInPlace functions vars out statements =
            runStatementInPlace functions kept written s := by
  refine ⟨fun target v => ⟨assignInPlace_eq functions vars target v, fun e h => ?_⟩,
    fun out statements => ⟨runInPlace_eq functions vars out statements, fun e h => ?_⟩⟩
  · rw [assignInPlace_eq] at h ⊢
    cases hassign : assign functions vars target v with
    | ok changed => simp [hassign, Attempt.whole] at h
    | error err => rfl
  · simp only [runInPlace_eq, runStatementInPlace_eq] at h ⊢
    exact runStatements_eq_failed h

/-- The second statement makes a list longer and a map in its new item; the third one walks through
the same list to a number, which it cannot enter. -/
theorem failed_statement_changes_nothing_nested :
    let functions : Functions := ⟨fun name _ => .error (.unknownNative name),
      fun name _ => .error (.unknown name)⟩
    let row : Expr := .index (.property (.var "m") "row") (.literal (.ofInt 0))
    let statements : List Stmt :=
      [.assign (.property (.var "m") "row") .set (.array [(none, .literal (.ofInt 7))]),
        .assign (.property (.index (.property (.var "m") "row") (.literal (.ofInt 1))) "k") .set
          (.literal (.bool true)),
        .assign (.property (.property row "a") "b") .set (.literal .null)]
    (runInPlace functions [] "" statements).error = some (.wrongType (.notAssignable .number)) ∧
    ∃ before s behind kept written values, statements = before ++ s :: behind ∧
      runInPlace functions [] "" before = ⟨kept, written, none⟩ ∧
      FailsAfter functions kept (.wrongType (.notAssignable .number)) s values ∧
      runStatementInPlace functions kept written s =
        ⟨kept, written ++ String.join (values.map Value.display),
          some (.wrongType (.notAssignable .number))⟩ ∧
      runInPlace functions [] "" statements = runStatementInPlace functions kept written s := by
  intro functions row statements
  have herror : (runInPlace functions [] "" statements).error =
      some (.wrongType (.notAssignable .number)) := rfl
  exact ⟨herror, ((failed_statement_changes_nothing functions []).2 "" statements).2 _ herror⟩

end Script

end ViewTemplate
