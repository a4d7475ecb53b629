import Mathlib.Tactic.Common
import ViewTemplate.Proofs.FailedStatements
import ViewTemplate.Proofs.TokenRows
import ViewTemplate.Proofs.WrittenExpressions

/-!
# Where the errors of scripts come from

A script that has been read can still fail when it runs.  Some errors are found by evaluation
itself: a variable or an index that is not there, a value of the wrong kind, a method call
(`ScriptError.isOwn`).  All others are the errors of a plain function that the script calls, so what
a script calls (`Expr.callees`) bounds what it can fail with: `eval_comesFrom` for expressions and
`runStatements_comesFrom` for statements.

Statements have one more way to fail, a target that is no place.  The reader asks every target
whether it is one, and evaluation finds the place by a recursion of its own; the two agree, so
statements that have been read never fail for their targets, and never with a fault of syntax.
-/

namespace ViewTemplate

/-- Whether evaluation finds an error by itself.  The errors of view functions are among them: they
come wrapped, whatever the function says. -/
def ScriptError.isOwn : ScriptError → Bool
  | .undefinedVariable _ | .undefinedIndex _ | .wrongType _ | .methodCall _ | .divisionByZero
  | .viewFunction _ => true
  | _ => false

namespace Script

open Engine (bind_eq_error)

/-! ## The functions that a script calls -/

/-- What a call goes to. -/
inductive Callee where
  | plain (name : String)
  | view (name : String)
  deriving Repr, DecidableEq

mutual

/-- The functions that an expression calls, from left to right. -/
def Expr.callees : Expr → List Callee
  | .literal _ | .var _ => []
  | .array items => calleesOfItems items
  | .index target position => target.callees ++ position.callees
  | .property target _ => target.callees
  | .call name args => .plain name :: calleesOfAll args
  | .viewCall name args => .view name :: calleesOfAll args
  | .method target _ args => target.callees ++ calleesOfAll args
  | .unary _ operand => operand.callees
  | .binary _ left right => left.callees ++ right.callees
  | .coalesce left right => left.callees ++ right.callees
  | .ternary condition yes no => condition.callees ++ yes.callees ++ no.callees
termination_by structural e => e

/-- The functions that a row of expressions calls. -/
def calleesOfAll : List Expr → List Callee
  | [] => []
  | e :: rest => e.callees ++ calleesOfAll rest
termination_by structural es => es

/-- The functions that the entries of an array literal call. -/
def calleesOfItems : List (Option Expr × Expr) → List Callee
  | [] => []
  | (some key, value) :: rest => key.callees ++ value.callees ++ calleesOfItems rest
  | (none, value) :: rest => value.callees ++ calleesOfItems rest
termination_by structural items => items

end

/-- The place that a statement changes. -/
def Stmt.target? : Stmt → Option Expr
  | .assign target _ _ | .increment target | .decrement target => some target
  | .echo _ | .expr _ => none

def Stmt.callees : Stmt → List Callee
  | .assign target _ value => target.callees ++ value.callees
  | .increment target | .decrement target => target.callees
  | .echo values => calleesOfAll values
  | .expr e => e.callees

lemma callees_subset_of_mem {e : Expr} {es : List Expr} (h : e ∈ es) :
    e.callees ⊆ calleesOfAll es := by
  induction es with
  | nil => cases h
  | cons first rest ih =>
    rw [calleesOfAll]
    obtain rfl | hrest := List.mem_cons.1 h
    · exact List.subset_append_left _ _
    · exact List.subset_append_of_subset_right _ (ih hrest)

lemma callees_subset_of_mem_items {item : Option Expr × Expr} {items : List (Option Expr × Expr)}
    (h : item ∈ items) :
    (∀ key ∈ item.1, key.callees ⊆ calleesOfItems items) ∧
      item.2.callees ⊆ calleesOfItems items := by
  induction items with
  | nil => cases h
  | cons first rest ih =>
    obtain ⟨key?, value⟩ := first
    have hrest : calleesOfItems rest ⊆ calleesOfItems ((key?, value) :: rest) := by
      cases key? <;> exact List.subset_append_right _ _
    obtain rfl | hmem := List.mem_cons.1 h
    · cases key? with
      | none => exact ⟨by simp, List.subset_append_left _ _⟩
      | some key =>
        refine ⟨fun found hfound => ?_, ?_⟩
        · obtain rfl := Option.mem_some.1 hfound
          exact List.subset_append_of_subset_left _ (List.subset_append_left _ _)
        · exact List.subset_append_of_subset_left _ (List.subset_append_right _ _)
    · obtain ⟨hkeys, hvalue⟩ := ih hmem
      exact ⟨fun key hkey => List.Subset.trans (hkeys key hkey) hrest,
        List.Subset.trans hvalue hrest⟩

/-! ## Errors of expressions -/

/-- An error is found by evaluation itself, or it is the error of a plain function that is
called. -/
def ComesFrom (functions : Functions) (callees : List Callee) (err : ScriptError) : Prop :=
  err.isOwn = true ∨
    ∃ name args, Callee.plain name ∈ callees ∧ functions.plain name args = .error err

lemma ComesFrom.mono {functions : Functions} {callees more : List Callee} {err : ScriptError}
    (h : ComesFrom functions callees err) (hsub : callees ⊆ more) :
    ComesFrom functions more err :=
  h.imp_right fun ⟨name, args, hmem, hcall⟩ => ⟨name, args, hsub hmem, hcall⟩

section Operators

variable {err : ScriptError}

lemma isOwn_of_operand {v : Value} (h : operand v = .error err) : err.isOwn = true := by
  unfold operand at h
  split at h
  · cases h
  · obtain rfl := Except.error.inj h
    rfl

lemma isOwn_of_finiteResult {x : Float} (h : finiteResult x = .error err) : err.isOwn = true := by
  unfold finiteResult at h
  split at h
  · cases h
  · obtain rfl := Except.error.inj h
    rfl

lemma isOwn_of_arithmetic {op : ArithmeticOp} {a b : Value} (h : arithmetic op a b = .error err) :
    err.isOwn = true := by
  obtain h | ⟨x, -, h⟩ := bind_eq_error h
  · exact isOwn_of_operand h
  obtain h | ⟨y, -, h⟩ := bind_eq_error h
  · exact isOwn_of_operand h
  split at h
  · obtain rfl := Except.error.inj h
    rfl
  · split at h
    · split at h
      · cases h
      · exact isOwn_of_finiteResult h
    · exact isOwn_of_finiteResult h

lemma isOwn_of_binary {op : BinaryOp} {a b : Value} (h : op.apply a b = .error err) :
    err.isOwn = true := by
  cases op with
  | add | subtract | multiply | divide | modulo => exact isOwn_of_arithmetic h
  | _ => cases h

lemma isOwn_of_unary {op : UnaryOp} {v : Value} (h : op.apply v = .error err) :
    err.isOwn = true := by
  cases op with
  | not => cases h
  | negate => exact isOwn_of_arithmetic h

lemma isOwn_of_indexed {target position : Value} (h : indexed target position = .error err) :
    err.isOwn = true := by
  cases target with
  | list _ | map _ | text _ =>
    unfold indexed at h
    dsimp only at h
    split at h
    · cases h
    · obtain rfl := Except.error.inj h
      rfl
  | _ =>
    obtain rfl := Except.error.inj h
    rfl

lemma isOwn_of_liftFunction {result : Except FunctionError Value}
    (h : liftFunction result = .error err) : err.isOwn = true := by
  cases result with
  | ok v => cases h
  | error e =>
    obtain rfl := Except.error.inj h
    rfl

end Operators

section Expressions

variable {functions : Functions} {vars : Vars} {err : ScriptError}

lemma evalAll_eq_error {es : List Expr} (h : evalAll functions vars es = .error err) :
    ∃ e ∈ es, eval functions vars e = .error err := by
  induction es with
  | nil => cases h
  | cons e rest ih =>
    obtain h | ⟨v, -, h⟩ := bind_eq_error h
    · exact ⟨e, List.mem_cons_self, h⟩
    · obtain h | ⟨vs, -, h⟩ := bind_eq_error h
      · obtain ⟨found, hmem, hfound⟩ := ih h
        exact ⟨found, List.mem_cons_of_mem e hmem, hfound⟩
      · cases h

lemma evalItems_eq_error {items : List (Option Expr × Expr)}
    (h : evalItems functions vars items = .error err) :
    ∃ item ∈ items, eval functions vars item.2 = .error err := by
  induction items with
  | nil => cases h
  | cons item rest ih =>
    obtain h | ⟨v, -, h⟩ := bind_eq_error h
    · exact ⟨item, List.mem_cons_self, h⟩
    · obtain h | ⟨vs, -, h⟩ := bind_eq_error h
      · obtain ⟨found, hmem, hfound⟩ := ih h
        exact ⟨found, List.mem_cons_of_mem item hmem, hfound⟩
      · cases h

lemma evalEntries_eq_error {items : List (Option Expr × Expr)} {entries : Bindings Value}
    {next : Nat} (h : evalEntries functions vars entries next items = .error err) :
    ∃ item ∈ items, (∃ key ∈ item.1, eval functions vars key = .error err) ∨
      eval functions vars item.2 = .error err := by
  induction items generalizing entries next with
  | nil => cases h
  | cons item rest ih =>
    obtain ⟨key?, value⟩ := item
    have hlater {entries : Bindings Value} {next : Nat}
        (h : evalEntries functions vars entries next rest = .error err) :
        ∃ item ∈ (key?, value) :: rest, (∃ key ∈ item.1, eval functions vars key = .error err) ∨
          eval functions vars item.2 = .error err := by
      obtain ⟨item, hitem, hfails⟩ := ih h
      exact ⟨item, List.mem_cons_of_mem _ hitem, hfails⟩
    cases key? with
    | none =>
      obtain h | ⟨v, -, h⟩ := bind_eq_error h
      · exact ⟨_, List.mem_cons_self, .inr h⟩
      · exact hlater h
    | some key =>
      obtain h | ⟨k, -, h⟩ := bind_eq_error h
      · exact ⟨_, List.mem_cons_self, .inl ⟨key, rfl, h⟩⟩
      obtain h | ⟨v, -, h⟩ := bind_eq_error h
      · exact ⟨_, List.mem_cons_self, .inr h⟩
      · exact hlater h

lemma eval_array_eq_error {items : List (Option Expr × Expr)}
    (h : eval functions vars (.array items) = .error err) :
    ∃ item ∈ items, (∃ key ∈ item.1, eval functions vars key = .error err) ∨
      eval functions vars item.2 = .error err := by
  rw [eval] at h
  split at h
  · cases hitems : evalItems functions vars items with
    | ok vs => rw [hitems] at h; cases h
    | error e =>
      rw [hitems] at h
      obtain rfl := Except.error.inj h
      exact (evalItems_eq_error hitems).imp fun item hitem => ⟨hitem.1, .inr hitem.2⟩
  · cases hentries : evalEntries functions vars [] 0 items with
    | ok bound => rw [hentries] at h; cases h
    | error e =>
      rw [hentries] at h
      obtain rfl := Except.error.inj h
      exact evalEntries_eq_error hentries

/-- An operation fails because one of its operands does, or on their values. -/
lemma eval_binary_eq_error {op : BinaryOp} {left right : Expr}
    (h : eval functions vars (.binary op left right) = .error err) :
    eval functions vars left = .error err ∨ eval functions vars right = .error err ∨
      err.isOwn = true := by
  have hright {f : Value → Except ScriptError Value}
      (h : (eval functions vars right >>= f) = .error err)
      (hf : ∀ b, f b = .error err → err.isOwn = true) :
      eval functions vars left = .error err ∨ eval functions vars right = .error err ∨
        err.isOwn = true := by
    obtain h | ⟨b, -, h⟩ := bind_eq_error h
    · exact .inr (.inl h)
    · exact .inr (.inr (hf b h))
  cases op with
  -- `or` and `and` do not always come to their right operand
  | or =>
    obtain h | ⟨a, -, h⟩ := bind_eq_error h
    · exact .inl h
    · split at h
      · cases h
      · exact hright h fun _ h => nomatch h
  | and =>
    obtain h | ⟨a, -, h⟩ := bind_eq_error h
    · exact .inl h
    · split at h
      · exact hright h fun _ h => nomatch h
      · cases h
  | _ =>
    obtain h | ⟨a, -, h⟩ := bind_eq_error h
    · exact .inl h
    · exact hright h fun _ => isOwn_of_binary

/-- The right operand of `??` is evaluated for some of the errors of the left one. -/
lemma eval_coalesce_eq_error {left right : Expr}
    (h : eval functions vars (.coalesce left right) = .error err) :
    eval functions vars left = .error err ∨ eval functions vars right = .error err := by
  rw [eval] at h
  split at h
  · exact .inr h
  · cases h
  · rename_i e hleft
    split at h
    · exact .inr h
    · exact .inl (hleft.trans h)

lemma eval_ternary_eq_error {condition yes no : Expr}
    (h : eval functions vars (.ternary condition yes no) = .error err) :
    eval functions vars condition = .error err ∨ eval functions vars yes = .error err ∨
      eval functions vars no = .error err := by
  obtain h | ⟨c, -, h⟩ := bind_eq_error h
  · exact .inl h
  · split at h
    · exact .inr (.inl h)
    · exact .inr (.inr h)

/-- An expression fails with an error of its own or with the error of a plain function it calls. -/
theorem eval_comesFrom {e : Expr} (h : eval functions vars e = .error err) :
    ComesFrom functions e.callees err := by
  induction e using Expr.induction generalizing err with
  | literal v => cases h
  | var name =>
    rw [eval] at h
    split at h
    · cases h
    · obtain rfl := Except.error.inj h
      exact .inl rfl
  | array items ih =>
    obtain ⟨item, hitem, hfails⟩ := eval_array_eq_error h
    obtain ⟨hkeys, hvalue⟩ := callees_subset_of_mem_items hitem
    obtain ⟨key, hkey, hfails⟩ | hfails := hfails
    · exact ((ih item hitem).1 key hkey hfails).mono (hkeys key hkey)
    · exact ((ih item hitem).2 hfails).mono hvalue
  | index target position ihTarget ihPosition =>
    obtain h | ⟨t, -, h⟩ := bind_eq_error h
    · exact (ihTarget h).mono (List.subset_append_left _ _)
    obtain h | ⟨p, -, h⟩ := bind_eq_error h
    · exact (ihPosition h).mono (List.subset_append_right _ _)
    · exact .inl (isOwn_of_indexed h)
  | property target name ih =>
    obtain h | ⟨t, -, h⟩ := bind_eq_error h
    · exact ih h
    · exact .inl (isOwn_of_indexed h)
  | call name args ih =>
    obtain h | ⟨vs, -, h⟩ := bind_eq_error h
    · obtain ⟨e, he, hfails⟩ := evalAll_eq_error h
      exact (ih e he hfails).mono (List.subset_cons_of_subset _ (callees_subset_of_mem he))
    · -- only here does an error come from outside
      exact .inr ⟨name, vs, List.mem_cons_self, h⟩
  | viewCall name args ih =>
    obtain h | ⟨vs, -, h⟩ := bind_eq_error h
    · obtain ⟨e, he, hfails⟩ := evalAll_eq_error h
      exact (ih e he hfails).mono (List.subset_cons_of_subset _ (callees_subset_of_mem he))
    · exact .inl (isOwn_of_liftFunction h)
  | method target name args _ _ =>
    obtain rfl := Except.error.inj h
    exact .inl rfl
  | unary op operand ih =>
    obtain h | ⟨v, -, h⟩ := bind_eq_error h
    · exact ih h
    · exact .inl (isOwn_of_unary h)
  | binary op left right ihLeft ihRight =>
    obtain h | h | h := eval_binary_eq_error h
    · exact (ihLeft h).mono (List.subset_append_left _ _)
    · exact (ihRight h).mono (List.subset_append_right _ _)
    · exact .inl h
  | coalesce left right ihLeft ihRight =>
    obtain h | h := eval_coalesce_eq_error h
    · exact (ihLeft h).mono (List.subset_append_left _ _)
    · exact (ihRight h).mono (List.subset_append_right _ _)
  | ternary condition yes no ihCondition ihYes ihNo =>
    obtain h | h | h := eval_ternary_eq_error h
    · exact (ihCondition h).mono
        (List.subset_append_of_subset_left _ (List.subset_append_left _ _))
    · exact (ihYes h).mono (List.subset_append_of_subset_left _ (List.subset_append_right _ _))
    · exact (ihNo h).mono (List.subset_append_right _ _)

end Expressions

/-! ## Errors of statements -/

section Statements

variable {functions : Functions} {vars : Vars} {err : ScriptError}

/-- To find a place only keys are evaluated. -/
lemma placeOf_comesFrom {target : Expr} (hplace : target.isPlace = true)
    (h : placeOf functions vars target = .error err) : ComesFrom functions target.callees err := by
  induction target using Expr.induction with
  | var name => cases h
  | index target position ihTarget _ =>
    obtain h | ⟨k, -, h⟩ := bind_eq_error h
    · exact (eval_comesFrom h).mono (List.subset_append_right _ _)
    obtain h | ⟨place, -, h⟩ := bind_eq_error h
    · exact (ihTarget hplace h).mono (List.subset_append_left _ _)
    · cases h
  | property target name ih =>
    obtain h | ⟨place, -, h⟩ := bind_eq_error h
    · exact ih hplace h
    · cases h
  | _ => cases hplace

lemma isOwn_of_store {v : Value} {path : List PathStep} {old : Value}
    (h : store v path old = .error err) : err.isOwn = true := by
  induction path generalizing old with
  | nil => cases h
  | cons step path ih =>
    -- an error further down the path is an error of the whole path
    have hinside {item : Value} {wrap : Value → Value}
        (h : (store v path item >>= fun item => .ok (wrap item)) = .error err) :
        err.isOwn = true := by
      obtain h | ⟨item, -, h⟩ := bind_eq_error h
      · exact ih h
      · cases h
    have hmap {entries : Bindings Value}
        (h : store v (step :: path) (.map entries) = .error err) : err.isOwn = true := by
      cases step with
      | key k => exact hinside h
      | property name => exact hinside h
    cases old with
    | null => exact hmap h
    | map entries => exact hmap h
    | list items =>
      cases step with
      | key k =>
        simp only [store] at h
        split at h
        · split at h
          · obtain rfl := Except.error.inj h
            rfl
          · split at h
            · exact hinside h
            · split at h
              · obtain rfl := Except.error.inj h
                rfl
              · exact hinside h
        · obtain rfl := Except.error.inj h
          rfl
      | property name =>
        obtain rfl := Except.error.inj h
        rfl
    | _ =>
      obtain rfl := Except.error.inj h
      rfl

lemma assign_comesFrom {target : Expr} {v : Value} (hplace : target.isPlace = true)
    (h : assign functions vars target v = .error err) : ComesFrom functions target.callees err := by
  obtain h | ⟨place, -, h⟩ := bind_eq_error h
  · exact placeOf_comesFrom hplace h
  obtain h | ⟨value, -, h⟩ := bind_eq_error h
  · exact .inl (isOwn_of_store h)
  · cases h

lemma current_comesFrom {target : Expr} (h : current functions vars target = .error err) :
    ComesFrom functions target.callees err := by
  unfold current at h
  split at h
  · cases h
  · rename_i e heval
    split at h
    · cases h
    · obtain rfl := Except.error.inj h
      exact eval_comesFrom heval

lemma runAssign_comesFrom {target value : Expr} {op : AssignOp} (hplace : target.isPlace = true)
    (h : runAssign functions vars target op value = .error err) :
    ComesFrom functions (target.callees ++ value.callees) err := by
  have htarget := List.subset_append_left target.callees value.callees
  obtain h | ⟨v, -, h⟩ := bind_eq_error h
  · exact (eval_comesFrom h).mono (List.subset_append_right _ _)
  split at h
  · exact (assign_comesFrom hplace h).mono htarget
  · obtain h | ⟨old, -, h⟩ := bind_eq_error h
    · exact (current_comesFrom h).mono htarget
    obtain h | ⟨v, -, h⟩ := bind_eq_error h
    · exact .inl (isOwn_of_binary h)
    · exact (assign_comesFrom hplace h).mono htarget

lemma runStep_comesFrom {target : Expr} {op : ArithmeticOp} (hplace : target.isPlace = true)
    (h : runStep functions vars target op = .error err) :
    ComesFrom functions target.callees err := by
  obtain h | ⟨old, -, h⟩ := bind_eq_error h
  · exact current_comesFrom h
  obtain h | ⟨v, -, h⟩ := bind_eq_error h
  · exact .inl (isOwn_of_arithmetic h)
  · exact assign_comesFrom hplace h

lemma echo_comesFrom {values : List Expr} {out : String}
    (h : (echo functions vars out values).error = some err) :
    ComesFrom functions (calleesOfAll values) err := by
  induction values generalizing out with
  | nil => cases h
  | cons e rest ih =>
    rw [echo] at h
    split at h
    · exact (ih h).mono (List.subset_append_right _ _)
    · rename_i e' heval
      obtain rfl := Option.some.inj h
      exact (eval_comesFrom heval).mono (List.subset_append_left _ _)

/-- Every place that a statement changes is one. -/
def Stmt.HasPlace (s : Stmt) : Prop :=
  ∀ target ∈ s.target?, target.isPlace = true

lemma eq_error_of_ofVars {out : String} {result : Except ScriptError Vars}
    (h : (Run.ofVars vars out result).error = some err) : result = .error err := by
  cases result with
  | ok changed => cases h
  | error e => rw [Option.some.inj h]

lemma runStatement_comesFrom {s : Stmt} {out : String} (hplace : s.HasPlace)
    (h : (runStatement functions vars out s).error = some err) :
    ComesFrom functions s.callees err := by
  cases s with
  | assign target op value => exact runAssign_comesFrom (hplace target rfl) (eq_error_of_ofVars h)
  | increment target => exact runStep_comesFrom (hplace target rfl) (eq_error_of_ofVars h)
  | decrement target => exact runStep_comesFrom (hplace target rfl) (eq_error_of_ofVars h)
  | echo values => exact echo_comesFrom h
  | expr e =>
    have heval := eq_error_of_ofVars h
    cases hvalue : eval functions vars e with
    | ok v => rw [hvalue] at heval; cases heval
    | error e' =>
      rw [hvalue] at heval
      obtain rfl := Except.error.inj heval
      exact eval_comesFrom hvalue

/-- Statements whose targets are places fail as their expressions do. -/
theorem runStatements_comesFrom {statements : List Stmt} {out : String}
    (hplaces : ∀ s ∈ statements, s.HasPlace)
    (h : (runStatements functions vars out statements).error = some err) :
    ∃ s ∈ statements, ComesFrom functions s.callees err := by
  obtain ⟨before, s, behind, kept, written, values, rfl, -, -, hfails, -⟩ :=
    runStatements_eq_failed h
  have hs : s ∈ before ++ s :: behind := by simp
  exact ⟨s, hs, runStatement_comesFrom (hplaces s hs) (by rw [hfails])⟩

end Statements

/-! ## Errors of plain functions -/

/-- A computation fails only with complaints about the arguments of a function. -/
def BlamesArguments {α : Type} (function : String) (result : Except ScriptError α) : Prop :=
  ∀ err, result = .error err → ∃ fault, err = .invalidArgument function fault

section Natives

variable {α β : Type} {function : String}

lemma BlamesArguments.ok (a : α) : BlamesArguments function (.ok a) :=
  fun _ h => nomatch h

lemma BlamesArguments.error (fault : ArgumentFault) :
    BlamesArguments function (.error (.invalidArgument function fault) : Except ScriptError α) :=
  fun _ h => ⟨fault, (Except.error.inj h).symm⟩

lemma BlamesArguments.bind {x : Except ScriptError α} {f : α → Except ScriptError β}
    (h : BlamesArguments function x) (hf : ∀ a, BlamesArguments function (f a)) :
    BlamesArguments function (x >>= f) := by
  intro err herr
  obtain herr | ⟨a, -, herr⟩ := bind_eq_error herr
  · exact h err herr
  · exact hf a err herr

namespace Native

lemma blamesArguments_arg (args : List Value) (position : Nat) :
    BlamesArguments function (arg function args position) := by
  unfold arg
  split
  · exact .ok _
  · exact .error _

lemma blamesArguments_intArg (args : List Value) (position : Nat) :
    BlamesArguments function (intArg function args position) := by
  refine (blamesArguments_arg args position).bind fun v => ?_
  cases v with
  | number n =>
    dsimp only
    split
    · exact .ok _
    · exact .ok _
  | text s =>
    dsimp only
    split
    · exact .ok _
    · exact .error _
  | _ => exact .error _

lemma blamesArguments_collection (v : Value) :
    BlamesArguments function (collection function v) := by
  cases v with
  | list items => exact .ok _
  | map entries => exact .ok _
  | _ => exact .error _

lemma blamesArguments_onText (name : String) (change : String → Value) (args : List Value) :
    BlamesArguments name ((onText name change).run args) :=
  (blamesArguments_arg args 0).bind fun _ => .ok _

lemma blamesArguments_onValue (name : String) (look : Value → Value) (args : List Value) :
    BlamesArguments name ((onValue name look).run args) :=
  (blamesArguments_arg args 0).bind fun _ => .ok _

lemma blamesArguments_count (args : List Value) : BlamesArguments "count" (count.run args) :=
  (blamesArguments_arg args 0).bind fun v => (blamesArguments_collection v).bind fun _ => .ok _

lemma blamesArguments_implode (args : List Value) : BlamesArguments "implode" (implode.run args) :=
  (blamesArguments_arg args 0).bind fun _ => (blamesArguments_arg args 1).bind fun v =>
    (blamesArguments_collection v).bind fun _ => .ok _

lemma blamesArguments_inArray (args : List Value) : BlamesArguments "in_array" (inArray.run args) :=
  (blamesArguments_arg args 0).bind fun _ => (blamesArguments_arg args 1).bind fun _ => .ok _

lemma blamesArguments_range (args : List Value) : BlamesArguments "range" (range.run args) := by
  refine (blamesArguments_intArg args 0).bind fun first =>
    (blamesArguments_intArg args 1).bind fun last => ?_
  dsimp only
  split
  · exact .error _
  · exact .ok _

lemma blamesArguments_strRepeat (args : List Value) :
    BlamesArguments "str_repeat" (strRepeat.run args) := by
  refine (blamesArguments_arg args 0).bind fun v =>
    (blamesArguments_intArg args 1).bind fun times => ?_
  dsimp only
  split
  · exact .error _
  split
  · exact .error _
  split
  · exact .ok _
  · exact .ok _

lemma blamesArguments_arrayKeys (args : List Value) :
    BlamesArguments "array_keys" (arrayKeys.run args) := by
  refine (blamesArguments_arg args 0).bind fun v => ?_
  split
  · exact .ok _
  · exact .error _

/-- A plain function of the language gives a value or complains about its arguments. -/
lemma blamesArguments_run :
    ∀ native ∈ all, ∀ args, BlamesArguments native.name (native.run args) := by
  simp only [all, List.forall_mem_cons]
  exact ⟨blamesArguments_arrayKeys, blamesArguments_count, blamesArguments_onValue _ _,
    blamesArguments_onText _ _, blamesArguments_implode, blamesArguments_inArray,
    blamesArguments_onValue _ _, blamesArguments_onValue _ _, blamesArguments_range,
    blamesArguments_strRepeat, blamesArguments_onText _ _, blamesArguments_onText _ _,
    blamesArguments_onText _ _, blamesArguments_onText _ _, blamesArguments_onText _ _,
    List.forall_mem_nil _⟩

end Native

end Natives

end Script

/-- Whether a plain function of a name can be called: one of the language or one of the host. -/
def Engine.knows (engine : Engine) (name : String) : Bool :=
  (Script.Native.find? name).isSome || Bindings.has engine.natives name

/-- A call of a plain function fails in its arguments, inside of a function of the host, or because
there is no function of the name. -/
lemma Engine.callPlain_eq_error {engine : Engine} {name : String} {args : List Value}
    {err : ScriptError} (h : engine.callPlain name args = .error err) :
    (∃ fault, err = .invalidArgument name fault) ∨ (∃ e, err = .viewFunction e) ∨
      err = .unknownNative name ∧ engine.knows name = false := by
  unfold callPlain at h
  split at h
  · rename_i native hfind
    obtain rfl : native.name = name := by simpa using List.find?_some hfind
    have hmem := List.mem_of_find?_eq_some hfind
    exact .inl (Script.Native.blamesArguments_run native hmem args err h)
  · rename_i hfind
    split at h
    · cases hcall : engine.natives.call name args with
      | ok v => rw [hcall] at h; cases h
      | error e =>
        rw [hcall] at h
        exact .inr (.inl ⟨e, (Except.error.inj h).symm⟩)
    · rename_i hhost
      refine .inr (.inr ⟨(Except.error.inj h).symm, ?_⟩)
      simpa [knows, hfind] using hhost

/-- The plain functions of the language are those of an engine without functions of the host. -/
lemma Script.Native.call_eq_callPlain (engine : Engine) (h : engine.natives = []) :
    call = engine.callPlain := by
  funext name args
  simp only [call, Engine.callPlain, h]
  rfl

namespace Script

/-! ## Targets that have been read -/

/-- One step of a path as it is written. -/
inductive Access where
  | index (position : Expr)
  | property (name : String)

/-- The expression with one more step behind it. -/
def Access.behind (target : Expr) : Access → Expr
  | .index position => .index target position
  | .property name => .property target name

/-- An expression is a place if it is a variable with steps behind it. -/
lemma isPlace_iff {e : Expr} :
    e.isPlace = true ↔ ∃ root steps, e = List.foldl Access.behind (.var root) steps := by
  constructor
  · intro h
    induction e using Expr.induction with
    | var name => exact ⟨name, [], rfl⟩
    | index target position ih _ =>
      obtain ⟨root, steps, rfl⟩ := ih h
      exact ⟨root, steps ++ [.index position], by rw [List.foldl_append]; rfl⟩
    | property target name ih =>
      obtain ⟨root, steps, rfl⟩ := ih h
      exact ⟨root, steps ++ [.property name], by rw [List.foldl_append]; rfl⟩
    | _ => cases h
  · rintro ⟨root, steps, rfl⟩
    have hsteps : ∀ e : Expr, e.isPlace = true → (steps.foldl Access.behind e).isPlace = true := by
      induction steps with
      | nil => exact fun _ h => h
      | cons step steps ih =>
        intro e he
        cases step with
        | index position => exact ih (.index e position) he
        | property name => exact ih (.property e name) he
    exact hsteps (.var root) rfl

/-- What a statement changes has been asked whether it is a place. -/
lemma ReadsStatement.hasPlace {ts rest : List Token} {s : Stmt} (h : ReadsStatement ts s rest) :
    s.HasPlace := by
  cases h with
  | echo _ => exact fun _ h => nomatch h
  | expr _ _ _ _ _ => exact fun _ h => nomatch h
  | incrementFirst _ hplace | decrementFirst _ hplace | incrementLast _ _ hplace
  | decrementLast _ _ hplace | assign _ _ _ hplace _ =>
    intro target htarget
    obtain rfl := Option.some.inj htarget
    exact hplace

lemma ReadsStatements.hasPlace {ts : List Token} {statements : List Stmt}
    (h : ReadsStatements ts statements) : ∀ s ∈ statements, s.HasPlace := by
  induction h with
  | nil => simp
  | semicolon _ ih => exact ih
  | last h => simpa using h.hasPlace
  | cons h _ ih => exact List.forall_mem_cons.2 ⟨h.hasPlace, ih⟩

/-- **Statements that have been read can be assigned.**  Every target is a variable with steps
behind it, and running the statements fails neither for a target nor for the syntax, whatever the
variables are and whether calls go to the plain functions of the language or to those of an
engine. -/
theorem read_statements_have_places {source : List Char} {statements : List Stmt}
    (h : parseStatements source = .ok statements) :
    (∀ s ∈ statements, ∀ target ∈ s.target?,
      ∃ root steps, target = List.foldl Access.behind (.var root) steps) ∧
    ∀ (registry : ViewFunctions) (engine : Engine) (functions : Functions),
      functions = ⟨Native.call, registry.call⟩ ∨ functions = engine.calls →
      ∀ vars out err, (runStatements functions vars out statements).error = some err →
        (∀ target, err ≠ .invalidAssignment target) ∧
          ∀ offset fault, err ≠ .malformed offset fault := by
  have hplaces := (readsStatements_of_parseStatements h).2.hasPlace
  refine ⟨fun s hs target htarget => isPlace_iff.1 (hplaces s hs target htarget), ?_⟩
  intro registry engine functions hfunctions vars out err herr
  -- Either way calls go to the plain functions of some engine.
  obtain ⟨host, hplain⟩ : ∃ host : Engine, functions.plain = host.callPlain := by
    obtain rfl | rfl := hfunctions
    · exact ⟨{}, Native.call_eq_callPlain {} rfl⟩
    · exact ⟨engine, rfl⟩
  obtain ⟨s, -, hown | ⟨name, args, -, hcall⟩⟩ := runStatements_comesFrom hplaces herr
  · constructor
    · rintro target rfl
      cases hown
    · rintro offset fault rfl
      cases hown
  · rw [hplain] at hcall
    obtain ⟨fault, rfl⟩ | ⟨e, rfl⟩ | ⟨rfl, -⟩ := Engine.callPlain_eq_error hcall
    all_goals exact ⟨fun _ h => (nomatch h), fun _ _ h => nomatch h⟩

/-- The second statement walks through a list with a key that lists do not have. -/
theorem read_statements_have_places_list :
    let row : Expr := .property (.var "m") "row"
    let item : Expr := .property (.index row (.literal (.text "k"))) "n"
    let statements : List Stmt := [.assign row .set (.array [(none, .literal (.text "a"))]),
      .assign item .concat (.literal (.text "x")), .increment (.var "i")]
    parseStatements "$m->row = ['a']; $m->row['k']->n .= 'x'; $i++".toList = .ok statements ∧
    (runStatements ⟨Native.call, ViewFunctions.call []⟩ [] "" statements).error =
      some (.wrongType (.badListKey (.text "k"))) ∧
    (∀ s ∈ statements, ∀ target ∈ s.target?,
      ∃ root steps, target = List.foldl Access.behind (.var root) steps) ∧
    ∀ target, ScriptError.wrongType (.badListKey (.text "k")) ≠ .invalidAssignment target := by
  intro row item statements
  have hlexemes : strictLexemes "$m->row = ['a']; $m->row['k']->n .= 'x'; $i++".toList =
      .ok [⟨.var "m", 0, 2⟩, ⟨.symbol .arrow, 2, 4⟩, ⟨.word "row", 4, 7⟩, ⟨.symbol .assign, 8, 9⟩,
        ⟨.symbol .openBracket, 10, 11⟩, ⟨.text "a", 11, 14⟩, ⟨.symbol .closeBracket, 14, 15⟩,
        ⟨.symbol .semicolon, 15, 16⟩, ⟨.var "m", 17, 19⟩, ⟨.symbol .arrow, 19, 21⟩,
        ⟨.word "row", 21, 24⟩, ⟨.symbol .openBracket, 24, 25⟩, ⟨.text "k", 25, 28⟩,
        ⟨.symbol .closeBracket, 28, 29⟩, ⟨.symbol .arrow, 29, 31⟩, ⟨.word "n", 31, 32⟩,
        ⟨.symbol .concatAssign, 33, 35⟩, ⟨.text "x", 36, 39⟩, ⟨.symbol .semicolon, 39, 40⟩,
        ⟨.var "i", 41, 43⟩, ⟨.symbol .increment, 43, 45⟩] := by
    decide +kernel
  have hparse : parseStatements "$m->row = ['a']; $m->row['k']->n .= 'x'; $i++".toList =
      .ok statements := by
    simp only [parseStatements, lexemesOf, hlexemes]
    rfl
  have hrun : (runStatements ⟨Native.call, ViewFunctions.call []⟩ [] "" statements).error =
      some (.wrongType (.badListKey (.text "k"))) := by
    rfl
  obtain ⟨hplaces, herrors⟩ := read_statements_have_places hparse
  exact ⟨hparse, hrun, hplaces, (herrors [] {} _ (.inl rfl) [] "" _ hrun).1⟩

end Script

end ViewTemplate
