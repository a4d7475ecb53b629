import ViewTemplate.Value.Basic
import ViewTemplate.View.Delimiters

/-!
# Views

A view is a template with a name, variables of its own and delimiters of its own.  No variable is
bound twice, which the view itself carries (`View.distinct`).  The empty name is the name of a view
that no factory knows.
-/

namespace ViewTemplate

/-- A template, its variables and its delimiters. -/
structure View where
  name : String := ""
  contents : String
  vars : Vars := []
  delimiters : Delimiters := {}
  distinct : (Bindings.keys vars).Nodup := by exact List.nodup_nil

namespace View

def setVar (view : View) (name : String) (v : Value) : View :=
  { view with
    vars := Bindings.bind view.vars name v
    distinct := Bindings.nodup_keys_bind view.distinct name v }

/-- Replace all variables at once. -/
def setVars (view : View) (vars : Vars) : View :=
  { view with
    vars := Bindings.ofPairs vars
    distinct := Bindings.nodup_keys_ofPairs vars }

theorem vars_setVars (view : View) {vars : Vars} (h : (Bindings.keys vars).Nodup) :
    (view.setVars vars).vars = vars :=
  Bindings.ofPairs_of_nodup h

def setContents (view : View) (contents : String) : View :=
  { view with contents }

/-- Replace the delimiters of a kind. -/
def setDelimiters (view : View) (kind : DelimiterKind) (pair : DelimiterPair) : View :=
  { view with delimiters := view.delimiters.set kind pair }

/-- Give a view those variables of a parent that it does not have. -/
def inherit (view parent : View) : View :=
  { view with
    vars := Bindings.fill view.vars parent.vars
    distinct := Bindings.nodup_keys_fill view.distinct parent.vars }

/-- How many variables `inherit` adds. -/
def inheritedCount (view parent : View) : Nat :=
  (view.inherit parent).vars.length - view.vars.length

/-- Whether two views agree in everything but the order of their variables. -/
def same (a b : View) : Bool :=
  a.name == b.name && a.contents == b.contents && (Value.map a.vars).same (.map b.vars) &&
    decide (a.delimiters = b.delimiters)

end View

end ViewTemplate
