import Mathlib.Data.List.Induction
import Mathlib.Tactic.Common
import ViewTemplate.Proofs.FailedStatements
import ViewTemplate.Proofs.Readers

/-!
# What an assignment changes

Writing and reading walk along a place by rules of their own.  A list is written at a number and
read at a number or at a text that reads as one; a map is written and read under the text that a key
is shown as; a null is entered like an empty map when it is written and cannot be entered when it is
read; what is not there is made by the one and missed by the other.

`assigned_place_reads_back` says that they agree along every path of literal keys and property
names: the place holds the value that was stored, and every container on the path differs from what
it was only where the path goes on.  `Replaces` says once what storing does to one container.  The
rest follows from it by induction on the path.
-/

namespace ViewTemplate

namespace Bindings

variable {α : Type}

/-- Bindings that differ at one name only.  All other entries are the same in the same positions,
and the name stands where it stood, or last if it is new. -/
structure DifferAt (name : String) (before after : Bindings α) : Prop where
  others : ∀ (j : Nat) (entry : String × α), entry.1 ≠ name →
    (after[j]? = some entry ↔ before[j]? = some entry)
  keys_eq : keys after = if name ∈ keys before then keys before else keys before ++ [name]

lemma getElem?_bind (b : Bindings α) {name : String} (value : α) {entry : String × α}
    (h : entry.1 ≠ name) (j : Nat) :
    (bind b name value)[j]? = some entry ↔ b[j]? = some entry := by
  have hne : (name, value) ≠ entry := by
    rintro rfl
    exact h rfl
  induction b generalizing j with
  | nil => cases j <;> simp [bind, hne]
  | cons first rest ih =>
    by_cases hk : first.1 = name
    · have hfirst : first ≠ entry := by
        rintro rfl
        exact h hk
      cases j with
      | zero => simp [bind, hk, hne, hfirst]
      | succ j => simp [bind, hk]
    · cases j with
      | zero => simp [bind, hk]
      | succ j => simpa [bind, hk] using ih j

lemma differAt_bind (b : Bindings α) (name : String) (value : α) :
    DifferAt name b (bind b name value) :=
  ⟨fun j _ h => getElem?_bind b value h j, keys_bind b name value⟩

end Bindings

namespace Script

/-! ## Places as expressions -/

namespace PathStep

/-- The value that a step is read with. -/
def position : PathStep → Value
  | .key k => k
  | .property name => .text name

lemma display_position (step : PathStep) : step.position.display = step.name := by
  cases step <;> rfl

/-- The expression that goes one step on. -/
def extend (target : Expr) : PathStep → Expr
  | .key k => .index target (.literal k)
  | .property name => .property target name

end PathStep

/-- The expression for a place: its variable, then an index with a literal or a property for each
step of its path. -/
def Place.expr (place : Place) : Expr :=
  place.path.foldl PathStep.extend (.var place.root)

lemma Place.expr_concat (root : String) (path : List PathStep) (step : PathStep) :
    Place.expr ⟨root, path ++ [step]⟩ = step.extend (Place.expr ⟨root, path⟩) := by
  rw [Place.expr, List.foldl_append]
  rfl

/-- An expression with literal keys names the place it was made for, whatever the variables are. -/
lemma placeOf_expr (functions : Functions) (vars : Vars) (place : Place) :
    placeOf functions vars place.expr = .ok place := by
  obtain ⟨root, path⟩ := place
  induction path using List.reverseRecOn with
  | nil => rfl
  | append_singleton path step ih =>
    rw [Place.expr_concat]
    cases step <;> simp only [PathStep.extend, placeOf, eval, ih, bind, Except.bind]

/-! ## Reading along a path -/

/-- What stands at the end of a path into a value. -/
def readPath (path : List PathStep) (value : Value) : Except ScriptError Value :=
  path.foldlM (fun target step => indexed target step.position) value

/-- What a reading found; null if it found nothing. -/
def held : Except ScriptError Value → Value
  | .ok v => v
  | .error _ => .null

lemma readPath_cons (step : PathStep) (path : List PathStep) (value : Value) :
    readPath (step :: path) value = indexed value step.position >>= readPath path :=
  List.foldlM_cons

lemma eval_extend (functions : Functions) (vars : Vars) (target : Expr) (step : PathStep) :
    eval functions vars (step.extend target) =
      eval functions vars target >>= fun t => indexed t step.position := by
  cases step <;> rfl

lemma eval_expr (functions : Functions) (vars : Vars) (root : String) (path : List PathStep) :
    eval functions vars (Place.expr ⟨root, path⟩) =
      eval functions vars (.var root) >>= readPath path := by
  induction path using List.reverseRecOn with
  | nil => exact (bind_pure _).symm
  | append_singleton path step ih =>
    rw [Place.expr_concat, eval_extend, ih, bind_assoc]
    congr 1
    funext value
    rw [readPath, readPath, List.foldlM_append]
    simp

lemma held_readPath_null (path : List PathStep) : held (readPath path .null) = .null := by
  cases path <;> rfl

/-- Where nothing is found, the path could as well go on from a null. -/
lemma held_bind_readPath (found : Except ScriptError Value) (path : List PathStep) :
    held (found >>= readPath path) = held (readPath path (held found)) := by
  cases found with
  | ok value => rfl
  | error e => exact (held_readPath_null path).symm

lemma eval_var_of_find? {functions : Functions} {vars : Vars} {name : String} {value : Value}
    (h : Bindings.find? vars name = some value) :
    eval functions vars (.var name) = .ok value := by
  rw [eval, h]

lemma held_eval_var (functions : Functions) (vars : Vars) (name : String) :
    held (eval functions vars (.var name)) = (Bindings.find? vars name).getD .null := by
  rw [eval]
  cases Bindings.find? vars name <;> rfl

/-! ## Storing in one container -/

/-- A step into a container finds `item`, or null if there is nothing yet, and `after` is the
container with `changed` in its stead. -/
inductive Replaces : PathStep → (before item changed after : Value) → Prop
  | item {n : Number} {i : Nat} {items : List Value} {item changed : Value}
      (hi : n.toIndex? = some i) (hitem : items[i]? = some item) :
      Replaces (.key (.number n)) (.list items) item changed (.list (items.set i changed))
  | behind {n : Number} {items : List Value} {changed : Value}
      (hi : n.toIndex? = some items.length) :
      Replaces (.key (.number n)) (.list items) .null changed (.list (items ++ [changed]))
  | entry {step : PathStep} {entries : Bindings Value} {changed : Value} :
      Replaces step (.map entries) ((Bindings.find? entries step.name).getD .null) changed
        (.map (Bindings.bind entries step.name changed))
  | made {step : PathStep} {changed : Value} :
      Replaces step .null .null changed (.map [(step.name, changed)])

/-- Storing behind a step stores in what the step finds, and puts the result in its place. -/
lemma replaces_of_store {v : Value} {step : PathStep} {path : List PathStep} {before after : Value}
    (h : store v (step :: path) before = .ok after) :
    ∃ item changed, store v path item = .ok changed ∧ Replaces step before item changed after := by
  have hmap {entries : Bindings Value}
      (hentries : store v (step :: path) (.map entries) = .ok after) :
      ∃ changed, store v path ((Bindings.find? entries step.name).getD .null) = .ok changed ∧
        .map (Bindings.bind entries step.name changed) = after := by
    rw [store_map] at hentries
    cases hitem : store v path ((Bindings.find? entries step.name).getD .null) with
    | error e => simp [hitem, Except.map] at hentries
    | ok changed => exact ⟨changed, rfl, by simpa [hitem, Except.map] using hentries⟩
  cases before with
  | map entries =>
    obtain ⟨changed, hchanged, rfl⟩ := hmap h
    exact ⟨_, changed, hchanged, .entry⟩
  -- null is entered as if it were an empty map
  | null =>
    have hempty : store v (step :: path) (.map []) = .ok after := h
    obtain ⟨changed, hchanged, rfl⟩ := hmap hempty
    exact ⟨.null, changed, hchanged, .made⟩
  | list items =>
    cases step with
    | property name => simp [store] at h
    | key k =>
      cases k with
      | number n =>
        simp only [store] at h
        split at h
        · simp at h
        · rename_i i hi
          split at h
          · -- right behind the last item the list grows
            rename_i hlength
            subst hlength
            obtain ⟨changed, hchanged, hafter⟩ := bind_eq_ok_iff.1 h
            obtain rfl := Except.ok.inj hafter
            exact ⟨.null, changed, hchanged, .behind hi⟩
          · split at h
            · simp at h
            · rename_i item hfound
              obtain ⟨changed, hchanged, hafter⟩ := bind_eq_ok_iff.1 h
              obtain rfl := Except.ok.inj hafter
              exact ⟨item, changed, hchanged, .item hi hfound⟩
      | _ => simp [store] at h
  | _ => simp [store] at h

/-- Containers that differ only where a step leads.  A list is entered at a position that it has or
at the one behind its last item, and only then it is longer, by this one item.  A map that was not
there has one entry. -/
inductive PathStep.Changes : PathStep → (before after : Value) → Prop
  | list {n : Number} {i : Nat} {before after : List Value} (hi : n.toIndex? = some i)
      (hothers : ∀ j, j ≠ i → after[j]? = before[j]?)
      (hlength : i < before.length ∧ after.length = before.length ∨
        i = before.length ∧ after.length = before.length + 1) :
      Changes (.key (.number n)) (.list before) (.list after)
  | map {step : PathStep} {before after : Bindings Value}
      (h : Bindings.DifferAt step.name before after) : Changes step (.map before) (.map after)
  | made (step : PathStep) (item : Value) : Changes step .null (.map [(step.name, item)])

namespace Replaces

variable {step : PathStep} {before item changed after : Value}

lemma indexed_after (h : Replaces step before item changed after) :
    indexed after step.position = .ok changed := by
  cases h with
  | @item n i items item changed hi hitem =>
    have hlt : i < items.length := (List.getElem?_eq_some_iff.1 hitem).1
    simp [indexed, PathStep.position, Value.toIndex?, hi, hlt]
  | behind hi => simp [indexed, PathStep.position, Value.toIndex?, hi]
  | entry => simp [indexed, PathStep.display_position]
  | made => simp [indexed, PathStep.display_position, Bindings.find?]

lemma held_before (h : Replaces step before item changed after) :
    held (indexed before step.position) = item := by
  cases h with
  | item hi hitem => simp [indexed, PathStep.position, Value.toIndex?, hi, hitem, held]
  | behind hi => simp [indexed, PathStep.position, Value.toIndex?, hi, held]
  | @entry _ entries _ =>
    simp only [indexed, PathStep.display_position]
    cases Bindings.find? entries step.name <;> rfl
  | made => rfl

lemma changes (h : Replaces step before item changed after) : step.Changes before after := by
  cases h with
  | @item n i items item changed hi hitem =>
    have hlt : i < items.length := (List.getElem?_eq_some_iff.1 hitem).1
    refine .list hi ?_ (.inl ⟨hlt, List.length_set⟩)
    intro j hj
    exact List.getElem?_set_ne (Ne.symm hj)
  | @behind n items changed hi =>
    refine .list hi ?_ (.inr ⟨rfl, List.length_append⟩)
    intro j hj
    obtain hlt | hgt := Nat.lt_or_gt_of_ne hj
    · exact List.getElem?_append_left hlt
    · rw [List.getElem?_eq_none (Nat.le_of_lt hgt), List.getElem?_eq_none]
      rw [List.length_append]
      exact hgt
  | entry => exact .map (Bindings.differAt_bind _ _ _)
  | made => exact .made step changed

end Replaces

/-! ## Storing along a path -/

/-- What is stored at the end of a path is read there. -/
lemma readPath_of_store {v : Value} {path : List PathStep} {before after : Value}
    (h : store v path before = .ok after) : readPath path after = .ok v := by
  induction path generalizing before after with
  | nil =>
    obtain rfl := Except.ok.inj h
    rfl
  | cons step path ih =>
    obtain ⟨item, changed, hitem, hreplaces⟩ := replaces_of_store h
    rw [readPath_cons, hreplaces.indexed_after]
    exact ih hitem

/-- Every container on the path differs from the one before only where the path goes on. -/
lemma changes_of_store {v : Value} {front back : List PathStep} {step : PathStep}
    {before after : Value} (h : store v (front ++ step :: back) before = .ok after) :
    ∃ container, readPath front after = .ok container ∧
      step.Changes (held (readPath front before)) container := by
  induction front generalizing before after with
  | nil =>
    obtain ⟨item, changed, -, hreplaces⟩ := replaces_of_store h
    exact ⟨after, rfl, hreplaces.changes⟩
  | cons first front ih =>
    obtain ⟨item, changed, hitem, hreplaces⟩ := replaces_of_store h
    obtain ⟨container, hcontainer, hchanges⟩ := ih hitem
    refine ⟨container, ?_, ?_⟩
    · rw [readPath_cons, hreplaces.indexed_after]
      exact hcontainer
    · rwa [readPath_cons, held_bind_readPath, hreplaces.held_before]

/-- **Assignments read back and touch nothing else.**  If a value is stored at a place with literal
keys, then reading the place gives the value.  The other variables are the same in the same
positions, and a new variable goes last.  Every container on the way to the place (`front` leads to
it and `step` goes on) differs from what stood there before only at that step. -/
theorem assigned_place_reads_back {functions : Functions} {vars after : Vars} {place : Place}
    {v : Value} (h : assign functions vars place.expr v = .ok after) :
    eval functions after place.expr = .ok v ∧
      Bindings.DifferAt place.root vars after ∧
      ∀ front step back, place.path = front ++ step :: back →
        ∃ container,
          eval functions after (Place.expr ⟨place.root, front⟩) = .ok container ∧
          step.Changes (held (eval functions vars (Place.expr ⟨place.root, front⟩))) container := by
  obtain ⟨root, path⟩ := place
  obtain ⟨value, hstore, rfl⟩ : ∃ value,
      store v path ((Bindings.find? vars root).getD .null) = .ok value ∧
        Bindings.bind vars root value = after := by
    rw [assign, placeOf_expr] at h
    obtain ⟨place, hplace, hassign⟩ := bind_eq_ok_iff.1 h
    obtain rfl := Except.ok.inj hplace
    obtain ⟨value, hvalue, hafter⟩ := bind_eq_ok_iff.1 hassign
    exact ⟨value, hvalue, Except.ok.inj hafter⟩
  have hvar : eval functions (Bindings.bind vars root value) (.var root) = .ok value :=
    eval_var_of_find? (Bindings.find?_bind_self vars root value)
  refine ⟨?_, Bindings.differAt_bind vars root value, ?_⟩
  · rw [eval_expr, hvar]
    exact readPath_of_store hstore
  · rintro front step back rfl
    obtain ⟨container, hcontainer, hchanges⟩ := changes_of_store hstore
    refine ⟨container, ?_, ?_⟩
    · rw [eval_expr, hvar]
      exact hcontainer
    · rwa [eval_expr, held_bind_readPath, held_eval_var]

/-- The path passes a map, makes the item behind the last one of a list, and makes a map in it whose
only name is the text of a boolean. -/
theorem assigned_place_reads_back_grown :
    let functions : Functions := ⟨fun name _ => .error (.unknownNative name),
      fun name _ => .error (.unknown name)⟩
    let place : Place :=
      ⟨"m", [.property "rows", .key (.ofInt 1), .key (.bool true), .property "k"]⟩
    let vars : Vars :=
      [("m", .map [("rows", .list [.ofInt 7]), ("z", .bool false)]), ("n", .null)]
    let after : Vars :=
      [("m", .map [("rows", .list [.ofInt 7, .map [("1", .map [("k", .text "v")])]]),
        ("z", .bool false)]), ("n", .null)]
    assign functions vars place.expr (.text "v") = .ok after ∧
      eval functions after place.expr = .ok (.text "v") ∧
      Bindings.DifferAt "m" vars after ∧
      ∃ container,
        eval functions after (Place.expr ⟨"m", [.property "rows"]⟩) = .ok container ∧
        PathStep.Changes (.key (.ofInt 1)) (.list [.ofInt 7]) container := by
  intro functions place vars after
  have hassign : assign functions vars place.expr (.text "v") = .ok after := rfl
  obtain ⟨hread, hvars, hcontainers⟩ := assigned_place_reads_back hassign
  exact ⟨hassign, hread, hvars, hcontainers [.property "rows"] _ _ rfl⟩

end Script

end ViewTemplate
