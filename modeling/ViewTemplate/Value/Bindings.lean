/-!
# Bindings: ordered maps from names

Bindings are pairs of a name and a value in the order in which the names first appeared.  Binding a
name again keeps its place; a new name goes last.  `keys` is the view that the small lemmas speak
of: no operation binds a name twice.
-/

namespace ViewTemplate

/-- Names bound to values, in the order in which the names first appeared. -/
abbrev Bindings (α : Type) := List (String × α)

namespace Bindings

variable {α : Type}

/-- The bound names in order. -/
def keys (b : Bindings α) : List String :=
  b.map (·.1)

/-- The value bound to a name. -/
def find? (b : Bindings α) (name : String) : Option α :=
  b.lookup name

/-- Whether a name is bound. -/
def has (b : Bindings α) (name : String) : Bool :=
  (find? b name).isSome

/-- Bind a name.  A name that is bound already keeps its place. -/
def bind : Bindings α → String → α → Bindings α
  | [], name, value => [(name, value)]
  | (k, v) :: rest, name, value =>
    if k = name then (k, value) :: rest else (k, v) :: bind rest name value

/-- Bind every name of `more`, in its order, over `b`. -/
def overlay (b more : Bindings α) : Bindings α :=
  more.foldl (fun acc entry => bind acc entry.1 entry.2) b

/-- Bind those names of `more` that `b` does not bind yet, in the order of `more`. -/
def fill (b more : Bindings α) : Bindings α :=
  more.foldl (fun acc entry => if has acc entry.1 then acc else bind acc entry.1 entry.2) b

/-- Bindings built from pairs, a later pair of the same name winning. -/
def ofPairs (pairs : List (String × α)) : Bindings α :=
  overlay [] pairs

/-- A name just bound has the value given. -/
@[simp] theorem find?_bind_self (b : Bindings α) (name : String) (value : α) :
    find? (bind b name value) name = some value := by
  induction b with
  | nil => simp [bind, find?]
  | cons entry rest ih =>
    obtain ⟨k, v⟩ := entry
    by_cases h : k = name
    · simp [bind, find?, h]
    · have hne : (name == k) = false := by simpa using fun e => h e.symm
      simpa [bind, find?, h, List.lookup_cons, hne] using ih

/-- Binding one name leaves the others alone. -/
theorem find?_bind_of_ne (b : Bindings α) {name other : String} (value : α) (h : other ≠ name) :
    find? (bind b name value) other = find? b other := by
  induction b with
  | nil =>
    have hne : (other == name) = false := by simpa using h
    simp [bind, find?, List.lookup_cons, hne]
  | cons entry rest ih =>
    obtain ⟨k, v⟩ := entry
    by_cases hk : k = name
    · subst hk
      have hne : (other == k) = false := by simpa using h
      simp [bind, find?, List.lookup_cons, hne]
    · by_cases ho : other = k
      · subst ho
        simp [bind, find?, hk]
      · have hne : (other == k) = false := by simpa using ho
        simpa [bind, find?, hk, List.lookup_cons, hne] using ih

/-- A value that is found stands among the bindings under its name. -/
theorem mem_of_find? {b : Bindings α} {name : String} {value : α} (h : find? b name = some value) :
    (name, value) ∈ b := by
  obtain ⟨front, back, rfl, -⟩ := List.lookup_eq_some_iff.1 h
  exact List.mem_append_right front List.mem_cons_self

/-- A name that is bound keeps its place, and a new one goes last. -/
theorem keys_bind (b : Bindings α) (name : String) (value : α) :
    keys (bind b name value) = if name ∈ keys b then keys b else keys b ++ [name] := by
  induction b with
  | nil => simp [bind, keys]
  | cons entry rest ih =>
    obtain ⟨k, v⟩ := entry
    simp only [keys] at ih
    by_cases h : k = name
    · simp [bind, keys, h]
    · have hne : ¬name = k := fun e => h e.symm
      by_cases hm : name ∈ List.map (fun x => x.1) rest
      · simp [bind, keys, h, ih, hm]
      · simp only [bind, keys, h, if_neg, List.map_cons, ih, hm, List.mem_cons, hne, false_or,
          not_false_eq_true, List.cons_append]

theorem has_iff (b : Bindings α) (name : String) : has b name = true ↔ name ∈ keys b := by
  induction b with
  | nil => simp [has, find?, keys]
  | cons entry rest ih =>
    obtain ⟨k, v⟩ := entry
    simp only [has, find?, keys] at ih
    by_cases h : name = k
    · simp [has, find?, keys, h]
    · have hne : (name == k) = false := by simpa using h
      simp [has, find?, keys, List.lookup_cons, hne, h, ih]

theorem bind_of_notMem {b : Bindings α} {name : String} (v : α) (h : name ∉ keys b) :
    bind b name v = b ++ [(name, v)] := by
  induction b with
  | nil => rfl
  | cons entry rest ih =>
    obtain ⟨k, u⟩ := entry
    obtain ⟨hk, hrest⟩ := not_or.1 (mt List.mem_cons.2 h)
    rw [bind, if_neg (Ne.symm hk), ih hrest, List.cons_append]

/-- Pairs whose names differ stay as they are. -/
theorem ofPairs_of_nodup {pairs : List (String × α)} (h : (keys pairs).Nodup) :
    ofPairs pairs = pairs := by
  have hfold : ∀ front : Bindings α, (keys (front ++ pairs)).Nodup →
      overlay front pairs = front ++ pairs := by
    clear h
    induction pairs with
    | nil => exact fun front _ => (List.append_nil front).symm
    | cons entry pairs ih =>
      intro front hfront
      have hsplit : front ++ entry :: pairs = front ++ [entry] ++ pairs := by simp
      have hnew : entry.1 ∉ keys front := by
        intro hmem
        rw [keys, List.map_append, List.nodup_append] at hfront
        exact hfront.2.2 _ hmem entry.1 (by simp) rfl
      rw [overlay, List.foldl_cons, bind_of_notMem entry.2 hnew, hsplit]
      exact ih _ (hsplit ▸ hfront)
  exact hfold [] h

theorem nodup_keys_bind {b : Bindings α} (h : (keys b).Nodup) (name : String) (v : α) :
    (keys (bind b name v)).Nodup := by
  rw [keys_bind]
  split
  · exact h
  · rename_i hname
    refine List.nodup_append.2 ⟨h, by simp, fun a ha c hc hac => ?_⟩
    rw [List.mem_singleton.1 hc] at hac
    exact hname (hac ▸ ha)

theorem nodup_keys_overlay {b : Bindings α} (h : (keys b).Nodup) (more : Bindings α) :
    (keys (overlay b more)).Nodup := by
  induction more generalizing b with
  | nil => exact h
  | cons entry more ih => exact ih (nodup_keys_bind h entry.1 entry.2)

theorem nodup_keys_ofPairs (pairs : List (String × α)) : (keys (ofPairs pairs)).Nodup := by
  have hempty : (keys ([] : Bindings α)).Nodup := List.nodup_nil
  exact nodup_keys_overlay hempty pairs

theorem nodup_keys_fill {b : Bindings α} (h : (keys b).Nodup) (more : Bindings α) :
    (keys (fill b more)).Nodup := by
  induction more generalizing b with
  | nil => exact h
  | cons entry more ih =>
    rw [fill, List.foldl_cons]
    split
    · exact ih h
    · exact ih (nodup_keys_bind h entry.1 entry.2)

end Bindings

end ViewTemplate
