import Mathlib.Data.List.Nodup
import Mathlib.Data.List.Perm.Subperm
import Mathlib.Order.Bounds.Basic
import Mathlib.Tactic.Common
import ViewTemplate.Proofs.InheritedVars
import ViewTemplate.Proofs.NumeralText
import ViewTemplate.Proofs.Readers
import ViewTemplate.Script.Eval

/-!
# Array literals with keys

An array literal with a key among its entries is a map.  Entries without a key get the least number
whose numeral is no name of the map yet.  The evaluator finds it by a search that starts at the
number of the last such entry and not at zero; nothing is lost by that, because every numeral below
is a name already, and names are never taken away again.

`Builds` says what an array literal builds without this number: an entry with a key goes in the
place of its name, or behind all others; an entry without one goes behind all others, under the
least free number.  Evaluation gives exactly what is built (`exists_builds`, `Builds.evalEntries`).
The search is the plain one that tries one number after the other (`freeIndex_eq`), and since
numerals are different texts (`natText_inj`) it ends after as many steps as the map has names.
-/

namespace ViewTemplate.Decimal

lemma natText_inj {m n : Nat} (h : natText m = natText n) : m = n := by
  have hdigits : Nat.toDigits 10 m = Nat.toDigits 10 n := String.ofList_inj.1 h
  rw [← digitsValue_toDigits m, hdigits, digitsValue_toDigits]

end ViewTemplate.Decimal

namespace ViewTemplate.Script

open ViewTemplate.Bindings (keys)
open ViewTemplate.Decimal (natText natText_inj)

/-! ## The search for a free number -/

/-- Of more numerals than a map has names, one is free. -/
lemma exists_free (m : Bindings Value) (start : Nat) :
    ∃ i, i ≤ m.length ∧ natText (start + i) ∉ keys m := by
  by_contra! hall
  have hnodup : ((List.range (m.length + 1)).map fun i => natText (start + i)).Nodup := by
    apply List.Nodup.map _ List.nodup_range
    intro i j hij
    have := natText_inj hij
    omega
  have hsubset : (List.range (m.length + 1)).map (fun i => natText (start + i)) ⊆ keys m := by
    intro name hname
    obtain ⟨i, hi, rfl⟩ := List.mem_map.1 hname
    exact hall i (Nat.le_of_lt_succ (List.mem_range.1 hi))
  have hlength := (hnodup.subperm hsubset).length_le
  rw [List.length_map, List.length_range, keys, List.length_map] at hlength
  omega

/-- The search ends at the first number from `start` on that is free, after as many steps as the map
has names at the most. -/
lemma isLeast_freeIndex_from (m : Bindings Value) (start : Nat) :
    IsLeast {i | start ≤ i ∧ natText i ∉ keys m} (freeIndex m start) ∧
      freeIndex m start ≤ start + m.length := by
  have hfree : ∀ i, (!Bindings.has m (natText (start + i))) = true ↔
      natText (start + i) ∉ keys m := by
    intro i
    rw [Bool.not_eq_true', ← Bool.not_eq_true, Bindings.has_iff]
  unfold freeIndex
  dsimp only
  cases hfind : (List.range (m.length + 1)).find? fun i =>
      !Bindings.has m (natText (start + i)) with
  | none =>
    -- the search cannot fail: it looks at more numerals than the map has names
    obtain ⟨i, hi, hnone⟩ := exists_free m start
    have htaken := List.find?_eq_none.1 hfind i (List.mem_range.2 (Nat.lt_succ_of_le hi))
    exact absurd ((hfree i).2 hnone) htaken
  | some i =>
    obtain ⟨hi, hmem, hbelow⟩ := List.find?_range_eq_some.1 hfind
    rw [Option.getD_some]
    refine ⟨⟨⟨Nat.le_add_right start i, (hfree i).1 hi⟩, ?_⟩, ?_⟩
    · rintro j ⟨hj, hfreej⟩
      -- a smaller free number would have been found first
      by_contra hless
      have hk : j - start < i := by omega
      have htaken := hbelow (j - start) hk
      rw [Bool.not_eq_true', ← Bool.not_eq_true, hfree, Nat.add_sub_cancel' hj] at htaken
      exact htaken hfreej
    · have hi := List.mem_range.1 hmem
      omega

lemma freeIndex_eq (m : Bindings Value) (start : Nat) :
    freeIndex m start =
      if Bindings.has m (natText start) then freeIndex m (start + 1) else start := by
  have hleast := (isLeast_freeIndex_from m start).1
  by_cases htaken : Bindings.has m (natText start) = true
  · have hsame : {i | start ≤ i ∧ natText i ∉ keys m} =
        {i | start + 1 ≤ i ∧ natText i ∉ keys m} := by
      ext i
      refine and_congr_left fun hfree => ⟨fun hi => ?_, Nat.le_of_succ_le⟩
      obtain hi | rfl := Nat.lt_or_eq_of_le hi
      · exact hi
      · exact absurd ((Bindings.has_iff m _).1 htaken) hfree
    rw [if_pos htaken]
    rw [hsame] at hleast
    exact hleast.unique (isLeast_freeIndex_from m (start + 1)).1
  · rw [if_neg htaken]
    rw [Bindings.has_iff] at htaken
    exact hleast.unique ⟨⟨le_rfl, htaken⟩, fun i hi => hi.1⟩

/-- Where every number below the start is taken, the search gives the least free number of all. -/
lemma isLeast_freeIndex {m : Bindings Value} {next : Nat} (h : ∀ i < next, natText i ∈ keys m) :
    IsLeast {i | natText i ∉ keys m} (freeIndex m next) := by
  obtain ⟨⟨hnext, hfree⟩, hbelow⟩ := (isLeast_freeIndex_from m next).1
  refine ⟨hfree, fun i hi => hbelow ⟨?_, hi⟩⟩
  by_contra hless
  exact hi (h i (Nat.lt_of_not_le hless))

lemma mem_keys_of_lt {m : Bindings Value} {n i : Nat} (h : IsLeast {i | natText i ∉ keys m} n)
    (hi : i < n) : natText i ∈ keys m := by
  by_contra hfree
  exact absurd (h.2 hfree) (Nat.not_le.2 hi)

/-! ## What an array literal builds -/

/-- An entry goes into a map: in the place of its name, or behind all others if the name is new. -/
inductive Inserts (name : String) (v : Value) : (m after : Bindings Value) → Prop
  | replaced {front back : Bindings Value} {old : Value} (h : name ∉ keys front) :
      Inserts name v (front ++ (name, old) :: back) (front ++ (name, v) :: back)
  | added {m : Bindings Value} (h : name ∉ keys m) : Inserts name v m (m ++ [(name, v)])

/-- The entries of an array literal with keys build a map, from left to right.  The names and values
that go into it are logged in their order. -/
inductive Builds (functions : Functions) (vars : Vars) :
    (m : Bindings Value) → List (Option Expr × Expr) → (log : List (String × Value)) →
      (built : Bindings Value) → Prop
  | done {m : Bindings Value} : Builds functions vars m [] [] m
  | keyed {m after built : Bindings Value} {key e : Expr} {k v : Value}
      {rest : List (Option Expr × Expr)} {log : List (String × Value)}
      (hkey : eval functions vars key = .ok k) (hvalue : eval functions vars e = .ok v)
      (hinserts : Inserts k.display v m after)
      (hrest : Builds functions vars after rest log built) :
      Builds functions vars m ((some key, e) :: rest) ((k.display, v) :: log) built
  | unkeyed {m built : Bindings Value} {e : Expr} {v : Value} {n : Nat}
      {rest : List (Option Expr × Expr)} {log : List (String × Value)}
      (hvalue : eval functions vars e = .ok v) (hleast : IsLeast {i | natText i ∉ keys m} n)
      (hrest : Builds functions vars (m ++ [(natText n, v)]) rest log built) :
      Builds functions vars m ((none, e) :: rest) ((natText n, v) :: log) built

lemma Inserts.eq_bind {name : String} {v : Value} {m after : Bindings Value}
    (h : Inserts name v m after) : after = Bindings.bind m name v := by
  cases h with
  | @replaced front back old h =>
    induction front with
    | nil => simp [Bindings.bind]
    | cons entry front ih =>
      obtain ⟨hne, hfront⟩ := not_or.1 (List.mem_cons.not.1 h)
      rw [List.cons_append, List.cons_append, Bindings.bind, if_neg (Ne.symm hne), ← ih hfront]
  | added h => rw [Bindings.bind_of_notMem v h]

lemma exists_entry {m : Bindings Value} {name : String} (h : name ∈ keys m) :
    ∃ front old back, m = front ++ (name, old) :: back ∧ name ∉ keys front := by
  obtain ⟨old, hold⟩ := Option.isSome_iff_exists.1 ((Bindings.has_iff m name).2 h)
  obtain ⟨front, back, rfl, hfront⟩ := List.lookup_eq_some_iff.1 hold
  refine ⟨front, old, back, rfl, fun hmem => ?_⟩
  obtain ⟨entry, hentry, rfl⟩ := List.mem_map.1 hmem
  simpa using hfront entry hentry

lemma inserts_bind (m : Bindings Value) (name : String) (v : Value) :
    Inserts name v m (Bindings.bind m name v) := by
  by_cases h : name ∈ keys m
  · obtain ⟨front, old, back, rfl, hfront⟩ := exists_entry h
    have hplace : Inserts name v (front ++ (name, old) :: back) (front ++ (name, v) :: back) :=
      .replaced hfront
    rw [← hplace.eq_bind]
    exact hplace
  · rw [Bindings.bind_of_notMem v h]
    exact .added h

lemma mem_keys_bind {m : Bindings Value} {name : String} (h : name ∈ keys m) (other : String)
    (v : Value) : name ∈ keys (Bindings.bind m other v) := by
  rw [Bindings.keys_bind]
  split
  · exact h
  · exact List.mem_append_left _ h

section

variable {functions : Functions} {vars : Vars} {entries : List (Option Expr × Expr)}

/-- What evaluation gives has been built.  The number the search starts at is no more than the least
free one. -/
lemma exists_builds {m built : Bindings Value} {next : Nat}
    (hbelow : ∀ i < next, natText i ∈ keys m)
    (h : evalEntries functions vars m next entries = .ok built) :
    ∃ log, Builds functions vars m entries log built := by
  induction entries generalizing m next with
  | nil =>
    obtain rfl := Except.ok.inj h
    exact ⟨[], .done⟩
  | cons entry rest ih =>
    obtain ⟨key?, e⟩ := entry
    cases key? with
    | some key =>
      obtain ⟨k, hkey, h⟩ := bind_eq_ok_iff.1 h
      obtain ⟨v, hvalue, h⟩ := bind_eq_ok_iff.1 h
      -- a key may take the place of any numeral, but it takes none away
      have hmore : ∀ i < next, natText i ∈ keys (Bindings.bind m k.display v) :=
        fun i hi => mem_keys_bind (hbelow i hi) k.display v
      obtain ⟨log, hlog⟩ := ih hmore h
      exact ⟨_, .keyed hkey hvalue (inserts_bind m k.display v) hlog⟩
    | none =>
      -- the search starts below the least free number, so it ends there
      have hleast := isLeast_freeIndex hbelow
      obtain ⟨v, hvalue, h⟩ := bind_eq_ok_iff.1 h
      have hmore : ∀ i < freeIndex m next,
          natText i ∈ keys (Bindings.bind m (natText (freeIndex m next)) v) :=
        fun i hi => mem_keys_bind (mem_keys_of_lt hleast hi) _ v
      obtain ⟨log, hlog⟩ := ih hmore h
      rw [Bindings.bind_of_notMem v hleast.1] at hlog
      exact ⟨_, .unkeyed hvalue hleast hlog⟩

lemma Builds.evalEntries {m built : Bindings Value} {log : List (String × Value)}
    (h : Builds functions vars m entries log built) {next : Nat}
    (hbelow : ∀ i < next, natText i ∈ keys m) :
    evalEntries functions vars m next entries = .ok built := by
  induction h generalizing next with
  | done => rfl
  | @keyed m after built key e k v rest log hkey hvalue hinserts _ ih =>
    obtain rfl := hinserts.eq_bind
    refine bind_eq_ok_iff.2 ⟨k, hkey, bind_eq_ok_iff.2 ⟨v, hvalue, ih ?_⟩⟩
    exact fun i hi => mem_keys_bind (hbelow i hi) k.display v
  | @unkeyed m built e v n rest log hvalue hleast _ ih =>
    obtain rfl := hleast.unique (isLeast_freeIndex hbelow)
    rw [← Bindings.bind_of_notMem v hleast.1] at ih
    refine bind_eq_ok_iff.2 ⟨v, hvalue, ih ?_⟩
    exact fun i hi => mem_keys_bind (mem_keys_of_lt hleast hi) _ v

end

/-! ## The order of names -/

/-- A name that goes into a map is the next one of the order, unless the map has it. -/
lemma Inserts.keys_append {name : String} {v : Value} {m after : Bindings Value}
    (h : Inserts name v m after) (names : List String) :
    keys after ++ (names.removeAll (keys after)).eraseDups =
      keys m ++ ((name :: names).removeAll (keys m)).eraseDups := by
  rw [h.eq_bind, Bindings.keys_bind]
  by_cases hname : name ∈ keys m
  · have htaken : (keys m).contains name = true := by simpa using hname
    rw [if_pos hname, List.cons_removeAll, htaken]
    rfl
  · have hnew : (keys m).contains name = false := by simpa using hname
    have hrest : names.removeAll (keys m ++ [name]) =
        (names.removeAll (keys m)).filter fun other => !other == name := by
      rw [List.removeAll, List.removeAll, List.filter_filter]
      refine List.filter_congr fun other _ => ?_
      by_cases hother : other = name <;> simp [hother]
    rw [if_neg hname, List.cons_removeAll, hnew, hrest]
    simp [List.eraseDups_cons]

/-- The names of a map stand in the order in which they first went into it. -/
lemma Builds.keys_eq {functions : Functions} {vars : Vars} {m built : Bindings Value}
    {entries : List (Option Expr × Expr)} {log : List (String × Value)}
    (h : Builds functions vars m entries log built) :
    keys built = keys m ++ ((log.map (·.1)).removeAll (keys m)).eraseDups := by
  induction h with
  | done => simp
  | keyed _ _ hinserts _ ih => rw [ih, hinserts.keys_append, List.map_cons]
  | @unkeyed m built e v n rest log _ hleast _ ih =>
    have hinserts : Inserts (natText n) v m (m ++ [(natText n, v)]) := .added hleast.1
    rw [ih, hinserts.keys_append, List.map_cons]

/-- **Entries without keys never overwrite.**  An array literal with a key among its entries has a
value exactly if its entries, from left to right, build that map: an entry without a key goes behind
all others under the numeral of the least number that is no name yet, an entry with a key takes the
place of the entry with the name it is shown as, or goes behind all others.  The names of the map
stand in the order in which they first went into it.  The search for a free number is the one that
tries one number after the other, and it passes at most as many as the map has names. -/
theorem mixed_arrays_keep_entries (functions : Functions) (vars : Vars)
    {entries : List (Option Expr × Expr)} (hkeyed : ∃ entry ∈ entries, entry.1.isSome = true) :
    (∀ v, eval functions vars (.array entries) = .ok v ↔
      ∃ log m, Builds functions vars [] entries log m ∧ v = .map m) ∧
    (∀ log m, Builds functions vars [] entries log m → keys m = (log.map (·.1)).eraseDups) ∧
    ∀ (m : Bindings Value) (start : Nat),
      (freeIndex m start =
        if Bindings.has m (natText start) then freeIndex m (start + 1) else start) ∧
      freeIndex m start ≤ start + m.length := by
  refine ⟨fun v => ?_, fun log m hbuilds => ?_, fun m start => ?_⟩
  · have hmixed : ¬ entries.all (·.1.isNone) = true := by
      obtain ⟨entry, hentry, hsome⟩ := hkeyed
      intro hall
      have hnone := List.all_eq_true.1 hall entry hentry
      simp [Option.isNone_iff_eq_none.1 hnone] at hsome
    rw [eval, if_neg hmixed]
    constructor
    · intro hv
      cases hentries : evalEntries functions vars [] 0 entries with
      | error e => simp [hentries, Except.map] at hv
      | ok m =>
        obtain ⟨log, hbuilds⟩ := exists_builds (by simp) hentries
        rw [hentries] at hv
        exact ⟨log, m, hbuilds, (Except.ok.inj hv).symm⟩
    · rintro ⟨log, m, hbuilds, rfl⟩
      rw [hbuilds.evalEntries (by simp)]
      rfl
  · simpa [keys] using hbuilds.keys_eq
  · exact ⟨freeIndex_eq m start, (isLeast_freeIndex_from m start).2⟩

/-- Keys that are shown as numerals: the first one keeps a number from the entries behind it, true
takes the place of the first entry, and zero that of an entry that was given its number. -/
theorem mixed_arrays_keep_entries_numerals :
    let functions : Functions := ⟨fun name _ => .error (.unknownNative name),
      fun name _ => .error (.unknown name)⟩
    let entries : List (Option Expr × Expr) :=
      [(some (.literal (.text "1")), .literal (.text "a")), (none, .literal (.text "b")),
        (some (.literal (.bool true)), .literal (.text "c")), (none, .literal (.text "d")),
        (some (.literal (.ofInt 0)), .literal (.text "e"))]
    ∃ log m, eval functions [] (.array entries) = .ok (.map m) ∧
      Builds functions [] [] entries log m ∧
      keys m = ["1", "0", "2"] ∧ (log.map (·.1)).eraseDups = ["1", "0", "2"] := by
  intro functions entries
  have heval : eval functions [] (.array entries) =
      .ok (.map [("1", .text "c"), ("0", .text "e"), ("2", .text "d")]) := rfl
  have hkeyed : ∃ entry ∈ entries, entry.1.isSome = true := ⟨_, List.mem_cons_self, rfl⟩
  obtain ⟨hvalues, hkeys, -⟩ := mixed_arrays_keep_entries functions [] hkeyed
  obtain ⟨log, m, hbuilds, hm⟩ := (hvalues _).1 heval
  obtain rfl := Value.map.inj hm
  exact ⟨log, _, heval, hbuilds, rfl, (hkeys log _ hbuilds).symm⟩

end ViewTemplate.Script
