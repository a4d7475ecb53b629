import Mathlib.Data.List.Chain
import Mathlib.Tactic.Common
import ViewTemplate.Script.Native

/-!
# Ranges of integers

The plain function `range` gives the integers from one end to the other.  Its ends are integers of
64 bits, and two of them can be nearly `2 ^ 64` apart, so neither the size of a range nor a step
past its last item has to fit into 64 bits.

Both are computed here on words, as a machine does it: `wideSize` takes the difference on words of
128 bits, and `walk` goes from one end to the other and stops there, so it makes no step that it
could not make.  The size on words is the exact size (`toNat_wideSize`) and the walk visits exactly
the items of the range (`map_walk`), whatever the ends are.
-/

namespace ViewTemplate.Script.Native

/-! ## The items of a range -/

/-- The difference of two neighbours on the way from one integer to another. -/
def direction (first last : Int) : Int :=
  if first ≤ last then 1 else -1

lemma rangeItems_eq (first last : Int) :
    rangeItems first last = (List.range ((last - first).natAbs + 1)).map fun i =>
      .ofInt (first + direction first last * i) := by
  rw [rangeItems, direction]
  by_cases h : first ≤ last
  · simp only [h, if_true, Int.one_mul]
  · simp only [h, if_false, Int.neg_mul, Int.one_mul, Int.sub_eq_add_neg]

lemma length_rangeItems (first last : Int) :
    (rangeItems first last).length = (last - first).natAbs + 1 := by
  rw [rangeItems_eq, List.length_map, List.length_range]

lemma rangeItems_self (n : Int) : rangeItems n n = [.ofInt n] := by
  simp [rangeItems_eq]

/-- Behind the first item comes the range from its neighbour on. -/
lemma rangeItems_cons {first last : Int} (h : first ≠ last) :
    rangeItems first last = .ofInt first :: rangeItems (first + direction first last) last := by
  have hsize : (last - first).natAbs =
      (last - (first + direction first last)).natAbs + 1 := by
    unfold direction
    split <;> omega
  rw [rangeItems_eq, rangeItems_eq, hsize, List.range_succ_eq_map, List.map_cons, List.map_map]
  refine congrArg₂ List.cons ?_ (List.map_congr_left fun i hi => congrArg Value.ofInt ?_)
  · rw [Int.natCast_zero, Int.mul_zero, Int.add_zero]
  · rw [List.mem_range] at hi
    show first + direction first last * ((i + 1 : Nat) : Int) =
      first + direction first last + direction (first + direction first last) last * i
    unfold direction at hi ⊢
    split at hi <;> split <;> split <;> omega

/-- A range from the other end is the range backwards. -/
lemma rangeItems_reverse (first last : Int) :
    rangeItems last first = (rangeItems first last).reverse := by
  apply List.ext_getElem
  · rw [List.length_reverse, length_rangeItems, length_rangeItems]
    omega
  · intro i hi _
    rw [length_rangeItems] at hi
    simp only [rangeItems_eq, List.getElem_reverse, List.getElem_map, List.getElem_range,
      List.length_map, List.length_range]
    apply congrArg Value.ofInt
    unfold direction
    split <;> split <;> omega

/-! ## Walks on words -/

/-- The word next to `a` on the way to `b`. -/
def towards (a b : Int64) : Int64 :=
  a + if a < b then 1 else -1

lemma toInt_towards {a b : Int64} (h : a ≠ b) :
    (towards a b).toInt = a.toInt + direction a.toInt b.toInt := by
  have hne : a.toInt ≠ b.toInt := mt Int64.toInt_inj.1 h
  have hsign : (if a < b then (1 : Int64) else -1).toInt = direction a.toInt b.toInt := by
    unfold direction
    by_cases hless : a < b
    · rw [if_pos hless, if_pos (Int.le_of_lt (Int64.lt_iff_toInt_lt.1 hless))]
      rfl
    · rw [if_neg hless, if_neg]
      · rfl
      · rw [Int64.lt_iff_toInt_lt] at hless
        omega
  -- one step towards the other end stays between the two ends, so the sum does not wrap around
  have ha := a.le_toInt
  have hb := b.le_toInt
  have ha' := a.toInt_lt
  have hb' := b.toInt_lt
  rw [towards, Int64.toInt_add, hsign]
  unfold direction
  apply Int.bmod_eq_of_le
  · show -((2 ^ 64 : Int) / 2) ≤ _
    split <;> omega
  · show _ < ((2 ^ 64 : Int) + 1) / 2
    split <;> omega

/-- The words from one end to the other, each next to the one before.  The walk stops at the end
and makes no step past it. -/
def walk (a b : Int64) : List Int64 :=
  if a = b then [a] else a :: walk (towards a b) b
termination_by (b.toInt - a.toInt).natAbs
decreasing_by
  rename_i h
  have hne : a.toInt ≠ b.toInt := mt Int64.toInt_inj.1 h
  rw [toInt_towards h, direction]
  split <;> omega

lemma walk_self (a : Int64) : walk a a = [a] := by
  rw [walk, if_pos rfl]

lemma walk_of_ne {a b : Int64} (h : a ≠ b) : walk a b = a :: walk (towards a b) b := by
  rw [walk, if_neg h]

/-- The walk visits the items of the range. -/
lemma map_walk (a b : Int64) :
    (walk a b).map (fun x => Value.ofInt x.toInt) = rangeItems a.toInt b.toInt := by
  fun_induction walk a b with
  | case1 => rw [rangeItems_self, List.map_singleton]
  | case2 a h ih =>
    have hne : a.toInt ≠ b.toInt := mt Int64.toInt_inj.1 h
    rw [List.map_cons, ih, rangeItems_cons hne, toInt_towards h]

lemma head?_walk (a b : Int64) : (walk a b).head? = some a := by
  by_cases h : a = b
  · rw [h, walk_self, List.head?_singleton]
  · rw [walk_of_ne h, List.head?_cons]

lemma getLast?_walk (a b : Int64) : (walk a b).getLast? = some b := by
  fun_induction walk a b with
  | case1 => rw [List.getLast?_singleton]
  | case2 a h ih =>
    have hne : walk (towards a b) b ≠ [] := by
      intro hnil
      rw [hnil] at ih
      cases ih
    rw [List.getLast?_cons_of_ne_nil hne, ih]

/-- Every word of a walk is next to the one before, in the direction of the whole walk. -/
lemma isChain_walk (a b : Int64) :
    (walk a b).IsChain fun x y => y.toInt = x.toInt + direction a.toInt b.toInt := by
  fun_induction walk a b with
  | case1 => exact List.isChain_singleton b
  | case2 a h ih =>
    by_cases hlast : towards a b = b
    · rw [hlast, walk_self, List.isChain_pair, ← toInt_towards h, hlast]
    · have hsame : direction (towards a b).toInt b.toInt = direction a.toInt b.toInt := by
        have hfar : (towards a b).toInt ≠ b.toInt := mt Int64.toInt_inj.1 hlast
        have hne : a.toInt ≠ b.toInt := mt Int64.toInt_inj.1 h
        rw [toInt_towards h] at hfar ⊢
        unfold direction at hfar ⊢
        split at hfar <;> split <;> omega
      rw [hsame, walk_of_ne hlast] at ih
      rw [walk_of_ne hlast, List.isChain_cons_cons]
      exact ⟨toInt_towards h, ih⟩

/-! ## The size on words -/

/-- The size of the range between two words, computed on words of 128 bits. -/
def wideSize (a b : Int64) : BitVec 128 :=
  let low := if a ≤ b then a else b
  let high := if a ≤ b then b else a
  (high.toBitVec.signExtend 128 - low.toBitVec.signExtend 128) + 1#128

/-- The difference of two words fits into 128 bits, and so does the size. -/
lemma toNat_size {low high : Int64} (h : low.toInt ≤ high.toInt) :
    (high.toBitVec.signExtend 128 - low.toBitVec.signExtend 128 + 1#128).toNat =
      (high.toInt - low.toInt).natAbs + 1 := by
  have hlow := low.le_toInt
  have hhigh := high.toInt_lt
  have hsigned : (high.toBitVec.signExtend 128 - low.toBitVec.signExtend 128).toInt =
      high.toInt - low.toInt := by
    rw [BitVec.toInt_sub, BitVec.toInt_signExtend_of_le (by decide),
      BitVec.toInt_signExtend_of_le (by decide)]
    apply Int.bmod_eq_of_le
    · show -((2 ^ 128 : Int) / 2) ≤ high.toInt - low.toInt
      omega
    · show high.toInt - low.toInt < ((2 ^ 128 : Int) + 1) / 2
      omega
  rw [BitVec.toInt_eq_toNat_cond] at hsigned
  rw [BitVec.toNat_add, BitVec.toNat_ofNat]
  split at hsigned <;> omega

lemma toNat_wideSize (a b : Int64) :
    (wideSize a b).toNat = (b.toInt - a.toInt).natAbs + 1 := by
  unfold wideSize
  dsimp only
  by_cases h : a ≤ b
  · rw [if_pos h, if_pos h, toNat_size (Int64.le_iff_toInt_le.1 h)]
  · have hle : b.toInt ≤ a.toInt := by
      rw [Int64.le_iff_toInt_le] at h
      omega
    rw [if_neg h, if_neg h, toNat_size hle]
    omega

/-! ## Calls -/

lemma intArg_of_word {function : String} {args : List Value} {position : Nat} {a : Int64}
    (h : args[position]? = some (.ofInt a.toInt)) :
    intArg function args position = .ok a.toInt := by
  have hlow := a.le_toInt
  have hhigh := a.toInt_lt
  have hfits : (Number.int a.toInt).toInt64? = some a.toInt := by
    rw [Number.toInt64?, if_pos]
    unfold Decimal.minInt64 Decimal.maxInt64
    omega
  simp only [intArg, arg, h, bind, Except.bind, Value.ofInt, hfits]

lemma call_range (a b : Int64) :
    call "range" [.ofInt a.toInt, .ofInt b.toInt] =
      if maxRangeItems < (b.toInt - a.toInt).natAbs + 1 then
        .error (.invalidArgument "range" (.rangeTooLong ((b.toInt - a.toInt).natAbs + 1)))
      else .ok (.list (rangeItems a.toInt b.toInt)) := by
  have hfind : find? "range" = some range := rfl
  have hfirst : intArg "range" [.ofInt a.toInt, .ofInt b.toInt] 0 = .ok a.toInt :=
    intArg_of_word rfl
  have hlast : intArg "range" [.ofInt a.toInt, .ofInt b.toInt] 1 = .ok b.toInt :=
    intArg_of_word rfl
  rw [call, hfind]
  simp only [range, hfirst, hlast, bind, Except.bind]

/-- **A range covers exactly the interval between its ends.**  Its size, also computed on words of
128 bits, is the distance of its ends and one more, for all ends of 64 bits.  The call fails exactly
if that is more than a million.  Otherwise it gives as many integers of 64 bits, from the first end
to the last, each the neighbour of the one before; and the range from the other end is the same
backwards. -/
theorem range_covers_interval (a b : Int64) :
    (wideSize a b).toNat = (b.toInt - a.toInt).natAbs + 1 ∧
    ((∃ e, call "range" [.ofInt a.toInt, .ofInt b.toInt] = .error e) ↔
      1000000 < (b.toInt - a.toInt).natAbs + 1) ∧
    ((b.toInt - a.toInt).natAbs + 1 ≤ 1000000 → ∃ items : List Int64,
      call "range" [.ofInt a.toInt, .ofInt b.toInt] =
        .ok (.list (items.map fun x => .ofInt x.toInt)) ∧
      items.length = (b.toInt - a.toInt).natAbs + 1 ∧
      items.head? = some a ∧ items.getLast? = some b ∧
      (items.IsChain fun x y => y.toInt = x.toInt + if a ≤ b then 1 else -1) ∧
      call "range" [.ofInt b.toInt, .ofInt a.toInt] =
        .ok (.list (items.reverse.map fun x => .ofInt x.toInt))) := by
  refine ⟨toNat_wideSize a b, ?_, fun hsize => ⟨walk a b, ?_, ?_, head?_walk a b, getLast?_walk a b,
    ?_, ?_⟩⟩
  · rw [call_range]
    by_cases hlong : maxRangeItems < (b.toInt - a.toInt).natAbs + 1
    · rw [if_pos hlong]
      exact iff_of_true ⟨_, rfl⟩ hlong
    · rw [if_neg hlong]
      exact iff_of_false (by simp) hlong
  · have hfits : ¬ maxRangeItems < (b.toInt - a.toInt).natAbs + 1 := Nat.not_lt.2 hsize
    rw [call_range, if_neg hfits, map_walk]
  · rw [← length_rangeItems, ← map_walk, List.length_map]
  · simpa only [direction, Int64.le_iff_toInt_le] using isChain_walk a b
  · have hback : ¬ maxRangeItems < (a.toInt - b.toInt).natAbs + 1 := by
      unfold maxRangeItems
      omega
    rw [call_range, if_neg hback, rangeItems_reverse, ← map_walk, List.map_reverse]

end ViewTemplate.Script.Native
