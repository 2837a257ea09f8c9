import Mathlib
import CsgScript.Build.Arith
/-!
# ExactArithmetic — integers stay exact or fall back to reals, never wrap

The variadic operators fold left to right.  On integers each step is exact while its result fits in
64 bits; the first step whose exact result does not, or the first real operand, turns the fold to
reals for good.  So the result of a fold is an integer exactly when every operand is one and every
partial result over two or more operands, computed exactly, lies in `[-2^63, 2^63 - 1]`, and it is
then that exact result (`FoldsTo`, `foldsTo_fold`).  The proof follows the fold: one step keeps an
exact accumulator exact when the next partial result fits (`step_int_int_of_inRange`), a real
accumulator stays real (`foldl_step_real`), and the condition on partial results peels off one
operand at a time (`prefixesFit_cons_cons`).

Negation has one exception, the least 64-bit integer, whose negation is the real `2^63`; vectors of
one length are folded column by column, each column as the operator folds numbers.
-/
namespace CsgScript
namespace Arith

/-! ## Exact folds and the 64-bit range -/

/-- The exact integer left fold of an operation: the first integer combined with each next one in
turn; `0` for none. -/
def exactFold (op : Op) : List Int → Int
  | [] => 0
  | x :: xs => xs.foldl op.onInt x

/-- The integers of 64 bits, `[-2^63, 2^63 - 1]`. -/
def InRange (n : Int) : Prop := -2 ^ 63 ≤ n ∧ n ≤ 2 ^ 63 - 1

/-- Every partial result of the exact fold of `xs` over two or more of its first members lies in
64 bits. -/
def PrefixesFit (op : Op) (xs : List Int) : Prop :=
  ∀ k, 2 ≤ k → k ≤ xs.length → InRange (exactFold op (xs.take k))

/-- What folding an operation over the numbers `ns` gives, as the operators promise: when every
operand is an integer and every partial result fits in 64 bits, an integer, the exact result; a
real otherwise. -/
def FoldsTo (op : Op) (ns : List Value) (v : Value) : Prop :=
  (∀ xs : List Int64, ns = xs.map .int → PrefixesFit op (xs.map Int64.toInt) →
    ∃ r, v = .int r ∧ r.toInt = exactFold op (xs.map Int64.toInt)) ∧
  ((¬ ∃ xs : List Int64, ns = xs.map .int ∧ PrefixesFit op (xs.map Int64.toInt)) → ∃ x, v = .real x)

theorem fits_iff (n : Int) : fits n = true ↔ InRange n := by
  have hpow : Int.pow 2 63 = 2 ^ 63 := rfl
  simp only [fits, hpow, decide_eq_true_eq, InRange]
  omega

theorem toInt_toInt64_of_inRange {n : Int} (h : InRange n) : n.toInt64.toInt = n :=
  Int64.toInt_ofInt_of_le h.1 (by have := h.2; omega)

theorem exactFold_cons_cons (op : Op) (a y : Int) (zs : List Int) :
    exactFold op (a :: y :: zs) = exactFold op (op.onInt a y :: zs) := rfl

theorem prefixesFit_singleton (op : Op) (a : Int) : PrefixesFit op [a] := by
  intro k hk hlen
  simp only [List.length_singleton] at hlen
  omega

/-- The partial results of `a, y, zs…` fit exactly when `a ∘ y` does and the partial results of
`a ∘ y, zs…` do. -/
theorem prefixesFit_cons_cons {op : Op} {a y : Int} {zs : List Int} :
    PrefixesFit op (a :: y :: zs) ↔ InRange (op.onInt a y) ∧ PrefixesFit op (op.onInt a y :: zs) := by
  constructor
  · intro h
    refine ⟨h 2 le_rfl (by simp), fun k hk hlen => ?_⟩
    obtain ⟨j, rfl⟩ : ∃ j, k = j + 1 := ⟨k - 1, by omega⟩
    have hk' := h (j + 2) (by omega) (by simp only [List.length_cons] at hlen ⊢; omega)
    simpa only [List.take_succ_cons, exactFold_cons_cons] using hk'
  · rintro ⟨hay, h⟩ k hk hlen
    obtain ⟨j, rfl⟩ : ∃ j, k = j + 2 := ⟨k - 2, by omega⟩
    cases j with
    | zero => simpa [exactFold] using hay
    | succ j =>
      have hk' := h (j + 2) (by omega) (by simp only [List.length_cons] at hlen ⊢; omega)
      simpa only [List.take_succ_cons, exactFold_cons_cons] using hk'

/-! ## One step of a fold -/

section Step

variable {op : Op}

theorem step_int_int_of_inRange {x y : Int64} (h : InRange (op.onInt x.toInt y.toInt)) :
    step op (.int x) (.int y) = .int (op.onInt x.toInt y.toInt).toInt64 := by
  simp only [step, (fits_iff _).2 h, ↓reduceIte]

theorem step_int_int_of_not_inRange {x y : Int64} (h : ¬ InRange (op.onInt x.toInt y.toInt)) :
    ∃ z, step op (.int x) (.int y) = .real z := by
  rw [← fits_iff, Bool.not_eq_true] at h
  simp only [step, h, Bool.false_eq_true, ↓reduceIte, Value.real.injEq, exists_eq']

/-- A real accumulator stays real, whatever it is combined with. -/
theorem foldl_step_real (op : Op) : ∀ (vs : List Value) (x : Binary64), ∃ z, vs.foldl (step op) (.real x) = .real z
  | [], x => ⟨x, rfl⟩
  | _ :: vs, _ => foldl_step_real op vs _

end Step

/-! ## A whole fold -/

/-- Integers whose partial results all fit are folded exactly. -/
theorem foldl_step_of_prefixesFit (op : Op) : ∀ (ys : List Int64) (a : Int64),
    PrefixesFit op (a.toInt :: ys.map Int64.toInt) →
      ∃ r, (ys.map Value.int).foldl (step op) (.int a) = .int r ∧
        r.toInt = exactFold op (a.toInt :: ys.map Int64.toInt)
  | [], a, _ => ⟨a, rfl, rfl⟩
  | y :: ys, a, h => by
    obtain ⟨hay, hrest⟩ := prefixesFit_cons_cons.1 h
    have hr := toInt_toInt64_of_inRange hay
    obtain ⟨r, hfold, hr'⟩ := foldl_step_of_prefixesFit op ys _ (by rw [hr]; exact hrest)
    refine ⟨r, ?_, ?_⟩
    · rw [List.map_cons, List.foldl_cons, step_int_int_of_inRange hay, hfold]
    · rw [hr', hr]
      rfl

/-- From an exact accumulator, operands that are not all integers with fitting partial results
end the fold as a real. -/
theorem foldl_step_real_of_not_prefixesFit (op : Op) : ∀ (vs : List Value) (a : Int64),
    (¬ ∃ ys : List Int64, vs = ys.map .int ∧ PrefixesFit op (a.toInt :: ys.map Int64.toInt)) →
      ∃ z, vs.foldl (step op) (.int a) = .real z
  | [], a, h => absurd ⟨[], rfl, prefixesFit_singleton op _⟩ h
  | v :: vs, a, h => by
    rw [List.foldl_cons]
    cases v with
    | int y =>
      by_cases hay : InRange (op.onInt a.toInt y.toInt)
      · -- the step is exact, and what follows cannot all fit
        rw [step_int_int_of_inRange hay]
        apply foldl_step_real_of_not_prefixesFit op vs
        rintro ⟨ys, rfl, hys⟩
        rw [toInt_toInt64_of_inRange hay] at hys
        exact h ⟨y :: ys, rfl, prefixesFit_cons_cons.2 ⟨hay, hys⟩⟩
      · obtain ⟨z, hz⟩ := step_int_int_of_not_inRange hay
        rw [hz]
        exact foldl_step_real op vs z
    | bool _ | real _ | str _ | list _ => exact foldl_step_real op vs _

/-- **A fold of numbers is exact on integers that fit, and real otherwise.** -/
theorem foldsTo_fold (op : Op) {ns : List Value} (hne : ns ≠ []) (hnum : ∀ v ∈ ns, v.isNumber = true) :
    FoldsTo op ns (fold op ns) := by
  obtain ⟨v, vs, rfl⟩ := List.exists_cons_of_ne_nil hne
  cases v with
  | int a =>
    refine ⟨fun xs hxs hfit => ?_, fun hnot => ?_⟩
    · cases xs with
      | nil => cases hxs
      | cons x ys =>
        simp only [List.map_cons, List.cons.injEq, Value.int.injEq] at hxs
        obtain ⟨rfl, rfl⟩ := hxs
        exact foldl_step_of_prefixesFit op ys a hfit
    · apply foldl_step_real_of_not_prefixesFit op vs a
      rintro ⟨ys, rfl, hys⟩
      exact hnot ⟨a :: ys, rfl, hys⟩
  | real x =>
    refine ⟨fun xs hxs _ => ?_, fun _ => foldl_step_real op vs x⟩
    cases xs <;> simp at hxs
  | bool _ | str _ | list _ => simp [Value.isNumber] at hnum

example : (match fold .add [.int 9223372036854775807, .int 1, .int (-2)] with
    | .real _ => true
    | _ => false) = true := by
  decide

/-! ## The operators on numbers -/

theorem values_map_value (ns : List Value) : values (ns.map .value) = some ns := by
  induction ns with
  | nil => rfl
  | cons n ns ih =>
    rw [List.map_cons, values, ih]
    rfl

theorem isNumericList_of_isNumber {v : Value} (h : v.isNumber = true) : v.isNumericList = false := by
  cases v <;> simp_all [Value.isNumber, Value.isNumericList]

section Numbers

variable {ns : List Value}

theorem numbers_map_value (hnum : ∀ v ∈ ns, v.isNumber = true) : numbers (ns.map .value) = some ns := by
  simp [numbers, values_map_value, List.all_eq_true.2 hnum]

/-- Numbers are no vectors. -/
theorem vectors_map_value (hne : ns ≠ []) (hnum : ∀ v ∈ ns, v.isNumber = true) : vectors (ns.map .value) = none := by
  obtain ⟨v, vs, rfl⟩ := List.exists_cons_of_ne_nil hne
  have hv := isNumericList_of_isNumber (hnum v List.mem_cons_self)
  rw [vectors, values_map_value]
  simp [hv]

theorem isEmpty_map_value (hne : ns ≠ []) : (ns.map Operand.value).isEmpty = false := by
  simpa using hne

theorem add_numbers (hne : ns ≠ []) (hnum : ∀ v ∈ ns, v.isNumber = true) :
    add (ns.map .value) = .ok (.value (fold .add ns)) := by
  rw [add, isEmpty_map_value hne, vectors_map_value hne hnum, numbers_map_value hnum]
  rfl

theorem mul_numbers (hne : ns ≠ []) (hnum : ∀ v ∈ ns, v.isNumber = true) :
    mul (ns.map .value) = .ok (.value (fold .mul ns)) := by
  rw [mul, isEmpty_map_value hne, numbers_map_value hnum]
  rfl

theorem sub_numbers (hlen : 2 ≤ ns.length) (hnum : ∀ v ∈ ns, v.isNumber = true) :
    sub (ns.map .value) = .ok (.value (fold .sub ns)) := by
  rw [sub, isEmpty_map_value (List.ne_nil_of_length_pos (by omega)), numbers_map_value hnum]
  match ns, hlen with
  | _ :: _ :: _, _ => rfl

theorem sub_number {n : Value} (h : n.isNumber = true) : sub [.value n] = .ok (.value (negate n)) := by
  have hn : numbers ([n].map Operand.value) = some [n] := numbers_map_value (by simpa using h)
  rw [List.map_singleton] at hn
  rw [sub, if_neg (by simp), hn]

end Numbers

/-- The least 64-bit integer has no negation among 64-bit integers; every other one has its exact
negation. -/
theorem negate_int (x : Int64) :
    (x.toInt ≠ -2 ^ 63 → negate (.int x) = .int (-x) ∧ (-x).toInt = -x.toInt) ∧
    (x.toInt = -2 ^ 63 → negate (.int x) = .real (Binary64.ofInt (2 ^ 63))) := by
  have hpow : Int.pow 2 63 = 2 ^ 63 := rfl
  refine ⟨fun h => ⟨?_, ?_⟩, fun h => ?_⟩
  · simp only [negate, hpow, h, ↓reduceIte]
  · have hlo := x.le_toInt
    have hhi := x.toInt_lt
    rw [Int64.toInt_neg, Int.bmod_eq_of_le (by omega) (by omega)]
  · simp only [negate, hpow, h, ↓reduceIte, Value.asNumber]
    rfl

/-! ## The operators on vectors -/

section Vectors

variable {vs : List (List Value)} {n : Nat}

theorem values_map_list (vs : List (List Value)) :
    values (vs.map fun v => .value (.list v)) = some (vs.map Value.list) := by
  rw [← values_map_value (vs.map Value.list), List.map_map]
  rfl

theorem numbers_map_list (hne : vs ≠ []) : numbers (vs.map fun v => .value (.list v)) = none := by
  rw [numbers, values_map_list]
  obtain ⟨v, rest, rfl⟩ := List.exists_cons_of_ne_nil hne
  simp [Value.isNumber]

/-- Lists of numbers, all of one length, are vectors. -/
theorem vectors_map_list (hne : vs ≠ []) (hvs : ∀ v ∈ vs, v.length = n ∧ ∀ x ∈ v, x.isNumber = true) :
    vectors (vs.map fun v => .value (.list v)) = some vs := by
  rw [vectors, values_map_list]
  obtain ⟨v, rest, rfl⟩ := List.exists_cons_of_ne_nil hne
  have hnumeric : ∀ w ∈ v :: rest, ∀ x ∈ w, x.isNumber = true := fun w hw => (hvs w hw).2
  have hlength : ∀ w ∈ rest, w.length = v.length := fun w hw =>
    (hvs w (List.mem_cons_of_mem _ hw)).1.trans (hvs v List.mem_cons_self).1.symm
  simp only [List.map_cons]
  rw [if_pos]
  · have hitems : Value.items ∘ Value.list = id := rfl
    simp [Value.items, hitems]
  · simp only [List.all_cons, List.all_map, Bool.and_eq_true, List.all_eq_true, Function.comp_apply,
      Value.isNumericList, Value.items, beq_iff_eq]
    exact ⟨⟨hnumeric v List.mem_cons_self, fun w hw => hnumeric w (List.mem_cons_of_mem _ hw)⟩, hlength⟩

theorem add_vectors (hlen : 2 ≤ vs.length) (hvs : ∀ v ∈ vs, v.length = n ∧ ∀ x ∈ v, x.isNumber = true) :
    add (vs.map fun v => .value (.list v)) = .ok (.value (columns .add vs)) := by
  have hne : vs ≠ [] := List.ne_nil_of_length_pos (by omega)
  rw [add, if_neg (by simpa using hne), vectors_map_list hne hvs]
  match vs, hlen with
  | _ :: _ :: _, _ => rfl

theorem sub_vectors (hlen : 2 ≤ vs.length) (hvs : ∀ v ∈ vs, v.length = n ∧ ∀ x ∈ v, x.isNumber = true) :
    sub (vs.map fun v => .value (.list v)) = .ok (.value (columns .sub vs)) := by
  have hne : vs ≠ [] := List.ne_nil_of_length_pos (by omega)
  rw [sub, if_neg (by simpa using hne), numbers_map_list hne, vectors_map_list hne hvs]
  match vs, hlen with
  | _ :: _ :: _, _ => rfl

theorem sub_vector {v : List Value} (hv : ∀ x ∈ v, x.isNumber = true) :
    sub [.value (.list v)] = .ok (.value (.list (v.map negate))) := by
  have hnumbers : numbers ([v].map fun v => .value (.list v)) = none := numbers_map_list (by simp)
  have hvs : ∀ w ∈ [v], w.length = v.length ∧ ∀ x ∈ w, x.isNumber = true := by simpa using hv
  have hvectors : vectors ([v].map fun v => .value (.list v)) = some [v] := vectors_map_list (by simp) hvs
  rw [List.map_singleton] at hnumbers hvectors
  rw [sub, if_neg (by simp), hnumbers, hvectors]

theorem columns_eq (op : Op) (hne : vs ≠ []) (hvs : ∀ v ∈ vs, v.length = n ∧ ∀ x ∈ v, x.isNumber = true) :
    columns op vs = .list ((List.range n).map fun i => fold op (column i vs)) := by
  obtain ⟨v, rest, rfl⟩ := List.exists_cons_of_ne_nil hne
  simp [columns, (hvs v List.mem_cons_self).1]

/-- Each column of vectors of length `n`, at a place below `n`, is a list of numbers. -/
theorem column_isNumber (hvs : ∀ v ∈ vs, v.length = n ∧ ∀ x ∈ v, x.isNumber = true) {i : Nat} (hi : i < n) :
    ∀ x ∈ column i vs, x.isNumber = true := by
  intro x hx
  obtain ⟨w, hw, rfl⟩ := List.mem_map.1 hx
  obtain ⟨hlen, hnum⟩ := hvs w hw
  rw [List.getD_eq_getElem _ _ (by omega)]
  exact hnum _ (List.getElem_mem _)

theorem length_column (i : Nat) (vs : List (List Value)) : (column i vs).length = vs.length := by
  simp [column]

end Vectors

/-! ## The operators, whole -/

/-- **Integer arithmetic in the variadic operators is exact or falls back to reals; it never
wraps.**  On a non-empty list of numbers, the sum and the product of any length, and the
difference of two or more, are the left fold of the operation, which is an integer exactly when
every operand is one and every partial result fits in 64 bits, and then is the exact result, and a
real otherwise.  The difference of one integer is its exact negation, except for the least 64-bit
integer, whose negation is the real `2^63`.  On two or more numeric vectors of one length `n`, the
sum and the difference are the list of `n` results of the same operator on each column; the
difference of one numeric vector negates each member as the difference of one number does. -/
theorem integers_never_wrap :
    (∀ ns : List Value, ns ≠ [] → (∀ v ∈ ns, v.isNumber = true) →
      (add (ns.map .value) = .ok (.value (fold .add ns)) ∧ FoldsTo .add ns (fold .add ns)) ∧
      (mul (ns.map .value) = .ok (.value (fold .mul ns)) ∧ FoldsTo .mul ns (fold .mul ns)) ∧
      (2 ≤ ns.length → sub (ns.map .value) = .ok (.value (fold .sub ns)) ∧ FoldsTo .sub ns (fold .sub ns))) ∧
    (∀ x : Int64,
      (x.toInt ≠ -2 ^ 63 → sub [.value (.int x)] = .ok (.value (.int (-x))) ∧ (-x).toInt = -x.toInt) ∧
      (x.toInt = -2 ^ 63 → sub [.value (.int x)] = .ok (.value (.real (Binary64.ofInt (2 ^ 63)))))) ∧
    (∀ (vs : List (List Value)) (n : Nat), 2 ≤ vs.length → (∀ v ∈ vs, v.length = n ∧ ∀ x ∈ v, x.isNumber = true) →
      (∃ rs, add (vs.map fun v => .value (.list v)) = .ok (.value (.list rs)) ∧
        List.Forall₂ (fun i r => add ((column i vs).map .value) = .ok (.value r)) (List.range n) rs) ∧
      (∃ rs, sub (vs.map fun v => .value (.list v)) = .ok (.value (.list rs)) ∧
        List.Forall₂ (fun i r => sub ((column i vs).map .value) = .ok (.value r)) (List.range n) rs)) ∧
    (∀ v : List Value, (∀ x ∈ v, x.isNumber = true) →
      ∃ rs, sub [.value (.list v)] = .ok (.value (.list rs)) ∧
        List.Forall₂ (fun x r => sub [.value x] = .ok (.value r)) v rs) := by
  refine ⟨fun ns hne hnum => ?_, fun x => ?_, fun vs n hlen hvs => ?_, fun v hv => ?_⟩
  · exact ⟨⟨add_numbers hne hnum, foldsTo_fold .add hne hnum⟩, ⟨mul_numbers hne hnum, foldsTo_fold .mul hne hnum⟩,
      fun hlen => ⟨sub_numbers hlen hnum, foldsTo_fold .sub hne hnum⟩⟩
  · have hx : (Value.int x).isNumber = true := rfl
    obtain ⟨hne, hmin⟩ := negate_int x
    rw [sub_number hx]
    exact ⟨fun h => ⟨by rw [(hne h).1], (hne h).2⟩, fun h => by rw [hmin h]⟩
  · -- each column is a non-empty list of numbers, as long as the list of vectors
    have hne : vs ≠ [] := List.ne_nil_of_length_pos (by omega)
    have hcolumn : ∀ i ∈ List.range n, column i vs ≠ [] ∧ ∀ x ∈ column i vs, x.isNumber = true :=
      fun i hi => ⟨by simpa [column] using hne, column_isNumber hvs (List.mem_range.1 hi)⟩
    refine ⟨⟨_, by rw [add_vectors hlen hvs, columns_eq .add hne hvs], ?_⟩,
      ⟨_, by rw [sub_vectors hlen hvs, columns_eq .sub hne hvs], ?_⟩⟩
    · refine List.forall₂_map_right_iff.2 (List.forall₂_same.2 fun i hi => ?_)
      exact add_numbers (hcolumn i hi).1 (hcolumn i hi).2
    · refine List.forall₂_map_right_iff.2 (List.forall₂_same.2 fun i hi => ?_)
      exact sub_numbers (by rw [length_column]; exact hlen) (hcolumn i hi).2
  · refine ⟨_, sub_vector hv, List.forall₂_map_right_iff.2 (List.forall₂_same.2 fun x hx => ?_)⟩
    exact sub_number (hv x hx)

end Arith
end CsgScript
