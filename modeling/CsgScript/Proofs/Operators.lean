import Mathlib
import CsgScript.Proofs.ExactArithmetic
import CsgScript.Proofs.Classification
/-!
# Operators — how the variadic operators dispatch and fail

`add`, `sub`, `mul` and `div` look at their operands in an order of their own.  The sum is `0` for
no operands, works member by member on numeric lists of one length and folds numbers, and refuses
anything else as not mathematical.  The difference refuses no operands, negates or folds numbers
and numeric lists, and otherwise takes the difference of expressions, refusing the first operand
that is a value as no expression.  The product is `1` for no operands and folds numbers; of other
operand lists it refuses every list of two or more, and disables a single expression — a single
value that is no number is refused as no expression (`mul_value`), not as a misused operator.  The
quotient refuses no operands and any operand that is no number, and divides in reals, refusing a
divisor that is zero of either sign (`divideBy_eq`).

Which case applies is read off `numbers` and `vectors`, pinned down by `AllNumbers` and
`SameLengthVectors`; the whole dispatch is `operators_dispatch`.
-/
namespace CsgScript

namespace Binary64

/-- A zero of either sign. -/
def IsZero (x : Binary64) : Prop := x = zero false ∨ x = zero true

/-- The bits of a finite double with significand `0` are those of a zero of either sign. -/
theorem bits_of_unpack_zero {x : Binary64} {s : Bool} {q : Int} (h : x.unpack = .finite s 0 q) :
    x.bits.toNat = 0 ∨ x.bits.toNat = signBit := by
  have hlt := x.bits.toNat_lt
  have hpow52 : Nat.pow 2 52 = 4503599627370496 := rfl
  have hpow11 : Nat.pow 2 11 = 2048 := rfl
  have hsign : signBit = 9223372036854775808 := rfl
  unfold unpack unpackBits at h
  simp only [hpow52, hpow11] at h
  split at h
  · split at h <;> cases h
  · split at h
    · -- no exponent bits: the fraction is the significand, so only the sign bit can be set
      rename_i hbiased
      obtain ⟨-, hfraction, -⟩ := Unpacked.finite.inj h
      rw [hsign]
      omega
    · -- exponent bits add the hidden bit to the significand, which is then not zero
      obtain ⟨-, hfraction, -⟩ := Unpacked.finite.inj h
      omega

theorem unpack_zero : (0 : Binary64).unpack = .finite false 0 leastExponent := by decide

theorem isZero_of_bits {x : Binary64} (h : x.bits.toNat = 0 ∨ x.bits.toNat = signBit) : x.IsZero := by
  cases x with
  | mk bits =>
    rcases h with h | h
    · exact .inl (congrArg Binary64.mk (UInt64.toNat_inj.1 (by rw [h]; rfl)))
    · exact .inr (congrArg Binary64.mk (UInt64.toNat_inj.1 (by rw [h]; rfl)))

/-- **A double equals `0` exactly when it is a zero of either sign.** -/
theorem equals_zero_iff (x : Binary64) : (x == 0) = true ↔ x.IsZero := by
  constructor
  · intro h
    apply isZero_of_bits
    change equals x 0 = true at h
    unfold equals at h
    rw [unpack_zero] at h
    split at h
    · cases h
    · cases h
    · exact bits_of_unpack_zero ‹_›
    · -- any other double equals `0` only with the bits of `0`
      exact .inl (by rw [beq_iff_eq.1 h]; rfl)
  · rintro (rfl | rfl) <;> decide

theorem equals_zero_eq_false {x : Binary64} (h : ¬ x.IsZero) : (x == 0) = false :=
  Bool.eq_false_iff.2 fun hx => h ((equals_zero_iff x).1 hx)

end Binary64

namespace Arith

/-! ## Which operands -/

/-- Every operand is a number. -/
def AllNumbers (args : List Operand) : Prop :=
  ∃ ns : List Value, args = ns.map .value ∧ ∀ v ∈ ns, v.isNumber = true

/-- There is at least one operand, and every operand is a numeric list, all of one length. -/
def SameLengthVectors (args : List Operand) : Prop :=
  ∃ (vs : List (List Value)) (n : Nat), vs ≠ [] ∧ args = vs.map (fun v => .value (.list v)) ∧
    ∀ v ∈ vs, v.length = n ∧ ∀ x ∈ v, x.isNumber = true

theorem values_eq_some_iff {args : List Operand} {vs : List Value} : values args = some vs ↔ args = vs.map .value := by
  induction args generalizing vs with
  | nil => cases vs <;> simp [values]
  | cons a args ih =>
    cases a with
    | expr e => cases vs <;> simp [values]
    | value v =>
      cases vs with
      | nil => simp [values]
      | cons w vs => simp [values, ih, eq_comm, and_comm]

theorem allNumbers_of_numbers_eq_some {args : List Operand} {ns : List Value} (h : numbers args = some ns) :
    args = ns.map .value ∧ ∀ v ∈ ns, v.isNumber = true := by
  unfold numbers at h
  split at h
  · rename_i vs hvs
    split at h
    · rename_i hall
      cases h
      exact ⟨values_eq_some_iff.1 hvs, List.all_eq_true.1 hall⟩
    · cases h
  · cases h

theorem numbers_eq_none_iff {args : List Operand} : numbers args = none ↔ ¬ AllNumbers args := by
  constructor
  · rintro h ⟨ns, rfl, hnum⟩
    rw [numbers_map_value hnum] at h
    cases h
  · intro h
    cases hn : numbers args with
    | none => rfl
    | some ns => exact absurd ⟨ns, allNumbers_of_numbers_eq_some hn⟩ h

theorem eq_list_of_isNumericList {u : Value} (h : u.isNumericList = true) :
    u = .list u.items ∧ ∀ x ∈ u.items, x.isNumber = true := by
  cases u with
  | list items => exact ⟨rfl, List.all_eq_true.1 h⟩
  | _ => cases h

theorem sameLengthVectors_of_vectors_eq_some {args : List Operand} {ws : List (List Value)}
    (h : vectors args = some ws) : SameLengthVectors args := by
  unfold vectors at h
  split at h
  · rename_i v vs hvs
    split at h
    · rename_i hcond
      cases h
      simp only [Bool.and_eq_true, List.all_eq_true, beq_iff_eq] at hcond
      obtain ⟨hnumeric, hlength⟩ := hcond
      have hlist : ∀ u ∈ v :: vs, u = .list u.items ∧ ∀ x ∈ u.items, x.isNumber = true :=
        fun u hu => eq_list_of_isNumericList (hnumeric u hu)
      refine ⟨(v :: vs).map Value.items, v.items.length, by simp, ?_, ?_⟩
      · rw [values_eq_some_iff.1 hvs, List.map_map]
        exact List.map_congr_left fun u hu => by simp [← (hlist u hu).1]
      · intro w hw
        obtain ⟨u, hu, rfl⟩ := List.mem_map.1 hw
        refine ⟨?_, (hlist u hu).2⟩
        rcases List.mem_cons.1 hu with rfl | hu
        · rfl
        · exact hlength u hu
    · cases h
  · cases h

theorem vectors_eq_none_iff {args : List Operand} : vectors args = none ↔ ¬ SameLengthVectors args := by
  constructor
  · rintro h ⟨vs, n, hne, rfl, hvs⟩
    rw [vectors_map_list hne hvs] at h
    cases h
  · intro h
    cases hv : vectors args with
    | none => rfl
    | some ws => exact absurd (sameLengthVectors_of_vectors_eq_some hv) h

/-! ## The sum -/

section Lists

variable {vs : List (List Value)} {n : Nat}

/-- The sum of numeric lists of one length `n`, one or more, is the list of the sums of their
columns. -/
theorem add_vectors_columns (hne : vs ≠ []) (hvs : ∀ v ∈ vs, v.length = n ∧ ∀ x ∈ v, x.isNumber = true) :
    add (vs.map fun v => .value (.list v)) =
      .ok (.value (.list ((List.range n).map fun i => fold .add (column i vs)))) := by
  rcases vs with _ | ⟨v, _ | ⟨w, rest⟩⟩
  · exact absurd rfl hne
  · -- one list is its own sum: each column holds one member
    have hv : vectors [.value (.list v)] = some [v] := vectors_map_list hne hvs
    have hself : (List.range n).map (fun i => fold .add (column i [v])) = v := by
      obtain ⟨hlen, -⟩ := hvs v List.mem_cons_self
      subst hlen
      refine List.ext_getElem (by simp) fun i h₁ h₂ => ?_
      simp [column, fold, List.getElem?_eq_getElem h₂]
    rw [List.map_singleton, add, if_neg (by simp), hv, hself]
  · exact (add_vectors (by simp) hvs).trans (by rw [columns_eq .add hne hvs])

end Lists

theorem add_eq_sumOfShapes {args : List Operand} (hne : args ≠ []) (hn : ¬ AllNumbers args)
    (hv : ¬ SameLengthVectors args) : add args = .error .sumOfShapes := by
  simp only [add, List.isEmpty_iff, hne, if_false, vectors_eq_none_iff.2 hv, numbers_eq_none_iff.2 hn]

/-! ## The difference -/

theorem values_map_expr (e : Expr) (es : List Expr) : values ((e :: es).map .expr) = none := rfl

theorem expectFrom_map_expr (verbs : Verbs) (es : List Expr) :
    ∀ i, Build.expectFrom verbs i (es.map .expr) = .ok es := by
  induction es with
  | nil => intro i; rfl
  | cons e es ih =>
    intro i
    rw [List.map_cons, Build.expectFrom, ih]
    rfl

/-- The operands from place `i` on are refused at the first value among them, with the verb for
its place. -/
theorem expectFrom_append_value (verbs : Verbs) (v : Value) (post : List Operand) (pre : List Expr) :
    ∀ i, Build.expectFrom verbs i (pre.map .expr ++ .value v :: post) =
      .error (.notExpression (verbs.pick (i + pre.length)) v) := by
  induction pre with
  | nil => intro i; rfl
  | cons e pre ih =>
    intro i
    rw [List.map_cons, List.cons_append, Build.expectFrom, ih, List.length_cons, ← Nat.add_assoc,
      Nat.add_right_comm]
    rfl

/-- A difference of expressions is their difference. -/
theorem sub_exprs {es : List Expr} (hne : es ≠ []) : sub (es.map .expr) = .expr <$> Build.difference es := by
  obtain ⟨e, es, rfl⟩ := List.exists_cons_of_ne_nil hne
  have hn : numbers ((e :: es).map .expr) = none := by rw [numbers, values_map_expr]
  have hv : vectors ((e :: es).map .expr) = none := by rw [vectors, values_map_expr]
  simp only [sub, List.isEmpty_iff, List.map_eq_nil_iff, hne, if_false, hn, hv]
  rw [Build.expectExpressions, expectFrom_map_expr]
  rfl

/-- The verb of a difference for the operand in place `i` (from 0): the first is subtracted
from, the others subtracted. -/
theorem pick_difference (i : Nat) :
    Verbs.pick ⟨"contain", "subtract from", "subtract"⟩ i = if i = 0 then "subtract from" else "subtract" := by
  cases i <;> rfl

/-- **A difference that is neither of numbers nor of numeric lists refuses its first value** as no
expression, with the verb for its place. -/
theorem sub_eq_notExpression {args : List Operand} (hn : ¬ AllNumbers args) (hv : ¬ SameLengthVectors args)
    {pre : List Expr} {v : Value} {post : List Operand} (hargs : args = pre.map .expr ++ .value v :: post) :
    sub args = .error (.notExpression (if pre = [] then "subtract from" else "subtract") v) := by
  have hne : args ≠ [] := by simp [hargs]
  have hverb : Verbs.pick ⟨"contain", "subtract from", "subtract"⟩ (0 + pre.length) =
      if pre = [] then "subtract from" else "subtract" := by
    rw [Nat.zero_add, pick_difference]
    cases pre <;> rfl
  simp only [sub, List.isEmpty_iff, hne, if_false, numbers_eq_none_iff.2 hn, vectors_eq_none_iff.2 hv]
  rw [Build.expectExpressions, hargs, expectFrom_append_value, hverb]
  rfl

/-! ## The product -/

/-- **The product of one expression disables it.** -/
theorem mul_expr (e : Expr) : mul [.expr e] = .ok (.expr (.modify .disable e.dimensionality.orSolid e)) := by
  have hn : numbers [.expr e] = none := rfl
  have hone : ([Operand.expr e].length != 1) = false := rfl
  have hexpect : Build.expectFrom ⟨"disable", "", ""⟩ 0 [.expr e] = .ok [e] := expectFrom_map_expr _ [e] 0
  simp only [mul, List.isEmpty_cons, Bool.false_eq_true, if_false, hn, hone, Build.expectExpressions, hexpect]
  simp only [Build.modify, Build.modifier, Build.classify_singleton]
  rfl

/-- **The product of one value that is no number refuses it as no expression.** -/
theorem mul_value {v : Value} (hv : v.isNumber = false) : mul [.value v] = .error (.notExpression "disable" v) := by
  have hn : numbers [.value v] = none := by simp [numbers, values, hv]
  simp only [mul, List.isEmpty_cons, Bool.false_eq_true, if_false, hn]
  rfl

/-- A product of two or more operands, not all numbers, is refused. -/
theorem mul_eq_productArity {args : List Operand} (hlen : 2 ≤ args.length) (hn : ¬ AllNumbers args) :
    mul args = .error .productArity := by
  have hne : args ≠ [] := List.ne_nil_of_length_pos (by omega)
  have hlen' : (args.length != 1) = true := by simp; omega
  simp only [mul, List.isEmpty_iff, hne, if_false, numbers_eq_none_iff.2 hn, hlen', if_true]

/-! ## The quotient -/

/-- **Dividing by each divisor in turn** refuses a divisor that is zero of either sign, and otherwise
gives the left fold of the division. -/
theorem divideBy_eq (ds : List Value) : ∀ acc : Binary64,
    (divideBy acc ds = .error .divisionByZero ↔ ∃ d ∈ ds, d.asNumber.IsZero) ∧
    ((∀ d ∈ ds, ¬ d.asNumber.IsZero) → divideBy acc ds = .ok (ds.foldl (fun q d => q / d.asNumber) acc)) := by
  induction ds with
  | nil => intro acc; simp [divideBy]
  | cons d ds ih =>
    intro acc
    by_cases hd : d.asNumber.IsZero
    · have hzero : (d.asNumber == 0) = true := (Binary64.equals_zero_iff _).2 hd
      simp [divideBy, hzero, hd]
    · have hzero : (d.asNumber == 0) = false := Binary64.equals_zero_eq_false hd
      simp only [divideBy, hzero, Bool.false_eq_true, if_false, List.mem_cons, exists_eq_or_imp, hd,
        false_or, forall_eq_or_imp, not_false_eq_true, true_and, List.foldl_cons]
      exact ih _

theorem div_eq_quotientOfShapes {args : List Operand} (hne : args ≠ []) (hn : ¬ AllNumbers args) :
    div args = .error .quotientOfShapes := by
  simp only [div, List.isEmpty_iff, hne, if_false, numbers_eq_none_iff.2 hn]

/-- The quotient of one number is its reciprocal, unless it is zero of either sign. -/
theorem div_number {n : Value} (hn : n.isNumber = true) :
    (div [.value n] = .error .divisionByZero ↔ n.asNumber.IsZero) ∧
    (¬ n.asNumber.IsZero → div [.value n] = .ok (.value (.real (1 / n.asNumber)))) := by
  have hnum : numbers [.value n] = some [n] := @numbers_map_value [n] (by simpa using hn)
  by_cases hz : n.asNumber.IsZero
  · have hzero : (n.asNumber == 0) = true := (Binary64.equals_zero_iff _).2 hz
    simp [div, hnum, hzero, hz]
  · have hzero : (n.asNumber == 0) = false := Binary64.equals_zero_eq_false hz
    simp [div, hnum, hzero, hz]

/-- The quotient of two or more numbers divides the first by each other in turn, refusing a
divisor that is zero of either sign. -/
theorem div_numbers {n : Value} {ns : List Value} (hne : ns ≠ []) (hnum : ∀ v ∈ n :: ns, v.isNumber = true) :
    (div ((n :: ns).map .value) = .error .divisionByZero ↔ ∃ d ∈ ns, d.asNumber.IsZero) ∧
    ((∀ d ∈ ns, ¬ d.asNumber.IsZero) →
      div ((n :: ns).map .value) = .ok (.value (.real (ns.foldl (fun q d => q / d.asNumber) n.asNumber)))) := by
  obtain ⟨m, ms, rfl⟩ := List.exists_cons_of_ne_nil hne
  have hdiv : div ((n :: m :: ms).map .value) =
      (divideBy n.asNumber (m :: ms)).bind fun q => .ok (.value (.real q)) := by
    simp only [div, List.isEmpty_iff, List.map_eq_nil_iff, reduceCtorEq, if_false, numbers_map_value hnum]
    rfl
  obtain ⟨herr, hok⟩ := divideBy_eq (m :: ms) n.asNumber
  rw [hdiv]
  constructor
  · rw [← herr]
    cases divideBy n.asNumber (m :: ms) <;> simp [Except.bind]
  · intro hz
    rw [hok hz]
    rfl

/-! ## The operators, whole -/

theorem difference_eq_error_iff {es : List Expr} :
    (∃ f, Build.difference es = .error f) ↔ Build.HasDim .two es ∧ Build.HasDim .three es := by
  unfold Build.difference Build.combine
  rcases Build.classify_cases "contain" es with ⟨h2, h3, hc⟩ | ⟨-, h3, hc⟩ | ⟨h2, hc⟩
  · simp [hc, bind, Except.bind, h2, h3]
  · simp [hc, bind, Except.bind, h3]
  · simp [hc, bind, Except.bind, h2]

/-- **The variadic operators dispatch and fail as follows**, over every list of operands.
The sum is `0` for no operands, the fold of numbers, and the sum column by column of numeric lists of
one length; every other list is refused as not mathematical.  The difference refuses no operands,
negates one number or numeric list, folds numbers and subtracts numeric lists of one length column
by column; otherwise it is the difference of the operands when all are expressions — refused when
planar and solid ones meet — and refuses the first operand that is a value as no expression, to be
subtracted from in place 1 and subtracted later.  The product is `1` for no operands and the fold of
numbers; of two or more other operands it is refused as a misused operator, of one expression it is
that expression disabled, and of one value that is no number it refuses the value as no
expression.  The quotient refuses no operands and any list with an operand that is no number; of
numbers it refuses a divisor — the one operand, or any after the first — that is zero of either sign,
and otherwise is the reciprocal of the one operand or the first divided by each other in turn, as a
real. -/
theorem operators_dispatch :
    add [] = .ok (.value (.int 0)) ∧
    (∀ ns : List Value, ns ≠ [] → (∀ v ∈ ns, v.isNumber = true) → add (ns.map .value) = .ok (.value (fold .add ns))) ∧
    (∀ (vs : List (List Value)) (n : Nat), vs ≠ [] → (∀ v ∈ vs, v.length = n ∧ ∀ x ∈ v, x.isNumber = true) →
      add (vs.map fun v => .value (.list v)) =
        .ok (.value (.list ((List.range n).map fun i => fold .add (column i vs))))) ∧
    (∀ args, args ≠ [] → ¬ AllNumbers args → ¬ SameLengthVectors args → add args = .error .sumOfShapes) ∧
    sub [] = .error .emptyDifference ∧
    (∀ n : Value, n.isNumber = true → sub [.value n] = .ok (.value (negate n))) ∧
    (∀ ns : List Value, 2 ≤ ns.length → (∀ v ∈ ns, v.isNumber = true) →
      sub (ns.map .value) = .ok (.value (fold .sub ns))) ∧
    (∀ v : List Value, (∀ x ∈ v, x.isNumber = true) → sub [.value (.list v)] = .ok (.value (.list (v.map negate)))) ∧
    (∀ (vs : List (List Value)) (n : Nat), 2 ≤ vs.length → (∀ v ∈ vs, v.length = n ∧ ∀ x ∈ v, x.isNumber = true) →
      sub (vs.map fun v => .value (.list v)) =
        .ok (.value (.list ((List.range n).map fun i => fold .sub (column i vs))))) ∧
    (∀ es : List Expr, es ≠ [] → sub (es.map .expr) = .expr <$> Build.difference es ∧
      ((∃ f, Build.difference es = .error f) ↔ Build.HasDim .two es ∧ Build.HasDim .three es)) ∧
    (∀ args, ¬ AllNumbers args → ¬ SameLengthVectors args → ∀ pre v post, args = pre.map .expr ++ .value v :: post →
      sub args = .error (.notExpression (if pre = [] then "subtract from" else "subtract") v)) ∧
    mul [] = .ok (.value (.int 1)) ∧
    (∀ ns : List Value, ns ≠ [] → (∀ v ∈ ns, v.isNumber = true) → mul (ns.map .value) = .ok (.value (fold .mul ns))) ∧
    (∀ e, mul [.expr e] = .ok (.expr (.modify .disable e.dimensionality.orSolid e))) ∧
    (∀ args, 2 ≤ args.length → ¬ AllNumbers args → mul args = .error .productArity) ∧
    (∀ v : Value, v.isNumber = false → mul [.value v] = .error (.notExpression "disable" v)) ∧
    div [] = .error .emptyQuotient ∧
    (∀ args, args ≠ [] → ¬ AllNumbers args → div args = .error .quotientOfShapes) ∧
    (∀ n : Value, n.isNumber = true →
      (div [.value n] = .error .divisionByZero ↔ n.asNumber.IsZero) ∧
      (¬ n.asNumber.IsZero → div [.value n] = .ok (.value (.real (1 / n.asNumber))))) ∧
    (∀ (n : Value) (ns : List Value), ns ≠ [] → (∀ v ∈ n :: ns, v.isNumber = true) →
      (div ((n :: ns).map .value) = .error .divisionByZero ↔ ∃ d ∈ ns, d.asNumber.IsZero) ∧
      ((∀ d ∈ ns, ¬ d.asNumber.IsZero) →
        div ((n :: ns).map .value) = .ok (.value (.real (ns.foldl (fun q d => q / d.asNumber) n.asNumber))))) ∧
    (∀ f ∈ [Fault.sumOfShapes, .emptyDifference, .productArity, .emptyQuotient, .quotientOfShapes, .divisionByZero],
      f.kind = .operator) ∧
    (∀ verb v, (Fault.notExpression verb v).kind = .expressionType) := by
  refine ⟨rfl, fun _ hne hnum => add_numbers hne hnum, fun _ _ hne hvs => add_vectors_columns hne hvs,
    fun _ hne hn hv => add_eq_sumOfShapes hne hn hv,
    rfl, fun _ hn => sub_number hn, fun _ hlen hnum => sub_numbers hlen hnum, fun _ hv => sub_vector hv,
    fun vs _ hlen hvs => ?_, fun _ hne => ⟨sub_exprs hne, difference_eq_error_iff⟩,
    fun _ hn hv _ _ _ hargs => sub_eq_notExpression hn hv hargs,
    rfl, fun _ hne hnum => mul_numbers hne hnum, mul_expr, fun _ hlen hn => mul_eq_productArity hlen hn,
    fun _ hv => mul_value hv,
    rfl, fun _ hne hn => div_eq_quotientOfShapes hne hn, fun _ hn => div_number hn,
    fun _ _ hne hnum => div_numbers hne hnum, by decide, fun _ _ => rfl⟩
  rw [sub_vectors hlen hvs, columns_eq .sub (List.ne_nil_of_length_pos (by omega)) hvs]

/-- **The product of one numeric list is refused as no expression**, not as a misused operator. -/
theorem product_of_vector_refused_as_no_expression :
    mul [.value (.list [.int 1, .int 2])] = .error (.notExpression "disable" (.list [.int 1, .int 2])) ∧
      (Fault.notExpression "disable" (.list [.int 1, .int 2])).kind ≠ .operator :=
  ⟨mul_value rfl, by decide⟩

end Arith

end CsgScript
