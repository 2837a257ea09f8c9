import CsgScript.Expr.Equality
/-!
# Sharing — equality of trees is structural where no NaN hides

Trees compare node by node, except that two single children held by one reference count as equal
without being looked at (`Expr.equalBy`).  The shortcut can change an answer only at a NaN.  A tree
equals itself by the deep comparison exactly when it holds no NaN (`equalBy_const_self`), so in a
tree without NaNs a shared child compares equal either way (`equalBy_eq_equal_of_nanFree`).  A
tree against its copy takes the shortcut at every single child and looks only at the doubles
outside them (`Expr.reals`, `equal_sharing_nan`).
-/
namespace CsgScript

/-! ## The doubles of a node -/

/-- The doubles of a text layout: its size and spacing. -/
def TextLayout.reals (t : TextLayout) : List Binary64 := [t.size, t.spacing]

/-- The doubles of a linear extrusion: its height, twist and scale. -/
def LinearExtrusion.reals (e : LinearExtrusion) : List Binary64 := [e.height, e.twist, e.scale]

/-- The doubles of a colour: the four of an RGBA colour, none of a named one. -/
def Color.reals : Color → List Binary64
  | .rgba c => c.toList
  | .named _ => []

/-- The doubles of a shape, its points' coordinates included. -/
def Shape.reals : Shape → List Binary64
  | .circle r | .sphere r | .square r _ => [r]
  | .rectangle size _ => size.toList
  | .cube size _ => size.toList
  | .polygon points _ _ => points.flatMap Vec2.toList
  | .polyhedron points _ _ => points.flatMap Vec3.toList
  | .text t => t.reals
  | .cylinder r h _ => [r, h]
  | .frustum r1 r2 h _ => [r1, r2, h]
  | .importPlanar .. | .importSolid .. | .surface .. => []

/-- The doubles of an operation, the rows of a matrix included. -/
def Operation.reals : Operation → List Binary64
  | .translate2 v | .scale2 v | .resize2 v => v.toList
  | .translate3 v | .scale3 v | .resize3 v | .rotate3 v => v.toList
  | .rotate2 a | .roundedOffset a | .angledOffset a _ | .rotateExtrude a _ => [a]
  | .multmatrix _ rows => rows.flatMap Vec4.toList
  | .color _ c => c.reals
  | .linearExtrude e => e.reals
  | .combine .. | .mirror .. | .minkowski .. | .render _ => []

mutual

/-- The doubles of a value, at any depth of its lists. -/
def Value.reals : Value → List Binary64
  | .real x => [x]
  | .list items => Value.realsList items
  | .bool _ | .int _ | .str _ => []

/-- The doubles of the values of a list, in order. -/
def Value.realsList : List Value → List Binary64
  | [] => []
  | v :: vs => v.reals ++ Value.realsList vs

end

/-- The doubles of an optional value. -/
def Value.realsOption : Option Value → List Binary64
  | some v => v.reals
  | none => []

namespace Expr

mutual

/-- The doubles of a tree: with `below`, all of them; without it, those outside single children
(the child of a projection or a modifier, the subject of a commented expression). -/
def reals (below : Bool) : Expr → List Binary64
  | .shape s => s.reals
  | .projection c _ | .modify _ _ c | .commented _ _ c => if below then reals below c else []
  | .apply op cs => op.reals ++ realsList below cs
  | .define _ _ cs | .call _ _ cs => realsList below cs
  | .callFree _ | .callerChildren | .comment _ => []
  | .special _ p r => Value.realsOption p ++ Value.realsOption r
  | .echo vs => Value.realsList vs

/-- The doubles of a list of trees, one tree after another. -/
def realsList (below : Bool) : List Expr → List Binary64
  | [] => []
  | e :: es => reals below e ++ realsList below es

end

end Expr

/-! ## Each double equals itself unless it is a NaN -/

/-- A NaN equals nothing, itself included; every other double equals itself. -/
@[simp] theorem Binary64.equals_self (x : Binary64) : x.equals x = !x.isNaN := by
  unfold Binary64.equals Binary64.isNaN
  split <;> simp_all

@[simp] theorem Binary64.beq_self (x : Binary64) : (x == x) = !x.isNaN := x.equals_self

theorem List.beq_self_eq_all {α : Type} [BEq α] : ∀ l : List α, (l == l) = l.all fun x => x == x
  | [] => rfl
  | x :: l => by
    show (x == x && l == l) = _
    rw [List.beq_self_eq_all l, List.all_cons]

@[simp] theorem PathName.beq_self (p : PathName) : (p == p) = true :=
  beq_self_eq_true (Path.elements p.text)

@[simp] theorem Vec2.beq_self (v : Vec2) : (v == v) = v.toList.all fun x => !x.isNaN := by
  show instBEqVec2.beq v v = _
  unfold instBEqVec2.beq
  simp [Vec2.toList]

@[simp] theorem Vec3.beq_self (v : Vec3) : (v == v) = v.toList.all fun x => !x.isNaN := by
  show instBEqVec3.beq v v = _
  unfold instBEqVec3.beq
  simp [Vec3.toList]

@[simp] theorem Vec4.beq_self (v : Vec4) : (v == v) = v.toList.all fun x => !x.isNaN := by
  show instBEqVec4.beq v v = _
  unfold instBEqVec4.beq
  simp [Vec4.toList]

@[simp] theorem Axes.beq_self (a : Axes) : (a == a) = true := by
  show instBEqAxes.beq a a = _
  unfold instBEqAxes.beq
  simp

@[simp] theorem TextLayout.beq_self (t : TextLayout) : (t == t) = t.reals.all fun x => !x.isNaN := by
  show instBEqTextLayout.beq t t = _
  unfold instBEqTextLayout.beq
  simp [TextLayout.reals]

@[simp] theorem LinearExtrusion.beq_self (e : LinearExtrusion) :
    (e == e) = e.reals.all fun x => !x.isNaN := by
  show instBEqLinearExtrusion.beq e e = _
  unfold instBEqLinearExtrusion.beq
  simp [LinearExtrusion.reals]

@[simp] theorem Color.beq_self (c : Color) : (c == c) = c.reals.all fun x => !x.isNaN := by
  show instBEqColor.beq c c = _
  unfold instBEqColor.beq
  cases c <;> simp [Color.reals]

theorem Shape.beq_self (s : Shape) : (s == s) = s.reals.all fun x => !x.isNaN := by
  show instBEqShape.beq s s = _
  unfold instBEqShape.beq
  cases s <;> simp [Shape.ctorIdx, Shape.reals, List.beq_self_eq_all]

theorem Operation.beq_self (op : Operation) : (op == op) = op.reals.all fun x => !x.isNaN := by
  show instBEqOperation.beq op op = _
  unfold instBEqOperation.beq
  cases op <;> simp [Operation.ctorIdx, Operation.reals, List.beq_self_eq_all]

mutual

theorem Value.beq_self : ∀ v : Value, v.beq v = v.reals.all fun x => !x.isNaN
  | .bool _ | .int _ | .real _ | .str _ => by simp [Value.beq, Value.reals]
  | .list items => by rw [Value.beq, Value.reals, Value.beqList_self items]

theorem Value.beqList_self : ∀ vs : List Value, Value.beqList vs vs = (Value.realsList vs).all fun x => !x.isNaN
  | [] => rfl
  | v :: vs => by
    rw [Value.beqList, Value.realsList, Value.beq_self v, Value.beqList_self vs, List.all_append]

end

theorem Value.beqOption_self : ∀ p : Option Value, (p == p) = (Value.realsOption p).all fun x => !x.isNaN
  | none => rfl
  | some v => Value.beq_self v

namespace Expr

mutual

/-- **A tree equals itself exactly when it holds no NaN where the comparison looks**: everywhere
when no single child is shared, and outside the single children when all are. -/
theorem equalBy_const_self (shared : Bool) :
    ∀ a : Expr, equalBy (fun _ _ => shared) a a = (a.reals (!shared)).all fun x => !x.isNaN
  | .shape s => Shape.beq_self s
  | .projection c _ | .modify _ _ c | .commented _ _ c => by
    cases shared
    · simp [equalBy, reals, equalBy_const_self false c]
    · simp [equalBy, reals]
  | .apply op cs => by
    simp [equalBy, reals, Operation.beq_self, equalByList_const_self shared cs]
  | .define _ _ cs | .call _ _ cs => by
    simp [equalBy, reals, equalByList_const_self shared cs]
  | .callFree _ | .callerChildren | .comment _ => by simp [equalBy, reals]
  | .special _ p r => by simp [equalBy, reals, Value.beqOption_self]
  | .echo vs => by simp [equalBy, reals, Value.beqList_self]

theorem equalByList_const_self : ∀ (shared : Bool) (es : List Expr),
    equalByList (fun _ _ => shared) es es = (realsList (!shared) es).all fun x => !x.isNaN
  | _, [] => rfl
  | shared, e :: es => by
    simp [equalByList, realsList, equalBy_const_self shared e, equalByList_const_self shared es]

end

/-- A single child of a tree without NaNs compares the same whether it is shared or not: a shared
child is the same tree on both sides, and such a tree equals itself. -/
theorem child_eq_of_nanFree {same : Expr → Expr → Bool} (hsame : ∀ c c', same c c' = true → c = c')
    {c c' : Expr} (hc : (c.reals true).all (fun x => !x.isNaN) = true)
    (ih : equalBy same c c' = equal false c c') :
    (same c c' || equalBy same c c') = (false || equal false c c') := by
  cases h : same c c' with
  | false => simpa using ih
  | true =>
    obtain rfl := hsame c c' h
    rw [Bool.true_or, Bool.false_or, equal, equalBy_const_self false c]
    exact hc.symm

mutual

/-- **Sharing single children changes no comparison of a tree without NaNs.**  The recursion is on
the first tree: a tree without NaNs has subtrees without NaNs, and only single children are
compared through the sharing. -/
theorem equalBy_eq_equal_of_nanFree {same : Expr → Expr → Bool}
    (hsame : ∀ c c', same c c' = true → c = c') :
    ∀ a b : Expr, (a.reals true).all (fun x => !x.isNaN) = true → equalBy same a b = equal false a b
  | .shape _, b, _ => by cases b <;> rfl
  | .projection c _, b, h => by
    cases b with
    | projection c' _ =>
      have hc : (c.reals true).all (fun x => !x.isNaN) = true := by simpa [reals] using h
      rw [equalBy, child_eq_of_nanFree hsame hc (equalBy_eq_equal_of_nanFree hsame c c' hc)]
      rfl
    | _ => rfl
  | .apply _ cs, b, h => by
    cases b with
    | apply _ cs' =>
      rw [reals, List.all_append, Bool.and_eq_true] at h
      rw [equalBy, equalByList_eq_equal_of_nanFree hsame cs cs' h.2]
      rfl
    | _ => rfl
  | .modify _ _ c, b, h => by
    cases b with
    | modify _ _ c' =>
      have hc : (c.reals true).all (fun x => !x.isNaN) = true := by simpa [reals] using h
      rw [equalBy, child_eq_of_nanFree hsame hc (equalBy_eq_equal_of_nanFree hsame c c' hc)]
      rfl
    | _ => rfl
  | .define _ _ cs, b, h => by
    cases b with
    | define _ _ cs' =>
      rw [equalBy, equalByList_eq_equal_of_nanFree hsame cs cs' h]
      rfl
    | _ => rfl
  | .call _ _ cs, b, h => by
    cases b with
    | call _ _ cs' =>
      rw [equalBy, equalByList_eq_equal_of_nanFree hsame cs cs' h]
      rfl
    | _ => rfl
  | .commented _ _ c, b, h => by
    cases b with
    | commented _ _ c' =>
      have hc : (c.reals true).all (fun x => !x.isNaN) = true := by simpa [reals] using h
      rw [equalBy, child_eq_of_nanFree hsame hc (equalBy_eq_equal_of_nanFree hsame c c' hc)]
      rfl
    | _ => rfl
  | .callFree _, b, _ | .callerChildren, b, _ | .comment _, b, _ | .special .., b, _ | .echo _, b, _ => by
    cases b <;> rfl

theorem equalByList_eq_equal_of_nanFree {same : Expr → Expr → Bool}
    (hsame : ∀ c c', same c c' = true → c = c') :
    ∀ as bs : List Expr, (realsList true as).all (fun x => !x.isNaN) = true →
      equalByList same as bs = equalByList (fun _ _ => false) as bs
  | [], bs, _ => by cases bs <;> rfl
  | a :: as, bs, h => by
    cases bs with
    | nil => rfl
    | cons b bs =>
      rw [realsList, List.all_append, Bool.and_eq_true] at h
      rw [equalByList, equalByList, equalBy_eq_equal_of_nanFree hsame a b h.1,
        equalByList_eq_equal_of_nanFree hsame as bs h.2]
      rfl

end

/-- **Equality of trees is deep structural equality where no NaN hides, and sharing matters only
for NaNs.**  A tree without NaNs equals itself, and compares with any other tree the same whatever
single children the two share, as if they shared none: node kinds, shapes and fields compared one by
one, doubles as numbers.  A tree equals its copy, which shares every single child, exactly when
every NaN in it lies below a single child. -/
theorem equal_sharing_nan (a : Expr) :
    (equal false a a = true ↔ ∀ x ∈ a.reals true, x.isNaN = false) ∧
    ((∀ x ∈ a.reals true, x.isNaN = false) →
      ∀ same : Expr → Expr → Bool, (∀ c c', same c c' = true → c = c') →
        ∀ b, equalBy same a b = equal false a b) ∧
    (equal true a a = true ↔ ∀ x ∈ a.reals false, x.isNaN = false) := by
  refine ⟨?_, ?_, ?_⟩
  · rw [equal, equalBy_const_self false a]
    simp
  · intro ha same hsame b
    exact equalBy_eq_equal_of_nanFree hsame a b (by simpa using ha)
  · rw [equal, equalBy_const_self true a]
    simp

/-- A projected NaN circle equals its copy but not a tree built afresh; a circle of radius `0`
equals one of radius `-0`. -/
example : equal true (.projection (.shape (.circle (Binary64.quietNaN false))) false)
      (.projection (.shape (.circle (Binary64.quietNaN false))) false) = true ∧
    equal false (.projection (.shape (.circle (Binary64.quietNaN false))) false)
      (.projection (.shape (.circle (Binary64.quietNaN false))) false) = false ∧
    equal false (.shape (.circle (Binary64.zero false))) (.shape (.circle (Binary64.zero true))) =
      true := by
  decide

end Expr

end CsgScript
