import CsgScript.Build.Nodes
import CsgScript.Proofs.Outcome
/-!
# WellFormed — trees whose every node fits its children

A tree is well formed when, at every node, the children have the dimension the node asks of them
or none at all, polygon paths and polyhedron faces index existing points, and module definitions
have a body.  The dimension a node asks is its own for the booleans, transformations, colours,
hulls, Minkowski sums, renders, modifiers, module definitions and calls and commented
expressions; a projection asks for solids, and the extrusions and offsets for planar children.

The checked constructors of `Build` pick the variant of each node from its children: `classify`,
`matchArgument` and `reject` each leave children of one dimension or of none, so that what the
constructors build is well formed whenever what they are given is.
-/
namespace CsgScript

namespace Indices

/-- Every index list has at least the part's minimum of indices, each naming one of `count`
points. -/
def valid (part : IndexedPart) (count : Nat) (lists : List (List Int32)) : Bool :=
  lists.all fun l => decide (part.minimum ≤ l.length) && l.all fun i => decide (0 ≤ i.toInt ∧ i.toInt < count)

theorem checkList_eq_ok_iff (part : IndexedPart) (count place : Nat) (l : List Int32) :
    checkList part count place l = .ok () ↔
      part.minimum ≤ l.length ∧ ∀ i ∈ l, 0 ≤ i.toInt ∧ i.toInt < count := by
  unfold checkList
  split
  · simp only [reduceCtorEq, false_iff, not_and]
    omega
  · rename_i hlen
    split
    · rename_i i hi
      have hbad := List.find?_some hi
      simp only [Bool.or_eq_true, decide_eq_true_eq] at hbad
      simp only [reduceCtorEq, false_iff, not_and, not_forall]
      intro _
      exact ⟨i, List.mem_of_find?_eq_some hi, by omega⟩
    · rename_i hnone
      simp only [List.find?_eq_none, Bool.or_eq_true, decide_eq_true_eq, not_or] at hnone
      exact iff_of_true rfl ⟨by omega, fun i hi => by have := hnone i hi; omega⟩

theorem checkFrom_eq_ok_iff (part : IndexedPart) (count : Nat) :
    ∀ (place : Nat) (lists : List (List Int32)),
      checkFrom part count place lists = .ok () ↔ valid part count lists = true
  | _, [] => by simp [checkFrom, valid]
  | place, l :: rest => by
    rw [checkFrom, Outcome.bind_eq_ok, valid, List.all_cons, Bool.and_eq_true, ← valid,
      ← checkFrom_eq_ok_iff part count (place + 1) rest]
    constructor
    · rintro ⟨⟨⟩, hl, hrest⟩
      exact ⟨by simpa using (checkList_eq_ok_iff part count place l).1 hl, hrest⟩
    · rintro ⟨hl, hrest⟩
      exact ⟨(), (checkList_eq_ok_iff part count place l).2 (by simpa using hl), hrest⟩

/-- **The index check passes exactly on valid index lists.** -/
theorem check_eq_ok_iff (part : IndexedPart) (count : Nat) (lists : List (List Int32)) :
    check part count lists = .ok () ↔ valid part count lists = true :=
  checkFrom_eq_ok_iff part count 1 lists

end Indices

/-- Polygon paths and polyhedron faces index existing points; other shapes have no indices. -/
def Shape.indicesValid : Shape → Bool
  | .polygon points paths _ => Indices.valid .path points.length paths
  | .polyhedron points faces _ => Indices.valid .face points.length faces
  | _ => true

theorem Shape.check_eq_ok_iff (s : Shape) : s.check = .ok () ↔ s.indicesValid = true := by
  cases s <;> simp [Shape.check, Shape.indicesValid, Indices.check_eq_ok_iff]

/-- A child of this dimensionality may stand under a node that asks for `d`: it has `d`, or
none. -/
def Dimensionality.fits : Dimensionality → Dim → Bool
  | .fixed d', d => d' == d
  | .free, _ => true

/-- The dimension a classification gives a single expression: its own, and solid when it has
none. -/
def Dimensionality.orSolid : Dimensionality → Dim
  | .fixed d => d
  | .free => .three

/-- The dimension an operation asks of its children: planar for the extrusions, its own for every
other operation. -/
def Operation.childDim : Operation → Dim
  | .linearExtrude _ | .rotateExtrude .. => .two
  | op => op.dim

namespace Expr

mutual

/-- Every node of the tree fits its children, polygons and polyhedra index existing points, and
module definitions have a body. -/
def wellFormed : Expr → Bool
  | .shape s => s.indicesValid
  | .projection c _ => c.dimensionality.fits .three && c.wellFormed
  | .apply op cs => cs.all (·.dimensionality.fits op.childDim) && wellFormedList cs
  | .modify _ d c | .commented d _ c => c.dimensionality.fits d && c.wellFormed
  | .define d _ cs => !cs.isEmpty && cs.all (·.dimensionality.fits d) && wellFormedList cs
  | .call d _ cs => cs.all (·.dimensionality.fits d) && wellFormedList cs
  | .callFree _ | .callerChildren | .comment _ | .special .. | .echo _ => true

/-- Every tree of the list is well formed. -/
def wellFormedList : List Expr → Bool
  | [] => true
  | e :: es => e.wellFormed && wellFormedList es

end

@[simp] theorem wellFormedList_iff : ∀ es : List Expr, wellFormedList es = true ↔ ∀ e ∈ es, e.wellFormed = true
  | [] => by simp [wellFormedList]
  | e :: es => by simp [wellFormedList, wellFormedList_iff es]

@[simp] theorem wellFormed_apply (op : Operation) (cs : List Expr) :
    (Expr.apply op cs).wellFormed = true ↔
      (∀ c ∈ cs, c.dimensionality.fits op.childDim = true) ∧ ∀ c ∈ cs, c.wellFormed = true := by
  simp [wellFormed]

@[simp] theorem wellFormed_define (d : Dim) (name : String) (cs : List Expr) :
    (Expr.define d name cs).wellFormed = true ↔
      cs ≠ [] ∧ (∀ c ∈ cs, c.dimensionality.fits d = true) ∧ ∀ c ∈ cs, c.wellFormed = true := by
  simp [wellFormed, and_assoc]

@[simp] theorem wellFormed_call (d : Dim) (name : String) (cs : List Expr) :
    (Expr.call d name cs).wellFormed = true ↔
      (∀ c ∈ cs, c.dimensionality.fits d = true) ∧ ∀ c ∈ cs, c.wellFormed = true := by
  simp [wellFormed]

end Expr

theorem Dimensionality.fits_of_ne {x : Dimensionality} {d d' : Dim} (h : x ≠ .fixed d) (hd : d ≠ d') :
    x.fits d' = true := by
  cases x with
  | free => rfl
  | fixed d'' => cases d <;> cases d' <;> cases d'' <;> simp_all [Dimensionality.fits]

theorem Dimensionality.fits_orSolid (x : Dimensionality) : x.fits x.orSolid = true := by
  cases x with
  | free => rfl
  | fixed d => simp [Dimensionality.fits, Dimensionality.orSolid]

/-- A construction keeps trees well formed: when every tree it is given is well formed, so is the
tree it returns, if it returns one. -/
def KeepsWellFormed (given : List Expr) (result : Except Fault Expr) : Prop :=
  (∀ x ∈ given, x.wellFormed = true) → ∀ e, result = .ok e → e.wellFormed = true

namespace Build

theorem positions_eq_nil_iff (d : Dimensionality) :
    ∀ (i : Nat) (es : List Expr), positions d i es = [] ↔ ∀ e ∈ es, e.dimensionality ≠ d
  | _, [] => by simp [positions]
  | i, e :: es => by
    rw [positions]
    split <;> simp_all [positions_eq_nil_iff d (i + 1) es]

/-- **A classification leaves children of its dimension or of none**: planar ones when it says
planar, and no planar ones when it says solid. -/
theorem fits_of_classify {verb : String} {es : List Expr} {d : Dim} (h : classify verb es = .ok d) :
    ∀ e ∈ es, e.dimensionality.fits d = true := by
  unfold classify at h
  simp only at h
  split at h
  · cases h
  · rename_i hmixed
    split at h
    · rename_i htwo
      cases h
      have hthree : positions (.fixed .three) 0 es = [] := by simpa [htwo] using hmixed
      intro e he
      exact Dimensionality.fits_of_ne ((positions_eq_nil_iff _ 0 es).1 hthree e he) (by decide)
    · rename_i htwo
      cases h
      have hnone : positions (.fixed .two) 0 es = [] := by simpa using htwo
      intro e he
      exact Dimensionality.fits_of_ne ((positions_eq_nil_iff _ 0 es).1 hnone e he) (by decide)

/-- A single expression is classified by its own dimension, solid when it has none. -/
theorem classify_singleton (verb : String) (e : Expr) :
    classify verb [e] = .ok e.dimensionality.orSolid := by
  unfold classify
  cases hd : e.dimensionality with
  | free => simp [positions, hd, Dimensionality.orSolid]
  | fixed d => cases d <;> simp [positions, hd, Dimensionality.orSolid]

/-- An argument vector that matches the children has the dimension of their classification,
planar for length 2 and solid for length 3. -/
theorem matchArgument_eq_ok {verb : String} {v : List Binary64} {es : List Expr} {d : Dim}
    (h : matchArgument verb v es = .ok d) :
    classify verb es = .ok d ∧ (v.length = 2 ∧ d = .two ∨ v.length = 3 ∧ d = .three) := by
  have compared : ∀ implied : Dim, (do
      let d ← classify verb es
      if d = implied then pure d else throw (Fault.argumentMismatch verb (es.length != 1) v)) =
        Except.ok d → classify verb es = .ok d ∧ d = implied := by
    intro implied h
    obtain ⟨d', hd', h⟩ := Outcome.bind_eq_ok.1 h
    split at h
    · cases h
      exact ⟨hd', ‹_›⟩
    · cases h
  unfold matchArgument at h
  split at h
  · rename_i hlen
    obtain ⟨hc, rfl⟩ := compared .two (by simpa only [pure_bind] using h)
    exact ⟨hc, .inl ⟨hlen, rfl⟩⟩
  · rename_i hlen
    obtain ⟨hc, rfl⟩ := compared .three (by simpa only [pure_bind] using h)
    exact ⟨hc, .inr ⟨hlen, rfl⟩⟩
  · cases h

theorem fits_of_reject {verb : String} {d d' : Dim} {es : List Expr} (h : reject verb (.fixed d) es = .ok ())
    (hd : d ≠ d') : ∀ e ∈ es, e.dimensionality.fits d' = true := by
  unfold reject at h
  split at h
  · cases h
  · rename_i hnil
    intro e he
    exact Dimensionality.fits_of_ne ((positions_eq_nil_iff _ 0 es).1 hnil e he) hd

/-! ## Each constructor keeps trees well formed -/

theorem wellFormed_apply_of_classify {verb : String} {cs : List Expr} {d : Dim} {op : Operation}
    (hd : classify verb cs = .ok d) (hop : op.childDim = d) (hcs : ∀ c ∈ cs, c.wellFormed = true) :
    (Expr.apply op cs).wellFormed = true :=
  (Expr.wellFormed_apply op cs).2 ⟨by rw [hop]; exact fits_of_classify hd, hcs⟩

theorem wellFormed_apply_of_reject {verb : String} {cs : List Expr} {d : Dim} {op : Operation}
    (hr : reject verb (.fixed d) cs = .ok ()) (hop : op.childDim ≠ d) (hcs : ∀ c ∈ cs, c.wellFormed = true) :
    (Expr.apply op cs).wellFormed = true :=
  (Expr.wellFormed_apply op cs).2 ⟨fits_of_reject hr (Ne.symm hop), hcs⟩

theorem keeps_combine (c : Combination) (verb : String) (cs : List Expr) :
    KeepsWellFormed cs (combine c verb cs) := by
  intro hcs e h
  obtain ⟨d, hd, h⟩ := Outcome.bind_eq_ok.1 h
  cases h
  exact wellFormed_apply_of_classify hd rfl hcs

theorem keeps_union (cs : List Expr) : KeepsWellFormed cs (union cs) := keeps_combine .union _ cs

theorem keeps_difference (cs : List Expr) : KeepsWellFormed cs (difference cs) := keeps_combine .difference _ cs

theorem keeps_intersection (cs : List Expr) : KeepsWellFormed cs (intersection cs) :=
  keeps_combine .intersection _ cs

theorem keeps_hull (cs : List Expr) : KeepsWellFormed cs (hull cs) := keeps_combine .hull _ cs

theorem keeps_mirror (axes : Axes) (cs : List Expr) : KeepsWellFormed cs (mirror axes cs) := by
  intro hcs e h
  obtain ⟨d, hd, h⟩ := Outcome.bind_eq_ok.1 h
  cases h
  exact wellFormed_apply_of_classify hd rfl hcs

theorem keeps_multmatrix (rows : List Vec4) (cs : List Expr) : KeepsWellFormed cs (multmatrix rows cs) := by
  intro hcs e h
  obtain ⟨d, hd, h⟩ := Outcome.bind_eq_ok.1 h
  cases h
  exact wellFormed_apply_of_classify hd rfl hcs

theorem keeps_color (c : Color) (cs : List Expr) : KeepsWellFormed cs (color c cs) := by
  intro hcs e h
  obtain ⟨d, hd, h⟩ := Outcome.bind_eq_ok.1 h
  cases h
  exact wellFormed_apply_of_classify hd rfl hcs

theorem keeps_minkowski (cs : List Expr) (convexity : Int32) : KeepsWellFormed cs (minkowski cs convexity) := by
  intro hcs e h
  obtain ⟨d, hd, h⟩ := Outcome.bind_eq_ok.1 h
  cases h
  exact wellFormed_apply_of_classify hd rfl hcs

/-- **A transformation chosen by its argument keeps its children well formed**, when its planar
operation takes planar children and its solid one solid children. -/
theorem keeps_byArgument {verb : String} {planar : Vec2 → Operation} {solid : Vec3 → Operation}
    (hplanar : ∀ u, (planar u).childDim = .two) (hsolid : ∀ w, (solid w).childDim = .three)
    (v : List Binary64) (cs : List Expr) : KeepsWellFormed cs (byArgument verb planar solid v cs) := by
  intro hcs e h
  obtain ⟨d, hd, h⟩ := Outcome.bind_eq_ok.1 h
  have hclassify := (matchArgument_eq_ok hd).1
  cases d <;> cases h
  · exact wellFormed_apply_of_classify hclassify (hplanar _) hcs
  · exact wellFormed_apply_of_classify hclassify (hsolid _) hcs

/-- A scalar rotation is planar when no child has a dimension, and otherwise follows the
children. -/
theorem keeps_rotate (angle : Binary64) (cs : List Expr) : KeepsWellFormed cs (rotate angle cs) := by
  intro hcs e h
  unfold rotate at h
  split at h
  · rename_i hnone
    cases h
    have hfree : ∀ c ∈ cs, c.dimensionality = .free := by simpa [hasDimensioned] using hnone
    exact (Expr.wellFormed_apply _ cs).2 ⟨fun c hc => by simp [hfree c hc, Dimensionality.fits], hcs⟩
  · obtain ⟨d, hd, h⟩ := Outcome.bind_eq_ok.1 h
    cases d <;> cases h <;> exact wellFormed_apply_of_classify hd rfl hcs

/-- A rotation about three axes matches a vector of length three, so its children are solid or
free of dimension. -/
theorem keeps_rotateAxes (angles : Vec3) (cs : List Expr) : KeepsWellFormed cs (rotateAxes angles cs) := by
  intro hcs e h
  obtain ⟨d, hd, h⟩ := Outcome.bind_eq_ok.1 h
  cases h
  obtain ⟨hc, hlen⟩ := matchArgument_eq_ok hd
  have hthree : d = .three := by
    rcases hlen with ⟨hlen, -⟩ | ⟨-, hd⟩
    · simp [Vec3.toList] at hlen
    · exact hd
  exact wellFormed_apply_of_classify hc hthree.symm hcs

theorem keeps_offset (distance : Binary64) (cs : List Expr) (round chamfer : Bool) :
    KeepsWellFormed cs (offset distance cs round chamfer) := by
  intro hcs e h
  obtain ⟨⟨⟩, hr, h⟩ := Outcome.bind_eq_ok.1 h
  split at h
  · split at h
    · cases h
    · cases h
      exact wellFormed_apply_of_reject hr (by simp [Operation.childDim, Operation.dim]) hcs
  · cases h
    exact wellFormed_apply_of_reject hr (by simp [Operation.childDim, Operation.dim]) hcs

theorem keeps_render (cs : List Expr) (convexity : Int32) : KeepsWellFormed cs (render cs convexity) := by
  intro hcs e h
  obtain ⟨⟨⟩, hr, h⟩ := Outcome.bind_eq_ok.1 h
  cases h
  exact wellFormed_apply_of_reject hr (by simp [Operation.childDim, Operation.dim]) hcs

theorem keeps_rotateExtrude (cs : List Expr) (angle : Binary64) (convexity : Int32) :
    KeepsWellFormed cs (rotateExtrude cs angle convexity) := by
  intro hcs e h
  obtain ⟨⟨⟩, hr, h⟩ := Outcome.bind_eq_ok.1 h
  cases h
  exact wellFormed_apply_of_reject hr (by simp [Operation.childDim]) hcs

theorem keeps_extrude (cs : List Expr) (o : ExtrudeOptions) : KeepsWellFormed cs (extrude cs o) := by
  intro hcs e h
  unfold extrude at h
  split at h
  · exact keeps_rotateExtrude cs _ _ hcs e h
  · split at h
    · cases h
    · obtain ⟨⟨⟩, hr, h⟩ := Outcome.bind_eq_ok.1 h
      cases h
      exact wellFormed_apply_of_reject hr (by simp [Operation.childDim]) hcs

theorem keeps_linearExtrude (height : Binary64) (cs : List Expr) : KeepsWellFormed cs (linearExtrude height cs) :=
  keeps_extrude cs _

theorem keeps_projection (child : Expr) (cut : Bool) : KeepsWellFormed [child] (projection child cut) := by
  intro hcs e h
  obtain ⟨⟨⟩, hr, h⟩ := Outcome.bind_eq_ok.1 h
  cases h
  simp only [Expr.wellFormed, Bool.and_eq_true]
  exact ⟨fits_of_reject hr (by decide) child (by simp), hcs child (by simp)⟩

theorem keeps_commentOn (lines : List String) (subject : Expr) :
    KeepsWellFormed [subject] (commentOn lines subject) := by
  intro hcs e h
  obtain ⟨d, hd, h⟩ := Outcome.bind_eq_ok.1 h
  cases h
  simp only [Expr.wellFormed, Bool.and_eq_true]
  exact ⟨fits_of_classify hd subject (by simp), hcs subject (by simp)⟩

theorem keeps_modifier (m : Modifier) (child : Expr) : KeepsWellFormed [child] (modifier m child) := by
  intro hcs e h
  obtain ⟨d, hd, h⟩ := Outcome.bind_eq_ok.1 h
  cases h
  simp only [Expr.wellFormed, Bool.and_eq_true]
  exact ⟨fits_of_classify hd child (by simp), hcs child (by simp)⟩

theorem keeps_modify (m : Modifier) (cs : List Expr) : KeepsWellFormed cs (modify m cs) := by
  intro hcs e h
  unfold modify at h
  split at h
  · exact keeps_modifier m _ hcs e h
  · cases h

theorem keeps_defineModule (name : String) (cs : List Expr) : KeepsWellFormed cs (defineModule name cs) := by
  intro hcs e h
  unfold defineModule at h
  split at h
  · cases h
  · rename_i hne
    obtain ⟨d, hd, h⟩ := Outcome.bind_eq_ok.1 h
    cases h
    exact (Expr.wellFormed_define d name cs).2 ⟨by simpa using hne, fits_of_classify hd, hcs⟩

theorem keeps_callModule (name : String) (cs : List Expr) : KeepsWellFormed cs (callModule name cs) := by
  intro hcs e h
  unfold callModule at h
  split at h
  · cases h
    rfl
  · obtain ⟨d, hd, h⟩ := Outcome.bind_eq_ok.1 h
    cases h
    exact (Expr.wellFormed_call d name cs).2 ⟨fits_of_classify hd, hcs⟩

theorem wellFormed_shape_of_check {s : Shape} (h : s.check = .ok ()) : (Expr.shape s).wellFormed = true :=
  (Shape.check_eq_ok_iff s).1 h

theorem keeps_polygon (points : List Vec2) (paths : List (List Int32)) (convexity : Int32) :
    KeepsWellFormed [] (polygon points paths convexity) := by
  intro _ e h
  obtain ⟨⟨⟩, hc, h⟩ := Outcome.bind_eq_ok.1 h
  cases h
  exact wellFormed_shape_of_check hc

theorem keeps_polyhedron (points : List Vec3) (faces : List (List Int32)) (convexity : Int32) :
    KeepsWellFormed [] (polyhedron points faces convexity) := by
  intro _ e h
  obtain ⟨⟨⟩, hc, h⟩ := Outcome.bind_eq_ok.1 h
  cases h
  exact wellFormed_shape_of_check hc

theorem keeps_importFile (file : PathName) (convexity : Int32) (layer : String) :
    KeepsWellFormed [] (importFile file convexity layer) := by
  intro _ e h
  unfold importFile at h
  dsimp only at h
  split at h
  · cases h
    rfl
  · split at h
    · cases h
      rfl
    · cases h

theorem mem_of_mem_consecutive : ∀ {shapes : List Expr} {a b : Expr}, (a, b) ∈ consecutive shapes →
    a ∈ shapes ∧ b ∈ shapes
  | [], _, _, h => by simp [consecutive] at h
  | [_], _, _, h => by simp [consecutive] at h
  | x :: y :: rest, a, b, h => by
    rw [consecutive, List.mem_cons] at h
    rcases h with h | h
    · cases h
      simp
    · obtain ⟨ha, hb⟩ := mem_of_mem_consecutive h
      exact ⟨List.mem_cons_of_mem _ ha, List.mem_cons_of_mem _ hb⟩

/-- The hull of each consecutive pair is well formed, and so is their union. -/
theorem keeps_pairwiseHull (shapes : List Expr) : KeepsWellFormed shapes (pairwiseHull shapes) := by
  intro hcs e h
  obtain ⟨hulls, hh, h⟩ := Outcome.bind_eq_ok.1 h
  refine keeps_union hulls (fun x hx => ?_) e h
  obtain ⟨⟨a, b⟩, hab, hx⟩ := Outcome.Forall₂.exists_of_mem_right (Outcome.mapM_eq_ok_iff.1 hh) hx
  obtain ⟨ha, hb⟩ := mem_of_mem_consecutive hab
  exact keeps_hull [a, b] (by simp [hcs a ha, hcs b hb]) x hx

theorem keeps_roundCorners (radius : Binary64) (shapes : List Expr) (round chamfer : Bool) :
    KeepsWellFormed shapes (roundCorners radius shapes round chamfer) := by
  intro hcs e h
  obtain ⟨inner, hi, h⟩ := Outcome.bind_eq_ok.1 h
  exact keeps_offset radius [inner] round chamfer (by simpa using keeps_offset _ shapes round chamfer hcs inner hi) e h

theorem keeps_minus (a b : Expr) : KeepsWellFormed [a, b] (minus a b) := keeps_difference [a, b]

theorem keeps_pipe (a b : Expr) : KeepsWellFormed [a, b] (pipe a b) := keeps_union [a, b]

end Build

end CsgScript
