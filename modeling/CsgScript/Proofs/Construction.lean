import CsgScript.Build.Arith
import CsgScript.Proofs.ModuleTree
/-!
# Construction — well-formedness is closed under construction

Every checked constructor, the expression results of the arithmetic operators, and the assembly of
assets into module definitions and self-contained files keep trees well formed: given well-formed
trees, and assets whose every expression is well formed, they return well-formed trees whenever
they return at all (`construction_keeps_wellFormed`).  Shapes and annotations built from values
alone are well formed outright.

Assembly adds two kinds of node: unions and mirror images of module bodies, and module definitions
around them.  A mirror image across `x = 0` takes the dimension its child is classified by, and a
definition the dimension of its one body expression, so both fit what they hold.
-/
namespace CsgScript

/-- An operand is well formed when it is a well-formed expression, or a value. -/
def Operand.wellFormed : Operand → Bool
  | .expr e => e.wellFormed
  | .value _ => true

/-- Every expression of the asset, and of every module nested in it, is well formed. -/
def Asset.wellFormed (a : Asset) : Bool :=
  a.content.all Expr.wellFormed && (Asset.forest a.modules).all fun m => m.content.all Expr.wellFormed

@[simp] theorem Asset.wellFormed_iff (a : Asset) :
    a.wellFormed = true ↔
      (∀ e ∈ a.content, e.wellFormed = true) ∧ ∀ m ∈ Asset.forest a.modules, ∀ e ∈ m.content, e.wellFormed = true := by
  simp [Asset.wellFormed]

namespace Build

theorem mem_of_expectFrom (verbs : Verbs) :
    ∀ (i : Nat) (args : List Operand) (es : List Expr), expectFrom verbs i args = .ok es → ∀ e ∈ es, .expr e ∈ args
  | _, [], es, h => by
    cases h
    simp
  | i, .expr x :: rest, es, h => by
    obtain ⟨es', hes', h⟩ := Outcome.bind_eq_ok.1 h
    cases h
    intro e he
    rcases List.mem_cons.1 he with rfl | he
    · exact List.mem_cons_self
    · exact List.mem_cons_of_mem _ (mem_of_expectFrom verbs (i + 1) rest es' hes' e he)
  | _, .value _ :: _, _, h => by cases h

theorem wellFormed_of_expectExpressions {verbs : Verbs} {args : List Operand} {es : List Expr}
    (hargs : ∀ a ∈ args, a.wellFormed = true) (h : expectExpressions verbs args = .ok es) :
    ∀ e ∈ es, e.wellFormed = true :=
  fun e he => hargs _ (mem_of_expectFrom verbs 0 args es h e he)

end Build

namespace Arith

/-- **A difference of expressions keeps them well formed**: numbers and numeric vectors give values,
and only expressions give an expression. -/
theorem keeps_sub {args : List Operand} {e : Expr} (hargs : ∀ a ∈ args, a.wellFormed = true)
    (h : sub args = .ok (.expr e)) : e.wellFormed = true := by
  unfold sub at h
  split at h
  · cases h
  split at h
  · cases h
  · cases h
  split at h
  · cases h
  · cases h
  obtain ⟨es, hes, h⟩ := Outcome.bind_eq_ok.1 h
  cases hd : Build.difference es with
  | error f =>
    rw [hd] at h
    cases h
  | ok d =>
    rw [hd] at h
    cases h
    exact Build.keeps_difference es (Build.wellFormed_of_expectExpressions hargs hes) _ hd

/-- **A product of one expression disables it, and keeps it well formed.** -/
theorem keeps_mul {args : List Operand} {e : Expr} (hargs : ∀ a ∈ args, a.wellFormed = true)
    (h : mul args = .ok (.expr e)) : e.wellFormed = true := by
  unfold mul at h
  split at h
  · cases h
  split at h
  · cases h
  split at h
  · cases h
  obtain ⟨es, hes, h⟩ := Outcome.bind_eq_ok.1 h
  cases hd : Build.modify .disable es with
  | error f =>
    rw [hd] at h
    cases h
  | ok d =>
    rw [hd] at h
    cases h
    exact Build.keeps_modify .disable es (Build.wellFormed_of_expectExpressions hargs hes) _ hd

end Arith

namespace Assembly

theorem wellFormed_moduleBody {m : Asset} {b : Expr} (hm : ∀ e ∈ m.content, e.wellFormed = true)
    (h : moduleBody m = .ok b) : b.wellFormed = true := by
  unfold moduleBody at h
  split at h
  · cases h
  · rename_i e hc
    cases h
    exact hm b (by simp [hc])
  · exact Build.keeps_union m.content hm b h

/-- A mirror image of a well-formed expression, of the dimension it is classified by, is well
formed. -/
theorem wellFormed_mirror {e : Expr} (he : e.wellFormed = true) :
    (Expr.apply (.mirror e.dimensionality.orSolid ⟨1, 0, 0⟩) [e]).wellFormed = true :=
  (Expr.wellFormed_apply _ _).2
    ⟨fun c hc => by rw [List.mem_singleton.1 hc]; exact Dimensionality.fits_orSolid _, by simpa using he⟩

/-- **A module's definition is well formed when its expressions are.** -/
theorem wellFormed_moduleDefinition {flip : Bool} {m : Asset} {d : Expr}
    (hm : ∀ e ∈ m.content, e.wellFormed = true) (h : moduleDefinition flip m = .ok d) : d.wellFormed = true := by
  rw [moduleDefinition_eq] at h
  cases hb : moduleBody m with
  | error f =>
    rw [hb] at h
    cases h
  | ok b =>
    rw [hb] at h
    cases h
    have hwf := wellFormed_moduleBody hm hb
    have hflipped : (flippedBody flip m b).wellFormed = true := by
      unfold flippedBody
      split
      · exact wellFormed_mirror hwf
      · exact hwf
    refine (Expr.wellFormed_define _ _ _).2 ⟨by simp, ?_, by simpa using hflipped⟩
    simpa [← orSolid_flippedBody flip m b] using Dimensionality.fits_orSolid _

theorem wellFormed_of_mapM_moduleDefinition {flip : Bool} {ms : List Asset} {defs : List Expr}
    (hms : ∀ m ∈ ms, ∀ e ∈ m.content, e.wellFormed = true) (h : ms.mapM (moduleDefinition flip) = .ok defs) :
    ∀ d ∈ defs, d.wellFormed = true := by
  intro d hd
  obtain ⟨m, hm, hdef⟩ := Outcome.Forall₂.exists_of_mem_right (Outcome.mapM_eq_ok_iff.1 h) hd
  exact wellFormed_moduleDefinition (hms m hm) hdef

theorem keeps_modularize {flip : Bool} {m : Asset} {defs : List Expr} (hm : m.wellFormed = true)
    (h : modularize flip m = .ok defs) : ∀ d ∈ defs, d.wellFormed = true := by
  rw [modularize_eq_mapM, Asset.subtree_eq] at h
  rw [Asset.wellFormed_iff] at hm
  refine wellFormed_of_mapM_moduleDefinition (fun m' hm' => ?_) h
  rcases List.mem_append.1 hm' with hm' | hm'
  · exact hm.2 m' hm'
  · rw [List.mem_singleton.1 hm']
    exact hm.1

theorem wellFormed_definitions {a : Asset} {flip : Bool} {defs : List Expr} (ha : a.wellFormed = true)
    (h : a.definitions flip = .ok defs) : ∀ d ∈ defs, d.wellFormed = true := by
  rw [Asset.definitions_eq_mapM] at h
  exact wellFormed_of_mapM_moduleDefinition ((Asset.wellFormed_iff a).1 ha).2 h

theorem wellFormed_mirrorGeometry {content own : List Expr} {flipped : List String}
    (hc : ∀ e ∈ content, e.wellFormed = true) (h : mirrorGeometry content flipped = .ok own) :
    ∀ e ∈ own, e.wellFormed = true := by
  intro x hx
  obtain ⟨e, he, hmap⟩ := Outcome.Forall₂.exists_of_mem_right (Outcome.mapM_eq_ok_iff.1 h) hx
  split at hmap
  · cases hmap
    exact hc x he
  · rw [mirrorX_eq] at hmap
    cases hmap
    exact wellFormed_mirror (hc e he)

end Assembly

theorem Asset.keeps_flatten {a b : Asset} {flip : Bool} (ha : a.wellFormed = true) (h : a.flatten flip = .ok b) :
    b.wellFormed = true := by
  obtain ⟨defs, hdefs, h⟩ := Outcome.bind_eq_ok.1 h
  cases h
  have hown := ((Asset.wellFormed_iff a).1 ha).1
  have hdef := Assembly.wellFormed_definitions ha hdefs
  simp only [Asset.wellFormed_iff, List.mem_append, Asset.forest]
  exact ⟨fun e he => he.elim (hdef e) (hown e), by simp⟩

theorem Asset.keeps_mirrorImage {a b : Asset} (ha : a.wellFormed = true) (h : a.mirrorImage = .ok b) :
    b.wellFormed = true := by
  obtain ⟨defs, hdefs, h⟩ := Outcome.bind_eq_ok.1 h
  obtain ⟨own, hown, h⟩ := Outcome.bind_eq_ok.1 h
  cases h
  have hdef := Assembly.wellFormed_definitions ha hdefs
  have hmirrored := Assembly.wellFormed_mirrorGeometry ((Asset.wellFormed_iff a).1 ha).1 hown
  simp only [Asset.wellFormed_iff, List.mem_append, Asset.forest]
  exact ⟨fun e he => he.elim (hdef e) (hmirrored e), by simp⟩

/-- The self-contained assets written for a well-formed asset are well formed. -/
theorem Asset.keeps_refine {a : Asset} {o : AssemblyOptions} {bs : List Asset} (ha : a.wellFormed = true)
    (h : a.refine o = .ok bs) : ∀ b ∈ bs, b.wellFormed = true := by
  obtain ⟨primary, hprimary, h⟩ := Outcome.bind_eq_ok.1 h
  have hp := Asset.keeps_flatten ha hprimary
  dsimp only at h
  split at h
  · obtain ⟨image, himage, h⟩ := Outcome.bind_eq_ok.1 h
    cases h
    have hi := Asset.keeps_mirrorImage ha himage
    simp only [List.mem_cons, List.not_mem_nil, or_false]
    rintro b (rfl | rfl)
    · exact hp
    · exact hi
  · cases h
    simp only [List.mem_cons, List.not_mem_nil, or_false]
    rintro b rfl
    exact hp

/-- **Well-formedness is closed under construction.**  Each checked constructor returns a
well-formed tree whenever every tree it is given is well formed, and the constructors from values
alone return well-formed trees outright; so do `sub` and `mul` when they return an expression, and
the assembly of well-formed assets into module definitions and self-contained assets. -/
theorem construction_keeps_wellFormed :
    (∀ lines, (Build.comment lines).wellFormed = true) ∧
    (∀ lines subject, KeepsWellFormed [subject] (Build.commentOn lines subject)) ∧
    (∀ name preview render, (Build.special name preview render).wellFormed = true) ∧
    (∀ content, (Build.echo content).wellFormed = true) ∧
    (∀ m child, KeepsWellFormed [child] (Build.modifier m child)) ∧
    (∀ m cs, KeepsWellFormed cs (Build.modify m cs)) ∧
    (∀ cs, KeepsWellFormed cs (Build.union cs)) ∧
    (∀ cs, KeepsWellFormed cs (Build.difference cs)) ∧
    (∀ cs, KeepsWellFormed cs (Build.intersection cs)) ∧
    (∀ radius, (Build.circle radius).wellFormed = true) ∧
    (∀ size center, (Build.square size center).wellFormed = true) ∧
    (∀ size center, (Build.rectangle size center).wellFormed = true) ∧
    (∀ points paths convexity, KeepsWellFormed [] (Build.polygon points paths convexity)) ∧
    (∀ layout, (Build.text layout).wellFormed = true) ∧
    (∀ file convexity layer, KeepsWellFormed [] (Build.importFile file convexity layer)) ∧
    (∀ child cut, KeepsWellFormed [child] (Build.projection child cut)) ∧
    (∀ radius, (Build.sphere radius).wellFormed = true) ∧
    (∀ size center, (Build.cube size center).wellFormed = true) ∧
    (∀ radius height center, (Build.cylinder radius height center).wellFormed = true) ∧
    (∀ radii height center, (Build.frustum radii height center).wellFormed = true) ∧
    (∀ points faces convexity, KeepsWellFormed [] (Build.polyhedron points faces convexity)) ∧
    (∀ file center invert convexity, (Build.surface file center invert convexity).wellFormed = true) ∧
    (∀ cs o, KeepsWellFormed cs (Build.extrude cs o)) ∧
    (∀ height cs, KeepsWellFormed cs (Build.linearExtrude height cs)) ∧
    (∀ cs angle convexity, KeepsWellFormed cs (Build.rotateExtrude cs angle convexity)) ∧
    (∀ v cs, KeepsWellFormed cs (Build.translate v cs)) ∧
    (∀ angle cs, KeepsWellFormed cs (Build.rotate angle cs)) ∧
    (∀ angles cs, KeepsWellFormed cs (Build.rotateAxes angles cs)) ∧
    (∀ v cs, KeepsWellFormed cs (Build.scale v cs)) ∧
    (∀ v cs, KeepsWellFormed cs (Build.resize v cs)) ∧
    (∀ axes cs, KeepsWellFormed cs (Build.mirror axes cs)) ∧
    (∀ rows cs, KeepsWellFormed cs (Build.multmatrix rows cs)) ∧
    (∀ c cs, KeepsWellFormed cs (Build.color c cs)) ∧
    (∀ distance cs round chamfer, KeepsWellFormed cs (Build.offset distance cs round chamfer)) ∧
    (∀ cs, KeepsWellFormed cs (Build.hull cs)) ∧
    (∀ cs convexity, KeepsWellFormed cs (Build.minkowski cs convexity)) ∧
    (∀ cs convexity, KeepsWellFormed cs (Build.render cs convexity)) ∧
    (∀ name cs, KeepsWellFormed cs (Build.defineModule name cs)) ∧
    (∀ name cs, KeepsWellFormed cs (Build.callModule name cs)) ∧
    Build.callerChildren.wellFormed = true ∧
    (∀ shapes, KeepsWellFormed shapes (Build.pairwiseHull shapes)) ∧
    (∀ radius shapes round chamfer, KeepsWellFormed shapes (Build.roundCorners radius shapes round chamfer)) ∧
    (∀ args e, (∀ a ∈ args, Operand.wellFormed a = true) → Arith.sub args = .ok (.expr e) → e.wellFormed = true) ∧
    (∀ args e, (∀ a ∈ args, Operand.wellFormed a = true) → Arith.mul args = .ok (.expr e) → e.wellFormed = true) ∧
    (∀ a b, KeepsWellFormed [a, b] (Build.minus a b)) ∧
    (∀ a b, KeepsWellFormed [a, b] (Build.pipe a b)) ∧
    (∀ flip m defs, m.wellFormed = true → Assembly.modularize flip m = .ok defs →
      ∀ d ∈ defs, d.wellFormed = true) ∧
    (∀ (a : Asset) flip b, a.wellFormed = true → a.flatten flip = .ok b → b.wellFormed = true) ∧
    (∀ (a : Asset) o bs, a.wellFormed = true → a.refine o = .ok bs → ∀ b ∈ bs, b.wellFormed = true) :=
  ⟨fun _ => rfl, Build.keeps_commentOn, fun _ _ _ => rfl, fun _ => rfl, Build.keeps_modifier,
    Build.keeps_modify,
    Build.keeps_union, Build.keeps_difference, Build.keeps_intersection,
    fun _ => rfl, fun _ _ => rfl, fun _ _ => rfl, Build.keeps_polygon, fun _ => rfl,
    Build.keeps_importFile, Build.keeps_projection, fun _ => rfl, fun _ _ => rfl, fun _ _ _ => rfl,
    fun _ _ _ => rfl, Build.keeps_polyhedron, fun _ _ _ _ => rfl,
    Build.keeps_extrude, Build.keeps_linearExtrude, Build.keeps_rotateExtrude,
    Build.keeps_byArgument (fun _ => rfl) (fun _ => rfl), Build.keeps_rotate, Build.keeps_rotateAxes,
    Build.keeps_byArgument (fun _ => rfl) (fun _ => rfl), Build.keeps_byArgument (fun _ => rfl) (fun _ => rfl),
    Build.keeps_mirror, Build.keeps_multmatrix, Build.keeps_color,
    Build.keeps_offset, Build.keeps_hull, Build.keeps_minkowski, Build.keeps_render,
    Build.keeps_defineModule, Build.keeps_callModule, rfl,
    Build.keeps_pairwiseHull, Build.keeps_roundCorners,
    fun _ _ hargs h => Arith.keeps_sub hargs h, fun _ _ hargs h => Arith.keeps_mul hargs h,
    Build.keeps_minus, Build.keeps_pipe,
    fun _ _ _ hm h => Assembly.keeps_modularize hm h, fun _ _ _ ha h => Asset.keeps_flatten ha h,
    fun _ _ _ ha h => Asset.keeps_refine ha h⟩

end CsgScript
