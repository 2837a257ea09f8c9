import CsgScript.Asset.Assembly
import CsgScript.Proofs.WellFormed
/-!
# ModuleTree — the modules of an asset, in the order their definitions are written

`modularize` writes the definitions of a module's own modules, depth first, and then the module's
own.  Read as a list, that order is the tree of modules in post-order (`Asset.subtree`,
`Asset.forest`), and `modularize` is one module's definition mapped over it
(`modularize_eq_mapM`): each definition depends on its own module alone, and the first module in
that order whose definition fails gives the fault.

A module's definition is its body expression — its expression, or the union of several — under
its name, mirrored across `x = 0` when a flip turns it (`moduleDefinition_eq`).  Mirroring keeps
the dimension, so the definition has the body's dimension either way.
-/
namespace CsgScript

mutual

/-- A module and every module nested in it, in the order their definitions are written: each
module's own modules, depth first, before the module itself. -/
def Asset.subtree : Asset → List Asset
  | m@⟨_, _, modules, _, _, _, _⟩ => Asset.forest modules ++ [m]

/-- The modules of a list and every module nested in them, in the order their definitions are
written. -/
def Asset.forest : List Asset → List Asset
  | [] => []
  | m :: ms => m.subtree ++ Asset.forest ms

end

theorem Asset.subtree_eq (m : Asset) : m.subtree = Asset.forest m.modules ++ [m] := by
  cases m
  rw [Asset.subtree]

namespace Assembly

/-- The one expression a module's body stands for: its expression, or the union of its
expressions when it has several.  A module without expressions has none. -/
def moduleBody (m : Asset) : Except Fault Expr :=
  match m.content with
  | [] => .error (.emptyModule m.name)
  | [e] => .ok e
  | es => Build.union es

/-- **Mirroring across `x = 0` never fails**, and keeps the dimension a classification gives. -/
theorem mirrorX_eq (e : Expr) :
    mirrorX e = .ok (.apply (.mirror e.dimensionality.orSolid ⟨1, 0, 0⟩) [e]) := by
  unfold mirrorX Build.mirror
  rw [Build.classify_singleton]
  rfl

theorem defineModule_singleton (name : String) (b : Expr) :
    Build.defineModule name [b] = .ok (.define b.dimensionality.orSolid name [b]) := by
  unfold Build.defineModule
  rw [if_neg (by simp), Build.classify_singleton]
  rfl

/-- The body of a module's definition: mirrored across `x = 0` when the flip turns the module. -/
def flippedBody (flip : Bool) (m : Asset) (b : Expr) : Expr :=
  if flip && m.chiral && !m.mirrored then .apply (.mirror b.dimensionality.orSolid ⟨1, 0, 0⟩) [b] else b

theorem orSolid_flippedBody (flip : Bool) (m : Asset) (b : Expr) :
    (flippedBody flip m b).dimensionality.orSolid = b.dimensionality.orSolid := by
  unfold flippedBody
  split <;> rfl

/-- **The definition of one module**: its body expression, mirrored when the flip turns the module,
under the module's name and of the body's dimension. -/
theorem moduleDefinition_eq (flip : Bool) (m : Asset) :
    moduleDefinition flip m =
      (moduleBody m).map fun b => .define b.dimensionality.orSolid m.name [flippedBody flip m b] := by
  have defined : ∀ b : Expr, (do
      let body ← if flip && m.chiral && !m.mirrored then do pure [← mirrorX b] else pure [b]
      Build.defineModule m.name body) =
        Except.ok (.define b.dimensionality.orSolid m.name [flippedBody flip m b]) := by
    intro b
    unfold flippedBody
    split
    · rw [mirrorX_eq]
      exact defineModule_singleton m.name _
    · exact defineModule_singleton m.name b
  unfold moduleDefinition moduleBody
  match hc : m.content with
  | [] =>
    simp only [pure_bind]
    unfold Build.defineModule
    rfl
  | [e] =>
    simp only [pure_bind]
    exact defined e
  | e₁ :: e₂ :: rest =>
    simp only [pure_bind]
    cases hu : Build.union (e₁ :: e₂ :: rest) with
    | error f => rfl
    | ok u => exact defined u

mutual

/-- **Modularizing maps one module's definition over the module tree in post-order.** -/
theorem modularize_eq_mapM (flip : Bool) :
    ∀ m : Asset, modularize flip m = m.subtree.mapM (moduleDefinition flip)
  | m@⟨_, _, modules, _, _, _, _⟩ => by
    rw [modularize, Asset.subtree, List.mapM_append, modularizeList_eq_mapM flip modules]
    simp [List.mapM_cons]

theorem modularizeList_eq_mapM (flip : Bool) :
    ∀ ms : List Asset, modularizeList flip ms = (Asset.forest ms).mapM (moduleDefinition flip)
  | [] => rfl
  | m :: ms => by
    rw [modularizeList, Asset.forest, List.mapM_append, modularize_eq_mapM flip m,
      modularizeList_eq_mapM flip ms]

end

end Assembly

/-- The definitions of an asset's modules, one for each module of its tree in post-order. -/
theorem Asset.definitions_eq_mapM (a : Asset) (flip : Bool) :
    a.definitions flip = (Asset.forest a.modules).mapM (Assembly.moduleDefinition flip) :=
  Assembly.modularizeList_eq_mapM flip a.modules

end CsgScript
