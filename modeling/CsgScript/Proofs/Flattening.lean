import Mathlib
import CsgScript.Proofs.Classification
import CsgScript.Proofs.MirrorImage
/-!
# Flattening — one definition per module, in post-order

`flatten` writes an asset's modules as definitions in front of the asset's own expressions.  Its
content is, for each module of the tree in post-order (`Asset.forest`: a module's own modules,
depth first, before the module itself), one definition of that module (`DefinitionOf`): under the
module's name, its one expression or the union of its several, mirrored across `x = 0` when the
flip turns a chiral module not yet mirrored.  A module can be defined exactly when it has an
expression and not planar and solid ones together (`Definable`); flattening fails with the fault
of the first module in that order that cannot be (`BodyFault`), and otherwise keeps every other
field of the asset and drops its modules.

Refining writes this flattening first, renamed, with the flip off for an asset whose mirrored
duplicate carries the flipped modules (`Asset.refine_head`).
-/
namespace CsgScript

theorem Build.union_eq_error_iff {es : List Expr} {f : Fault} :
    Build.union es = .error f ↔ Build.classify "contain" es = .error f := by
  unfold Build.union Build.combine
  cases Build.classify "contain" es <;> simp [bind, Except.bind]

namespace Assembly

/-- A module that can be defined: it has an expression, and not planar and solid ones together. -/
def Definable (m : Asset) : Prop :=
  m.content ≠ [] ∧ ¬ (Build.HasDim .two m.content ∧ Build.HasDim .three m.content)

/-- Why a module cannot be defined, with the fault it gives: it has no expression, and the
definition is refused under its name; or it has planar and solid ones together, and their union is
refused as their classification refuses them. -/
def BodyFault (m : Asset) (e : Fault) : Prop :=
  (m.content = [] ∧ e = .emptyModule m.name) ∨
    (Build.HasDim .two m.content ∧ Build.HasDim .three m.content ∧ Build.classify "contain" m.content = .error e)

/-- The definition flattening writes for a module: under the module's name, its body expression —
its one expression, or the union of its expressions when it has several — mirrored across `x = 0`
when the flip turns the module, and of the body's dimension. -/
def DefinitionOf (flip : Bool) (m : Asset) (d : Expr) : Prop :=
  ∃ b, moduleBody m = .ok b ∧ d = .define b.dimensionality.orSolid m.name [flippedBody flip m b]

theorem not_mixed_singleton (x : Expr) : ¬ (Build.HasDim .two [x] ∧ Build.HasDim .three [x]) := by
  simp only [Build.HasDim, List.mem_singleton, exists_eq_left]
  rintro ⟨h2, h3⟩
  rw [h2] at h3
  cases h3

theorem moduleBody_eq_error_iff {m : Asset} {e : Fault} : moduleBody m = .error e ↔ BodyFault m e := by
  unfold moduleBody BodyFault
  rcases hc : m.content with _ | ⟨x, _ | ⟨y, rest⟩⟩
  · simp [Build.HasDim, eq_comm]
  · constructor
    · intro h
      cases h
    · rintro (⟨h, -⟩ | ⟨h2, h3, -⟩)
      · cases h
      · exact absurd ⟨h2, h3⟩ (not_mixed_singleton x)
  · simp only [Build.union_eq_error_iff, reduceCtorEq, false_and, false_or]
    constructor
    · intro h
      obtain ⟨h2, h3, -⟩ := Build.classify_eq_error_iff.1 h
      exact ⟨h2, h3, h⟩
    · exact fun h => h.2.2

theorem BodyFault.kind {m : Asset} {e : Fault} (h : BodyFault m e) :
    e.kind = if m.content = [] then .construction else .dimensionMismatch := by
  rcases h with ⟨hc, rfl⟩ | ⟨⟨x, hx, -⟩, -, hc⟩
  · rw [if_pos hc]
    rfl
  · rw [if_neg (List.ne_nil_of_mem hx)]
    exact Build.kind_of_classify_eq_error hc

/-- Some fault keeps a module from being defined exactly when it is not `Definable`. -/
theorem exists_bodyFault_iff {m : Asset} : (∃ e, BodyFault m e) ↔ ¬ Definable m := by
  unfold BodyFault Definable
  constructor
  · rintro ⟨e, ⟨h, -⟩ | ⟨h2, h3, -⟩⟩ ⟨hne, hmixed⟩
    · exact hne h
    · exact hmixed ⟨h2, h3⟩
  · intro h
    by_cases hnil : m.content = []
    · exact ⟨_, .inl ⟨hnil, rfl⟩⟩
    · have hmixed : Build.HasDim .two m.content ∧ Build.HasDim .three m.content :=
        not_not.1 fun hm => h ⟨hnil, hm⟩
      exact ⟨_, .inr ⟨hmixed.1, hmixed.2, Build.classify_eq_error_iff.2 ⟨hmixed.1, hmixed.2, rfl⟩⟩⟩

theorem moduleDefinition_eq_error_iff {flip : Bool} {m : Asset} {e : Fault} :
    moduleDefinition flip m = .error e ↔ BodyFault m e := by
  rw [moduleDefinition_eq, ← moduleBody_eq_error_iff]
  cases moduleBody m <;> simp [Except.map]

theorem exists_moduleDefinition_eq_ok_iff {flip : Bool} {m : Asset} :
    (∃ d, moduleDefinition flip m = .ok d) ↔ Definable m := by
  simp only [Outcome.exists_ok_iff_not_error, moduleDefinition_eq_error_iff, exists_bodyFault_iff, not_not]

theorem definitionOf_eq (flip : Bool) : DefinitionOf flip = fun m d => moduleDefinition flip m = .ok d := by
  funext m d
  exact propext moduleDefinition_eq_ok.symm

end Assembly

open Assembly

theorem Asset.flatten_eq_ok_iff {A B : Asset} {flip : Bool} :
    A.flatten flip = .ok B ↔ ∃ defs, List.Forall₂ (DefinitionOf flip) (Asset.forest A.modules) defs ∧
      B = { A with content := defs ++ A.content, modules := [] } := by
  simp only [definitionOf_eq, ← Outcome.mapM_eq_ok_iff, ← Asset.definitions_eq_mapM]
  cases h : A.definitions flip with
  | error f => simp [Asset.flatten_eq_error h]
  | ok defs => simp [Asset.flatten_eq_ok h, eq_comm]

theorem Asset.flatten_eq_error_iff {A : Asset} {flip : Bool} {e : Fault} :
    A.flatten flip = .error e ↔ ∃ pre m post, Asset.forest A.modules = pre ++ m :: post ∧
      (∀ m' ∈ pre, Definable m') ∧ BodyFault m e := by
  have hflatten : A.flatten flip = .error e ↔ A.definitions flip = .error e := by
    cases h : A.definitions flip with
    | error f => simp [Asset.flatten_eq_error h]
    | ok defs => simp [Asset.flatten_eq_ok h]
  rw [hflatten, Asset.definitions_eq_mapM, Outcome.mapM_eq_error_iff]
  simp only [exists_moduleDefinition_eq_ok_iff, moduleDefinition_eq_error_iff]

/-- The flip the first refined asset is flattened with: the options' own, unless the asset gets a
mirrored duplicate. -/
theorem Asset.refine_head (A : Asset) (o : AssemblyOptions) :
    (A.refine o).map List.head? = (A.flatten (o.flipChiral && !(A.chiral && !A.mirrored))).map fun P =>
      some { P with name := (if A.chiral then o.renameChiral else o.renameAchiral).apply A.name } := by
  by_cases hdup : A.chiral = true ∧ A.mirrored = false ∧ o.flipChiral = true
  · -- the duplicate is made only once the primary is, and the primary comes first
    obtain ⟨hc, hm, hf⟩ := hdup
    have hflip : (o.flipChiral && !(A.chiral && !A.mirrored)) = false := by simp [hc, hm, hf]
    rw [hflip]
    cases hd : A.definitions false with
    | error e =>
      rw [Asset.refine_eq_error hf hc hm hd, Asset.flatten_eq_error hd]
      rfl
    | ok defs =>
      obtain ⟨_, -, href⟩ := Asset.refine_eq_ok hf hc hm hd
      rw [href, Asset.flatten_eq_ok hd]
      simp [Except.map, hc]
  · -- without a duplicate, the refined assets are the renamed primary alone
    have hnodup : (A.chiral && !A.mirrored && o.flipChiral) = false := by
      revert hdup
      cases A.chiral <;> cases A.mirrored <;> cases o.flipChiral <;> simp
    have hflip : (o.flipChiral && !(A.chiral && !A.mirrored)) = o.flipChiral := by
      revert hdup
      cases A.chiral <;> cases A.mirrored <;> cases o.flipChiral <;> simp
    unfold Asset.refine
    simp only [hnodup, hflip, Bool.not_false, Bool.and_true, Bool.false_eq_true, ↓reduceIte]
    cases A.flatten o.flipChiral <;> rfl

/-- **Flattening writes one definition per module, in post-order.**  It succeeds exactly with the
asset whose modules are gone, whose other fields are kept, and whose content is one definition of
each module of the tree in post-order — nested modules before their parent — followed by the
asset's own expressions.  It fails exactly with the fault of the first module in that order that
cannot be defined: a construction fault for a module without expressions, a dimension mismatch for
one with planar and solid expressions together.  Refining writes first this flattening, with the
flip off when the asset is chiral and not yet mirrored, renamed by the chiral or the achiral rule. -/
theorem Asset.flatten_postorder (A : Asset) (flip : Bool) :
    (∀ B, A.flatten flip = .ok B ↔ ∃ defs, List.Forall₂ (DefinitionOf flip) (Asset.forest A.modules) defs ∧
        B = { A with content := defs ++ A.content, modules := [] }) ∧
    (∀ e, A.flatten flip = .error e ↔ ∃ pre m post, Asset.forest A.modules = pre ++ m :: post ∧
        (∀ m' ∈ pre, Definable m') ∧ BodyFault m e ∧
          e.kind = if m.content = [] then .construction else .dimensionMismatch) ∧
    ∀ o : AssemblyOptions, (A.refine o).map List.head? =
      (A.flatten (o.flipChiral && !(A.chiral && !A.mirrored))).map fun P =>
        some { P with name := (if A.chiral then o.renameChiral else o.renameAchiral).apply A.name } := by
  refine ⟨fun _ => Asset.flatten_eq_ok_iff, fun e => ?_, Asset.refine_head A⟩
  rw [Asset.flatten_eq_error_iff]
  constructor
  · rintro ⟨pre, m, post, hforest, hpre, hm⟩
    exact ⟨pre, m, post, hforest, hpre, hm, hm.kind⟩
  · rintro ⟨pre, m, post, hforest, hpre, hm, -⟩
    exact ⟨pre, m, post, hforest, hpre, hm⟩

example : (match Asset.flatten
      { modules := [{ name := "outer", content := [Build.sphere 1],
                      modules := [{ name := "inner", content := [Build.sphere 1] }] }] } false with
    | .ok B => B.content.map definedName
    | .error _ => []) = [some "inner", some "outer"] := by
  decide

end CsgScript
