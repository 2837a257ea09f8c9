import CsgScript.Asset.Basic
import CsgScript.Build.Nodes
/-!
# Assembling assets into self-contained files

A module becomes module definitions: first those of its own modules, depth first, then its own
definition, whose body is its expression, or the union of its expressions when it has several.
`flatten` puts the definitions of all of an asset's modules in front of its content.

A chiral asset that is not yet mirrored is written twice when chiral parts are flipped: once as
authored, and once as its mirror image across the plane `x = 0`.  In the image, each chiral module
mirrors its own body; the asset's own geometry is mirrored, except what already reaches a flipped
module body — through a call, directly or through other modules — and except annotations and
module definitions.  Without a second copy, chiral modules are flipped in the single output.
-/

namespace CsgScript

/-- A renaming rule: a text before the name and a text after it. -/
structure Affix where
  before : String := ""
  after : String := ""
  deriving Inhabited, Repr

/-- The name with the affix around it. -/
def Affix.apply (a : Affix) (name : String) : String := a.before ++ name ++ a.after

/-- How assets are assembled: whether chiral assets get a mirrored copy, and how the copy, chiral
and other assets are named. -/
structure AssemblyOptions where
  flipChiral : Bool := true
  renameMirrored : Affix := { after := "_mirrored" }
  renameChiral : Affix := {}
  renameAchiral : Affix := {}
  deriving Inhabited, Repr

namespace Assembly

/-- The mirror image of an expression across the plane `x = 0`. -/
def mirrorX (e : Expr) : Except Fault Expr := Build.mirror ⟨1, 0, 0⟩ [e]

mutual

/-- The names of a module and its nested modules that a flip mirrors: those chiral and not yet
mirrored. -/
def flippedNames : Asset → List String
  | ⟨_, name, modules, _, _, chiral, mirrored⟩ =>
    flippedNamesList modules ++ (if chiral && !mirrored then [name] else [])

/-- The flipped names of a list of modules. -/
def flippedNamesList : List Asset → List String
  | [] => []
  | m :: ms => flippedNames m ++ flippedNamesList ms

end

mutual

/-- Whether an expression calls one of the named modules, anywhere below it; a commented
expression is searched through its subject. -/
def callsAny (names : List String) : Expr → Bool
  | .call _ n cs => names.contains n || callsAnyList names cs
  | .callFree n => names.contains n
  | .commented _ _ s => callsAny names s
  | .projection c _ | .modify _ _ c => callsAny names c
  | .apply _ cs | .define _ _ cs => callsAnyList names cs
  | _ => false

/-- Whether some expression of a list calls one of the named modules. -/
def callsAnyList (names : List String) : List Expr → Bool
  | [] => false
  | e :: es => callsAny names e || callsAnyList names es

end

/-- The name a module definition defines. -/
def definedName : Expr → Option String
  | .define _ n _ => some n
  | _ => none

/-- One pass over the definitions, adding the name of each that calls a module already named. -/
def pass (definitions : List Expr) (names : List String) : List String :=
  definitions.foldl (fun acc e =>
    match definedName e with
    | some n => if !acc.contains n && callsAny acc e then acc ++ [n] else acc
    | none => acc) names

/-- Passes repeated until one adds nothing, at most `fuel` of them. -/
def closeFrom (definitions : List Expr) : Nat → List String → List String
  | 0, names => names
  | fuel + 1, names =>
    let next := pass definitions names
    if next.length = names.length then names else closeFrom definitions fuel next

/-- The flipped names together with every module whose definition calls one of them, directly
or through other modules.  A pass that adds nothing ends it, and each other pass adds a
definition's name, so `|definitions| + 1` passes suffice. -/
def closeOverCalls (definitions : List Expr) (names : List String) : List String :=
  closeFrom definitions (definitions.length + 1) names

/-- Whether a top-level expression stays as it is in a mirror image: annotations (free of
dimension, other than a module call), module definitions, and what calls a flipped module. -/
def keepsHand (flipped : List String) (e : Expr) : Bool :=
  let annotation := match e with
    | .callFree _ => false
    | e => e.dimensionality == .free
  annotation || (definedName e).isSome || callsAny flipped e

/-- The asset's own geometry mirrored, except what keeps its hand. -/
def mirrorGeometry (content : List Expr) (flipped : List String) : Except Fault (List Expr) :=
  content.mapM fun e => if keepsHand flipped e then .ok e else mirrorX e

/-- The definition of one module on its own: its body is its expression, or the union of its
expressions when it has several, mirrored when the module is flipped. -/
def moduleDefinition (flip : Bool) (m : Asset) : Except Fault Expr := do
  let body ← match m.content with
    | [] => pure []
    | [e] => pure [e]
    | es => do pure [← Build.union es]
  let body ← match body with
    | e :: _ => if flip && m.chiral && !m.mirrored then do pure [← mirrorX e] else pure body
    | [] => pure body
  Build.defineModule m.name body

mutual

/-- The definitions a module needs: its modules' definitions, then its own. -/
def modularize (flip : Bool) : Asset → Except Fault (List Expr)
  | m@⟨_, _, modules, _, _, _, _⟩ => do
    let defs ← modularizeList flip modules
    let own ← moduleDefinition flip m
    pure (defs ++ [own])

/-- The definitions of a list of modules, one module after another. -/
def modularizeList (flip : Bool) : List Asset → Except Fault (List Expr)
  | [] => pure []
  | m :: ms => do
    let first ← modularize flip m
    let rest ← modularizeList flip ms
    pure (first ++ rest)

end

end Assembly

open Assembly

/-- The definitions of all of an asset's modules. -/
def Asset.definitions (a : Asset) (flip : Bool) : Except Fault (List Expr) :=
  modularizeList flip a.modules

/-- The asset with its modules' definitions in front of its content, and no modules. -/
def Asset.flatten (a : Asset) (flip : Bool) : Except Fault Asset := do
  let defs ← a.definitions flip
  pure { a with content := defs ++ a.content, modules := [] }

/-- The mirror image of an asset: chiral modules flip their own bodies, and the asset's own
geometry is mirrored around them. -/
def Asset.mirrorImage (a : Asset) : Except Fault Asset := do
  let defs ← a.definitions true
  let flipped := closeOverCalls defs (flippedNamesList a.modules)
  let own ← mirrorGeometry a.content flipped
  pure { a with content := defs ++ own, modules := [] }

/-- The self-contained assets written for an asset: the asset renamed, and, for a chiral asset
not yet mirrored when chiral parts are flipped, its mirror image, renamed and marked mirrored. -/
def Asset.refine (a : Asset) (o : AssemblyOptions) : Except Fault (List Asset) := do
  let duplicate := a.chiral && !a.mirrored && o.flipChiral
  let rename := if a.chiral then o.renameChiral else o.renameAchiral
  let primary ← a.flatten (o.flipChiral && !duplicate)
  let primary := { primary with name := rename.apply a.name }
  if duplicate then
    let image ← a.mirrorImage
    pure [primary, { image with name := o.renameMirrored.apply a.name, mirrored := true }]
  else pure [primary]

end CsgScript
