import CsgScript.Proofs.ModuleTree
/-!
# MirrorImage — the mirrored duplicate of a chiral asset, place by place

A chiral asset not yet mirrored, refined with chiral parts flipped, becomes two assets: the primary
copy, with its modules' definitions as authored in front of its own expressions, and the mirrored
duplicate.  The two are made by separate traversals — the definitions with and without the flip,
the closure of the flipped names over calls, the mirroring of the asset's own geometry — and
`refine_mirroredDuplicate` says how they line up: refining fails exactly when flattening without
the flip does, and otherwise the duplicate holds, at each place, what the primary holds there, with
a flipped module's body and the asset's geometry mirrored across `x = 0` (`MirroredDuplicate`).

Three facts carry it.  Whether a module's definition can be made does not depend on the flip
(`Asset.discard_definitions`), so both traversals fail or succeed together.  The definitions
with and without the flip agree, place by place, on the name they define and the modules they call
(`Asset.sameCalls_definitions`), so the closure over calls is the same for both
(`closeOverCalls_congr`).  And mirroring the asset's geometry never fails (`mirrorGeometry_eq`).
-/
namespace CsgScript
namespace Assembly

theorem moduleDefinition_eq_ok {flip : Bool} {m : Asset} {e : Expr} :
    moduleDefinition flip m = .ok e ↔
      ∃ b, moduleBody m = .ok b ∧ e = .define b.dimensionality.orSolid m.name [flippedBody flip m b] := by
  rw [moduleDefinition_eq]
  cases moduleBody m with
  | error f => simp [Except.map]
  | ok b => simp [Except.map, eq_comm]

theorem discard_moduleDefinition (flip : Bool) (m : Asset) :
    (fun _ => ()) <$> moduleDefinition flip m = (fun _ => ()) <$> moduleBody m := by
  rw [moduleDefinition_eq]
  cases moduleBody m <;> rfl

theorem callsAny_flippedBody (names : List String) (flip : Bool) (m : Asset) (b : Expr) :
    callsAny names (flippedBody flip m b) = callsAny names b := by
  unfold flippedBody
  split
  · simp [callsAny, callsAnyList]
  · rfl

/-- Two expressions that define the same module name, if any, and call the same modules. -/
def SameCalls (e e' : Expr) : Prop :=
  definedName e = definedName e' ∧ ∀ names, callsAny names e = callsAny names e'

theorem sameCalls_moduleDefinition {flip flip' : Bool} {m : Asset} {e e' : Expr}
    (h : moduleDefinition flip m = .ok e) (h' : moduleDefinition flip' m = .ok e') : SameCalls e e' := by
  obtain ⟨b, hb, rfl⟩ := moduleDefinition_eq_ok.1 h
  obtain ⟨b', hb', rfl⟩ := moduleDefinition_eq_ok.1 h'
  rw [hb] at hb'
  cases hb'
  refine ⟨rfl, fun names => ?_⟩
  simp [callsAny, callsAnyList, callsAny_flippedBody]

theorem pass_congr : ∀ {D D' : List Expr}, List.Forall₂ SameCalls D D' →
    ∀ names, pass D names = pass D' names
  | [], [], .nil, _ => rfl
  | e :: D, e' :: D', .cons hee' hD, names => by
    have hstep := pass_congr hD
    simp only [pass, List.foldl_cons] at hstep ⊢
    rw [hee'.1, hee'.2 names]
    exact hstep _

theorem closeFrom_congr {D D' : List Expr} (h : List.Forall₂ SameCalls D D') :
    ∀ fuel names, closeFrom D fuel names = closeFrom D' fuel names
  | 0, _ => rfl
  | fuel + 1, names => by
    rw [closeFrom, closeFrom, pass_congr h, closeFrom_congr h fuel]

/-- **The closure over calls sees only what definitions define and call.** -/
theorem closeOverCalls_congr {D D' : List Expr} (h : List.Forall₂ SameCalls D D') (names : List String) :
    closeOverCalls D names = closeOverCalls D' names := by
  rw [closeOverCalls, closeOverCalls, h.length_eq, closeFrom_congr h]

mutual

theorem flippedNames_eq : ∀ m : Asset,
    flippedNames m = (m.subtree.filter fun m => m.chiral && !m.mirrored).map Asset.name
  | ⟨_, _, modules, _, _, chiral, mirrored⟩ => by
    rw [flippedNames, Asset.subtree, flippedNamesList_eq modules, List.filter_append, List.map_append]
    cases chiral <;> cases mirrored <;> rfl

/-- The names a flip mirrors are those of the chiral modules not yet mirrored, at any depth. -/
theorem flippedNamesList_eq : ∀ ms : List Asset,
    flippedNamesList ms = ((Asset.forest ms).filter fun m => m.chiral && !m.mirrored).map Asset.name
  | [] => rfl
  | m :: ms => by
    rw [flippedNamesList, Asset.forest, flippedNames_eq m, flippedNamesList_eq ms, List.filter_append,
      List.map_append]

end

/-- A top-level expression as the mirror image holds it: as it is when it keeps its hand, else
mirrored across `x = 0`. -/
def imageOf (F : List String) (x : Expr) : Expr :=
  if keepsHand F x then x else .apply (.mirror x.dimensionality.orSolid ⟨1, 0, 0⟩) [x]

/-- **Mirroring an asset's geometry never fails.** -/
theorem mirrorGeometry_eq (content : List Expr) (F : List String) :
    mirrorGeometry content F = .ok (content.map (imageOf F)) := by
  have step : ∀ x, (if keepsHand F x then Except.ok x else mirrorX x) = pure (imageOf F x) := by
    intro x
    unfold imageOf
    split
    · rfl
    · exact mirrorX_eq x
  unfold mirrorGeometry
  simp only [step, List.mapM_pure]
  rfl

/-- Whether the mirror image leaves a top-level expression as it is, given the names `F` of the
modules whose bodies are flipped or call a flipped body: it is free of dimension without being a
module call, it is a module definition, or it calls a module of `F` somewhere below it. -/
def Unmirrored (F : List String) (x : Expr) : Prop :=
  (x.dimensionality = .free ∧ ∀ n, x ≠ .callFree n) ∨ (∃ d n cs, x = .define d n cs) ∨ callsAny F x = true

theorem keepsHand_iff (F : List String) (x : Expr) : keepsHand F x = true ↔ Unmirrored F x := by
  unfold keepsHand Unmirrored
  cases x <;> simp [definedName, Expr.dimensionality]

end Assembly

open Assembly

/-- **Whether the definitions of an asset's modules can be made does not depend on the flip.** -/
theorem Asset.discard_definitions (A : Asset) (flip : Bool) :
    (fun _ => ()) <$> A.definitions flip = (fun _ => ()) <$> A.definitions false := by
  simp only [Asset.definitions_eq_mapM, Outcome.discard_mapM, discard_moduleDefinition]

theorem Asset.forall₂_definitions {A : Asset} {flip : Bool} {defs : List Expr} (h : A.definitions flip = .ok defs) :
    List.Forall₂ (fun m e => moduleDefinition flip m = .ok e) (Asset.forest A.modules) defs := by
  rw [Asset.definitions_eq_mapM] at h
  exact Outcome.mapM_eq_ok_iff.1 h

theorem Asset.sameCalls_definitions {A : Asset} {flip flip' : Bool} {defs defs' : List Expr}
    (h : A.definitions flip = .ok defs) (h' : A.definitions flip' = .ok defs') :
    List.Forall₂ SameCalls defs defs' := by
  refine Outcome.Forall₂.of_common ?_ (Asset.forall₂_definitions h) (Asset.forall₂_definitions h')
  intro m e e' he he'
  exact sameCalls_moduleDefinition he he'

/-- The definition at each place is that of the module at the same place of the tree, in post-order. -/
theorem Asset.definitions_getElem? {A : Asset} {flip : Bool} {defs : List Expr} (h : A.definitions flip = .ok defs)
    {i : Nat} {m : Asset} (hm : (Asset.forest A.modules)[i]? = some m) :
    ∃ b, moduleBody m = .ok b ∧ defs[i]? = some (.define b.dimensionality.orSolid m.name [flippedBody flip m b]) := by
  obtain ⟨e, he, hdef⟩ := Outcome.Forall₂.getElem? (Asset.forall₂_definitions h) hm
  obtain ⟨b, hb, rfl⟩ := moduleDefinition_eq_ok.1 hdef
  exact ⟨b, hb, he⟩

/-- The modules of an asset's tree that a flip mirrors — chiral and not yet mirrored — and every
module whose definition among `defs` calls one of them, directly or through others. -/
def Asset.flipClosure (A : Asset) (defs : List Expr) : List String :=
  closeOverCalls defs (((Asset.forest A.modules).filter fun m => m.chiral && !m.mirrored).map Asset.name)

/-- How the mirrored duplicate `I` of an asset `A` corresponds to its primary copy `P`, where `defs`
are the definitions of `A`'s modules as authored.  Both are named by the options and have no
modules; `P` keeps `A`'s mark and holds `defs` and then `A`'s own expressions, and `I` is marked
mirrored.  At the place of each module of `A`'s tree, in post-order, both hold a definition of that
module with its body's dimension, and `I`'s body is `P`'s mirrored across `x = 0` (`mirrorX_eq`)
when the module is chiral and not yet mirrored.  At the place of each of `A`'s own expressions, `I` holds it as it is
when it is `Unmirrored` for the flipped modules and their callers, and mirrored otherwise. -/
structure MirroredDuplicate (A : Asset) (o : AssemblyOptions) (defs : List Expr) (P I : Asset) : Prop where
  primary_name : P.name = o.renameChiral.apply A.name
  primary_mirrored : P.mirrored = A.mirrored
  image_name : I.name = o.renameMirrored.apply A.name
  image_mirrored : I.mirrored = true
  primary_modules : P.modules = []
  image_modules : I.modules = []
  primary_content : P.content = defs ++ A.content
  length_eq : I.content.length = P.content.length
  definitions_length : defs.length = (Asset.forest A.modules).length
  definition : ∀ (i : Nat) (m : Asset), (Asset.forest A.modules)[i]? = some m → ∃ b,
    P.content[i]? = some (Expr.define b.dimensionality.orSolid m.name [b]) ∧
      I.content[i]? = some (Expr.define b.dimensionality.orSolid m.name
        [if m.chiral && !m.mirrored then .apply (.mirror b.dimensionality.orSolid ⟨1, 0, 0⟩) [b] else b])
  kept : ∀ (j : Nat) (x : Expr), A.content[j]? = some x → Unmirrored (A.flipClosure defs) x →
    I.content[defs.length + j]? = some x
  mirrored : ∀ (j : Nat) (x : Expr), A.content[j]? = some x → ¬ Unmirrored (A.flipClosure defs) x →
    I.content[defs.length + j]? = some (Expr.apply (.mirror x.dimensionality.orSolid ⟨1, 0, 0⟩) [x])

theorem Asset.flatten_eq_ok {A : Asset} {flip : Bool} {defs : List Expr} (h : A.definitions flip = .ok defs) :
    A.flatten flip = .ok { A with content := defs ++ A.content, modules := [] } := by
  rw [Asset.flatten, h]
  rfl

theorem Asset.flatten_eq_error {A : Asset} {flip : Bool} {f : Fault} (h : A.definitions flip = .error f) :
    A.flatten flip = .error f := by
  rw [Asset.flatten, h]
  rfl

theorem Asset.mirrorImage_eq_ok {A : Asset} {defs : List Expr} (h : A.definitions true = .ok defs) :
    A.mirrorImage = .ok { A with
      content := defs ++ A.content.map (imageOf (closeOverCalls defs (flippedNamesList A.modules))),
      modules := [] } := by
  simp only [Asset.mirrorImage, h, mirrorGeometry_eq, Outcome.ok_eq_pure, pure_bind]

section Duplicate

variable {A : Asset} {o : AssemblyOptions}

theorem Asset.refine_eq_of_duplicate (hflip : o.flipChiral = true) (hchiral : A.chiral = true)
    (hmirrored : A.mirrored = false) :
    A.refine o = (do
      let primary ← A.flatten false
      let image ← A.mirrorImage
      pure [{ primary with name := o.renameChiral.apply A.name },
        { image with name := o.renameMirrored.apply A.name, mirrored := true }]) := by
  simp [Asset.refine, hflip, hchiral, hmirrored]

theorem Asset.refine_eq_error (hflip : o.flipChiral = true) (hchiral : A.chiral = true)
    (hmirrored : A.mirrored = false) {f : Fault} (h : A.definitions false = .error f) : A.refine o = .error f := by
  rw [Asset.refine_eq_of_duplicate hflip hchiral hmirrored, Asset.flatten_eq_error h]
  rfl

/-- Refining succeeds once the definitions as authored can be made, since the flipped ones then can
be made too. -/
theorem Asset.refine_eq_ok (hflip : o.flipChiral = true) (hchiral : A.chiral = true)
    (hmirrored : A.mirrored = false) {defs : List Expr} (h : A.definitions false = .ok defs) :
    ∃ defs', A.definitions true = .ok defs' ∧ A.refine o = .ok
      [{ A with content := defs ++ A.content, modules := [], name := o.renameChiral.apply A.name },
        { A with
          content := defs' ++ A.content.map (imageOf (closeOverCalls defs' (flippedNamesList A.modules)))
          modules := [], name := o.renameMirrored.apply A.name, mirrored := true }] := by
  have hdiscard : (fun _ => ()) <$> A.definitions true = .ok () := by
    rw [Asset.discard_definitions, h]
    rfl
  obtain ⟨defs', h'⟩ := Outcome.discard_eq_ok.1 hdiscard
  refine ⟨defs', h', ?_⟩
  rw [Asset.refine_eq_of_duplicate hflip hchiral hmirrored, Asset.flatten_eq_ok h, Asset.mirrorImage_eq_ok h']
  rfl

theorem image_getElem? {defs defs' : List Expr} (h : A.definitions false = .ok defs)
    (h' : A.definitions true = .ok defs') (j : Nat) :
    (defs' ++ A.content.map (imageOf (closeOverCalls defs' (flippedNamesList A.modules))))[defs.length + j]? =
      (A.content[j]?).map (imageOf (A.flipClosure defs)) := by
  have hsame := Asset.sameCalls_definitions h h'
  rw [List.getElem?_append_right (by rw [← hsame.length_eq]; omega), List.getElem?_map, ← hsame.length_eq,
    Nat.add_sub_cancel_left, Asset.flipClosure, ← flippedNamesList_eq, closeOverCalls_congr hsame]

theorem mirroredDuplicate_of_definitions {defs defs' : List Expr} (h : A.definitions false = .ok defs)
    (h' : A.definitions true = .ok defs') :
    MirroredDuplicate A o defs
      { A with content := defs ++ A.content, modules := [], name := o.renameChiral.apply A.name }
      { A with
        content := defs' ++ A.content.map (imageOf (closeOverCalls defs' (flippedNamesList A.modules)))
        modules := [], name := o.renameMirrored.apply A.name, mirrored := true } where
  primary_name := rfl
  primary_mirrored := rfl
  image_name := rfl
  image_mirrored := rfl
  primary_modules := rfl
  image_modules := rfl
  primary_content := rfl
  length_eq := by simp [(Asset.sameCalls_definitions h h').length_eq]
  definitions_length := (Asset.forall₂_definitions h).length_eq.symm
  definition i m hm := by
    obtain ⟨b, hb, hi⟩ := Asset.definitions_getElem? h hm
    obtain ⟨b', hb', hi'⟩ := Asset.definitions_getElem? h' hm
    rw [hb] at hb'
    cases hb'
    refine ⟨b, ?_, ?_⟩
    · rw [List.getElem?_append_left (List.getElem?_eq_some_iff.1 hi).1, hi]
      rfl
    · rw [List.getElem?_append_left (List.getElem?_eq_some_iff.1 hi').1, hi']
      rfl
  kept j x hx hkeep := by
    rw [image_getElem? h h', hx, Option.map_some, imageOf, if_pos ((keepsHand_iff _ _).2 hkeep)]
  mirrored j x hx hmirror := by
    rw [image_getElem? h h', hx, Option.map_some, imageOf, if_neg (fun hk => hmirror ((keepsHand_iff _ _).1 hk))]

/-- **The mirrored duplicate corresponds place by place to the primary copy.**  Refining a chiral
asset not yet mirrored, with chiral parts flipped, fails exactly when flattening it without the flip
does, with the same fault; otherwise it gives two assets, the primary copy and the mirrored
duplicate, as `MirroredDuplicate` says. -/
theorem Asset.refine_mirroredDuplicate (A : Asset) (o : AssemblyOptions) (hflip : o.flipChiral = true)
    (hchiral : A.chiral = true) (hmirrored : A.mirrored = false) :
    (∀ f, A.refine o = .error f ↔ A.flatten false = .error f) ∧
      ∀ defs, A.definitions false = .ok defs → ∃ P I, A.refine o = .ok [P, I] ∧ MirroredDuplicate A o defs P I := by
  refine ⟨fun f => ?_, fun defs h => ?_⟩
  · cases h : A.definitions false with
    | error f' =>
      rw [Asset.refine_eq_error hflip hchiral hmirrored h, Asset.flatten_eq_error h]
      simp only [Except.error.injEq]
    | ok defs =>
      obtain ⟨_, -, href⟩ := Asset.refine_eq_ok hflip hchiral hmirrored h
      rw [href, Asset.flatten_eq_ok h]
      simp
  · obtain ⟨_, h', href⟩ := Asset.refine_eq_ok hflip hchiral hmirrored h
    exact ⟨_, _, href, mirroredDuplicate_of_definitions h h'⟩

end Duplicate

/-- A chiral bracket: a sphere beside a call of its chiral module `arm`, whose body is a sphere. -/
def Asset.armBracket : Asset :=
  { content := [Build.sphere 1, .callFree "arm"], name := "bracket", chiral := true,
    modules := [{ content := [Build.sphere 2], name := "arm", chiral := true }] }

theorem Asset.chiral_module_mirroredDuplicate :
    (({} : AssemblyOptions).flipChiral = true ∧ Asset.armBracket.chiral = true ∧
        Asset.armBracket.mirrored = false) ∧
      Asset.armBracket.definitions false = .ok [.define .three "arm" [Build.sphere 2]] ∧
      ∃ P I, Asset.armBracket.refine {} = .ok [P, I] ∧
        MirroredDuplicate Asset.armBracket {} [.define .three "arm" [Build.sphere 2]] P I := by
  have hdefs : Asset.armBracket.definitions false = .ok [.define .three "arm" [Build.sphere 2]] := rfl
  exact ⟨⟨rfl, rfl, rfl⟩, hdefs, (Asset.refine_mirroredDuplicate _ _ rfl rfl rfl).2 _ hdefs⟩

end CsgScript
