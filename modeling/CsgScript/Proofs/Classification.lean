import Mathlib
import CsgScript.Proofs.WellFormed
/-!
# Classification — the dimension of an operation, decided exactly

`classify` reads the dimension of an operation off its children.  Only the places of the planar
and of the solid children matter (`placesOf`, the library's `List.findIdxs`): the children are
planar when some are planar and none solid, solid when none is planar — also when there are no
children or none has a dimension — and otherwise they are refused, with a message that points at
the one child whose dimension no other child shares, when there is such a child and the other
dimension has several (`mixedNote`).  `classify_cases` says once which of the three happens, and
every later statement is read off it.

`matchArgument` puts an argument vector in front of that: its length must be 2 or 3, refused as
implying no dimension otherwise, whatever the children; the children must then classify as the
dimension the length implies, refused with a message naming both otherwise.  The transformations
built on it (`byArgument`: the move, the scaling and the resizing) pick their planar or solid node
accordingly (`choosesByArgument_byArgument`), and the scalar rotation, which asks no argument
length, is planar unless a child is solid (`rotate_cases`).
-/
namespace CsgScript
namespace Build

/-! ## Places of each dimension -/

/-- The places (from 0) of the members of `es` with the dimension `d`. -/
def placesOf (d : Dim) (es : List Expr) : List Nat := es.findIdxs (·.dimensionality == .fixed d)

/-- Some member of `es` has the dimension `d`. -/
def HasDim (d : Dim) (es : List Expr) : Prop := ∃ e ∈ es, e.dimensionality = .fixed d

theorem positions_eq_findIdxs (d : Dimensionality) :
    ∀ (i : Nat) (es : List Expr), positions d i es = es.findIdxs (·.dimensionality == d) i
  | _, [] => rfl
  | i, e :: es => by
    rw [positions, List.findIdxs_cons, positions_eq_findIdxs d (i + 1) es]
    by_cases h : e.dimensionality = d <;> simp [h]

theorem positions_eq_placesOf (d : Dim) (es : List Expr) : positions (.fixed d) 0 es = placesOf d es :=
  positions_eq_findIdxs _ 0 es

theorem placesOf_eq_nil_iff {d : Dim} {es : List Expr} : placesOf d es = [] ↔ ¬ HasDim d es := by
  simp [placesOf, HasDim, List.findIdxs_eq_nil_iff]

theorem placesOf_ne_nil_iff {d : Dim} {es : List Expr} : placesOf d es ≠ [] ↔ HasDim d es := by
  rw [ne_eq, placesOf_eq_nil_iff, not_not]

/-! ## Classifying children -/

/-- **What a classification can do**: refuse planar and solid children together, or say planar
when some child is planar and none solid, or solid when none is planar. -/
theorem classify_cases (verb : String) (es : List Expr) :
    (HasDim .two es ∧ HasDim .three es ∧
      classify verb es = .error (.mixedDimensions verb (loneMember es.length (placesOf .two es) (placesOf .three es)))) ∨
    (HasDim .two es ∧ ¬ HasDim .three es ∧ classify verb es = .ok .two) ∨
    (¬ HasDim .two es ∧ classify verb es = .ok .three) := by
  unfold classify
  simp only [positions_eq_placesOf]
  by_cases h2 : HasDim .two es <;> by_cases h3 : HasDim .three es <;> simp [h2, h3, placesOf_eq_nil_iff]

theorem classify_eq_ok_two_iff {verb : String} {es : List Expr} :
    classify verb es = .ok .two ↔ HasDim .two es ∧ ¬ HasDim .three es := by
  rcases classify_cases verb es with ⟨-, h3, hc⟩ | ⟨h2, h3, hc⟩ | ⟨h2, hc⟩
  · simp [hc, h3]
  · simp [hc, h2, h3]
  · simp [hc, h2]

theorem classify_eq_ok_three_iff {verb : String} {es : List Expr} :
    classify verb es = .ok .three ↔ ¬ HasDim .two es := by
  rcases classify_cases verb es with ⟨h2, -, hc⟩ | ⟨h2, -, hc⟩ | ⟨h2, hc⟩ <;> simp [hc, h2]

theorem classify_eq_error_iff {verb : String} {es : List Expr} {f : Fault} :
    classify verb es = .error f ↔ HasDim .two es ∧ HasDim .three es ∧
      f = .mixedDimensions verb (loneMember es.length (placesOf .two es) (placesOf .three es)) := by
  rcases classify_cases verb es with ⟨h2, h3, hc⟩ | ⟨-, h3, hc⟩ | ⟨h2, hc⟩
  · simp [hc, h2, h3, eq_comm]
  · simp [hc, h3]
  · simp [hc, h2]

theorem kind_of_classify_eq_error {verb : String} {es : List Expr} {f : Fault} (h : classify verb es = .error f) :
    f.kind = .dimensionMismatch := by
  obtain ⟨-, -, rfl⟩ := classify_eq_error_iff.1 h
  rfl

/-! ## The message of a mixture -/

/-- The sentence naming the one member of a mixed list: its place (from 1), the length of the list
and its dimension. -/
def placeNote (place count : Nat) (d : String) : String := s!" One, in place {place} of {count}, is {d}."

/-- What the message of a mixture adds, given the places of the planar and of the solid members of
a list of `count`: the place of the one planar member among two or more solid ones, or of the one
solid member among two or more planar ones; nothing when each dimension has one member, or each
has several. -/
def mixedNote (count : Nat) : List Nat → List Nat → String
  | [t], _ :: _ :: _ => placeNote (t + 1) count "2D"
  | _ :: _ :: _, [h] => placeNote (h + 1) count "3D"
  | _, _ => ""

theorem text_mixedDimensions_none (verb : String) :
    (Fault.mixedDimensions verb none).text = "Cannot " ++ verb ++ " mixed 2D and 3D expressions." := rfl

theorem text_mixedDimensions_some (verb : String) (place count : Nat) (d : Dim) :
    (Fault.mixedDimensions verb (some (place, count, d))).text =
      "Cannot " ++ verb ++ " mixed 2D and 3D expressions." ++ placeNote place count d.name := rfl

/-- **The message of a mixture** names the lone member exactly as `mixedNote` says. -/
theorem text_mixedDimensions (verb : String) (count : Nat) :
    ∀ {two three : List Nat}, two ≠ [] → three ≠ [] →
      (Fault.mixedDimensions verb (loneMember count two three)).text =
        "Cannot " ++ verb ++ " mixed 2D and 3D expressions." ++ mixedNote count two three
  | [_], [_], _, _ => by simp only [loneMember, mixedNote, text_mixedDimensions_none, String.append_empty]
  | [_], _ :: _ :: _, _, _ => by simp only [loneMember, mixedNote, text_mixedDimensions_some, Dim.name]
  | _ :: _ :: _, [_], _, _ => by simp only [loneMember, mixedNote, text_mixedDimensions_some, Dim.name]
  | _ :: _ :: _, _ :: _ :: _, _, _ => by
    simp only [loneMember, mixedNote, text_mixedDimensions_none, String.append_empty]

/-- **Classification decides the dimension exactly.**  With `T` and `H` the places of the planar
and of the solid children: planar exactly when `T` is not empty and `H` is; solid exactly when
`T` is empty, so also for no children and for children free of dimension; and a refusal otherwise,
a dimension mismatch whose message names the verb and then the lone member of its dimension, when
there is one and the other dimension has several. -/
theorem classify_decides (verb : String) (es : List Expr) :
    (classify verb es = .ok .two ↔ placesOf .two es ≠ [] ∧ placesOf .three es = []) ∧
    (classify verb es = .ok .three ↔ placesOf .two es = []) ∧
    ((∃ f, classify verb es = .error f) ↔ placesOf .two es ≠ [] ∧ placesOf .three es ≠ []) ∧
    ∀ f, classify verb es = .error f → f.kind = .dimensionMismatch ∧
      f.text = "Cannot " ++ verb ++ " mixed 2D and 3D expressions." ++
        mixedNote es.length (placesOf .two es) (placesOf .three es) := by
  refine ⟨?_, ?_, ?_, fun f hf => ⟨kind_of_classify_eq_error hf, ?_⟩⟩
  · rw [classify_eq_ok_two_iff, placesOf_ne_nil_iff, placesOf_eq_nil_iff]
  · rw [classify_eq_ok_three_iff, placesOf_eq_nil_iff]
  · simp [classify_eq_error_iff, placesOf_ne_nil_iff]
  · obtain ⟨h2, h3, rfl⟩ := classify_eq_error_iff.1 hf
    exact text_mixedDimensions verb _ (placesOf_ne_nil_iff.2 h2) (placesOf_ne_nil_iff.2 h3)

example : (match classify "contain" [square 1 false, cube ⟨1, 1, 1⟩ false, sphere 1] with
    | .error f => f.text
    | .ok _ => "") = "Cannot contain mixed 2D and 3D expressions. One, in place 1 of 3, is 2D." := by
  decide

/-! ## Matching an argument -/

section Argument

variable {verb : String} {a : List Binary64} {cs : List Expr}

/-- An argument of a length other than 2 or 3 is refused, whatever the children. -/
theorem matchArgument_of_length (h : a.length ≠ 2 ∧ a.length ≠ 3) :
    matchArgument verb a cs = .error (.argumentLength verb (cs.length != 1) a) := by
  unfold matchArgument
  split
  · next hlen => exact absurd hlen h.1
  · next hlen => exact absurd hlen h.2
  · rfl

/-- The length of an argument that implies the dimension `d`. -/
def arity : Dim → Nat
  | .two => 2
  | .three => 3

theorem exists_arity_eq {n : Nat} (h : n = 2 ∨ n = 3) : ∃ d, n = arity d := by
  rcases h with h | h
  · exact ⟨.two, h⟩
  · exact ⟨.three, h⟩

/-- An argument of length 2 or 3 implies a dimension, which the classification of the children
must give. -/
theorem matchArgument_of_arity {implied : Dim} (h : a.length = arity implied) :
    matchArgument verb a cs = classify verb cs >>= fun d =>
      if d = implied then .ok d else .error (.argumentMismatch verb (cs.length != 1) a) := by
  unfold matchArgument
  rw [h]
  cases implied <;> rfl

theorem matchArgument_eq_ok_two_iff : matchArgument verb a cs = .ok .two ↔ a.length = 2 ∧ HasDim .two cs ∧ ¬ HasDim .three cs := by
  constructor
  · intro h
    obtain ⟨hc, ⟨hlen, -⟩ | ⟨-, hd⟩⟩ := matchArgument_eq_ok h
    · exact ⟨hlen, classify_eq_ok_two_iff.1 hc⟩
    · cases hd
  · rintro ⟨hlen, h2, h3⟩
    rw [matchArgument_of_arity (show a.length = arity .two from hlen), classify_eq_ok_two_iff.2 ⟨h2, h3⟩]
    rfl

theorem matchArgument_eq_ok_three_iff : matchArgument verb a cs = .ok .three ↔ a.length = 3 ∧ ¬ HasDim .two cs := by
  constructor
  · intro h
    obtain ⟨hc, ⟨-, hd⟩ | ⟨hlen, -⟩⟩ := matchArgument_eq_ok h
    · cases hd
    · exact ⟨hlen, classify_eq_ok_three_iff.1 hc⟩
  · rintro ⟨hlen, h2⟩
    rw [matchArgument_of_arity (show a.length = arity .three from hlen), classify_eq_ok_three_iff.2 h2]
    rfl

/-- With an argument of length 2 or 3, planar and solid children together are refused as the
classification refuses them. -/
theorem matchArgument_of_mixed (hlen : a.length = 2 ∨ a.length = 3) (h2 : HasDim .two cs) (h3 : HasDim .three cs) :
    matchArgument verb a cs = classify verb cs := by
  obtain ⟨implied, himplied⟩ := exists_arity_eq hlen
  rw [matchArgument_of_arity himplied, classify_eq_error_iff.2 ⟨h2, h3, rfl⟩]
  rfl

/-- Children that classify as the other dimension than the argument implies are refused as a
mismatch: solid (or free of dimension) against a vector of two, planar against a vector of three. -/
theorem matchArgument_of_mismatch
    (h : (a.length = 2 ∧ ¬ HasDim .two cs) ∨ (a.length = 3 ∧ HasDim .two cs ∧ ¬ HasDim .three cs)) :
    ∃ d, classify verb cs = .ok d ∧ (a.length = 2 ∧ d = .three ∨ a.length = 3 ∧ d = .two) ∧
      matchArgument verb a cs = .error (.argumentMismatch verb (cs.length != 1) a) := by
  rcases h with ⟨hlen, h2⟩ | ⟨hlen, h2, h3⟩
  · have hc : classify verb cs = .ok .three := classify_eq_ok_three_iff.2 h2
    refine ⟨.three, hc, .inl ⟨hlen, rfl⟩, ?_⟩
    rw [matchArgument_of_arity (show a.length = arity .two from hlen), hc]
    rfl
  · have hc : classify verb cs = .ok .two := classify_eq_ok_two_iff.2 ⟨h2, h3⟩
    refine ⟨.two, hc, .inr ⟨hlen, rfl⟩, ?_⟩
    rw [matchArgument_of_arity (show a.length = arity .three from hlen), hc]
    rfl

/-- Any other refusal of an argument of length 2 or 3 is a dimension mismatch. -/
theorem kind_of_matchArgument_eq_error (hlen : a.length = 2 ∨ a.length = 3) {f : Fault}
    (h : matchArgument verb a cs = .error f) : f.kind = .dimensionMismatch := by
  obtain ⟨implied, himplied⟩ := exists_arity_eq hlen
  rw [matchArgument_of_arity himplied] at h
  obtain hc | ⟨d, -, hd⟩ := Outcome.bind_eq_error.1 h
  · exact kind_of_classify_eq_error hc
  · split at hd
    · cases hd
    · cases hd
      rfl

/-- **An argument implies no dimension exactly when its length is neither 2 nor 3.** -/
theorem matchArgument_zero_iff :
    (∃ f, matchArgument verb a cs = .error f ∧ f.kind = .dimensionZero) ↔ a.length ≠ 2 ∧ a.length ≠ 3 := by
  constructor
  · rintro ⟨f, hf, hk⟩
    by_contra hlen
    rw [kind_of_matchArgument_eq_error (by omega) hf] at hk
    cases hk
  · intro hlen
    exact ⟨_, matchArgument_of_length hlen, rfl⟩

theorem expressionWord_eq (n : Nat) :
    Fault.expressionWord (n != 1) = if n = 1 then "expression" else "expressions" := by
  unfold Fault.expressionWord
  by_cases h : n = 1 <;> simp [h]

/-- The message of a mismatch names the dimension the children have and the argument's. -/
theorem text_argumentMismatch (several : Bool) {d : Dim}
    (hd : a.length = 2 ∧ d = .three ∨ a.length = 3 ∧ d = .two) :
    (Fault.argumentMismatch verb several a).text = "Cannot " ++ verb ++ " " ++ d.name ++ " OpenSCAD " ++
      Fault.expressionWord several ++ " with " ++ toString a.length ++ "D argument " ++ (Value.ofReals a).display ++ "." := by
  have hother : Fault.otherDimension a = d.name := by
    rcases hd with ⟨hlen, rfl⟩ | ⟨hlen, rfl⟩ <;> simp [Fault.otherDimension, hlen, Dim.name]
  calc (Fault.argumentMismatch verb several a).text
      = "Cannot " ++ verb ++ " " ++ Fault.otherDimension a ++ " OpenSCAD " ++ Fault.expressionWord several ++
          " with " ++ (toString a.length ++ "D argument " ++ (Value.ofReals a).display ++ ".") := rfl
    _ = _ := by rw [hother]; simp only [String.append_assoc]

end Argument

/-! ## Transformations chosen by their argument -/

/-- How a transformation chosen by its argument behaves: the planar node exactly when the
argument has two members and the children are planar, the solid node exactly when it has three and
no child is planar, and otherwise the refusal of the argument. -/
structure ChoosesByArgument (verb : String) (build : List Binary64 → List Expr → Except Fault Expr)
    (planar : Vec2 → Operation) (solid : Vec3 → Operation) : Prop where
  planar_iff : ∀ a cs, build a cs = .ok (.apply (planar (vec2 a)) cs) ↔
    a.length = 2 ∧ HasDim .two cs ∧ ¬ HasDim .three cs
  solid_iff : ∀ a cs, build a cs = .ok (.apply (solid (vec3 a)) cs) ↔ a.length = 3 ∧ ¬ HasDim .two cs
  error_iff : ∀ a cs f, build a cs = .error f ↔ matchArgument verb a cs = .error f

theorem map_argumentNode_eq_ok {planar : Vec2 → Operation} {solid : Vec3 → Operation}
    (hne : ∀ u w, planar u ≠ solid w) {a : List Binary64} {cs : List Expr} {x : Except Fault Dim} (d : Dim) :
    x.map (argumentNode planar solid a cs) = .ok (argumentNode planar solid a cs d) ↔ x = .ok d := by
  cases x with
  | error f => simp [Except.map]
  | ok d' =>
    simp only [Except.map, Except.ok.injEq]
    cases d' <;> cases d <;> simp [argumentNode, hne, (hne _ _).symm]

theorem byArgument_eq (verb : String) (planar : Vec2 → Operation) (solid : Vec3 → Operation)
    (a : List Binary64) (cs : List Expr) :
    byArgument verb planar solid a cs = (matchArgument verb a cs).map (argumentNode planar solid a cs) := by
  unfold byArgument
  cases matchArgument verb a cs <;> rfl

/-- **A transformation chosen by its argument behaves as `ChoosesByArgument` says**, whenever its
planar and solid operations differ. -/
theorem choosesByArgument_byArgument {verb : String} {planar : Vec2 → Operation} {solid : Vec3 → Operation}
    (hne : ∀ u w, planar u ≠ solid w) : ChoosesByArgument verb (byArgument verb planar solid) planar solid where
  planar_iff a cs := by
    rw [byArgument_eq]
    exact (map_argumentNode_eq_ok hne .two).trans matchArgument_eq_ok_two_iff
  solid_iff a cs := by
    rw [byArgument_eq]
    exact (map_argumentNode_eq_ok hne .three).trans matchArgument_eq_ok_three_iff
  error_iff a cs f := by
    rw [byArgument_eq]
    cases matchArgument verb a cs <;> simp [Except.map]

/-! ## Rotations -/

section Rotation

variable {angle : Binary64} {angles : Vec3} {cs : List Expr}

/-- **What a scalar rotation can do**: rotate in the plane when no child is solid, about the `z`
axis when some child is solid and none planar, and refuse planar and solid children together as
their classification does. -/
theorem rotate_cases (angle : Binary64) (cs : List Expr) :
    (¬ HasDim .three cs ∧ rotate angle cs = .ok (.apply (.rotate2 angle) cs)) ∨
    (HasDim .three cs ∧ ¬ HasDim .two cs ∧ rotate angle cs = .ok (.apply (.rotate3 ⟨0, 0, angle⟩) cs)) ∨
    (HasDim .two cs ∧ HasDim .three cs ∧ ∃ f, classify "rotate" cs = .error f ∧ rotate angle cs = .error f) := by
  unfold rotate
  split
  · next hfree =>
    refine .inl ⟨fun ⟨c, hc, hd⟩ => ?_, rfl⟩
    have hsome : hasDimensioned cs = true := (hasDimensioned_iff cs).2 ⟨c, hc, by simp [hd]⟩
    simp [hsome] at hfree
  · next hsome =>
    rcases classify_cases "rotate" cs with ⟨h2, h3, hc⟩ | ⟨-, h3, hc⟩ | ⟨h2, hc⟩
    · exact .inr (.inr ⟨h2, h3, _, hc, by rw [hc]; rfl⟩)
    · exact .inl ⟨h3, by rw [hc]; rfl⟩
    · -- some child has a dimension and none is planar, so that child is solid
      obtain ⟨c, hc', hd⟩ := (hasDimensioned_iff cs).1 (by simpa using hsome)
      have hsolid : c.dimensionality = .fixed .three := by
        cases hcd : c.dimensionality with
        | free => exact absurd hcd hd
        | fixed d =>
          cases d
          · exact absurd ⟨c, hc', hcd⟩ h2
          · rfl
      exact .inr (.inl ⟨⟨c, hc', hsolid⟩, h2, by rw [hc]; rfl⟩)

theorem rotate_eq_ok_planar_iff : rotate angle cs = .ok (.apply (.rotate2 angle) cs) ↔ ¬ HasDim .three cs := by
  rcases rotate_cases angle cs with ⟨h3, hr⟩ | ⟨h3, -, hr⟩ | ⟨-, h3, f, -, hr⟩ <;> simp [hr, h3]

theorem rotate_eq_ok_solid_iff :
    rotate angle cs = .ok (.apply (.rotate3 ⟨0, 0, angle⟩) cs) ↔ HasDim .three cs ∧ ¬ HasDim .two cs := by
  rcases rotate_cases angle cs with ⟨h3, hr⟩ | ⟨h3, h2, hr⟩ | ⟨h2, -, f, -, hr⟩
  · simp [hr, h3]
  · simp [hr, h3, h2]
  · simp [hr, h2]

theorem rotate_eq_error_iff {f : Fault} : rotate angle cs = .error f ↔ classify "rotate" cs = .error f := by
  rcases rotate_cases angle cs with ⟨h3, hr⟩ | ⟨-, h2, hr⟩ | ⟨-, -, f', hc, hr⟩
  · simp [hr, classify_eq_error_iff, h3]
  · simp [hr, classify_eq_error_iff, h2]
  · simp only [hr, hc, Except.error.injEq]

theorem rotateAxes_eq (angles : Vec3) (cs : List Expr) :
    rotateAxes angles cs = (matchArgument "rotate" angles.toList cs).map fun _ => .apply (.rotate3 angles) cs := by
  unfold rotateAxes
  cases matchArgument "rotate" angles.toList cs <;> rfl

/-- A rotation about three axes has an argument of three, so it accepts exactly the children of
which none is planar. -/
theorem rotateAxes_eq_ok_iff : rotateAxes angles cs = .ok (.apply (.rotate3 angles) cs) ↔ ¬ HasDim .two cs := by
  have hlen : angles.toList.length = 3 := rfl
  rw [rotateAxes_eq]
  constructor
  · intro h
    cases hm : matchArgument "rotate" angles.toList cs with
    | error f =>
      rw [hm] at h
      cases h
    | ok d =>
      cases d
      · -- a planar answer needs an argument of two
        have := (matchArgument_eq_ok_two_iff.1 hm).1
        omega
      · exact (matchArgument_eq_ok_three_iff.1 hm).2
  · intro h2
    rw [matchArgument_eq_ok_three_iff.2 ⟨hlen, h2⟩]
    rfl

theorem rotateAxes_eq_error_iff {f : Fault} :
    rotateAxes angles cs = .error f ↔ matchArgument "rotate" angles.toList cs = .error f := by
  rw [rotateAxes_eq]
  cases matchArgument "rotate" angles.toList cs <;> simp [Except.map]

end Rotation

/-! ## The argument-driven choice, whole -/

/-- **Argument-driven transformations pick their variant exactly.**  Matching an argument `a`
against children `cs` refuses `a` as implying no dimension exactly when its length is neither 2 nor
3, whatever the children; otherwise it refuses planar and solid children together as their
classification does, answers planar exactly for two members and planar children, solid exactly
for three members and no planar child, and in the remaining cases refuses a mismatch whose message
names the children's dimension and the argument, with `expression` for one child and
`expressions` otherwise.  Moves, scalings and resizings build their planar node from the first two
members or their solid node from the first three in exactly those cases; a rotation about three
axes is accepted exactly when no child is planar; a scalar rotation is planar exactly when no child
is solid, about the `z` axis exactly when some child is solid and none planar, and refused
otherwise. -/
theorem matchArgument_decides (verb : String) :
    (∀ a cs, (∃ f, matchArgument verb a cs = .error f ∧ f.kind = .dimensionZero) ↔ a.length ≠ 2 ∧ a.length ≠ 3) ∧
    (∀ a cs, a.length = 2 ∨ a.length = 3 → HasDim .two cs → HasDim .three cs →
      matchArgument verb a cs = classify verb cs) ∧
    (∀ a cs, matchArgument verb a cs = .ok .two ↔ a.length = 2 ∧ HasDim .two cs ∧ ¬ HasDim .three cs) ∧
    (∀ a cs, matchArgument verb a cs = .ok .three ↔ a.length = 3 ∧ ¬ HasDim .two cs) ∧
    (∀ a cs, (a.length = 2 ∧ ¬ HasDim .two cs) ∨ (a.length = 3 ∧ HasDim .two cs ∧ ¬ HasDim .three cs) →
      ∃ d f, classify verb cs = .ok d ∧ matchArgument verb a cs = .error f ∧ f.kind = .dimensionMismatch ∧
        f.text = "Cannot " ++ verb ++ " " ++ d.name ++ " OpenSCAD " ++
          (if cs.length = 1 then "expression" else "expressions") ++ " with " ++ toString a.length ++
          "D argument " ++ (Value.ofReals a).display ++ ".") ∧
    ChoosesByArgument "translate" translate .translate2 .translate3 ∧
    ChoosesByArgument "scale" scale .scale2 .scale3 ∧
    ChoosesByArgument "resize" resize .resize2 .resize3 ∧
    (∀ angles cs, (rotateAxes angles cs = .ok (.apply (.rotate3 angles) cs) ↔ ¬ HasDim .two cs) ∧
      ∀ f, rotateAxes angles cs = .error f ↔ matchArgument "rotate" angles.toList cs = .error f) ∧
    (∀ angle cs, (rotate angle cs = .ok (.apply (.rotate2 angle) cs) ↔ ¬ HasDim .three cs) ∧
      (rotate angle cs = .ok (.apply (.rotate3 ⟨0, 0, angle⟩) cs) ↔ HasDim .three cs ∧ ¬ HasDim .two cs) ∧
      ((∃ f, rotate angle cs = .error f) ↔ HasDim .two cs ∧ HasDim .three cs) ∧
      ∀ f, rotate angle cs = .error f ↔ classify "rotate" cs = .error f) := by
  refine ⟨fun _ _ => matchArgument_zero_iff, fun _ _ => matchArgument_of_mixed,
    fun _ _ => matchArgument_eq_ok_two_iff, fun _ _ => matchArgument_eq_ok_three_iff, ?_,
    choosesByArgument_byArgument (fun _ _ => Operation.noConfusion),
    choosesByArgument_byArgument (fun _ _ => Operation.noConfusion),
    choosesByArgument_byArgument (fun _ _ => Operation.noConfusion),
    fun _ _ => ⟨rotateAxes_eq_ok_iff, fun _ => rotateAxes_eq_error_iff⟩,
    fun _ _ => ⟨rotate_eq_ok_planar_iff, rotate_eq_ok_solid_iff, ?_, fun _ => rotate_eq_error_iff⟩⟩
  · intro a cs h
    obtain ⟨d, hc, hd, hm⟩ := matchArgument_of_mismatch h
    refine ⟨d, _, hc, hm, rfl, ?_⟩
    rw [text_argumentMismatch _ hd, expressionWord_eq]
  · simp [rotate_eq_error_iff, classify_eq_error_iff]

example : (match matchArgument "translate" [1, 2] [sphere 1] with
    | .error f => f.text
    | .ok _ => "") = "Cannot translate 3D OpenSCAD expression with 2D argument [1, 2]." := by
  decide

end Build
end CsgScript
