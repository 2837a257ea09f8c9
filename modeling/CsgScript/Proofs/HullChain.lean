import Mathlib
import CsgScript.Proofs.Flattening
/-!
# HullChain — which chains of shapes a pairwise hull accepts

`pairwiseHull` builds the hull of each two neighbours of a chain and the union of those hulls.
Each hull is classified on its own two members: planar when one of them is planar, and solid
otherwise — also when both are free of dimension, as module calls and the caller's children are
(`hull_dimensionality`).  So a chain whose members classify together can still be refused: a
planar member gives a planar hull, two free neighbours a solid one, and the union cannot hold both.

On a chain of two or more members that are not planar and solid together, the pairwise hull
succeeds exactly when the chain has no planar member or no two free neighbours; it is then the
union, of the chain's own dimension, whose hull in place `i` is that of members `i` and `i + 1`
(`pairwiseHull_accepts_iff`).  It is refused, as a dimension mismatch, otherwise
(`free_neighbours_break_planar_chain`).
-/
namespace CsgScript
namespace Build

/-! ## Neighbours -/

/-- Some two neighbours in the list are both free of dimension. -/
def FreeNeighbours (shapes : List Expr) : Prop :=
  ∃ p ∈ consecutive shapes, p.1.dimensionality = .free ∧ p.2.dimensionality = .free

theorem length_consecutive : ∀ shapes : List Expr, (consecutive shapes).length = shapes.length - 1
  | [] | [_] => rfl
  | _ :: b :: rest => by
    rw [consecutive, List.length_cons, length_consecutive (b :: rest)]
    simp

theorem getElem?_consecutive : ∀ (shapes : List Expr) (i : Nat),
    (consecutive shapes)[i]? = (do let a ← shapes[i]?; let b ← shapes[i + 1]?; pure (a, b))
  | [], _ => rfl
  | [a], i => by cases i <;> rfl
  | a :: b :: rest, 0 => rfl
  | a :: b :: rest, i + 1 => by
    rw [consecutive, List.getElem?_cons_succ, getElem?_consecutive (b :: rest) i]
    rfl

/-- In a chain of two or more, every member is one of some two neighbours. -/
theorem exists_consecutive_of_mem : ∀ {shapes : List Expr} {e : Expr}, 2 ≤ shapes.length → e ∈ shapes →
    ∃ p ∈ consecutive shapes, e = p.1 ∨ e = p.2
  | a :: b :: rest, e, _, he => by
    rw [consecutive]
    rcases List.mem_cons.1 he with rfl | he
    · exact ⟨(e, b), List.mem_cons_self, .inl rfl⟩
    · cases rest with
      | nil => exact ⟨(a, b), List.mem_cons_self, .inr (by simpa using he)⟩
      | cons c rest =>
        obtain ⟨p, hp, hep⟩ := @exists_consecutive_of_mem (b :: c :: rest) e (by simp) he
        exact ⟨p, List.mem_cons_of_mem _ hp, hep⟩

/-! ## The hull of two neighbours -/

theorem combine_eq_ok_of_classify {c : Combination} {verb : String} {cs : List Expr} {d : Dim}
    (h : classify verb cs = .ok d) : combine c verb cs = .ok (.apply (.combine c d) cs) := by
  rw [combine, h]
  rfl

theorem classify_eq_ok_of_combine {c : Combination} {verb : String} {cs : List Expr} {e : Expr}
    (h : combine c verb cs = .ok e) : ∃ d, classify verb cs = .ok d ∧ e = .apply (.combine c d) cs := by
  obtain ⟨d, hd, h⟩ := Outcome.bind_eq_ok.1 h
  cases h
  exact ⟨d, hd, rfl⟩

/-- **The hull of two shapes is planar exactly when one of them is, and solid otherwise.** -/
theorem hull_dimensionality {a b h : Expr} (hh : hull [a, b] = .ok h) :
    (h.dimensionality = .fixed .two ↔ HasDim .two [a, b]) ∧
      (h.dimensionality = .fixed .three ↔ ¬ HasDim .two [a, b]) := by
  obtain ⟨d, hd, rfl⟩ := classify_eq_ok_of_combine hh
  cases d with
  | two =>
    have h2 := (classify_eq_ok_two_iff.1 hd).1
    simp [Expr.dimensionality, Operation.dim, h2]
  | three =>
    have h2 := classify_eq_ok_three_iff.1 hd
    simp [Expr.dimensionality, Operation.dim, h2]

/-- Two shapes that are not planar and solid together have a hull. -/
theorem exists_hull {a b : Expr} (hmix : ¬ (HasDim .two [a, b] ∧ HasDim .three [a, b])) :
    ∃ h, hull [a, b] = .ok h := by
  rcases classify_cases "form a hull around" [a, b] with ⟨h2, h3, -⟩ | ⟨-, -, hc⟩ | ⟨-, hc⟩
  · exact absurd ⟨h2, h3⟩ hmix
  · exact ⟨_, combine_eq_ok_of_classify hc⟩
  · exact ⟨_, combine_eq_ok_of_classify hc⟩

theorem HasDim.mono {d : Dim} {es es' : List Expr} (hsub : es ⊆ es') (h : HasDim d es) :
    HasDim d es' := by
  obtain ⟨e, he, hd⟩ := h
  exact ⟨e, hsub he, hd⟩

/-! ## The hulls of a chain -/

section Chain

variable {shapes hulls : List Expr}

/-- The hulls built for the neighbours of a chain, each that of its two neighbours. -/
def HullsOf (shapes hulls : List Expr) : Prop :=
  List.Forall₂ (fun p h => hull [p.1, p.2] = .ok h) (consecutive shapes) hulls

/-- The hulls of a chain are built when no two neighbours are planar and solid together. -/
theorem mapM_hull_eq_ok (hmix : ¬ (HasDim .two shapes ∧ HasDim .three shapes)) :
    ∃ hulls, (consecutive shapes).mapM (fun p => hull [p.1, p.2]) = .ok hulls ∧ HullsOf shapes hulls := by
  have hpair : ∀ p ∈ consecutive shapes, ∃ h, hull [p.1, p.2] = .ok h := by
    intro p hp
    obtain ⟨h1, h2⟩ := mem_of_mem_consecutive hp
    have hsub : [p.1, p.2] ⊆ shapes := by simp [List.subset_def, h1, h2]
    exact exists_hull fun ⟨h2', h3'⟩ => hmix ⟨h2'.mono hsub, h3'.mono hsub⟩
  obtain ⟨hulls, hmap⟩ := Outcome.exists_mapM_eq_ok hpair
  exact ⟨hulls, hmap, Outcome.mapM_eq_ok_iff.1 hmap⟩

theorem HullsOf.hasDim_two_iff (hh : HullsOf shapes hulls) :
    HasDim .two hulls ↔ ∃ p ∈ consecutive shapes, HasDim .two [p.1, p.2] := by
  constructor
  · rintro ⟨h, hmem, hdim⟩
    obtain ⟨p, hp, hph⟩ := Outcome.Forall₂.exists_of_mem_right hh hmem
    exact ⟨p, hp, (hull_dimensionality hph).1.1 hdim⟩
  · rintro ⟨p, hp, h2⟩
    obtain ⟨h, hmem, hph⟩ := Outcome.Forall₂.exists_of_mem_right hh.flip hp
    exact ⟨h, hmem, (hull_dimensionality hph).1.2 h2⟩

theorem HullsOf.hasDim_three_iff (hh : HullsOf shapes hulls) :
    HasDim .three hulls ↔ ∃ p ∈ consecutive shapes, ¬ HasDim .two [p.1, p.2] := by
  constructor
  · rintro ⟨h, hmem, hdim⟩
    obtain ⟨p, hp, hph⟩ := Outcome.Forall₂.exists_of_mem_right hh hmem
    exact ⟨p, hp, (hull_dimensionality hph).2.1 hdim⟩
  · rintro ⟨p, hp, h2⟩
    obtain ⟨h, hmem, hph⟩ := Outcome.Forall₂.exists_of_mem_right hh.flip hp
    exact ⟨h, hmem, (hull_dimensionality hph).2.2 h2⟩

/-- Some hull of a chain of two or more is planar exactly when some member of the chain is. -/
theorem HullsOf.hasDim_two_iff_shapes (hh : HullsOf shapes hulls) (hlen : 2 ≤ shapes.length) :
    HasDim .two hulls ↔ HasDim .two shapes := by
  rw [hh.hasDim_two_iff]
  constructor
  · rintro ⟨p, hp, e, he, hd⟩
    obtain ⟨h1, h2⟩ := mem_of_mem_consecutive hp
    have hes : e ∈ shapes := by
      rcases List.mem_pair.1 he with rfl | rfl
      · exact h1
      · exact h2
    exact ⟨e, hes, hd⟩
  · rintro ⟨e, he, hd⟩
    obtain ⟨p, hp, rfl | rfl⟩ := exists_consecutive_of_mem hlen he
    · exact ⟨p, hp, p.1, by simp, hd⟩
    · exact ⟨p, hp, p.2, by simp, hd⟩

/-- In a chain with a planar member and no solid one, a hull is solid exactly when its two
neighbours are both free of dimension. -/
theorem HullsOf.hasDim_three_iff_free (hh : HullsOf shapes hulls) (h3 : ¬ HasDim .three shapes) :
    HasDim .three hulls ↔ FreeNeighbours shapes := by
  rw [hh.hasDim_three_iff]
  have hfree : ∀ e ∈ shapes, e.dimensionality ≠ .fixed .two → e.dimensionality = .free := by
    intro e he h2
    cases hd : e.dimensionality with
    | free => rfl
    | fixed d => cases d with
      | two => exact absurd hd h2
      | three => exact absurd ⟨e, he, hd⟩ h3
  constructor
  · rintro ⟨p, hp, hn⟩
    obtain ⟨h1, h2⟩ := mem_of_mem_consecutive hp
    exact ⟨p, hp, hfree p.1 h1 fun hd => hn ⟨p.1, by simp, hd⟩,
      hfree p.2 h2 fun hd => hn ⟨p.2, by simp, hd⟩⟩
  · rintro ⟨p, hp, hf1, hf2⟩
    refine ⟨p, hp, ?_⟩
    rintro ⟨e, he, hd⟩
    rcases List.mem_pair.1 he with rfl | rfl
    · rw [hf1] at hd
      cases hd
    · rw [hf2] at hd
      cases hd

theorem HullsOf.length_add_one (hh : HullsOf shapes hulls) (hlen : 2 ≤ shapes.length) :
    hulls.length + 1 = shapes.length := by
  rw [← hh.length_eq, length_consecutive]
  omega

/-- The hull in place `i` is that of members `i` and `i + 1`. -/
theorem HullsOf.getElem? (hh : HullsOf shapes hulls) {i : Nat} {a b : Expr} (ha : shapes[i]? = some a)
    (hb : shapes[i + 1]? = some b) : ∃ h, hulls[i]? = some h ∧ hull [a, b] = .ok h := by
  have hp : (consecutive shapes)[i]? = some (a, b) := by
    rw [getElem?_consecutive, ha, hb]
    rfl
  exact Outcome.Forall₂.getElem? hh hp

end Chain

/-! ## Pairwise hulls -/

theorem pairwiseHull_eq (shapes : List Expr) :
    pairwiseHull shapes = (consecutive shapes).mapM (fun p => hull [p.1, p.2]) >>= union := rfl

/-- **Which chains a pairwise hull accepts.**  For a chain of two or more shapes that are not planar
and solid together, the pairwise hull succeeds exactly when the chain has no planar member or no
two neighbours free of dimension.  It is then the union, of the dimension the chain classifies as,
of one hull fewer than there are shapes, the hull in place `i` being that of shapes `i` and
`i + 1`; and it is otherwise refused as a dimension mismatch. -/
theorem pairwiseHull_accepts_iff (shapes : List Expr) (hlen : 2 ≤ shapes.length)
    (hmix : ¬ (HasDim .two shapes ∧ HasDim .three shapes)) :
    ((∃ e, pairwiseHull shapes = .ok e) ↔ ¬ (HasDim .two shapes ∧ FreeNeighbours shapes)) ∧
    (∀ e, pairwiseHull shapes = .ok e → ∃ d hulls, classify "contain" shapes = .ok d ∧
      e = .apply (.combine .union d) hulls ∧ hulls.length + 1 = shapes.length ∧
      ∀ i a b, shapes[i]? = some a → shapes[i + 1]? = some b → ∃ h, hulls[i]? = some h ∧ hull [a, b] = .ok h) ∧
    (∀ f, pairwiseHull shapes = .error f → f.kind = .dimensionMismatch) := by
  obtain ⟨hulls, hmap, hh⟩ := mapM_hull_eq_ok hmix
  have hpair : pairwiseHull shapes = union hulls := by
    rw [pairwiseHull_eq, hmap]
    rfl
  have hunion : (∃ f, union hulls = .error f) ↔ HasDim .two shapes ∧ FreeNeighbours shapes := by
    simp only [Build.union_eq_error_iff, classify_eq_error_iff, exists_and_left, exists_eq, and_true]
    rw [hh.hasDim_two_iff_shapes hlen]
    constructor
    · rintro ⟨h2, h3⟩
      exact ⟨h2, (hh.hasDim_three_iff_free fun h3' => hmix ⟨h2, h3'⟩).1 h3⟩
    · rintro ⟨h2, hfree⟩
      exact ⟨h2, (hh.hasDim_three_iff_free fun h3' => hmix ⟨h2, h3'⟩).2 hfree⟩
  refine ⟨?_, fun e he => ?_, fun f hf => ?_⟩
  · rw [hpair, Outcome.exists_ok_iff_not_error, hunion]
  · rw [hpair] at he
    obtain ⟨d, hd, rfl⟩ := classify_eq_ok_of_combine he
    have hsame : classify "contain" shapes = .ok d := by
      cases d with
      | two =>
        have h2 := (hh.hasDim_two_iff_shapes hlen).1 (classify_eq_ok_two_iff.1 hd).1
        exact classify_eq_ok_two_iff.2 ⟨h2, fun h3 => hmix ⟨h2, h3⟩⟩
      | three =>
        exact classify_eq_ok_three_iff.2 fun h2 => classify_eq_ok_three_iff.1 hd ((hh.hasDim_two_iff_shapes hlen).2 h2)
    exact ⟨d, hulls, hsame, rfl, hh.length_add_one hlen, fun i a b ha hb => hh.getElem? ha hb⟩
  · rw [hpair, Build.union_eq_error_iff] at hf
    exact kind_of_classify_eq_error hf

theorem planar_free_planar_chain_accepted :
    2 ≤ [circle 1, Expr.callFree "part", circle 2].length ∧
      ¬ (HasDim .two [circle 1, Expr.callFree "part", circle 2] ∧
        HasDim .three [circle 1, Expr.callFree "part", circle 2]) ∧
      ∃ e, pairwiseHull [circle 1, Expr.callFree "part", circle 2] = .ok e := by
  have hmix : ¬ (HasDim .two [circle 1, Expr.callFree "part", circle 2] ∧
      HasDim .three [circle 1, Expr.callFree "part", circle 2]) := by
    simp [HasDim, circle, Expr.dimensionality, Shape.dim]
  have hfree : ¬ FreeNeighbours [circle 1, Expr.callFree "part", circle 2] := by
    simp [FreeNeighbours, consecutive, circle, Expr.dimensionality, Shape.dim]
  exact ⟨by decide, hmix, (pairwiseHull_accepts_iff _ (by decide) hmix).1.2 fun h => hfree h.2⟩

/-- **Two free neighbours before a planar shape break the chain**: the chain classifies as planar,
yet its first hull is solid and its second planar, and their union is refused. -/
theorem free_neighbours_break_planar_chain :
    classify "contain" [Expr.callFree "a", Expr.callFree "b", circle 1] = .ok .two ∧
      pairwiseHull [Expr.callFree "a", Expr.callFree "b", circle 1] = .error (.mixedDimensions "contain" none) :=
  ⟨rfl, rfl⟩

end Build
end CsgScript
