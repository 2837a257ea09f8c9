import Mathlib
import CsgScript.Asset.Assembly
/-!
# CallClosure — the modules that reach a flipped module

The mirror image of an asset keeps as they are the statements that reach a flipped module body,
directly or through other modules.  Which modules those are is found by passes over the module
definitions: each pass adds the name of every definition that calls a module already named, and
the passes stop at the first that adds nothing.

A call is found anywhere below an expression, through children, single children and commented
subjects (`callsAny_iff_calls`).  A pass adds new defined names only, each once
(`pass_eq_append`), so at most one pass per definition grows the names and the passes stop within
`|definitions| + 1` (`exists_first_stable`).  The names then are closed over calls, since a pass
that adds nothing met no definition that calls a named module without being named
(`callClosed_of_pass_eq_self`); and every closed set of names that holds the start holds them,
since a pass never leaves it (`pass_subset`).  So `closeOverCalls` computes the least call-closed
set above the start (`closeOverCalls_least`).
-/
namespace CsgScript

/-! ### Calls anywhere below an expression -/

/-- The module a node calls, if it is a module call, with or without children. -/
def Expr.callee : Expr → Option String
  | .call _ n _ | .callFree n => some n
  | _ => none

/-- `e.Reaches x`: `x` is `e` or stands below it, through children, single children and commented
subjects. -/
inductive Expr.Reaches : Expr → Expr → Prop
  | refl (e : Expr) : Expr.Reaches e e
  | child {e c x : Expr} : c ∈ e.children → Expr.Reaches c x → Expr.Reaches e x
  | subject {d : Dim} {lines : List String} {s x : Expr} :
      Expr.Reaches s x → Expr.Reaches (.commented d lines s) x

/-- Some module call at or below the expression has its name in `N`. -/
def Expr.Calls (e : Expr) (N : Set String) : Prop :=
  ∃ x n, e.Reaches x ∧ x.callee = some n ∧ n ∈ N

namespace Expr

variable {e c x : Expr} {N N' : Set String}

theorem Calls.mono (h : e.Calls N) (hN : N ⊆ N') : e.Calls N' := by
  obtain ⟨x, n, hx, hn, hmem⟩ := h
  exact ⟨x, n, hx, hn, hN hmem⟩

theorem Calls.of_child (hc : c ∈ e.children) (h : c.Calls N) : e.Calls N := by
  obtain ⟨x, n, hx, hn, hmem⟩ := h
  exact ⟨x, n, .child hc hx, hn, hmem⟩

theorem Calls.of_subject {d : Dim} {lines : List String} {s : Expr} (h : s.Calls N) :
    (Expr.commented d lines s).Calls N := by
  obtain ⟨x, n, hx, hn, hmem⟩ := h
  exact ⟨x, n, .subject hx, hn, hmem⟩

theorem Calls.self {n : String} (hn : e.callee = some n) (hmem : n ∈ N) : e.Calls N :=
  ⟨e, n, .refl e, hn, hmem⟩

end Expr

namespace Assembly

variable {names : List String}

theorem callsAnyList_eq_true_iff {es : List Expr} :
    callsAnyList names es = true ↔ ∃ e ∈ es, callsAny names e = true := by
  induction es with
  | nil => simp [callsAnyList]
  | cons e es ih => simp [callsAnyList, ih]

theorem callsAny_of_child {e c : Expr} (hc : c ∈ e.children) (h : callsAny names c = true) :
    callsAny names e = true := by
  have hlist : ∀ {cs : List Expr}, c ∈ cs → callsAnyList names cs = true :=
    fun hcs => callsAnyList_eq_true_iff.2 ⟨c, hcs, h⟩
  cases e with
  | projection child cut | modify m d child =>
    simp only [Expr.children, List.mem_singleton] at hc
    subst hc
    simp [callsAny, h]
  | apply op cs | define d name cs | call d name cs =>
    simp only [Expr.children] at hc
    simp [callsAny, hlist hc]
  | _ => simp [Expr.children] at hc

theorem callsAny_of_reaches {e x : Expr} (hx : e.Reaches x) {n : String} (hn : x.callee = some n)
    (hmem : n ∈ names) : callsAny names e = true := by
  induction hx with
  | refl e =>
    cases e <;> simp only [Expr.callee, reduceCtorEq, Option.some.injEq] at hn <;>
      simp [callsAny, hn, hmem]
  | child hc _ ih => exact callsAny_of_child hc (ih hn)
  | subject _ ih => simp [callsAny, ih hn]

/-- A search that finds a named call finds it at or below the expression, following the search's
own recursion over expressions and lists of them. -/
theorem calls_of_callsAny :
    (∀ e : Expr, callsAny names e = true → e.Calls {n | n ∈ names}) ∧
      ∀ es : List Expr, ∀ e ∈ es, callsAny names e = true → e.Calls {n | n ∈ names} := by
  refine callsAny.mutual_induct (fun e => callsAny names e = true → e.Calls {n | n ∈ names})
    (fun es => ∀ e ∈ es, callsAny names e = true → e.Calls {n | n ∈ names})
    ?call ?callFree ?commented ?projection ?modify ?apply ?define ?other ?nil ?cons
  case call =>
    intro d n cs ih h
    simp only [callsAny, Bool.or_eq_true, List.contains_iff_mem, callsAnyList_eq_true_iff] at h
    rcases h with hn | ⟨c, hc, hcalls⟩
    · exact .self rfl hn
    · exact .of_child hc (ih c hc hcalls)
  case callFree =>
    intro n h
    simp only [callsAny, List.contains_iff_mem] at h
    exact .self rfl h
  case commented =>
    intro d lines s ih h
    exact .of_subject (ih h)
  case projection =>
    intro c cut ih h
    exact .of_child (List.mem_singleton_self c) (ih h)
  case modify =>
    intro m d c ih h
    exact .of_child (List.mem_singleton_self c) (ih h)
  case apply =>
    intro op cs ih h
    obtain ⟨c, hc, hcalls⟩ := callsAnyList_eq_true_iff.1 h
    exact .of_child hc (ih c hc hcalls)
  case define =>
    intro d name cs ih h
    obtain ⟨c, hc, hcalls⟩ := callsAnyList_eq_true_iff.1 h
    exact .of_child hc (ih c hc hcalls)
  case other =>
    intro t hcall hcallFree hcommented hprojection hmodify happly hdefine h
    cases t <;> simp_all [callsAny]
  case nil => intro e he; cases he
  case cons =>
    intro e es ihe ihes c hc
    rcases List.mem_cons.1 hc with rfl | hc
    · exact ihe
    · exact ihes c hc

/-- **An expression calls a module of `names` exactly when some module call at or below it,
through children, single children and commented subjects, has its name among them.** -/
theorem callsAny_iff_calls (e : Expr) : callsAny names e = true ↔ e.Calls {n | n ∈ names} := by
  constructor
  · exact calls_of_callsAny.1 e
  · rintro ⟨x, n, hx, hn, hmem⟩
    exact callsAny_of_reaches hx hn hmem

/-! ### One pass -/

/-- What a pass does at one definition: it adds the definition's name when the name is new and
the definition calls a module already named. -/
def passStep (acc : List String) (e : Expr) : List String :=
  match definedName e with
  | some n => if !acc.contains n && callsAny acc e then acc ++ [n] else acc
  | none => acc

theorem pass_nil (R : List String) : pass [] R = R := rfl

theorem pass_cons (d : Expr) (D : List Expr) (R : List String) :
    pass (d :: D) R = pass D (passStep R d) := rfl

theorem passStep_eq_append (R : List String) (d : Expr) :
    ∃ A, passStep R d = R ++ A ∧ A.Nodup ∧ ∀ n ∈ A, n ∉ R ∧ definedName d = some n := by
  unfold passStep
  split
  · rename_i n hn
    split
    · rename_i hadd
      simp only [Bool.and_eq_true, Bool.not_eq_true'] at hadd
      have hnew : n ∉ R := by simpa using hadd.1
      exact ⟨[n], rfl, List.nodup_singleton n, by simp [hnew, hn]⟩
    · exact ⟨[], by simp, List.nodup_nil, by simp⟩
  · exact ⟨[], by simp, List.nodup_nil, by simp⟩

theorem mem_of_passStep_eq_self {R : List String} {d : Expr} (h : passStep R d = R) {n : String}
    (hn : definedName d = some n) (hcalls : callsAny R d = true) : n ∈ R := by
  by_contra hnot
  have hadd : passStep R d = R ++ [n] := by
    simp [passStep, hn, hnot, hcalls]
  rw [hadd] at h
  simp at h

/-- Names added after names `R ++ A` that are new to them keep the added names distinct. -/
theorem nodup_append_of_fresh {R A B : List String} (hA : A.Nodup) (hB : B.Nodup)
    (hfresh : ∀ n ∈ B, n ∉ R ++ A) : (A ++ B).Nodup :=
  hA.append hB fun _ ha hb => hfresh _ hb (List.mem_append_right R ha)

/-- **A pass adds new names only, each once, and each the name of one of the definitions.** -/
theorem pass_eq_append (D : List Expr) :
    ∀ R : List String, ∃ A, pass D R = R ++ A ∧ A.Nodup ∧
      ∀ n ∈ A, n ∉ R ∧ ∃ d ∈ D, definedName d = some n := by
  induction D with
  | nil => intro R; exact ⟨[], by rw [pass_nil, List.append_nil], List.nodup_nil, by simp⟩
  | cons d D ih =>
    intro R
    obtain ⟨A, hA, hnodup, hnew⟩ := passStep_eq_append R d
    obtain ⟨B, hB, hnodupB, hnewB⟩ := ih (passStep R d)
    refine ⟨A ++ B, by rw [pass_cons, hB, hA, List.append_assoc], ?_, ?_⟩
    · exact nodup_append_of_fresh hnodup hnodupB fun n hn => hA ▸ (hnewB n hn).1
    · intro n hn
      rcases List.mem_append.1 hn with hn | hn
      · exact ⟨(hnew n hn).1, d, List.mem_cons_self, (hnew n hn).2⟩
      · obtain ⟨hnot, d', hd', hname⟩ := hnewB n hn
        refine ⟨fun hR => hnot ?_, d', List.mem_cons_of_mem d hd', hname⟩
        rw [hA]
        exact List.mem_append_left A hR

theorem pass_eq_self_iff_length (D : List Expr) (R : List String) :
    pass D R = R ↔ (pass D R).length = R.length := by
  obtain ⟨A, hA, -, -⟩ := pass_eq_append D R
  rw [hA]
  simp

/-- Names closed over the calls of definitions `D`: a definition that calls a named module has its
own name among them. -/
def CallClosed (D : List Expr) (N : Set String) : Prop :=
  ∀ d ∈ D, ∀ n, definedName d = some n → d.Calls N → n ∈ N

/-- **A pass that adds nothing leaves names closed over calls**: a pass only appends, so it added
nothing at any definition, and a definition that calls a named module is itself named. -/
theorem callClosed_of_pass_eq_self {D : List Expr} {R : List String} (h : pass D R = R) :
    CallClosed D {n | n ∈ R} := by
  induction D with
  | nil => intro d hd; cases hd
  | cons d D ih =>
    rw [pass_cons] at h
    obtain ⟨A, hA, -, -⟩ := passStep_eq_append R d
    obtain ⟨B, hB, -, -⟩ := pass_eq_append D (passStep R d)
    have hstep : passStep R d = R := by
      have hlen := congrArg List.length (h.symm.trans hB)
      rw [hA] at hlen ⊢
      simp only [List.length_append] at hlen
      have : A = [] := List.eq_nil_of_length_eq_zero (by omega)
      rw [this, List.append_nil]
    rw [hstep] at h
    intro d' hd' n hn hcalls
    rcases List.mem_cons.1 hd' with rfl | hd'
    · exact mem_of_passStep_eq_self hstep hn ((callsAny_iff_calls d').2 hcalls)
    · exact ih h d' hd' n hn hcalls

/-- **A pass never leaves a call-closed set of names that holds where it starts**: each name it
adds is that of a definition calling a module already named. -/
theorem pass_subset {D : List Expr} {N : Set String} (hN : CallClosed D N) :
    ∀ {R : List String}, {n | n ∈ R} ⊆ N → {n | n ∈ pass D R} ⊆ N := by
  induction D with
  | nil => intro R hR; exact hR
  | cons d D ih =>
    intro R hR
    rw [pass_cons]
    refine ih (fun d' hd' => hN d' (List.mem_cons_of_mem d hd')) ?_
    unfold passStep
    split
    · rename_i n hn
      split
      · rename_i hadd
        simp only [Bool.and_eq_true] at hadd
        have hcalls : d.Calls N := ((callsAny_iff_calls d).1 hadd.2).mono hR
        intro m hm
        rcases List.mem_append.1 hm with hm | hm
        · exact hR hm
        · rw [List.mem_singleton.1 hm]
          exact hN d List.mem_cons_self n hn hcalls
      · exact hR
    · exact hR

/-! ### The passes until one adds nothing -/

section Passes

variable (D : List Expr) (S : List String)

/-- The names after `k` passes are the start and then new, distinct defined names. -/
theorem iterate_eq_append (k : Nat) :
    ∃ A, (pass D)^[k] S = S ++ A ∧ A.Nodup ∧ ∀ n ∈ A, ∃ d ∈ D, definedName d = some n := by
  induction k with
  | zero => exact ⟨[], by simp, List.nodup_nil, by simp⟩
  | succ k ih =>
    obtain ⟨A, hA, hnodup, hdef⟩ := ih
    obtain ⟨B, hB, hnodupB, hnew⟩ := pass_eq_append D ((pass D)^[k] S)
    refine ⟨A ++ B, by rw [Function.iterate_succ_apply', hB, hA, List.append_assoc], ?_, ?_⟩
    · exact nodup_append_of_fresh hnodup hnodupB fun n hn => hA ▸ (hnew n hn).1
    · intro n hn
      rcases List.mem_append.1 hn with hn | hn
      · exact hdef n hn
      · exact (hnew n hn).2

/-- The names added by any number of passes are at most as many as the definitions. -/
theorem length_iterate_le (k : Nat) : ((pass D)^[k] S).length ≤ S.length + D.length := by
  obtain ⟨A, hA, hnodup, hdef⟩ := iterate_eq_append D S k
  have hsub : A ⊆ D.filterMap definedName := fun n hn => by
    obtain ⟨d, hd, hname⟩ := hdef n hn
    exact List.mem_filterMap.2 ⟨d, hd, hname⟩
  calc ((pass D)^[k] S).length = S.length + A.length := by rw [hA, List.length_append]
    _ ≤ S.length + (D.filterMap definedName).length := by
        have := (hnodup.subperm hsub).length_le
        omega
    _ ≤ S.length + D.length := by
        have := List.length_filterMap_le definedName D
        omega

/-- Each pass that adds something adds at least one name. -/
theorem length_iterate_of_growing {k : Nat}
    (hgrow : ∀ j < k, pass D ((pass D)^[j] S) ≠ (pass D)^[j] S) :
    S.length + k ≤ ((pass D)^[k] S).length := by
  induction k with
  | zero => simp
  | succ k ih =>
    have hk := ih fun j hj => hgrow j (by omega)
    have hne := hgrow k (by omega)
    rw [Ne, pass_eq_self_iff_length] at hne
    obtain ⟨A, hA, -, -⟩ := pass_eq_append D ((pass D)^[k] S)
    rw [hA, List.length_append] at hne
    rw [Function.iterate_succ_apply', hA, List.length_append]
    omega

/-- **Within `|D| + 1` passes one adds nothing**: the first such pass is pass `k + 1` with
`k ≤ |D|`, every pass before it having added a name. -/
theorem exists_first_stable :
    ∃ k ≤ D.length, (∀ j < k, pass D ((pass D)^[j] S) ≠ (pass D)^[j] S) ∧
      pass D ((pass D)^[k] S) = (pass D)^[k] S := by
  have hex : ∃ k, pass D ((pass D)^[k] S) = (pass D)^[k] S := by
    by_contra hnone
    simp only [not_exists] at hnone
    have hlong := length_iterate_of_growing D S (k := D.length + 1) fun j _ => hnone j
    have hshort := length_iterate_le D S (D.length + 1)
    omega
  classical
  refine ⟨Nat.find hex, ?_, fun j hj => Nat.find_min hex hj, Nat.find_spec hex⟩
  by_contra hlate
  have hlong := length_iterate_of_growing D S (k := D.length + 1)
    fun j hj => Nat.find_min hex (by omega)
  have hshort := length_iterate_le D S (D.length + 1)
  omega

theorem iterate_of_pass_eq_self {R : List String} (h : pass D R = R) (j : Nat) : (pass D)^[j] R = R := by
  induction j with
  | zero => rfl
  | succ j ih => rw [Function.iterate_succ_apply', ih, h]

/-- Given enough passes, the loop stops at names that a pass leaves as they are. -/
theorem closeFrom_of_stable :
    ∀ (fuel : Nat) (R : List String) (k : Nat), k < fuel →
      pass D ((pass D)^[k] R) = (pass D)^[k] R → closeFrom D fuel R = (pass D)^[k] R
  | 0, _, _, hk, _ => absurd hk (Nat.not_lt_zero _)
  | fuel + 1, R, k, hk, hstable => by
    rw [closeFrom]
    split
    · rename_i hlen
      rw [iterate_of_pass_eq_self D ((pass_eq_self_iff_length D R).2 hlen)]
    · rename_i hlen
      cases k with
      | zero => exact absurd (congrArg List.length hstable) hlen
      | succ k =>
        rw [Function.iterate_succ_apply] at hstable ⊢
        exact closeFrom_of_stable fuel (pass D R) k (by omega) hstable

end Passes

/-- **The closure over calls is the least call-closed set of names above the start, and it is
reached by at most `|D| + 1` passes**: for some `k ≤ |D|`, the first `k` passes each add a name,
pass `k + 1` adds none, and `closeOverCalls` gives the names after `k` passes.  A definition calls
a module when some module call at or below it, through children, single children and commented
subjects, names it. -/
theorem closeOverCalls_least (D : List Expr) (S : List String) :
    (∃ k ≤ D.length, (∀ j < k, pass D ((pass D)^[j] S) ≠ (pass D)^[j] S) ∧
        pass D ((pass D)^[k] S) = (pass D)^[k] S ∧ closeOverCalls D S = (pass D)^[k] S) ∧
      IsLeast {N : Set String | {n | n ∈ S} ⊆ N ∧ CallClosed D N} {n | n ∈ closeOverCalls D S} ∧
      ∀ (names : List String) (e : Expr), callsAny names e = true ↔ e.Calls {n | n ∈ names} := by
  obtain ⟨k, hk, hgrow, hstable⟩ := exists_first_stable D S
  have hclose : closeOverCalls D S = (pass D)^[k] S :=
    closeFrom_of_stable D (D.length + 1) S k (by omega) hstable
  refine ⟨⟨k, hk, hgrow, hstable, hclose⟩, ⟨⟨?_, ?_⟩, ?_⟩, fun names e => callsAny_iff_calls e⟩
  · -- the passes only add to the start
    obtain ⟨A, hA, -, -⟩ := iterate_eq_append D S k
    intro n hn
    show n ∈ closeOverCalls D S
    rw [hclose, hA]
    exact List.mem_append_left A hn
  · rw [hclose]
    exact callClosed_of_pass_eq_self hstable
  · rintro N ⟨hS, hN⟩
    rw [hclose]
    clear hgrow hstable hclose hk
    induction k with
    | zero => exact hS
    | succ k ih =>
      rw [Function.iterate_succ_apply']
      exact pass_subset hN ih

-- `a` reaches `c` through `b` only: the first pass names `b`, the second `a`, the third nothing
example : closeOverCalls [.define .three "a" [.call .three "b" []], .define .three "b" [.callFree "c"]] ["c"] =
    ["c", "b", "a"] := by
  decide

end Assembly

end CsgScript
