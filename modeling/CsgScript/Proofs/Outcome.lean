import Mathlib.Data.List.Forall2
/-!
# Outcome — taking apart a computation that can fail

Building, writing and assembling all run in `Except Fault`.  A bind that succeeds ran both of
its halves; a map over a list succeeds exactly when each member does, with the results in order;
and a run of checks over a list succeeds when every check passes, and otherwise fails with the
fault of the first check that does not, every check before it having passed.
-/
namespace CsgScript
namespace Outcome

variable {ε α β γ : Type}

theorem ok_eq_pure (a : α) : (Except.ok a : Except ε α) = pure a := rfl

theorem bind_eq_ok {x : Except ε α} {f : α → Except ε β} {b : β} :
    x >>= f = .ok b ↔ ∃ a, x = .ok a ∧ f a = .ok b := by
  cases x <;> simp [bind, Except.bind]

theorem bind_eq_error {x : Except ε α} {f : α → Except ε β} {e : ε} :
    x >>= f = .error e ↔ x = .error e ∨ ∃ a, x = .ok a ∧ f a = .error e := by
  cases x <;> simp [bind, Except.bind]

theorem exists_ok_iff_not_error {x : Except ε α} : (∃ a, x = .ok a) ↔ ¬ ∃ e, x = .error e := by
  cases x <;> simp

theorem discard_eq_ok {x : Except ε α} : (fun _ => ()) <$> x = .ok () ↔ ∃ a, x = .ok a := by
  cases x <;> simp [Functor.map, Except.map]

theorem discard_eq_error {x : Except ε α} {e : ε} : (fun _ => ()) <$> x = .error e ↔ x = .error e := by
  cases x <;> simp [Functor.map, Except.map]

/-- **A map over a list succeeds exactly when every member does**, the results in order. -/
theorem mapM_eq_ok_iff {f : α → Except ε β} :
    ∀ {l : List α} {r : List β}, l.mapM f = .ok r ↔ List.Forall₂ (fun a b => f a = .ok b) l r
  | [], r => by
    simp [pure, Except.pure, eq_comm]
  | a :: l, r => by
    simp only [List.mapM_cons, bind_eq_ok]
    constructor
    · rintro ⟨b, hb, bs, hbs, hr⟩
      rw [← ok_eq_pure, Except.ok.injEq] at hr
      subst hr
      exact List.Forall₂.cons hb (mapM_eq_ok_iff.1 hbs)
    · intro h
      cases h with
      | cons hb hbs => exact ⟨_, hb, _, mapM_eq_ok_iff.2 hbs, rfl⟩

/-- A map over a list succeeds when every member does. -/
theorem exists_mapM_eq_ok {f : α → Except ε β} {l : List α} (h : ∀ a ∈ l, ∃ b, f a = .ok b) :
    ∃ r, l.mapM f = .ok r := by
  induction l with
  | nil => exact ⟨[], rfl⟩
  | cons a l ih =>
    obtain ⟨b, hb⟩ := h a List.mem_cons_self
    obtain ⟨r, hr⟩ := ih fun x hx => h x (List.mem_cons_of_mem a hx)
    exact ⟨b :: r, by rw [List.mapM_cons, hb, hr]; rfl⟩

theorem discard_mapM {f : α → Except ε β} :
    ∀ l : List α, (fun _ => ()) <$> l.mapM f = forM l (fun a => (fun _ => ()) <$> f a)
  | [] => rfl
  | a :: l => by
    rw [List.mapM_cons, List.forM_cons, ← discard_mapM l]
    cases f a <;> cases l.mapM f <;> rfl

/-- **A run of checks succeeds exactly when every check passes.** -/
theorem forM_eq_ok_iff {f : α → Except ε Unit} :
    ∀ {l : List α}, forM l f = .ok () ↔ ∀ a ∈ l, f a = .ok ()
  | [] => by simp [pure, Except.pure]
  | a :: l => by
    rw [List.forM_cons, bind_eq_ok, List.forall_mem_cons, ← forM_eq_ok_iff]
    constructor
    · rintro ⟨⟨⟩, ha, hl⟩
      exact ⟨ha, hl⟩
    · rintro ⟨ha, hl⟩
      exact ⟨(), ha, hl⟩

/-- **A run of checks fails with the fault of the first check that fails**: the checks before it
all pass. -/
theorem forM_eq_error_iff {f : α → Except ε Unit} {e : ε} :
    ∀ {l : List α}, forM l f = .error e ↔
      ∃ pre a post, l = pre ++ a :: post ∧ (∀ b ∈ pre, f b = .ok ()) ∧ f a = .error e
  | [] => by simp [pure, Except.pure]
  | a :: l => by
    rw [List.forM_cons, bind_eq_error, forM_eq_error_iff]
    constructor
    · rintro (ha | ⟨⟨⟩, ha, pre, b, post, rfl, hpre, hb⟩)
      · exact ⟨[], a, l, rfl, by simp, ha⟩
      · refine ⟨a :: pre, b, post, rfl, ?_, hb⟩
        simpa [ha] using hpre
    · rintro ⟨pre, b, post, hl, hpre, hb⟩
      cases pre with
      | nil =>
        simp only [List.nil_append, List.cons.injEq] at hl
        obtain ⟨rfl, rfl⟩ := hl
        exact .inl hb
      | cons c pre =>
        simp only [List.cons_append, List.cons.injEq] at hl
        obtain ⟨rfl, rfl⟩ := hl
        exact .inr ⟨(), hpre a (by simp), pre, b, post, rfl, fun d hd => hpre d (by simp [hd]), hb⟩

/-- **A map over a list fails with the fault of the first member that fails**, every member before
it succeeding. -/
theorem mapM_eq_error_iff {f : α → Except ε β} {e : ε} {l : List α} :
    l.mapM f = .error e ↔ ∃ pre a post, l = pre ++ a :: post ∧ (∀ b ∈ pre, ∃ y, f b = .ok y) ∧ f a = .error e := by
  rw [← discard_eq_error, discard_mapM, forM_eq_error_iff]
  simp only [discard_eq_ok, discard_eq_error]

theorem Forall₂.getElem? {R : α → β → Prop} :
    ∀ {l : List α} {r : List β}, List.Forall₂ R l r →
      ∀ {i : Nat} {a : α}, l[i]? = some a → ∃ b, r[i]? = some b ∧ R a b
  | _, _, .cons hab _, 0, _, h => by
    simp only [List.getElem?_cons_zero, Option.some.injEq] at h
    subst h
    exact ⟨_, rfl, hab⟩
  | _, _, .cons _ hl, i + 1, _, h => by
    simpa using Forall₂.getElem? hl (by simpa using h)

theorem Forall₂.exists_of_mem_right {R : α → β → Prop} :
    ∀ {l : List α} {r : List β}, List.Forall₂ R l r → ∀ {b : β}, b ∈ r → ∃ a ∈ l, R a b
  | _, _, .cons hab hl, _, hb => by
    rcases List.mem_cons.1 hb with rfl | hb
    · exact ⟨_, List.mem_cons_self, hab⟩
    · obtain ⟨a, ha, hr⟩ := Forall₂.exists_of_mem_right hl hb
      exact ⟨a, List.mem_cons_of_mem _ ha, hr⟩

/-- Two lists related place by place to one list are related place by place to each other. -/
theorem Forall₂.of_common {R : α → β → Prop} {S : α → γ → Prop} {T : β → γ → Prop}
    (hT : ∀ a b c, R a b → S a c → T b c) :
    ∀ {l : List α} {r : List β} {s : List γ}, List.Forall₂ R l r → List.Forall₂ S l s → List.Forall₂ T r s
  | _, _, _, .nil, .nil => .nil
  | _, _, _, .cons hab hr, .cons hac hs => .cons (hT _ _ _ hab hac) (Forall₂.of_common hT hr hs)

end Outcome
end CsgScript
