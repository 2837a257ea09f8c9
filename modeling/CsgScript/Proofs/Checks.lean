import CsgScript.Script.Lines
import CsgScript.Proofs.WellFormed
/-!
# Checks — writing a tree fails exactly on bad indices and strings that need escapes

Writing a tree makes two kinds of check, and nothing else can fail: the index lists of every
polygon and polyhedron, and every string it formats in double quotes — the strings of every
parameter it writes (at any depth of its lists), of special variable values and of `echo`.
Parameters left out as equal to their fallback are not formatted, angles are written as numbers,
and comments and the names of modules and special variables are written as they are.

`Expr.checks` lists these checks in the order writing makes them: a node's own checks before its
children's, children in order.  With its text forgotten, writing a tree is running its checks
(`discard_lines`), so it succeeds exactly when every check passes, and otherwise fails with the
fault of the first check that does not — a construction fault for indices, a string-encoding fault
for a string (`lines_fault_iff`).  A well-formed tree has valid indices, so writing it can only
fail on a string.
-/
namespace CsgScript

/-- One check made in writing a tree: the index lists of a polygon or polyhedron, or a string
written in double quotes. -/
inductive Check where
  | indices (part : IndexedPart) (count : Nat) (lists : List (List Int32))
  | string (s : String)

namespace Check

/-- Runs a check as writing does. -/
def run : Check → Except Fault Unit
  | .indices part count lists => Indices.check part count lists
  | .string s => (fun _ => ()) <$> Literal.string s

/-- The kind of fault a failing check raises. -/
def kind : Check → Fault.Kind
  | .indices .. => .construction
  | .string _ => .stringEncoding

/-- What passing a check takes: valid index lists, or a string that reads back as itself in
double quotes. -/
def Passes : Check → Prop
  | .indices part count lists => ∀ l ∈ lists, part.minimum ≤ l.length ∧ ∀ i ∈ l, 0 ≤ i.toInt ∧ i.toInt < count
  | .string s => ∃ t, Literal.string s = .ok t

theorem run_eq_ok_iff (c : Check) : c.run = .ok () ↔ c.Passes := by
  cases c with
  | indices part count lists =>
    rw [run, Indices.check_eq_ok_iff, Passes]
    simp [Indices.valid]
  | string s => exact Outcome.discard_eq_ok

theorem checkFrom_error_kind {part : IndexedPart} {count : Nat} {f : Fault} :
    ∀ {place : Nat} {lists : List (List Int32)}, Indices.checkFrom part count place lists = .error f →
      f.kind = .construction
  | _, [], h => by cases h
  | place, l :: rest, h => by
    rcases Outcome.bind_eq_error.1 h with h | ⟨⟨⟩, -, h⟩
    · unfold Indices.checkList at h
      split at h
      · cases h
        rfl
      · split at h
        · cases h
          rfl
        · cases h
    · exact checkFrom_error_kind h

theorem string_error_kind {s : String} {f : Fault} (h : Literal.string s = .error f) :
    f.kind = .stringEncoding := by
  unfold Literal.string at h
  dsimp only at h
  split at h
  · cases h
    rfl
  · split at h
    · split at h
      · cases h
      · cases h
        rfl
    · cases h
      rfl

/-- **A failing check raises a fault of its kind.** -/
theorem kind_of_run_eq_error {c : Check} {f : Fault} (h : c.run = .error f) : f.kind = c.kind := by
  cases c with
  | indices part count lists => exact checkFrom_error_kind h
  | string s => exact string_error_kind (Outcome.discard_eq_error.1 h)

end Check

mutual

/-- The strings of a value, at any depth of its lists, in the order they are written. -/
def Value.strings : Value → List String
  | .str s => [s]
  | .list items => Value.stringsList items
  | .bool _ | .int _ | .real _ => []

/-- The strings of the values of a list, in order. -/
def Value.stringsList : List Value → List String
  | [] => []
  | v :: vs => v.strings ++ Value.stringsList vs

end

namespace Literal

mutual

/-- **Formatting a value checks its strings, in order, and nothing else.** -/
theorem discard_value : ∀ v : Value,
    (fun _ => ()) <$> Literal.value v = forM (v.strings.map Check.string) Check.run
  | .bool _ | .int _ | .real _ => rfl
  | .str s => by
    simp only [Literal.value, Value.strings, List.map_cons, List.map_nil, List.forM_cons, List.forM_nil,
      Check.run]
    cases Literal.string s <;> rfl
  | .list items => by
    rw [Literal.value, Value.strings, ← discard_values items]
    cases Literal.values items <;> rfl

theorem discard_values : ∀ vs : List Value,
    (fun _ => ()) <$> Literal.values vs = forM ((Value.stringsList vs).map Check.string) Check.run
  | [] => rfl
  | [v] => by
    rw [Literal.values, Value.stringsList, Value.stringsList, List.append_nil, discard_value v]
  | v :: w :: rest => by
    rw [Literal.values, Value.stringsList, List.map_append, List.forM_append, ← discard_value v,
      ← discard_values (w :: rest)]
    · cases Literal.value v <;> cases Literal.values (w :: rest) <;> rfl
    · exact List.cons_ne_nil w rest

end

end Literal

namespace Angle

mutual

theorem strings_valueToDegrees : ∀ v : Value, (valueToDegrees v).strings = []
  | .list items => by rw [valueToDegrees, Value.strings, stringsList_valueListToDegrees items]
  | .bool _ | .int _ | .real _ | .str _ => rfl

theorem stringsList_valueListToDegrees : ∀ vs : List Value, Value.stringsList (valueListToDegrees vs) = []
  | [] => rfl
  | v :: vs => by
    rw [valueListToDegrees, Value.stringsList, strings_valueToDegrees v, stringsList_valueListToDegrees vs]
    rfl

end

end Angle

/-- The strings writing a parameter formats: none when it is left out as equal to its fallback,
and none for an angle, which is written in degrees. -/
def Param.strings (p : Param) : List String :=
  if p.elided || p.angle then [] else p.value.strings

/-- The checks of a parameter list, in the order writing makes them. -/
def paramChecks (ps : List Param) : List Check := (ps.flatMap Param.strings).map .string

theorem Param.discard_text (p : Param) :
    (fun _ => ()) <$> p.text =
      forM ((if p.angle then Angle.valueToDegrees p.value else p.value).strings.map Check.string) Check.run := by
  rw [← Literal.discard_value]
  unfold Param.text
  cases Literal.value _ <;> rfl

theorem forM_text_filter : ∀ ps : List Param,
    forM (ps.filter fun p => !p.elided) (fun p => (fun _ => ()) <$> p.text) = forM (paramChecks ps) Check.run
  | [] => rfl
  | p :: ps => by
    rw [paramChecks, List.flatMap_cons, List.map_append, List.forM_append, ← paramChecks,
      ← forM_text_filter ps, List.filter_cons]
    unfold Param.strings
    by_cases he : p.elided = true
    · simp [he]
    · by_cases ha : p.angle = true
      · simp [he, ha, Param.discard_text, Angle.strings_valueToDegrees]
      · simp [he, ha, Param.discard_text]

/-- **Writing a parameter list checks the strings of the parameters it writes.** -/
theorem discard_paramsText (ps : List Param) :
    (fun _ => ()) <$> paramsText ps = forM (paramChecks ps) Check.run := by
  rw [← forM_text_filter, ← Outcome.discard_mapM]
  unfold paramsText
  cases List.mapM Param.text _ <;> rfl

/-- The strings a special variable formats: none when it is only read, and the render value's
before the preview value's when it has both. -/
def specialStrings : Option Value → Option Value → List String
  | none, _ => []
  | some p, none => p.strings
  | some p, some r => r.strings ++ p.strings

theorem discard_specialLine (name : String) : ∀ preview render : Option Value,
    (fun _ => ()) <$> specialLine name preview render = forM ((specialStrings preview render).map Check.string) Check.run
  | none, _ => rfl
  | some p, none => by
    rw [specialLine, specialStrings, ← Literal.discard_value p]
    cases Literal.value p <;> rfl
  | some p, some r => by
    rw [specialLine, specialStrings, List.map_append, List.forM_append, ← Literal.discard_value r,
      ← Literal.discard_value p]
    cases Literal.value r <;> cases Literal.value p <;> rfl

/-- The index check of a polygon or polyhedron; other shapes have none. -/
def Shape.indexChecks : Shape → List Check
  | .polygon points paths _ => [.indices .path points.length paths]
  | .polyhedron points faces _ => [.indices .face points.length faces]
  | _ => []

theorem Shape.forM_indexChecks (s : Shape) : forM s.indexChecks Check.run = s.check := by
  cases s <;> simp [Shape.indexChecks, Shape.check, Check.run, Outcome.ok_eq_pure]

theorem Check.kind_of_mem_map_string {c : Check} {l : List String} (h : c ∈ l.map Check.string) :
    c.kind = .stringEncoding := by
  obtain ⟨s, -, rfl⟩ := List.mem_map.1 h
  rfl

namespace Expr

mutual

/-- The checks writing a tree makes, in the order it makes them: a node's index check and the
strings of its parameters, then the checks of its children in order. -/
def checks : Expr → List Check
  | .shape s => s.indexChecks ++ paramChecks s.params
  | .projection c cut => paramChecks [.flag "cut" cut] ++ c.checks
  | .apply op cs => paramChecks op.params ++ checksList cs
  | .modify _ _ c | .commented _ _ c => c.checks
  | .define _ _ cs | .call _ _ cs => checksList cs
  | .special _ preview render => (specialStrings preview render).map .string
  | .echo content => (Value.stringsList content).map .string
  | .callFree _ | .callerChildren | .comment _ => []

/-- The checks of a list of trees, one tree after another. -/
def checksList : List Expr → List Check
  | [] => []
  | e :: es => e.checks ++ checksList es

end

mutual

/-- **Writing a tree, its text forgotten, is running its checks in order.** -/
theorem discard_lines : ∀ e : Expr, (fun _ => ()) <$> e.lines = forM e.checks Check.run
  | .shape s => by
    rw [lines, checks, List.forM_append, Shape.forM_indexChecks, ← discard_paramsText]
    cases s.check <;> cases paramsText s.params <;> rfl
  | .projection c cut => by
    rw [lines, checks, List.forM_append, ← discard_paramsText, ← discard_lines c]
    cases paramsText _ <;> cases c.lines <;> rfl
  | .apply op cs => by
    rw [lines, checks, List.forM_append, ← discard_paramsText, ← discard_linesList cs]
    cases paramsText op.params <;> cases linesList cs <;> rfl
  | .modify _ _ c => by
    rw [lines, checks, ← discard_lines c]
    cases c.lines <;> rfl
  | .define _ _ cs => by
    rw [lines, checks, ← discard_linesList cs]
    cases linesList cs <;> rfl
  | .call _ _ cs => by
    rw [lines, checks, ← discard_linesList cs]
    cases linesList cs <;> rfl
  | .callFree _ | .callerChildren | .comment _ => rfl
  | .commented _ _ subject => by
    rw [lines, checks, ← discard_lines subject]
    cases subject.lines <;> rfl
  | .special name preview render => by
    rw [lines, checks, ← discard_specialLine name]
    cases specialLine name preview render <;> rfl
  | .echo content => by
    rw [lines, checks, ← Literal.discard_values]
    cases Literal.values content <;> rfl

theorem discard_linesList : ∀ es : List Expr, (fun _ => ()) <$> linesList es = forM (checksList es) Check.run
  | [] => rfl
  | e :: es => by
    rw [linesList, checksList, List.forM_append, ← discard_lines e, ← discard_linesList es]
    cases e.lines <;> cases linesList es <;> rfl

end

end Expr

theorem Shape.indexChecks_pass {s : Shape} (h : (Expr.shape s).wellFormed = true) :
    ∀ c ∈ s.indexChecks, c.Passes := by
  have hcheck := (Shape.check_eq_ok_iff s).2 h
  intro c hc
  cases s with
  | polygon points paths _ =>
    rw [Shape.indexChecks, List.mem_singleton] at hc
    subst hc
    exact (Check.run_eq_ok_iff _).1 hcheck
  | polyhedron points faces _ =>
    rw [Shape.indexChecks, List.mem_singleton] at hc
    subst hc
    exact (Check.run_eq_ok_iff _).1 hcheck
  | _ => simp [Shape.indexChecks] at hc

namespace Expr

mutual

/-- **In a well-formed tree every index check passes.** -/
theorem indexChecks_pass : ∀ e : Expr, e.wellFormed = true → ∀ c ∈ e.checks, c.kind = .construction → c.Passes
  | .shape s, h, c, hc, hk => by
    rcases List.mem_append.1 hc with hc | hc
    · exact Shape.indexChecks_pass h c hc
    · exact absurd (Check.kind_of_mem_map_string hc) (by rw [hk]; decide)
  | .projection child _, h, c, hc, hk => by
    simp only [wellFormed, Bool.and_eq_true] at h
    rcases List.mem_append.1 hc with hc | hc
    · exact absurd (Check.kind_of_mem_map_string hc) (by rw [hk]; decide)
    · exact indexChecks_pass child h.2 c hc hk
  | .apply op cs, h, c, hc, hk => by
    rcases List.mem_append.1 hc with hc | hc
    · exact absurd (Check.kind_of_mem_map_string hc) (by rw [hk]; decide)
    · exact indexChecksList_pass cs ((wellFormed_apply op cs).1 h).2 c hc hk
  | .modify _ _ child, h, c, hc, hk => by
    simp only [wellFormed, Bool.and_eq_true] at h
    exact indexChecks_pass child h.2 c hc hk
  | .define d name cs, h, c, hc, hk => indexChecksList_pass cs ((wellFormed_define d name cs).1 h).2.2 c hc hk
  | .call d name cs, h, c, hc, hk => indexChecksList_pass cs ((wellFormed_call d name cs).1 h).2 c hc hk
  | .commented _ _ subject, h, c, hc, hk => by
    simp only [wellFormed, Bool.and_eq_true] at h
    exact indexChecks_pass subject h.2 c hc hk
  | .special _ _ _, _, c, hc, hk => absurd (Check.kind_of_mem_map_string hc) (by rw [hk]; decide)
  | .echo _, _, c, hc, hk => absurd (Check.kind_of_mem_map_string hc) (by rw [hk]; decide)
  | .callFree _, _, _, hc, _ | .callerChildren, _, _, hc, _ | .comment _, _, _, hc, _ => by
    simp [checks] at hc

theorem indexChecksList_pass : ∀ es : List Expr, (∀ e ∈ es, e.wellFormed = true) →
    ∀ c ∈ checksList es, c.kind = .construction → c.Passes
  | [], _, _, hc, _ => by simp [checksList] at hc
  | e :: es, h, c, hc, hk => by
    rcases List.mem_append.1 hc with hc | hc
    · exact indexChecks_pass e (h e List.mem_cons_self) c hc hk
    · exact indexChecksList_pass es (fun x hx => h x (List.mem_cons_of_mem e hx)) c hc hk

end

/-- **Writing a tree fails exactly on bad indices and on strings that need escapes.**  It
succeeds exactly when every check passes: every polygon and polyhedron indexes its points, and
every string it formats reads back as itself in double quotes.  Otherwise it fails with the fault
of the first check that does not pass, in the order writing makes them, and of that check's kind:
a construction fault for indices, a string-encoding fault for a string.  A well-formed tree — one
the checked constructors build — can only fail on a string. -/
theorem lines_fault_iff (e : Expr) :
    ((∃ L, e.lines = .ok L) ↔ ∀ c ∈ e.checks, c.Passes) ∧
    (∀ f, e.lines = .error f ↔
      ∃ pre c post, e.checks = pre ++ c :: post ∧ (∀ c' ∈ pre, c'.Passes) ∧ c.run = .error f ∧
        f.kind = c.kind) ∧
    (e.wellFormed = true → ∀ f, e.lines = .error f → f.kind = .stringEncoding) := by
  have hfirst : ∀ f, e.lines = .error f ↔
      ∃ pre c post, e.checks = pre ++ c :: post ∧ (∀ c' ∈ pre, c'.Passes) ∧ c.run = .error f ∧
        f.kind = c.kind := by
    intro f
    rw [← Outcome.discard_eq_error, discard_lines, Outcome.forM_eq_error_iff]
    simp only [Check.run_eq_ok_iff]
    constructor
    · rintro ⟨pre, c, post, hsplit, hpre, hc⟩
      exact ⟨pre, c, post, hsplit, hpre, hc, Check.kind_of_run_eq_error hc⟩
    · rintro ⟨pre, c, post, hsplit, hpre, hc, -⟩
      exact ⟨pre, c, post, hsplit, hpre, hc⟩
  refine ⟨?_, hfirst, ?_⟩
  · rw [← Outcome.discard_eq_ok, discard_lines, Outcome.forM_eq_ok_iff]
    simp only [Check.run_eq_ok_iff]
  · intro hwf f hf
    obtain ⟨pre, c, post, hsplit, -, hc, hkind⟩ := (hfirst f).1 hf
    cases c with
    | indices part count lists =>
      have hpass := indexChecks_pass e hwf (.indices part count lists) (by rw [hsplit]; simp) rfl
      rw [(Check.run_eq_ok_iff _).2 hpass] at hc
      cases hc
    | string s => exact hkind

end Expr

end CsgScript
