import Mathlib
import CsgScript.Script.Lines
import CsgScript.Proofs.Outcome
import CsgScript.Proofs.Operators
/-!
# Modifier placement — the statement a modifier's symbol lands on

A modifier is written as its symbol in front of the first line of its child.  OpenSCAD gives a
symbol to the statement that follows it, passing over comments, so the symbol lands on the child's
first statement exactly when the child has one: when, under its modifiers and comments, it is
something other than a bare comment.  A bare comment writes comment lines only, or no line at all,
and a symbol in front of it falls through to whatever statement follows the modifier
(`modifier_lands_on_first_statement`).

A line holds no statement when, past its indentation and modifier symbols, it begins with `//`
(`CommentLine`).  The first line of every other node begins with its keyword, `module`,
`children`, `echo`, or the name of a module or special variable, which is a statement unless the
name itself reads as a comment; a symbol in front of a comment line leaves it a comment line.
-/
namespace CsgScript
namespace Statements

/-- What a reader passes over at the start of a line before its statement: indentation and
modifier symbols. -/
def isLead (c : Char) : Bool := c == ' ' || c == '%' || c == '#' || c == '!' || c == '*'

/-- A line that holds no statement: past its indentation and modifier symbols it begins with `//`. -/
def CommentLine (l : String) : Prop := ['/', '/'] <+: l.toList.dropWhile isLead

instance : DecidablePred CommentLine := fun l =>
  inferInstanceAs (Decidable (['/', '/'] <+: l.toList.dropWhile isLead))

/-- A text that begins with a character that is neither indentation, a modifier symbol nor `/`. -/
def beginsStatement (s : String) : Bool := s.toList.head?.any fun c => !isLead c && c != '/'

theorem beginsStatement_append {s : String} (h : beginsStatement s = true) (t : String) :
    beginsStatement (s ++ t) = true := by
  unfold beginsStatement at h ⊢
  rw [String.toList_append]
  cases hs : s.toList with
  | nil => simp [hs] at h
  | cons c r => simpa [hs] using h

theorem beginsStatement_lead {s : String} (h : beginsStatement s = true) (t u : String) :
    beginsStatement (s ++ t ++ u) = true :=
  beginsStatement_append (beginsStatement_append h t) u

theorem not_commentLine_of_beginsStatement {l : String} (h : beginsStatement l = true) : ¬ CommentLine l := by
  unfold beginsStatement at h
  unfold CommentLine
  cases hl : l.toList with
  | nil => simp [hl] at h
  | cons c r =>
    simp only [hl, List.head?_cons, Option.any_some, Bool.and_eq_true, Bool.not_eq_eq_eq_not, Bool.not_true,
      bne_iff_ne, ne_eq] at h
    rw [List.dropWhile_cons, if_neg (by simp [h.1]), List.cons_prefix_cons]
    exact fun hc => h.2 hc.1.symm

theorem commentLine_comment (x : String) : CommentLine ("// " ++ x) := by
  simp [CommentLine, String.toList_append, isLead]

theorem commentLine_of_mem_commentLines {ls : List String} {l : String} (hl : l ∈ commentLines ls) :
    CommentLine l := by
  obtain ⟨x, -, rfl⟩ := List.mem_map.1 hl
  exact commentLine_comment x

theorem commentLine_leads_append {s : String} (hs : ∀ c ∈ s.toList, isLead c = true) (l : String) :
    CommentLine (s ++ l) ↔ CommentLine l := by
  rw [CommentLine, CommentLine, String.toList_append, List.dropWhile_append_of_pos hs]

/-- **Whether a line is a comment is settled at its beginning**: after a text `s`, a text `t` that
begins with no `/`, neither at once nor past its indentation and symbols, leaves `s ++ t` a comment
exactly when `s` is one.  Past its leads, `s` keeps nothing and `t` decides alone, or one
character and the first of `t` comes second, or two characters that decide. -/
theorem commentLine_append_iff (s : String) {t : String} (hhead : t.toList.head? ≠ some '/')
    (hrest : (t.toList.dropWhile isLead).head? ≠ some '/') : CommentLine (s ++ t) ↔ CommentLine s := by
  rw [CommentLine, CommentLine, String.toList_append, List.dropWhile_append]
  rcases hs : s.toList.dropWhile isLead with _ | ⟨x, _ | ⟨y, ys⟩⟩
  · cases ht : t.toList.dropWhile isLead with
    | nil => simp
    | cons c r =>
      have hc : c ≠ '/' := by simpa [ht] using hrest
      simp [List.cons_prefix_cons, Ne.symm hc]
  · cases ht : t.toList with
    | nil => simp
    | cons c r =>
      have hc : c ≠ '/' := by simpa [ht] using hhead
      simp [List.cons_prefix_cons, Ne.symm hc]
  · simp [List.cons_prefix_cons]

/-- The first statement of a list of lines: the lines before it are comments. -/
theorem exists_first_statement {L : List String} (h : ∃ l ∈ L, ¬ CommentLine l) :
    ∃ C s rest, L = C ++ s :: rest ∧ (∀ l ∈ C, CommentLine l) ∧ ¬ CommentLine s := by
  obtain ⟨l, hl, hnot⟩ := h
  cases hdrop : L.dropWhile (fun l => decide (CommentLine l)) with
  | nil => exact absurd (of_decide_eq_true (List.dropWhile_eq_nil_iff.1 hdrop l hl)) hnot
  | cons s rest =>
    refine ⟨L.takeWhile (fun l => decide (CommentLine l)), s, rest, ?_, ?_, ?_⟩
    · rw [← hdrop, List.takeWhile_append_dropWhile]
    · exact fun x hx => of_decide_eq_true (List.mem_takeWhile_imp (p := fun l => decide (CommentLine l)) hx)
    · have hstop := List.head_dropWhile_not (fun l => decide (CommentLine l)) (l := L) (by simp [hdrop])
      simpa [hdrop] using hstop

theorem exists_statement_block {lead : String} (hlead : ¬ CommentLine lead) (empty : Bool)
    (body : List String) : ∃ l ∈ block lead empty body, ¬ CommentLine l := by
  cases empty with
  | true =>
    refine ⟨lead ++ "\x7b\x7d;", by simp [block], ?_⟩
    rwa [commentLine_append_iff lead (by decide) (by decide)]
  | false =>
    refine ⟨lead ++ "\x7b", by simp [block], ?_⟩
    rwa [commentLine_append_iff lead (by decide) (by decide)]

theorem not_commentLine_specialLine {name line : String} {preview render : Option Value}
    (hname : ¬ CommentLine name) (h : specialLine name preview render = .ok line) : ¬ CommentLine line := by
  unfold specialLine at h
  split at h
  · cases h
    rwa [commentLine_append_iff name (by decide) (by decide)]
  · obtain ⟨v, -, h⟩ := Outcome.bind_eq_ok.1 h
    cases h
    simp only [String.append_assoc]
    rwa [commentLine_append_iff name (by simp [String.toList_append]) (by simp [String.toList_append, isLead])]
  · obtain ⟨r, -, h⟩ := Outcome.bind_eq_ok.1 h
    obtain ⟨p, -, h⟩ := Outcome.bind_eq_ok.1 h
    cases h
    simp only [String.append_assoc]
    rwa [commentLine_append_iff name (by simp [String.toList_append]) (by simp [String.toList_append, isLead])]

end Statements

open Statements

theorem Shape.beginsStatement_keyword (s : Shape) : beginsStatement s.keyword = true := by
  cases s <;> simp only [Shape.keyword] <;> decide

theorem Operation.beginsStatement_keyword (op : Operation) : beginsStatement op.keyword = true := by
  cases op with
  | combine c _ => cases c <;> simp only [Operation.keyword] <;> decide
  | _ =>
    simp only [Operation.keyword]
    decide

theorem Modifier.commentLine_symbol_append (m : Modifier) (l : String) :
    CommentLine (m.symbol ++ l) ↔ CommentLine l :=
  commentLine_leads_append (by cases m <;> simp [Modifier.symbol, isLead]) l

theorem Modifier.forall_commentLine_prefixFirst (m : Modifier) (L : List String) :
    (∀ l ∈ prefixFirst m.symbol L, CommentLine l) ↔ ∀ l ∈ L, CommentLine l := by
  cases L with
  | nil => rfl
  | cons x rest => simp only [prefixFirst, List.forall_mem_cons, m.commentLine_symbol_append]

namespace Expr

/-- Whether a tree writes a statement: under its modifiers and comments it is something other than a
bare comment. -/
def hasStatement : Expr → Bool
  | .comment _ => false
  | .modify _ _ c | .commented _ _ c => c.hasStatement
  | _ => true

/-- The name that begins a tree's first statement, when a module call or a special variable begins
it, does not read as a comment. -/
def leadsPlainly : Expr → Bool
  | .modify _ _ c | .commented _ _ c => c.leadsPlainly
  | .call _ name _ | .callFree name | .special name _ _ => !decide (CommentLine name)
  | _ => true

/-- **A tree without a statement writes comment lines only.** -/
theorem commentLine_of_lines {c : Expr} {L : List String} :
    c.hasStatement = false → c.lines = .ok L → ∀ l ∈ L, CommentLine l := by
  fun_induction hasStatement c generalizing L with
  | case1 ls =>
    intro _ hL
    rw [lines] at hL
    cases hL
    exact fun l hl => commentLine_of_mem_commentLines hl
  | case2 m d c ih =>
    intro h hL
    rw [lines] at hL
    obtain ⟨body, hbody, hL⟩ := Outcome.bind_eq_ok.1 hL
    cases hL
    exact (m.forall_commentLine_prefixFirst body).2 (ih h hbody)
  | case3 d ls c ih =>
    intro h hL
    rw [lines] at hL
    obtain ⟨body, hbody, hL⟩ := Outcome.bind_eq_ok.1 hL
    cases hL
    intro l hl
    rcases List.mem_append.1 hl with hl | hl
    · exact commentLine_of_mem_commentLines hl
    · exact ih h hbody l hl
  | case4 => intro h; cases h

/-- **A tree with a statement writes one**, when the name that begins it is no comment: every
node but a modifier, a comment or a commented expression begins with its keyword, `module`,
`children`, `echo`, or a name. -/
theorem exists_statement_of_lines {c : Expr} {L : List String} :
    c.hasStatement = true → c.leadsPlainly = true → c.lines = .ok L → ∃ l ∈ L, ¬ CommentLine l := by
  fun_induction hasStatement c generalizing L with
  | case1 ls => intro h; cases h
  | case2 m d c ih =>
    intro h hlead hL
    rw [leadsPlainly] at hlead
    rw [lines] at hL
    obtain ⟨body, hbody, hL⟩ := Outcome.bind_eq_ok.1 hL
    cases hL
    obtain ⟨l, hl, hnot⟩ := ih h hlead hbody
    by_contra hnone
    push Not at hnone
    exact hnot ((m.forall_commentLine_prefixFirst body).1 hnone l hl)
  | case3 d ls c ih =>
    intro h hlead hL
    rw [leadsPlainly] at hlead
    rw [lines] at hL
    obtain ⟨body, hbody, hL⟩ := Outcome.bind_eq_ok.1 hL
    cases hL
    obtain ⟨l, hl, hnot⟩ := ih h hlead hbody
    exact ⟨l, List.mem_append_right _ hl, hnot⟩
  | case4 c hcomment hmodify hcommented =>
    intro _ hlead hL
    cases c with
    | shape s =>
      rw [lines] at hL
      obtain ⟨_, -, hL⟩ := Outcome.bind_eq_ok.1 hL
      obtain ⟨ps, -, hL⟩ := Outcome.bind_eq_ok.1 hL
      cases hL
      exact ⟨_, List.mem_singleton_self _, not_commentLine_of_beginsStatement
        (beginsStatement_lead (beginsStatement_append s.beginsStatement_keyword _) _ _)⟩
    | projection c cut =>
      rw [lines] at hL
      obtain ⟨ps, -, hL⟩ := Outcome.bind_eq_ok.1 hL
      obtain ⟨body, -, hL⟩ := Outcome.bind_eq_ok.1 hL
      cases hL
      exact exists_statement_block (not_commentLine_of_beginsStatement (beginsStatement_lead (by decide) _ _)) _ _
    | apply op cs =>
      rw [lines] at hL
      obtain ⟨ps, -, hL⟩ := Outcome.bind_eq_ok.1 hL
      obtain ⟨body, -, hL⟩ := Outcome.bind_eq_ok.1 hL
      cases hL
      exact exists_statement_block (not_commentLine_of_beginsStatement
        (beginsStatement_lead (beginsStatement_append op.beginsStatement_keyword _) _ _)) _ _
    | modify m d c => exact absurd rfl (hmodify m d c)
    | define d name cs =>
      rw [lines] at hL
      obtain ⟨body, -, hL⟩ := Outcome.bind_eq_ok.1 hL
      cases hL
      exact exists_statement_block (not_commentLine_of_beginsStatement (beginsStatement_lead (by decide) _ _)) _ _
    | call d name cs =>
      rw [leadsPlainly] at hlead
      have hname : ¬ CommentLine name := by simpa using hlead
      rw [lines] at hL
      obtain ⟨body, -, hL⟩ := Outcome.bind_eq_ok.1 hL
      cases hL
      exact exists_statement_block (by rwa [commentLine_append_iff name (by decide) (by decide)]) _ _
    | callFree name =>
      rw [leadsPlainly] at hlead
      have hname : ¬ CommentLine name := by simpa using hlead
      rw [lines] at hL
      cases hL
      exact ⟨_, List.mem_singleton_self _, by rwa [commentLine_append_iff name (by decide) (by decide)]⟩
    | callerChildren =>
      rw [lines] at hL
      cases hL
      exact ⟨_, List.mem_singleton_self _, by decide⟩
    | comment ls => exact absurd rfl (hcomment ls)
    | commented d ls c => exact absurd rfl (hcommented d ls c)
    | special name preview render =>
      rw [leadsPlainly] at hlead
      rw [lines] at hL
      obtain ⟨line, hline, hL⟩ := Outcome.bind_eq_ok.1 hL
      cases hL
      exact ⟨line, List.mem_singleton_self _, not_commentLine_specialLine (by simpa using hlead) hline⟩
    | echo content =>
      rw [lines] at hL
      obtain ⟨v, -, hL⟩ := Outcome.bind_eq_ok.1 hL
      cases hL
      exact ⟨_, List.mem_singleton_self _, not_commentLine_of_beginsStatement (beginsStatement_lead (by decide) _ _)⟩

/-- **A modifier's symbol lands on its child's first statement, when the child has one.**  Every
way of building a modifier (on one expression, on a list of one, as the product of one expression)
gives the child's dimension, solid when it has none, and the modifier writes its symbol in front of
the child's first line.  When the child has a statement, its lines before the first statement are
comments, so the symbol is followed, past comments only, by that statement.  When it has none,
every line the modifier writes is a comment, and the symbol falls through to whatever statement
follows; a child with no line at all leaves no place for the symbol. -/
theorem modifier_lands_on_first_statement (m : Modifier) (c : Expr) {L : List String}
    (hL : c.lines = .ok L) (hlead : c.leadsPlainly = true) :
    Build.modify m [c] = .ok (.modify m c.dimensionality.orSolid c) ∧
      Arith.mul [.expr c] = .ok (.expr (.modify .disable c.dimensionality.orSolid c)) ∧
      (∀ d, (Expr.modify m d c).lines = .ok (prefixFirst m.symbol L)) ∧
      (c.hasStatement = true ↔
        ∃ C s rest, L = C ++ s :: rest ∧ (∀ l ∈ C, CommentLine l) ∧ ¬ CommentLine s) ∧
      (c.hasStatement = false → ∀ l ∈ prefixFirst m.symbol L, CommentLine l) := by
  have hbuilt : Build.modify m [c] = .ok (.modify m c.dimensionality.orSolid c) := by
    simp only [Build.modify, Build.modifier, Build.classify_singleton]
    rfl
  have hwritten : ∀ d, (Expr.modify m d c).lines = .ok (prefixFirst m.symbol L) := fun d => by
    rw [lines, hL]
    rfl
  refine ⟨hbuilt, Arith.mul_expr c, hwritten,
    ⟨fun h => exists_first_statement (exists_statement_of_lines h hlead hL), ?_⟩,
    fun h => (m.forall_commentLine_prefixFirst L).2 (commentLine_of_lines h hL)⟩
  rintro ⟨C, s, rest, rfl, -, hs⟩
  by_contra hnone
  exact hs (commentLine_of_lines (Bool.eq_false_iff.2 hnone) hL s (by simp))

theorem debug_on_commented_call_lands_on_call :
    (Expr.commented .three ["note"] (.callFree "part")).lines = .ok ["// note", "part();"] ∧
      (Expr.commented .three ["note"] (.callFree "part")).leadsPlainly = true ∧
      (Build.modify .debug [.commented .three ["note"] (.callFree "part")] =
          .ok (.modify .debug (Expr.commented .three ["note"] (.callFree "part")).dimensionality.orSolid
            (.commented .three ["note"] (.callFree "part"))) ∧
        Arith.mul [.expr (.commented .three ["note"] (.callFree "part"))] =
          .ok (.expr (.modify .disable (Expr.commented .three ["note"] (.callFree "part")).dimensionality.orSolid
            (.commented .three ["note"] (.callFree "part")))) ∧
        (∀ d, (Expr.modify .debug d (.commented .three ["note"] (.callFree "part"))).lines =
          .ok (prefixFirst Modifier.debug.symbol ["// note", "part();"])) ∧
        ((Expr.commented .three ["note"] (.callFree "part")).hasStatement = true ↔
          ∃ C s rest, ["// note", "part();"] = C ++ s :: rest ∧ (∀ l ∈ C, CommentLine l) ∧ ¬ CommentLine s) ∧
        ((Expr.commented .three ["note"] (.callFree "part")).hasStatement = false →
          ∀ l ∈ prefixFirst Modifier.debug.symbol ["// note", "part();"], CommentLine l)) :=
  ⟨rfl, by decide, modifier_lands_on_first_statement .debug _ rfl (by decide)⟩

/-- A modifier on a bare comment puts its symbol in front of a comment line, and on an empty
comment writes nothing: neither lands on a statement of the child. -/
theorem modifier_on_comment_lands_on_no_statement :
    Build.modify .background [Build.comment ["x"]] = .ok (.modify .background .three (.comment ["x"])) ∧
      (Expr.modify .background .three (.comment ["x"])).lines = .ok ["%// x"] ∧ CommentLine "%// x" ∧
      Build.modify .disable [Build.comment []] = .ok (.modify .disable .three (.comment [])) ∧
      (Expr.modify .disable .three (.comment [])).lines = .ok [] :=
  ⟨rfl, rfl, by decide, rfl, rfl⟩

end Expr

end CsgScript
