import CsgScript.Script.Lines
import CsgScript.Proofs.Outcome
/-!
# Indentation — written statements are nested by their indentation

A written line is at level `k` when it starts with `4k` spaces and then a character that is no
blank.  The lines of a tree start and end at level 0; the next line is at most one level deeper
than the one before it, and deeper only after a line that opens a block with `{`; and after such a
line at level `d`, the first line back at level `d` or shallower is the `};` closing the block at
level `d` (`lines_wellIndented`).

The proof follows how lines are made.  `block` is the only place that indents: it puts its lead
line, its body one level deeper, and `};`.  A modifier only writes its symbol in front of its
child's first line, which stays at level 0; comments and commented expressions put lines side by
side at the level they are at.  `Nested` — every line leveled, the ends at level 0, every step
between neighbours as blocks allow — holds of one line, and is kept by blocks, by lists side by
side and by prefixing the first line.  It holds of what a tree writes when the names that begin
lines — module names and special variable names — begin visibly.
-/
namespace CsgScript
namespace Indentation

/-- The level of a line: its leading spaces, four to a level. -/
def level (l : String) : Nat := (l.toList.takeWhile (· == ' ')).length / 4

/-- A line at level `k`: `4k` spaces, then a character that is no blank. -/
def Leveled (k : Nat) (l : String) : Prop :=
  ∃ c rest, l.toList = List.replicate (4 * k) ' ' ++ c :: rest ∧ ShellWords.isBlank c = false

/-- A text that begins with a character other than a blank. -/
def beginsVisibly (s : String) : Bool :=
  match s.toList with
  | c :: _ => !ShellWords.isBlank c
  | [] => false

theorem takeWhile_spaces (n : Nat) {c : Char} (rest : List Char) (hc : c ≠ ' ') :
    (List.replicate n ' ' ++ c :: rest).takeWhile (· == ' ') = List.replicate n ' ' := by
  induction n with
  | zero => simp [hc]
  | succ n ih => simp [List.replicate_succ, ih]

theorem ne_space_of_isBlank_eq_false {c : Char} (h : ShellWords.isBlank c = false) : c ≠ ' ' := by
  rintro rfl
  exact absurd h (by decide)

theorem level_of_leveled {k : Nat} {l : String} (h : Leveled k l) : level l = k := by
  obtain ⟨c, rest, hl, hc⟩ := h
  rw [level, hl, takeWhile_spaces _ _ (ne_space_of_isBlank_eq_false hc), List.length_replicate]
  omega

theorem indentation_toList : indentation.toList = List.replicate 4 ' ' := rfl

theorem level_indent (l : String) : level (indentation ++ l) = level l + 1 := by
  rw [level, level, String.toList_append, indentation_toList]
  simp only [List.replicate_succ, List.replicate_zero, List.cons_append, List.nil_append,
    List.takeWhile_cons, beq_self_eq_true, ↓reduceIte, List.length_cons]
  omega

theorem Leveled.indent {k : Nat} {l : String} (h : Leveled k l) : Leveled (k + 1) (indentation ++ l) := by
  obtain ⟨c, rest, hl, hc⟩ := h
  refine ⟨c, rest, ?_, hc⟩
  rw [String.toList_append, hl, indentation_toList, ← List.append_assoc, ← List.replicate_add]
  congr 2
  omega

theorem leveled_zero_of_beginsVisibly {l : String} (h : beginsVisibly l = true) : Leveled 0 l := by
  unfold beginsVisibly at h
  split at h
  · rename_i c rest hl
    exact ⟨c, rest, by simp [hl], by simpa using h⟩
  · cases h

theorem beginsVisibly_append {s : String} (h : beginsVisibly s = true) (t : String) :
    beginsVisibly (s ++ t) = true := by
  unfold beginsVisibly at h ⊢
  split at h
  · rename_i c rest hs
    rw [String.toList_append, hs]
    exact h
  · cases h

theorem beginsVisibly_name_append {n t : String} (hn : n = "" ∨ beginsVisibly n = true)
    (ht : beginsVisibly t = true) : beginsVisibly (n ++ t) = true := by
  rcases hn with rfl | hn
  · simpa using ht
  · exact beginsVisibly_append hn t

theorem beginsVisibly_lead {s : String} (h : beginsVisibly s = true) (t u : String) :
    beginsVisibly (s ++ t ++ u) = true :=
  beginsVisibly_append (beginsVisibly_append h t) u

/-! ## Steps between neighbouring lines -/

/-- What a line `x`, the line `y` after it and the lines after those satisfy: `y` is at most one
level deeper than `x`, and deeper only when `x` ends with `{`, in which case the first line after
`x` back at the level of `x` or shallower is `};` at that level. -/
def StepOk (x y : String) (after : List String) : Prop :=
  level y ≤ level x + 1 ∧
    (level x < level y → x.toList.getLast? = some '\x7b' ∧
      ∃ M z C, y :: after = M ++ z :: C ∧ (∀ m ∈ M, level x < level m) ∧
        z.toList = List.replicate (4 * level x) ' ' ++ ['\x7d', ';'])

/-- Every line and the line after it are as `StepOk` says. -/
def Steps : List String → Prop
  | x :: y :: after => StepOk x y after ∧ Steps (y :: after)
  | _ => True

theorem StepOk.of_le {x y : String} {after : List String} (h : level y ≤ level x) : StepOk x y after :=
  ⟨by omega, fun hlt => absurd hlt (by omega)⟩

theorem StepOk.append_right {x y : String} {after : List String} (h : StepOk x y after) (more : List String) :
    StepOk x y (after ++ more) := by
  refine ⟨h.1, fun hlt => ?_⟩
  obtain ⟨hopen, M, z, C, hsplit, hM, hz⟩ := h.2 hlt
  refine ⟨hopen, M, z, C ++ more, ?_, hM, hz⟩
  rw [← List.cons_append, hsplit]
  simp

theorem StepOk.indent {x y : String} {after : List String} (h : StepOk x y after) :
    StepOk (indentation ++ x) (indentation ++ y) (after.map (indentation ++ ·)) := by
  rw [StepOk, level_indent, level_indent]
  refine ⟨by have := h.1; omega, fun hlt => ?_⟩
  obtain ⟨hopen, M, z, C, hsplit, hM, hz⟩ := h.2 (by omega)
  refine ⟨by rw [String.toList_append, List.getLast?_append, hopen]; rfl,
    M.map (indentation ++ ·), indentation ++ z, C.map (indentation ++ ·), ?_, ?_, ?_⟩
  · rw [← List.map_cons, hsplit]
    simp
  · intro m hm
    obtain ⟨m', hm', rfl⟩ := List.mem_map.1 hm
    rw [level_indent]
    have := hM m' hm'
    omega
  · rw [String.toList_append, hz, indentation_toList, ← List.append_assoc, ← List.replicate_add]
    congr 2
    omega

theorem steps_append : ∀ (A B : List String), Steps A → Steps B →
    (∀ a ∈ A.getLast?, ∀ b ∈ B.head?, level b ≤ level a) → Steps (A ++ B)
  | [], _, _, hB, _ => hB
  | [_], [], _, _, _ => trivial
  | [a], b :: _, _, hB, hab => ⟨StepOk.of_le (hab a rfl b rfl), hB⟩
  | a :: a' :: A, B, hA, hB, hab =>
    ⟨hA.1.append_right B, steps_append (a' :: A) B hA.2 hB (by simpa using hab)⟩

theorem steps_indent : ∀ L : List String, Steps L → Steps (L.map (indentation ++ ·))
  | [], _ | [_], _ => trivial
  | _ :: y :: after, h => ⟨h.1.indent, steps_indent (y :: after) h.2⟩

theorem steps_of_level_zero : ∀ L : List String, (∀ l ∈ L, level l = 0) → Steps L
  | [], _ | [_], _ => trivial
  | x :: y :: after, h =>
    ⟨StepOk.of_le (Nat.le_of_eq ((h y (by simp)).trans (h x (by simp)).symm)),
      steps_of_level_zero (y :: after) (fun l hl => h l (List.mem_cons_of_mem x hl))⟩

theorem Steps.stepOk : ∀ (A : List String) {x y : String} {B : List String}, Steps (A ++ x :: y :: B) → StepOk x y B
  | [], _, _, _, h => h.1
  | [_], _, _, _, h => h.2.1
  | _ :: a :: A, _, _, _, h => Steps.stepOk (a :: A) h.2

/-! ## Nested lines -/

/-- Lines nested by their indentation: every line leveled, the first and the last at level 0, and
every line and the next as `StepOk` says. -/
structure Nested (L : List String) : Prop where
  leveled : ∀ l ∈ L, Leveled (level l) l
  first : ∀ l ∈ L.head?, level l = 0
  last : ∀ l ∈ L.getLast?, level l = 0
  steps : Steps L

theorem level_closing : level "\x7d;" = 0 := by decide

theorem Nested.nil : Nested [] := ⟨by simp, by simp, by simp, trivial⟩

theorem Nested.of_level_zero {L : List String} (h : ∀ l ∈ L, Leveled 0 l) : Nested L where
  leveled l hl := by
    rw [level_of_leveled (h l hl)]
    exact h l hl
  first l hl := level_of_leveled (h l (List.mem_of_mem_head? hl))
  last l hl := level_of_leveled (h l (List.mem_of_getLast? hl))
  steps := steps_of_level_zero L fun l hl => level_of_leveled (h l hl)

theorem Nested.line {l : String} (h : beginsVisibly l = true) : Nested [l] :=
  Nested.of_level_zero fun _ hl => by
    rw [List.mem_singleton.1 hl]
    exact leveled_zero_of_beginsVisibly h

theorem Nested.comment (ls : List String) : Nested (commentLines ls) :=
  Nested.of_level_zero fun _ hl => by
    obtain ⟨l, -, rfl⟩ := List.mem_map.1 hl
    exact leveled_zero_of_beginsVisibly (beginsVisibly_append (by decide) l)

/-- Nested lines side by side are nested: the first list ends and the second starts at level 0. -/
theorem Nested.append {A B : List String} (hA : Nested A) (hB : Nested B) : Nested (A ++ B) where
  leveled l hl := (List.mem_append.1 hl).elim (hA.leveled l) (hB.leveled l)
  first l hl := by
    cases A with
    | nil => exact hB.first l hl
    | cons a A => exact hA.first l hl
  last l hl := by
    rw [List.getLast?_append] at hl
    cases hb : B.getLast? with
    | none =>
      rw [hb] at hl
      exact hA.last l hl
    | some b =>
      rw [hb] at hl
      exact hB.last l (by rw [hb]; exact hl)
  steps := steps_append A B hA.steps hB.steps fun _ _ b hb => by
    rw [hB.first b hb]
    exact Nat.zero_le _

/-- The steps of a block with children: its opening line, its body one level deeper, and `};`. -/
theorem steps_block {opening : String} {body : List String} (hopen : Leveled 0 opening)
    (hends : opening.toList.getLast? = some '\x7b') (hbody : Nested body) :
    Steps (opening :: (body.map (indentation ++ ·) ++ ["\x7d;"])) := by
  have inner : Steps (body.map (indentation ++ ·) ++ ["\x7d;"]) :=
    steps_append _ _ (steps_indent body hbody.steps) trivial fun _ _ b hb => by
      simp only [List.head?_cons, Option.mem_def, Option.some.injEq] at hb
      rw [← hb, level_closing]
      exact Nat.zero_le _
  have hopen0 : level opening = 0 := level_of_leveled hopen
  cases body with
  | nil => exact ⟨StepOk.of_le (by rw [level_closing]; exact Nat.zero_le _), inner⟩
  | cons b rest =>
    have hb : level (indentation ++ b) = 1 := by rw [level_indent, hbody.first b rfl]
    refine ⟨⟨by beta_reduce; omega, fun _ => ⟨hends, (b :: rest).map (indentation ++ ·), "\x7d;", [], by simp, ?_, ?_⟩⟩, inner⟩
    · intro m hm
      obtain ⟨m', -, rfl⟩ := List.mem_map.1 hm
      rw [hopen0, level_indent]
      exact Nat.succ_pos _
    · rw [hopen0]
      rfl

/-- **A block is nested** when its lead begins visibly and its body is nested. -/
theorem Nested.block {lead : String} {body : List String} (hlead : beginsVisibly lead = true) (hbody : Nested body)
    (empty : Bool) : Nested (block lead empty body) := by
  cases empty with
  | true => exact Nested.line (beginsVisibly_append hlead _)
  | false =>
    have hopen : Leveled 0 (lead ++ "\x7b") := leveled_zero_of_beginsVisibly (beginsVisibly_append hlead _)
    have hends : (lead ++ "\x7b").toList.getLast? = some '\x7b' := by
      rw [String.toList_append, List.getLast?_append]
      rfl
    simp only [CsgScript.block, Bool.false_eq_true, ↓reduceIte, List.cons_append]
    refine ⟨?_, ?_, ?_, steps_block hopen hends hbody⟩
    · intro l hl
      simp only [List.mem_cons, List.mem_append, List.mem_map, List.not_mem_nil, or_false] at hl
      rcases hl with rfl | ⟨l', hl', rfl⟩ | rfl
      · rw [level_of_leveled hopen]
        exact hopen
      · rw [level_indent]
        exact (hbody.leveled l' hl').indent
      · rw [level_closing]
        exact leveled_zero_of_beginsVisibly (by decide)
    · intro l hl
      simp only [List.head?_cons, Option.mem_def, Option.some.injEq] at hl
      rw [← hl]
      exact level_of_leveled hopen
    · intro l hl
      simp only [List.getLast?_cons, List.getLast?_append, Option.mem_def, Option.some.injEq] at hl
      rw [← hl]
      exact level_closing

theorem StepOk.prepend {x y : String} {after : List String} (symbol : String)
    (hlevel : level (symbol ++ x) = level x) (h : StepOk x y after) : StepOk (symbol ++ x) y after := by
  rw [StepOk, hlevel]
  refine ⟨h.1, fun hlt => ?_⟩
  obtain ⟨hopen, closing⟩ := h.2 hlt
  exact ⟨by rw [String.toList_append, List.getLast?_append, hopen]; rfl, closing⟩

/-- **A symbol in front of nested lines keeps them nested** when it begins visibly. -/
theorem Nested.prefixFirst {symbol : String} {L : List String} (hsym : beginsVisibly symbol = true)
    (h : Nested L) : Nested (prefixFirst symbol L) := by
  cases L with
  | nil => exact Nested.nil
  | cons x rest =>
    have hx : Leveled 0 (symbol ++ x) := leveled_zero_of_beginsVisibly (beginsVisibly_append hsym x)
    have hlevel : level (symbol ++ x) = level x := by rw [level_of_leveled hx, h.first x rfl]
    rw [CsgScript.prefixFirst]
    refine ⟨?_, ?_, ?_, ?_⟩
    · intro l hl
      rcases List.mem_cons.1 hl with rfl | hl
      · rw [level_of_leveled hx]
        exact hx
      · exact h.leveled l (List.mem_cons_of_mem x hl)
    · intro l hl
      simp only [List.head?_cons, Option.mem_def, Option.some.injEq] at hl
      rw [← hl]
      exact level_of_leveled hx
    · cases rest with
      | nil =>
        intro l hl
        simp only [List.getLast?_singleton, Option.mem_def, Option.some.injEq] at hl
        rw [← hl]
        exact level_of_leveled hx
      | cons y after =>
        intro l hl
        rw [List.getLast?_cons_cons] at hl
        exact h.last l (by rw [List.getLast?_cons_cons]; exact hl)
    · cases rest with
      | nil => trivial
      | cons y after => exact ⟨h.steps.1.prepend symbol hlevel, h.steps.2⟩

/-- **Lines well indented.** Each line is `4k` spaces and then a character that is no blank, `k`
its level; the first and the last line are at level 0; a line is at most one level deeper than the
line before it, and deeper only after a line ending with `{`; and after a line at level `d` followed
by one at level `d + 1`, the first line back at level `d` or less is at level `d` and is `};`. -/
structure WellIndented (L : List String) : Prop where
  leveled : ∀ l ∈ L, Leveled (level l) l
  first : ∀ l ∈ L.head?, level l = 0
  last : ∀ l ∈ L.getLast?, level l = 0
  step : ∀ A x y B, L = A ++ x :: y :: B →
    level y ≤ level x + 1 ∧ (level x < level y → x.toList.getLast? = some '\x7b')
  closes : ∀ A x y B, L = A ++ x :: y :: B → level y = level x + 1 →
    ∃ M z C, y :: B = M ++ z :: C ∧ (∀ m ∈ M, level x < level m) ∧
      z.toList = List.replicate (4 * level x) ' ' ++ ['\x7d', ';']

theorem Nested.wellIndented {L : List String} (h : Nested L) : WellIndented L where
  leveled := h.leveled
  first := h.first
  last := h.last
  step A _ _ _ hsplit := by
    subst hsplit
    have hxy := h.steps.stepOk A
    exact ⟨hxy.1, fun hlt => (hxy.2 hlt).1⟩
  closes A _ _ _ hsplit hdeeper := by
    subst hsplit
    exact ((h.steps.stepOk A).2 (by omega)).2

end Indentation

open Indentation

theorem Shape.beginsVisibly_keyword (s : Shape) : beginsVisibly s.keyword = true := by
  cases s <;> simp only [Shape.keyword] <;> decide

theorem Operation.beginsVisibly_keyword (op : Operation) : beginsVisibly op.keyword = true := by
  cases op with
  | combine c _ => cases c <;> simp only [Operation.keyword] <;> decide
  | _ =>
    simp only [Operation.keyword]
    decide

theorem Modifier.beginsVisibly_symbol (m : Modifier) : beginsVisibly m.symbol = true := by
  cases m <;> simp only [Modifier.symbol] <;> decide

theorem beginsVisibly_specialLine {name line : String} {preview render : Option Value}
    (hname : beginsVisibly name = true) (h : specialLine name preview render = .ok line) :
    beginsVisibly line = true := by
  unfold specialLine at h
  split at h
  · cases h
    exact beginsVisibly_append hname _
  · obtain ⟨v, -, h⟩ := Outcome.bind_eq_ok.1 h
    cases h
    exact beginsVisibly_lead (beginsVisibly_append hname _) _ _
  · obtain ⟨r, -, h⟩ := Outcome.bind_eq_ok.1 h
    obtain ⟨p, -, h⟩ := Outcome.bind_eq_ok.1 h
    cases h
    exact beginsVisibly_lead (beginsVisibly_lead (beginsVisibly_append hname _) _ _) _ _

namespace Expr

mutual

/-- The names that begin lines begin visibly: no module name begins with a blank, and the name of
every special variable is not empty and begins with something other than a blank. -/
def namesVisible : Expr → Bool
  | .define _ name cs | .call _ name cs => (name == "" || beginsVisibly name) && namesVisibleList cs
  | .callFree name => name == "" || beginsVisibly name
  | .special name _ _ => beginsVisibly name
  | .projection c _ | .modify _ _ c | .commented _ _ c => namesVisible c
  | .apply _ cs => namesVisibleList cs
  | .shape _ | .callerChildren | .comment _ | .echo _ => true

/-- The names that begin lines begin visibly in every expression of a list. -/
def namesVisibleList : List Expr → Bool
  | [] => true
  | e :: es => namesVisible e && namesVisibleList es

end

theorem beginsVisibly_call {name t : String} (hname : (name == "" || beginsVisibly name) = true)
    (ht : beginsVisibly t = true) : beginsVisibly (name ++ t) = true :=
  beginsVisibly_name_append (by simpa using hname) ht

mutual

theorem lines_nested : ∀ (e : Expr) {L : List String}, e.namesVisible = true → e.lines = .ok L → Nested L
  | .shape s, _, _, h => by
    rw [lines] at h
    obtain ⟨_, -, h⟩ := Outcome.bind_eq_ok.1 h
    obtain ⟨ps, -, h⟩ := Outcome.bind_eq_ok.1 h
    cases h
    exact Nested.line (beginsVisibly_lead (beginsVisibly_append s.beginsVisibly_keyword _) _ _)
  | .projection c _, _, hn, h => by
    rw [namesVisible] at hn
    rw [lines] at h
    obtain ⟨ps, -, h⟩ := Outcome.bind_eq_ok.1 h
    obtain ⟨body, hbody, h⟩ := Outcome.bind_eq_ok.1 h
    cases h
    exact Nested.block (beginsVisibly_lead (by decide) _ _) (lines_nested c hn hbody) false
  | .apply op cs, _, hn, h => by
    rw [namesVisible] at hn
    rw [lines] at h
    obtain ⟨ps, -, h⟩ := Outcome.bind_eq_ok.1 h
    obtain ⟨body, hbody, h⟩ := Outcome.bind_eq_ok.1 h
    cases h
    exact Nested.block (beginsVisibly_lead (beginsVisibly_append op.beginsVisibly_keyword _) _ _)
      (linesList_nested cs hn hbody) cs.isEmpty
  | .modify m _ c, _, hn, h => by
    rw [namesVisible] at hn
    rw [lines] at h
    obtain ⟨body, hbody, h⟩ := Outcome.bind_eq_ok.1 h
    cases h
    exact (lines_nested c hn hbody).prefixFirst m.beginsVisibly_symbol
  | .define _ _ cs, _, hn, h => by
    rw [namesVisible, Bool.and_eq_true] at hn
    rw [lines] at h
    obtain ⟨body, hbody, h⟩ := Outcome.bind_eq_ok.1 h
    cases h
    exact Nested.block (beginsVisibly_lead (by decide) _ _) (linesList_nested cs hn.2 hbody) cs.isEmpty
  | .call _ _ cs, _, hn, h => by
    rw [namesVisible, Bool.and_eq_true] at hn
    rw [lines] at h
    obtain ⟨body, hbody, h⟩ := Outcome.bind_eq_ok.1 h
    cases h
    exact Nested.block (beginsVisibly_call hn.1 (by decide)) (linesList_nested cs hn.2 hbody) cs.isEmpty
  | .callFree _, _, hn, h => by
    rw [namesVisible] at hn
    rw [lines] at h
    cases h
    exact Nested.line (beginsVisibly_call hn (by decide))
  | .callerChildren, _, _, h => by
    rw [lines] at h
    cases h
    exact Nested.line (by decide)
  | .comment ls, _, _, h => by
    rw [lines] at h
    cases h
    exact Nested.comment ls
  | .commented _ ls subject, _, hn, h => by
    rw [namesVisible] at hn
    rw [lines] at h
    obtain ⟨body, hbody, h⟩ := Outcome.bind_eq_ok.1 h
    cases h
    exact (Nested.comment ls).append (lines_nested subject hn hbody)
  | .special _ _ _, _, hn, h => by
    rw [namesVisible] at hn
    rw [lines] at h
    obtain ⟨line, hline, h⟩ := Outcome.bind_eq_ok.1 h
    cases h
    exact Nested.line (beginsVisibly_specialLine hn hline)
  | .echo _, _, _, h => by
    rw [lines] at h
    obtain ⟨v, -, h⟩ := Outcome.bind_eq_ok.1 h
    cases h
    exact Nested.line (beginsVisibly_lead (by decide) _ _)

theorem linesList_nested : ∀ (es : List Expr) {L : List String},
    namesVisibleList es = true → linesList es = .ok L → Nested L
  | [], _, _, h => by
    rw [linesList] at h
    cases h
    exact Nested.nil
  | e :: es, _, hn, h => by
    rw [namesVisibleList, Bool.and_eq_true] at hn
    rw [linesList] at h
    obtain ⟨first, hfirst, h⟩ := Outcome.bind_eq_ok.1 h
    obtain ⟨others, hothers, h⟩ := Outcome.bind_eq_ok.1 h
    cases h
    exact (lines_nested e hn.1 hfirst).append (linesList_nested es hn.2 hothers)

end

/-- **What a tree writes is well indented**, when the names that begin its lines begin visibly. -/
theorem lines_wellIndented (e : Expr) (L : List String) (hnames : e.namesVisible = true)
    (h : e.lines = .ok L) : WellIndented L :=
  (lines_nested e hnames h).wellIndented

theorem debug_hull_in_union_wellIndented :
    ((Expr.apply (.combine .union .three)
        [.modify .debug .three (.apply (.combine .hull .three) [.callFree "part"]), .comment ["left"]]).namesVisible = true ∧
      (Expr.apply (.combine .union .three)
        [.modify .debug .three (.apply (.combine .hull .three) [.callFree "part"]), .comment ["left"]]).lines =
        .ok ["union() \x7b", "    #hull() \x7b", "        part();", "    \x7d;", "    // left", "\x7d;"]) ∧
    WellIndented ["union() \x7b", "    #hull() \x7b", "        part();", "    \x7d;", "    // left", "\x7d;"] :=
  ⟨⟨rfl, rfl⟩, lines_wellIndented (.apply (.combine .union .three)
    [.modify .debug .three (.apply (.combine .hull .three) [.callFree "part"]), .comment ["left"]]) _ rfl rfl⟩

end Expr

end CsgScript
