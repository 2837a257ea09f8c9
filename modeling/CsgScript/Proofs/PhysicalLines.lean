import CsgScript.Proofs.Quoting
/-!
# Physical lines — a tree's lines are lines exactly when the texts it copies are

Writing a tree gives a list of lines, which a file holds one after another, each ending in a line
feed.  The file keeps the statement structure only if no line holds a line break of its own.  The
writer's own parts never do: keywords, parameter names, numbers in any of their forms, brackets and
separators (`Literal.oneLine_value`, `oneLine_paramsText`).  But four kinds of text are copied into
the lines as they stand (`Expr.texts`): names of modules, names of special variables, comment lines,
and strings, which go between double quotes unchanged — the quoting test lets a line feed through,
as a shell keeps one inside quotes.  So the lines are physical lines exactly when those texts are
(`lines_oneLine_iff_texts`), and a string value with a line feed in it breaks its line
(`echo_string_breaks_line`).
-/
namespace CsgScript

/-- A text on one physical line: it holds no line feed and no carriage return. -/
def OneLine (s : String) : Prop := ∀ c ∈ s.toList, c ≠ '\n' ∧ c ≠ '\r'

-- the bounded quantifier over the text's characters, not a search over all characters
instance (s : String) : Decidable (OneLine s) := List.decidableBAll _ s.toList

@[simp] theorem oneLine_append {s t : String} : OneLine (s ++ t) ↔ OneLine s ∧ OneLine t := by
  simp only [OneLine, String.toList_append, List.forall_mem_append]

theorem oneLine_ofList {cs : List Char} : OneLine (String.ofList cs) ↔ ∀ c ∈ cs, c ≠ '\n' ∧ c ≠ '\r' := by
  rw [OneLine, String.toList_ofList]

/-- A digit breaks no line. -/
theorem not_lineBreak_of_isDigit {c : Char} (h : c.isDigit = true) : c ≠ '\n' ∧ c ≠ '\r' := by
  constructor <;> rintro rfl <;> exact absurd h (by decide)

/-- The characters of written numbers: digits, the point, the exponent mark and signs. -/
theorem lineFree_of_numeral {cs : List Char} (h : ∀ c ∈ cs, c.isDigit = true ∨ c ∈ ['.', 'e', '+', '-']) :
    ∀ c ∈ cs, c ≠ '\n' ∧ c ≠ '\r' := by
  intro c hc
  rcases h c hc with hd | hm
  · exact not_lineBreak_of_isDigit hd
  · simp only [List.mem_cons, List.not_mem_nil, or_false] at hm
    rcases hm with rfl | rfl | rfl | rfl <;> decide

namespace DecimalText

theorem digits_isDigit (n : Nat) : ∀ c ∈ digits n, c.isDigit = true := fun c hc =>
  Nat.isDigit_of_mem_toDigits (b := 10) (by decide) (by decide)
    (by rwa [digits, Nat.toString_eq_repr, Nat.toList_repr] at hc)

theorem oneLine_toString (n : Nat) : OneLine (toString n) := fun c hc =>
  not_lineBreak_of_isDigit (digits_isDigit n c hc)

theorem oneLine_ofInt (n : Int) : OneLine (ofInt n) := by
  unfold ofInt
  split
  · exact oneLine_append.2 ⟨by decide, oneLine_toString _⟩
  · exact oneLine_toString _

theorem oneLine_sign (negative : Bool) : OneLine (sign negative) := by
  cases negative <;> decide

/-- A number written positionally is one line: its characters are digits, zeros and at most one
point. -/
theorem oneLine_positional {ds : List Char} (hds : ∀ c ∈ ds, c.isDigit = true) (k : Int) :
    OneLine (positional ds k) := by
  unfold positional
  dsimp only
  split_ifs <;> rw [oneLine_ofList] <;> refine lineFree_of_numeral fun c hc => ?_ <;>
    simp only [List.mem_append, List.mem_cons, List.mem_replicate] at hc
  · rcases hc with h | ⟨-, rfl⟩
    exacts [.inl (hds c h), .inl rfl]
  · rcases hc with h | rfl | h
    exacts [.inl (hds c (List.mem_of_mem_take h)), .inr (by simp), .inl (hds c (List.mem_of_mem_drop h))]
  · rcases hc with (rfl | rfl | ⟨-, rfl⟩) | h
    exacts [.inl rfl, .inr (by simp), .inl rfl, .inl (hds c h)]

theorem exponentDigits_isDigit (e : Nat) : ∀ c ∈ exponentDigits e, c.isDigit = true := by
  unfold exponentDigits
  split
  · rintro c (_ | ⟨_, h⟩)
    exacts [rfl, digits_isDigit e c h]
  · exact digits_isDigit e

/-- A number in scientific notation is one line: the digits of its mantissa and a point, then the
exponent mark, its sign and digits. -/
theorem oneLine_scientific {ds : List Char} (hds : ∀ c ∈ ds, c.isDigit = true) (X : Int) :
    OneLine (scientific ds X) := by
  unfold scientific
  rw [oneLine_ofList]
  refine lineFree_of_numeral fun c hc => ?_
  rw [List.mem_append, List.mem_cons, List.mem_cons] at hc
  rcases hc with hm | rfl | rfl | he
  · split at hm
    · rw [List.mem_singleton] at hm
      exact .inl (hm ▸ rfl)
    · exact .inl (hds c (by simp_all))
    · rename_i d rest _
      rcases List.mem_cons.1 hm with rfl | hm
      · exact .inl (hds c (by simp))
      rcases List.mem_cons.1 hm with rfl | hm
      · exact .inr (by simp)
      · exact .inl (hds c (by simp [hm]))
  · exact .inr (by simp)
  · split <;> exact .inr (by simp)
  · exact .inl (exponentDigits_isDigit _ c he)

end DecimalText

open DecimalText in
/-- **Every double is written on one line.** -/
theorem Binary64.oneLine_shortestText (x : Binary64) : OneLine x.shortestText := by
  unfold Binary64.shortestText
  dsimp only
  split
  · rename_i s hs
    unfold special at hs
    split at hs <;> cases hs <;> exact oneLine_append.2 ⟨oneLine_sign _, by decide⟩
  · split_ifs
    · exact oneLine_append.2 ⟨oneLine_sign _, oneLine_toString _⟩
    · exact oneLine_append.2 ⟨oneLine_sign _, oneLine_positional (digits_isDigit _) _⟩
    · exact oneLine_append.2 ⟨oneLine_sign _, oneLine_scientific (digits_isDigit _) _⟩
  · decide

namespace Literal

theorem oneLine_number (x : Binary64) : OneLine (number x) := by
  unfold number
  split
  · exact DecimalText.oneLine_ofInt _
  · exact x.oneLine_shortestText

theorem oneLine_integer (n : Int64) : OneLine (integer n) := DecimalText.oneLine_ofInt _

/-- A string in double quotes is on one line when the string is. -/
theorem oneLine_string {s t : String} (h : string s = .ok t) : OneLine t ↔ OneLine s := by
  rw [(string_eq_ok_iff.1 h).1, oneLine_append, oneLine_append]
  simp +decide

mutual

/-- **A value is written on one line exactly when its strings are.** -/
theorem oneLine_value : ∀ (v : Value) {t : String}, value v = .ok t → (OneLine t ↔ ∀ s ∈ v.strings, OneLine s)
  | .bool b, _, h => by
    cases h
    cases b <;> simp +decide
  | .int n, _, h => by
    cases h
    simp [Value.strings, oneLine_integer]
  | .real x, _, h => by
    cases h
    simp [Value.strings, oneLine_number]
  | .str s, _, h => by
    rw [value] at h
    simp [Value.strings, oneLine_string h]
  | .list items, _, h => by
    rw [value] at h
    obtain ⟨inner, hinner, h⟩ := Outcome.bind_eq_ok.1 h
    cases h
    simp +decide [Value.strings, oneLine_values items hinner]

theorem oneLine_values : ∀ (vs : List Value) {t : String}, values vs = .ok t →
    (OneLine t ↔ ∀ s ∈ Value.stringsList vs, OneLine s)
  | [], _, h => by
    cases h
    simp +decide
  | [v], _, h => by
    rw [values] at h
    simp [Value.stringsList, oneLine_value v h]
  | v :: w :: rest, _, h => by
    rw [values.eq_3 v (w :: rest) (List.cons_ne_nil w rest)] at h
    obtain ⟨head, hhead, h⟩ := Outcome.bind_eq_ok.1 h
    obtain ⟨tail, htail, h⟩ := Outcome.bind_eq_ok.1 h
    cases h
    rw [Value.stringsList, List.forall_mem_append, ← oneLine_value v hhead,
      ← oneLine_values (w :: rest) htail]
    simp +decide

end

end Literal

theorem oneLine_intercalate {sep : String} (hsep : OneLine sep) :
    ∀ ts : List String, OneLine (sep.intercalate ts) ↔ ∀ t ∈ ts, OneLine t
  | [] => by simp +decide
  | [t] => by simp
  | t :: u :: ts => by
    rw [String.intercalate_cons_cons, oneLine_append, oneLine_append, oneLine_intercalate hsep (u :: ts),
      List.forall_mem_cons]
    simp [hsep]

/-- A parameter left out as equal to its fallback formats no string. -/
theorem flatMap_strings_filter : ∀ ps : List Param,
    (ps.filter fun p => !p.elided).flatMap Param.strings = ps.flatMap Param.strings
  | [] => rfl
  | p :: ps => by
    rw [List.filter_cons, List.flatMap_cons, ← flatMap_strings_filter ps]
    cases he : p.elided
    · simp
    · simp [Param.strings, he]

namespace Param

/-- A parameter's text is one line exactly when the strings it formats are; an angle is written in
degrees, a value with no strings. -/
theorem oneLine_text {p : Param} {t : String} (hname : OneLine p.parameter) (he : p.elided = false)
    (h : p.text = .ok t) : OneLine t ↔ ∀ s ∈ p.strings, OneLine s := by
  unfold Param.text at h
  obtain ⟨v, hv, h⟩ := Outcome.bind_eq_ok.1 h
  cases h
  rw [oneLine_append, oneLine_append, Literal.oneLine_value _ hv]
  unfold Param.strings
  cases ha : p.angle
  · simp +decide [he, hname]
  · simp +decide [he, hname, Angle.strings_valueToDegrees]

end Param

theorem oneLine_mapM_text {qs : List Param} {texts : List String}
    (hqs : ∀ p ∈ qs, OneLine p.parameter ∧ p.elided = false)
    (h : List.Forall₂ (fun p t => p.text = .ok t) qs texts) :
    (∀ t ∈ texts, OneLine t) ↔ ∀ s ∈ qs.flatMap Param.strings, OneLine s := by
  induction h with
  | nil => simp
  | @cons p _ _ _ hp _ ih =>
    have hp' := hqs p (List.mem_cons_self ..)
    rw [List.forall_mem_cons, List.flatMap_cons, List.forall_mem_append, Param.oneLine_text hp'.1 hp'.2 hp,
      ih fun q hq => hqs q (List.mem_cons_of_mem _ hq)]

/-- **A parameter list is written on one line exactly when the strings it formats are.** -/
theorem oneLine_paramsText {ps : List Param} (hnames : ∀ p ∈ ps, OneLine p.parameter) {t : String}
    (h : paramsText ps = .ok t) : OneLine t ↔ ∀ s ∈ ps.flatMap Param.strings, OneLine s := by
  unfold paramsText at h
  obtain ⟨texts, htexts, h⟩ := Outcome.bind_eq_ok.1 h
  cases h
  rw [oneLine_intercalate (by decide), ← flatMap_strings_filter]
  refine oneLine_mapM_text (fun p hp => ?_) (Outcome.mapM_eq_ok_iff.1 htexts)
  rw [List.mem_filter, Bool.not_eq_true'] at hp
  exact ⟨hnames p hp.1, hp.2⟩

theorem Shape.oneLine_parameters (s : Shape) : ∀ p ∈ s.params, OneLine p.parameter := by
  cases s <;> simp +decide [Shape.params, Param.required, Param.renamed, Param.optional, Param.flag,
    Param.convexity]

theorem Operation.oneLine_parameters (op : Operation) : ∀ p ∈ op.params, OneLine p.parameter := by
  cases op with
  | linearExtrude e =>
    simp only [Operation.params]
    split <;> simp +decide [Param.required, Param.optional, Param.flag, Param.convexity]
  | _ => simp +decide [Operation.params, Param.renamed, Param.optional, Param.flag, Param.convexity]

theorem Shape.oneLine_keyword (s : Shape) : OneLine s.keyword := by
  cases s <;> simp only [Shape.keyword] <;> decide

theorem Operation.oneLine_keyword (op : Operation) : OneLine op.keyword := by
  cases op with
  | combine c _ => cases c <;> simp only [Operation.keyword] <;> decide
  | _ =>
    simp only [Operation.keyword]
    decide

theorem Modifier.oneLine_symbol (m : Modifier) : OneLine m.symbol := by
  cases m <;> simp only [Modifier.symbol] <;> decide

/-- A block is on physical lines exactly when its lead and the lines of its body are. -/
theorem oneLine_block {lead : String} {empty : Bool} {body : List String} (hbody : empty = true → body = []) :
    (∀ l ∈ block lead empty body, OneLine l) ↔ OneLine lead ∧ ∀ l ∈ body, OneLine l := by
  unfold block
  cases empty
  · simp +decide [indentation, or_imp, forall_and]
  · simp +decide [hbody rfl]

theorem oneLine_prefixFirst {symbol : String} (hsym : OneLine symbol) :
    ∀ L : List String, (∀ l ∈ prefixFirst symbol L, OneLine l) ↔ ∀ l ∈ L, OneLine l
  | [] => by simp [prefixFirst]
  | l :: rest => by simp [prefixFirst, hsym]

theorem oneLine_commentLines (ls : List String) :
    (∀ l ∈ commentLines ls, OneLine l) ↔ ∀ l ∈ ls, OneLine l := by
  simp +decide [commentLines]

theorem oneLine_specialLine {name line : String} {preview render : Option Value}
    (h : specialLine name preview render = .ok line) :
    OneLine line ↔ OneLine name ∧ ∀ s ∈ specialStrings preview render, OneLine s := by
  unfold specialLine at h
  split at h
  · cases h
    simp +decide [specialStrings]
  · obtain ⟨v, hv, h⟩ := Outcome.bind_eq_ok.1 h
    cases h
    simp +decide [specialStrings, Literal.oneLine_value _ hv]
  · obtain ⟨r, hr, h⟩ := Outcome.bind_eq_ok.1 h
    obtain ⟨p, hp, h⟩ := Outcome.bind_eq_ok.1 h
    cases h
    simp +decide only [specialStrings, oneLine_append, Literal.oneLine_value _ hr, Literal.oneLine_value _ hp,
      List.forall_mem_append, and_true]
    tauto

namespace Expr

mutual

/-- The texts a tree copies into its lines as they stand: the names of modules and special
variables, comment lines, and the strings it writes between double quotes. -/
def texts : Expr → List String
  | .shape s => s.params.flatMap Param.strings
  | .projection c _ | .modify _ _ c => texts c
  | .apply op cs => op.params.flatMap Param.strings ++ textsList cs
  | .define _ name cs | .call _ name cs => name :: textsList cs
  | .callFree name => [name]
  | .callerChildren => []
  | .comment ls => ls
  | .commented _ ls subject => ls ++ texts subject
  | .special name preview render => name :: specialStrings preview render
  | .echo content => Value.stringsList content

/-- The texts a list of trees copies into its lines, one tree after another. -/
def textsList : List Expr → List String
  | [] => []
  | e :: es => texts e ++ textsList es

end

theorem linesList_eq_nil {cs : List Expr} {body : List String} (h : linesList cs = .ok body)
    (he : cs.isEmpty = true) : body = [] := by
  rw [List.isEmpty_iff.1 he, linesList] at h
  cases h
  rfl

mutual

/-- **A tree's lines are physical lines exactly when the texts it copies are.** -/
theorem lines_oneLine_iff : ∀ (e : Expr) {L : List String}, e.lines = .ok L →
    ((∀ l ∈ L, OneLine l) ↔ ∀ t ∈ e.texts, OneLine t)
  | .shape s, _, h => by
    rw [lines] at h
    obtain ⟨_, -, h⟩ := Outcome.bind_eq_ok.1 h
    obtain ⟨ps, hps, h⟩ := Outcome.bind_eq_ok.1 h
    cases h
    simp +decide [texts, oneLine_paramsText s.oneLine_parameters hps, s.oneLine_keyword]
  | .projection c _, _, h => by
    rw [lines] at h
    obtain ⟨ps, hps, h⟩ := Outcome.bind_eq_ok.1 h
    obtain ⟨body, hbody, h⟩ := Outcome.bind_eq_ok.1 h
    cases h
    have hcut := oneLine_paramsText (by simp +decide [Param.flag, Param.optional]) hps
    simp only [List.flatMap_cons, List.flatMap_nil, Param.strings, Param.flag, Param.optional, Value.strings,
      List.append_nil, ite_self, List.not_mem_nil, IsEmpty.forall_iff, implies_true, iff_true] at hcut
    rw [oneLine_block (by simp), lines_oneLine_iff c hbody, texts]
    simp +decide [hcut]
  | .apply op cs, _, h => by
    rw [lines] at h
    obtain ⟨ps, hps, h⟩ := Outcome.bind_eq_ok.1 h
    obtain ⟨body, hbody, h⟩ := Outcome.bind_eq_ok.1 h
    cases h
    rw [oneLine_block (linesList_eq_nil hbody), linesList_oneLine_iff cs hbody, texts, List.forall_mem_append]
    simp +decide [oneLine_paramsText op.oneLine_parameters hps, op.oneLine_keyword]
  | .modify m _ c, _, h => by
    rw [lines] at h
    obtain ⟨body, hbody, h⟩ := Outcome.bind_eq_ok.1 h
    cases h
    rw [oneLine_prefixFirst m.oneLine_symbol, lines_oneLine_iff c hbody, texts]
  | .define _ _ cs, _, h | .call _ _ cs, _, h => by
    rw [lines] at h
    obtain ⟨body, hbody, h⟩ := Outcome.bind_eq_ok.1 h
    cases h
    rw [oneLine_block (linesList_eq_nil hbody), linesList_oneLine_iff cs hbody, texts, List.forall_mem_cons]
    simp +decide
  | .callFree _, _, h => by
    rw [lines] at h
    cases h
    simp +decide [texts]
  | .callerChildren, _, h => by
    rw [lines] at h
    cases h
    simp +decide
  | .comment ls, _, h => by
    rw [lines] at h
    cases h
    rw [oneLine_commentLines, texts]
  | .commented _ ls subject, _, h => by
    rw [lines] at h
    obtain ⟨body, hbody, h⟩ := Outcome.bind_eq_ok.1 h
    cases h
    rw [List.forall_mem_append, oneLine_commentLines, lines_oneLine_iff subject hbody, texts,
      List.forall_mem_append]
  | .special _ _ _, _, h => by
    rw [lines] at h
    obtain ⟨line, hline, h⟩ := Outcome.bind_eq_ok.1 h
    cases h
    rw [List.forall_mem_singleton, oneLine_specialLine hline, texts, List.forall_mem_cons]
  | .echo content, _, h => by
    rw [lines] at h
    obtain ⟨vs, hvs, h⟩ := Outcome.bind_eq_ok.1 h
    cases h
    simp +decide [texts, Literal.oneLine_values content hvs]

theorem linesList_oneLine_iff : ∀ (es : List Expr) {L : List String}, linesList es = .ok L →
    ((∀ l ∈ L, OneLine l) ↔ ∀ t ∈ textsList es, OneLine t)
  | [], _, h => by
    rw [linesList] at h
    cases h
    simp [textsList]
  | e :: es, _, h => by
    rw [linesList] at h
    obtain ⟨first, hfirst, h⟩ := Outcome.bind_eq_ok.1 h
    obtain ⟨others, hothers, h⟩ := Outcome.bind_eq_ok.1 h
    cases h
    rw [List.forall_mem_append, lines_oneLine_iff e hfirst, linesList_oneLine_iff es hothers, textsList,
      List.forall_mem_append]

end

/-- The text of lines each ending in a line break, then a blank line, read back line by line. -/
theorem splitOn_lineBreaks : ∀ L : List String, (∀ l ∈ L, OneLine l) →
    (String.join (L.map (· ++ "\n")) ++ "\n").toList.splitOn '\n' = (L ++ ["", ""]).map String.toList
  | [], _ => by decide
  | l :: L, h => by
    rw [List.forall_mem_cons] at h
    have hl : '\n' ∉ l.toList := fun hn => (h.1 _ hn).1 rfl
    have hbreak : "\n".toList = ['\n'] := rfl
    have ih := splitOn_lineBreaks L h.2
    simp only [List.map_cons, String.join_cons, String.toList_append, List.append_assoc, hbreak,
      List.cons_append, List.nil_append] at ih ⊢
    rw [List.splitOn_append_cons_self_of_not_mem hl, ih]

/-- **Written lines stay lines**: a tree's lines are physical lines exactly when the texts it
copies are — the names of its modules and special variables, its comment lines and the strings it
quotes — and then its text in a file, read line by line, gives back its lines and a blank line. -/
theorem lines_oneLine_iff_texts (e : Expr) (L : List String) (h : e.lines = .ok L) :
    ((∀ l ∈ L, OneLine l) ↔ ∀ t ∈ e.texts, OneLine t) ∧
    ((∀ t ∈ e.texts, OneLine t) →
      ∃ text, e.fileText = .ok text ∧ text.toList.splitOn '\n' = (L ++ ["", ""]).map String.toList) := by
  refine ⟨lines_oneLine_iff e h, fun htexts => ⟨_, ?_, splitOn_lineBreaks L ((lines_oneLine_iff e h).2 htexts)⟩⟩
  rw [fileText, h]
  rfl

/-- Two comment lines are written as two physical lines, and read back from the file as such. -/
theorem two_comment_lines_read_back :
    (Expr.comment ["a", "b"]).lines = .ok ["// a", "// b"] ∧
    (((∀ l ∈ ["// a", "// b"], OneLine l) ↔ ∀ t ∈ (Expr.comment ["a", "b"]).texts, OneLine t) ∧
      ((∀ t ∈ (Expr.comment ["a", "b"]).texts, OneLine t) →
        ∃ text, (Expr.comment ["a", "b"]).fileText = .ok text ∧
          text.toList.splitOn '\n' = (["// a", "// b"] ++ ["", ""]).map String.toList)) :=
  ⟨rfl, lines_oneLine_iff_texts _ _ rfl⟩

/-- A string with a line feed passes the quoting test, and the `echo` of it spans two lines. -/
theorem echo_string_breaks_line :
    (Expr.echo [.str "a\nb"]).lines = .ok ["echo(\"a\nb\");"] ∧ ¬ OneLine "echo(\"a\nb\");" := by
  constructor
  · simp [lines, Literal.values, Literal.value, Literal.string, ShellWords.split, ShellWords.scan, bind,
      Except.bind]
  · decide

end Expr

end CsgScript
