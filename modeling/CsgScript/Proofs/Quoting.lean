import CsgScript.Proofs.Checks
import Mathlib
/-!
# Quoting — a string in double quotes reads back as itself exactly when it needs no escapes

A string is written in OpenSCAD text between double quotes, with no escape codes, and the writer
refuses it unless the quoted text splits, as a shell splits words, into one closed word equal to
the string.  That happens exactly when the string holds no double quote and no two backslashes in
a row and does not end with a backslash (`EscapeFree`, `string_quotes_iff_escapeFree`).

One way is a plain reading: inside double quotes such a text is kept as it stands, a backslash
with the character after it (`scan_double_of_escapeFree`).  The other is a count.  A closed reading
keeps at most one character of the text per character it reads, and one fewer when the text ends
with a double quote (`scan_size_le`): a double quote opens or closes a quotation and is lost, and
an escape keeps one character of two.  After the opening quote the reader has the string and the
closing quote before it, and must keep every character of the string; so no character may be lost
before the closing quote, which rules out a quote in the string, an escaped quote or backslash, and
a backslash that escapes the closing quote (`escapeFree_of_scan_double`).
-/
namespace CsgScript

namespace ShellWords

/-- The number of characters in a list of words. -/
def size (ws : List String) : Nat := (ws.map String.length).sum

@[simp] theorem size_nil : size [] = 0 := rfl

@[simp] theorem size_cons (s : String) (ws : List String) : size (s :: ws) = s.length + size ws := by
  simp [size]

@[simp] theorem size_append (ws vs : List String) : size (ws ++ vs) = size ws + size vs := by
  simp [size]

@[simp] theorem size_reverse (ws : List String) : size ws.reverse = size ws := by
  simp [size, List.map_reverse, List.sum_reverse]

/-- One for a text that ends with a double quote, else zero. -/
def endsInQuote (t : List Char) : Nat := if t.getLast? = some '"' then 1 else 0

@[simp] theorem endsInQuote_nil : endsInQuote [] = 0 := rfl

@[simp] theorem endsInQuote_singleton (c : Char) : endsInQuote [c] = if c = '"' then 1 else 0 := by
  simp [endsInQuote]

@[simp] theorem endsInQuote_cons_cons (c d : Char) (t : List Char) :
    endsInQuote (c :: d :: t) = endsInQuote (d :: t) := by
  simp [endsInQuote, List.getLast?_cons]

@[simp] theorem endsInQuote_append_quote (t : List Char) : endsInQuote (t ++ ['"']) = 1 := by
  simp [endsInQuote]

theorem endsInQuote_le_one (t : List Char) : endsInQuote t ≤ 1 := by
  unfold endsInQuote; split <;> omega

end ShellWords

namespace Literal

/-- A text needs no escape codes between double quotes: it holds no double quote and no two
backslashes in a row, and it does not end with a backslash. -/
def EscapeFree (cs : List Char) : Prop :=
  '"' ∉ cs ∧ ¬ ['\\', '\\'] <:+: cs ∧ cs.getLast? ≠ some '\\'

instance (cs : List Char) : Decidable (EscapeFree cs) := inferInstanceAs (Decidable (_ ∧ _ ∧ _))

example : EscapeFree "C:\\tmp\\a b".toList ∧ ¬ EscapeFree "C:\\tmp\\".toList := by decide

theorem escapeFree_nil : EscapeFree [] := by decide

theorem escapeFree_cons_iff (c : Char) (cs : List Char) :
    EscapeFree (c :: cs) ↔
      c ≠ '"' ∧ EscapeFree cs ∧ (c = '\\' → cs ≠ [] ∧ cs.head? ≠ some '\\') := by
  cases cs with
  | nil =>
    have short : ¬ ['\\', '\\'] <:+: [c] := fun h => by simpa using h.length_le
    unfold EscapeFree
    rw [List.mem_singleton, List.getLast?_singleton]
    constructor
    · rintro ⟨hq, -, hb⟩
      exact ⟨fun h => hq h.symm, escapeFree_nil, fun h => absurd (congrArg some h) hb⟩
    · rintro ⟨hq, -, hb⟩
      exact ⟨fun h => hq h.symm, short, fun h => (hb (Option.some.inj h)).1 rfl⟩
  | cons d ds =>
    have hpre : ['\\', '\\'] <+: c :: d :: ds ↔ c = '\\' ∧ d = '\\' := by
      rw [List.cons_prefix_cons, List.cons_prefix_cons]
      exact ⟨fun ⟨h1, h2, _⟩ => ⟨h1.symm, h2.symm⟩, fun ⟨h1, h2⟩ => ⟨h1.symm, h2.symm, List.nil_prefix⟩⟩
    unfold EscapeFree
    rw [List.infix_cons_iff, hpre, List.getLast?_cons_cons, List.mem_cons]
    simp only [ne_eq, reduceCtorEq, not_false_eq_true, List.head?_cons, Option.some.injEq, true_and]
    tauto

end Literal

namespace ShellWords

open Literal

/-- **A closed reading keeps at most one character of the text per character read**, and one
fewer when the text ends with a double quote: that quote opens or closes a quotation, or is the
second character of an escape. -/
theorem scan_size_le (m : Mode) (t w : List Char) (done : List String)
    (h : (scan m t w done).closed = true) :
    size (scan m t w done).words + endsInQuote t ≤ w.length + size done + t.length := by
  fun_induction scan m t w done with
  | case1 | case2 | case14 => simp at h
  | case3 => simp; omega
  | case4 => simp
  | case5 _ _ _ _ _ ih | case7 _ _ _ ih | case9 _ _ _ ih
  | case11 _ _ _ _ _ _ ih | case12 _ _ _ _ _ _ ih | case13 _ _ _ _ _ _ _ ih =>
    have := ih h
    grind [endsInQuote_le_one]
  | case6 _ _ _ _ _ ih =>
    have := ih h
    grind [endsInQuote_cons_cons]
  | case15 _ _ _ _ _ _ _ _ _ _ _ _ _ _ ih =>
    simp only [List.unattach_reverse, List.unattach_attach] at ih
    have := ih h
    simp only [size_cons, String.length_ofList, List.length_reverse] at this
    grind [endsInQuote_le_one]
  | case16 _ _ _ _ _ _ _ _ _ _ _ _ _ _ _ _ ih =>
    have := ih h
    grind [endsInQuote_le_one]
  | case8 c rest w done _ _ ih | case10 c rest w done _ ih =>
    cases rest with
    | nil => simp [scan] at h
    | cons r rest =>
      have := ih h
      grind [endsInQuote_cons_cons]
  | case17 _ c rest w done _ _ _ _ _ hq _ _ _ _ ih =>
    have := ih h
    cases rest with
    | nil =>
      have hc : c ≠ '"' := hq
      simp [hc] at this ⊢
      omega
    | cons r rest => grind [endsInQuote_cons_cons]


/-- **Inside double quotes, a text that needs no escapes is read as it stands**, up to the quote
that closes it. -/
theorem scan_double_of_escapeFree {v : List Char} (hv : EscapeFree v) (rest w : List Char)
    (done : List String) : scan .double (v ++ '"' :: rest) w done = scan .word rest (v.reverse ++ w) done := by
  induction v generalizing w with
  | nil => simp [scan]
  | cons c v ih =>
    obtain ⟨hq, htail, hb⟩ := (escapeFree_cons_iff c v).1 hv
    by_cases hc : c = '\\'
    · -- a backslash is kept, with the character after it, which is neither a quote nor a backslash
      subst hc
      obtain ⟨hne, hd⟩ := hb rfl
      obtain ⟨d, v', rfl⟩ := List.exists_cons_of_ne_nil hne
      have hdq : d ≠ '"' := ((escapeFree_cons_iff d v').1 htail).1
      have hdb : d ≠ '\\' := by simpa using hd
      rw [List.cons_append, List.cons_append, scan.eq_5, if_neg (by tauto), ← List.cons_append,
        ih htail]
      simp
    · simp [scan, hc, ih htail]

theorem length_le_of_scan_eq {m : Mode} {t w : List Char} {done : List String} {x : String}
    (h : scan m t w done = ⟨[x], true⟩) : x.length + endsInQuote t ≤ w.length + size done + t.length := by
  have := scan_size_le m t w done (by rw [h])
  rwa [h, size_cons, size_nil, Nat.add_zero] at this

/-- A closed reading of a text that ends with a double quote keeps no more characters than it
read before that quote. -/
theorem length_le_of_scan_quoted {m : Mode} {t w x : List Char}
    (h : scan m (t ++ ['"']) w [] = ⟨[String.ofList x], true⟩) : x.length ≤ w.length + t.length := by
  have := length_le_of_scan_eq h
  simp only [String.length_ofList, List.length_append, List.length_cons, List.length_nil,
    endsInQuote_append_quote, size_nil] at this
  omega

/-- **Inside double quotes, a text that is read as it stands needs no escapes**: a double quote in
it, an escaped quote or backslash, or a backslash before the closing quote would each cost a
character. -/
theorem escapeFree_of_scan_double (v : List Char) :
    ∀ w : List Char, scan .double (v ++ ['"']) w [] = ⟨[String.ofList (w.reverse ++ v)], true⟩ →
      EscapeFree v := by
  induction v with
  | nil => exact fun _ _ => escapeFree_nil
  | cons c v ih =>
    intro w h
    by_cases hq : c = '"'
    · subst hq
      rw [List.cons_append, scan.eq_6] at h
      have := length_le_of_scan_quoted h
      simp only [List.length_append, List.length_reverse, List.length_cons] at this
      omega
    by_cases hc : c = '\\'
    · subst hc
      cases v with
      | nil => simp [scan] at h
      | cons d v =>
        by_cases hd : d = '"' ∨ d = '\\'
        · rw [List.cons_append, List.cons_append, scan.eq_5, if_pos hd] at h
          have := length_le_of_scan_quoted h
          simp only [List.length_append, List.length_reverse, List.length_cons] at this
          omega
        · rw [List.cons_append, List.cons_append, scan.eq_5, if_neg hd, ← List.cons_append] at h
          have htail := ih ('\\' :: w) (by simpa using h)
          refine (escapeFree_cons_iff _ _).2 ⟨by decide, htail, fun _ => ⟨List.cons_ne_nil d v, ?_⟩⟩
          simpa using fun h => hd (Or.inr h)
    · rw [List.cons_append, scan.eq_7 _ _ _ _ (fun _ _ h _ => hc h) hq] at h
      exact (escapeFree_cons_iff c v).2 ⟨hq, ih (c :: w) (by simpa using h), fun h => absurd h hc⟩

end ShellWords

namespace Literal

open ShellWords

theorem toList_quoted (s : String) : ("\"" ++ s ++ "\"").toList = '"' :: (s.toList ++ ['"']) := by
  simp [String.toList_append]

/-- **A text in double quotes reads back as that text alone, in one closed word, exactly when it
needs no escapes.** -/
theorem split_quoted_iff (s : String) :
    ShellWords.split ("\"" ++ s ++ "\"") = ⟨[s], true⟩ ↔ EscapeFree s.toList := by
  have hopen : ShellWords.split ("\"" ++ s ++ "\"") = scan .double (s.toList ++ ['"']) [] [] := by
    rw [ShellWords.split, toList_quoted, scan.eq_10 _ _ _ _ (by decide) (by decide)]
  rw [hopen]
  constructor
  · intro h
    exact escapeFree_of_scan_double s.toList [] (by simpa using h)
  · intro h
    rw [scan_double_of_escapeFree h [] [] []]
    simp [scan]

example : ShellWords.split "\"C:\\tmp\\a b\"" = ⟨["C:\\tmp\\a b"], true⟩ := by
  simp [ShellWords.split, scan]

/-- Formatting a string succeeds exactly when its quoted form reads back as it, and then gives
that quoted form. -/
theorem string_eq_ok_iff {s t : String} :
    Literal.string s = .ok t ↔
      t = "\"" ++ s ++ "\"" ∧ ShellWords.split ("\"" ++ s ++ "\"") = ⟨[s], true⟩ := by
  unfold Literal.string
  dsimp only
  generalize ShellWords.split ("\"" ++ s ++ "\"") = r
  rcases r with ⟨words, closed⟩
  cases closed with
  | false => simp
  | true =>
    rcases words with _ | ⟨w, _ | ⟨w', ws⟩⟩
    · simp
    · by_cases hw : w = s
      · subst hw
        simp only [Bool.not_true, Bool.false_eq_true, ↓reduceIte, Except.ok.injEq, and_true]
        exact eq_comm
      · simp [hw]
    · simp

/-- **Formatting a string quotes exactly the strings that need no escapes, and the quoted text reads
back as the string.**  A string is written in double quotes as it stands when it holds no double
quote and no two backslashes in a row and does not end with a backslash; any other string is
refused with a string-encoding fault; and what is written splits into one closed shell word, the
string itself. -/
theorem string_quotes_iff_escapeFree (s : String) :
    (Literal.string s = .ok ("\"" ++ s ++ "\"") ↔ EscapeFree s.toList) ∧
    (¬ EscapeFree s.toList → ∃ f, Literal.string s = .error f ∧ f.kind = .stringEncoding) ∧
    (∀ t, Literal.string s = .ok t →
      (ShellWords.split t).closed = true ∧ (ShellWords.split t).words = [s]) := by
  refine ⟨?_, ?_, ?_⟩
  · rw [string_eq_ok_iff, split_quoted_iff]
    simp
  · intro hs
    cases h : Literal.string s with
    | error f => exact ⟨f, rfl, Check.string_error_kind h⟩
    | ok t => exact absurd ((split_quoted_iff s).1 (string_eq_ok_iff.1 h).2) hs
  · intro t h
    obtain ⟨rfl, hsplit⟩ := string_eq_ok_iff.1 h
    simp [hsplit]

end Literal

end CsgScript
