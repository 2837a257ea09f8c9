/-!
# Shell words

A text split into words as a POSIX shell splits a command line, without expansions: blanks
separate words; a backslash takes the next character literally; single quotes keep everything up
to the next single quote; double quotes keep everything up to the next double quote, except that a
backslash before `"` or `\` stands for that character.  Quotes do not end a word, so `a"b c"d` is
one word, and `""` is an empty word.  A text that ends inside quotes or right after a backslash is
not closed; its words are those completed before that point.

The blanks are the six of the C locale: space, tab, line feed, vertical tab, form feed and
carriage return.
-/

namespace CsgScript

/-- The words of a text, and whether every quote and escape in it was closed. -/
structure ShellWords where
  words : List String
  closed : Bool
  deriving DecidableEq, Repr

namespace ShellWords

/-- The blanks of the C locale. -/
def isBlank (c : Char) : Bool :=
  c = ' ' ∨ c = '\t' ∨ c = '\n' ∨ c = '\x0b' ∨ c = '\x0c' ∨ c = '\r'

/-- Every character that core counts as whitespace is a blank. -/
theorem isBlank_of_isWhitespace {c : Char} (h : c.isWhitespace = true) : isBlank c = true := by
  simp only [Char.isWhitespace, Bool.or_eq_true, decide_eq_true_eq] at h
  rcases h with ((rfl | rfl) | rfl) | rfl <;> decide

/-- Where the reader stands: between words, in a word, or inside double or single quotes. -/
inductive Mode where
  | between
  | word
  | double
  | single
  deriving DecidableEq, Repr

/-- Reads on from a mode, with the current word's characters (reversed) and the words done
(reversed). -/
def scan : Mode → List Char → List Char → List String → ShellWords
  | .double, [], _, done => ⟨done.reverse, false⟩
  | .single, [], _, done => ⟨done.reverse, false⟩
  | .word, [], w, done => ⟨(String.ofList w.reverse :: done).reverse, true⟩
  | .between, [], _, done => ⟨done.reverse, true⟩
  | .double, '\\' :: tail@(d :: rest), w, done =>
    if d = '"' ∨ d = '\\' then scan .double rest (d :: w) done
    else scan .double tail ('\\' :: w) done
  | .double, '"' :: rest, w, done => scan .word rest w done
  | .double, c :: rest, w, done => scan .double rest (c :: w) done
  | .single, '\'' :: rest, w, done => scan .word rest w done
  | .single, c :: rest, w, done => scan .single rest (c :: w) done
  | _, '"' :: rest, w, done => scan .double rest w done
  | _, '\'' :: rest, w, done => scan .single rest w done
  | _, '\\' :: d :: rest, w, done => scan .word rest (d :: w) done
  | _, ['\\'], _, done => ⟨done.reverse, false⟩
  | m, c :: rest, w, done =>
    if isBlank c then
      if m = .word then scan .between rest [] (String.ofList w.reverse :: done)
      else scan .between rest w done
    else scan .word rest (c :: w) done

end ShellWords

/-- The shell words of a text. -/
def ShellWords.split (text : String) : ShellWords :=
  ShellWords.scan .between text.toList [] []

end CsgScript
