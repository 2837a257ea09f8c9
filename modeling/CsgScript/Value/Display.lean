import CsgScript.Value.Basic
import CsgScript.Number.Text
/-!
# Values as messages show them

`Value.display` is the loose text of a value used in messages: booleans as `true`/`false`,
integers in decimal, reals with six significant digits, strings as they are, and lists as
`[a, b]`.  `Value.quote` puts that text in curly quotes with the kind's name after it, and cuts
a text longer than 30 bytes to its first 20 bytes — a cut that can split a character, so a quote
is a byte string.
-/

namespace CsgScript

/-- The UTF-8 bytes of a string. -/
def utf8 (s : String) : List UInt8 := s.toUTF8.toList

namespace Value

mutual

/-- The text of a value in messages. -/
def display : Value → String
  | .bool b => if b then "true" else "false"
  | .int n => DecimalText.ofInt n.toInt
  | .real x => x.generalText
  | .str s => s
  | .list items => "[" ++ displayList items ++ "]"

/-- The texts of list members, separated by a comma and a space. -/
def displayList : List Value → String
  | [] => ""
  | [v] => display v
  | v :: rest => display v ++ ", " ++ displayList rest

end

/-- Texts longer than this many bytes are cut in a quote. -/
def quoteLimit : Nat := 30

/-- How many bytes of a long text a quote keeps. -/
def quoteKeep : Nat := 20

/-- A value for a message: `“text” of type T`, or `“first 20 bytes...” (truncated) of type T`
when the text is longer than 30 bytes. -/
def quote (v : Value) : List UInt8 :=
  let text := utf8 (display v)
  let kind := utf8 ("of type " ++ v.typeName)
  if text.length > quoteLimit then
    utf8 "“" ++ text.take quoteKeep ++ utf8 "...” (truncated) " ++ kind
  else utf8 "“" ++ text ++ utf8 "” " ++ kind

end Value

end CsgScript
