import CsgScript.Number.Binary
/-!
# Reading number text

The text of a double, as the C library reads one, must be read whole:

* leading blanks (the six of the C locale) are skipped, then an optional sign;
* a decimal number is digits with an optional point, at least one digit in all, and an optional
  exponent `e` or `E` with its own sign and at least one digit;
* a hexadecimal number is `0x` or `0X`, hex digits with an optional point, at least one hex digit
  in all, and an optional binary exponent `p` or `P` with its own sign and at least one digit;
* `inf`, `infinity` and `nan` are read in any case; `nan` may be followed by a parenthesised run
  of letters, digits and underscores, which does not change the value.

A number is the double nearest to its exact value; the sign applies to NaNs and zeros too.
Anything left over after the longest such number makes the text no number at all.
-/

namespace CsgScript

namespace NumberRead

/-- The blanks of the C locale. -/
def isBlank (c : Char) : Bool :=
  c = ' ' ∨ c = '\t' ∨ c = '\n' ∨ c = '\x0b' ∨ c = '\x0c' ∨ c = '\r'

/-- The value of a hexadecimal digit, if the character is one. -/
def hexValue (c : Char) : Option Nat :=
  if c.isDigit then some (c.toNat - '0'.toNat)
  else if 'a' ≤ c ∧ c ≤ 'f' then some (c.toNat - 'a'.toNat + 10)
  else if 'A' ≤ c ∧ c ≤ 'F' then some (c.toNat - 'A'.toNat + 10)
  else none

/-- The value of a digit in a base (10 or 16), if the character is one. -/
def digitIn (base : Nat) (c : Char) : Option Nat :=
  if base = 16 then hexValue c else if c.isDigit then some (c.toNat - '0'.toNat) else none

/-- The leading digits of a text in a base, as a number with their count, and the rest. -/
def digits (base : Nat) : List Char → Nat → Nat → Nat × Nat × List Char
  | c :: rest, value, count =>
    match digitIn base c with
    | some d => digits base rest (base * value + d) (count + 1)
    | none => (value, count, c :: rest)
  | [], value, count => (value, count, [])

/-- An optional sign: whether it is a minus, and the rest. -/
def sign : List Char → Bool × List Char
  | '-' :: rest => (true, rest)
  | '+' :: rest => (false, rest)
  | cs => (false, cs)

/-- An exponent that ends the text: a mark, an optional sign and at least one digit; with no
text left it is zero. -/
def exponent (marks : List Char) : List Char → Option Int
  | [] => some 0
  | c :: rest =>
    if c ∈ marks then
      let (negative, rest) := sign rest
      match digits 10 rest 0 0 with
      | (value, count, []) => if count = 0 then none else some (if negative then -(value : Int) else value)
      | _ => none
    else none

/-- A significand in a base: digits with an optional point; its digits as one number, the count
of digits after the point, and the rest, when there is at least one digit. -/
def significand (base : Nat) (cs : List Char) : Option (Nat × Nat × List Char) :=
  let (whole, wholeCount, rest) := digits base cs 0 0
  let (all, fracCount, rest) := match rest with
    | '.' :: more => digits base more whole 0
    | _ => (whole, 0, rest)
  if wholeCount + fracCount = 0 then none else some (all, fracCount, rest)

/-- Decimal magnitudes beyond which every nonzero number is an infinity or a zero. -/
def decimalBound : Int := 400

/-- Binary magnitudes beyond which every nonzero number is an infinity or a zero. -/
def binaryBound : Int := 1200

/-- The double nearest to `± n · 10^e`; far beyond the range of doubles it is an infinity or a
zero without computing `10^e`. -/
def decimal (negative : Bool) (n : Nat) (e : Int) : Binary64 :=
  let length : Int := (toString n).length
  if n = 0 then Binary64.zero negative
  else if e + length > decimalBound then Binary64.infinity negative
  else if e + length < -decimalBound then Binary64.zero negative
  else if 0 ≤ e then Binary64.nearest negative (n * Nat.pow 10 e.toNat) 1
  else Binary64.nearest negative n (Nat.pow 10 (-e).toNat)

/-- The double nearest to `± n · 2^e`, likewise bounded. -/
def binary (negative : Bool) (n : Nat) (e : Int) : Binary64 :=
  let length : Int := Nat.log2 n + 1
  if n = 0 then Binary64.zero negative
  else if e + length > binaryBound then Binary64.infinity negative
  else if e + length < -binaryBound then Binary64.zero negative
  else if 0 ≤ e then Binary64.nearest negative (n * Nat.pow 2 e.toNat) 1
  else Binary64.nearest negative n (Nat.pow 2 (-e).toNat)

/-- Whether a character may stand in the parentheses after `nan`. -/
def isNanChar (c : Char) : Bool := c.isAlphanum || c = '_'

/-- Whether what follows `nan` is nothing, or a closed parenthesised run of its characters. -/
def nanTail : List Char → Bool
  | [] => true
  | '(' :: rest => match rest.dropWhile isNanChar with
    | [')'] => true
    | _ => false
  | _ => false

/-- The double of an unsigned number text, read whole. -/
def unsigned (negative : Bool) (cs : List Char) : Option Binary64 :=
  let lower := cs.map Char.toLower
  if lower = "inf".toList ∨ lower = "infinity".toList then some (Binary64.infinity negative)
  else if lower.take 3 = "nan".toList ∧ nanTail (cs.drop 3) then some (Binary64.quietNaN negative)
  else match cs with
    | '0' :: x :: rest =>
      if x = 'x' ∨ x = 'X' then
        match significand 16 rest with
        | some (n, fracCount, rest) => match exponent ['p', 'P'] rest with
          | some e => some (binary negative n (e - 4 * fracCount))
          | none => none
        | none => none
      else decimalText negative cs
    | _ => decimalText negative cs
where
  /-- The double of a decimal number text, read whole. -/
  decimalText (negative : Bool) (cs : List Char) : Option Binary64 :=
    match significand 10 cs with
    | some (n, fracCount, rest) => match exponent ['e', 'E'] rest with
      | some e => some (decimal negative n (e - fracCount))
      | none => none
    | none => none

end NumberRead

open NumberRead in
/-- The double a number text stands for, if the whole text is one. -/
def Binary64.ofText? (text : String) : Option Binary64 :=
  let (negative, rest) := sign (text.toList.dropWhile isBlank)
  unsigned negative rest

end CsgScript
