import CsgScript.Value.Display
import CsgScript.Dimension
/-!
# Faults

Every way building, writing or running can fail, as one inductive type of causes.  The wording
of each is in `Fault.message`, and `Fault.kind` sorts them into the families callers tell apart:
a malformed construction, a dimension that cannot be inferred or does not fit, a value where an
expression belongs, a string that needs escapes, a misused operator, and faults of the
environment.  Messages are byte strings because a quoted value may be cut inside a character,
and they end before the first NUL, as NUL-terminated strings do.
-/

namespace CsgScript

/-- The lists of point indices a shape carries: polygon paths or polyhedron faces. -/
inductive IndexedPart where
  | path
  | face
  deriving DecidableEq, Repr

/-- How a list of indices is called in messages. -/
def IndexedPart.name : IndexedPart → String
  | .path => "path"
  | .face => "face"

/-- The fewest indices a list must have: one for a path, three for a face. -/
def IndexedPart.minimum : IndexedPart → Nat
  | .path => 1
  | .face => 3

/-- Why a directory could not be made: a file stands on its path where a directory is needed, the
path or a name on it is too long, or a file stands where a directory was to be made. -/
inductive DirectoryTrouble where
  | notADirectory
  | nameTooLong
  | fileExists
  deriving DecidableEq, Repr

/-- How the system describes the trouble. -/
def DirectoryTrouble.text : DirectoryTrouble → String
  | .notADirectory => "Not a directory"
  | .nameTooLong => "File name too long"
  | .fileExists => "File exists"

/-- Why an operation failed. -/
inductive Fault where
  /-- The index list in place `place` (from 1) has only `count` indices. -/
  | tooFewIndices (part : IndexedPart) (place count : Nat)
  /-- An index of the list in place `place` names no point of the `points` given. -/
  | indexOutOfRange (part : IndexedPart) (index : Int) (place points : Nat)
  /-- A modifier was given `count` expressions instead of one. -/
  | modifierArity (count : Nat)
  /-- An imported file's suffix names no known format. -/
  | unknownSuffix (file : String)
  /-- A linear extrusion without a height. -/
  | missingHeight
  /-- A rounded offset cannot also be chamfered. -/
  | chamferedRounding
  /-- A module definition needs a body. -/
  | emptyModule (name : String)
  /-- An argument of a length other than 2 or 3 implies no dimension. -/
  | argumentLength (verb : String) (several : Bool) (argument : List Binary64)
  /-- Planar and solid expressions met; `lone` is the place (from 1), count and dimension of the
  one member that differs from all others, when there is exactly one. -/
  | mixedDimensions (verb : String) (lone : Option (Nat × Nat × Dim))
  /-- The argument's length implies one dimension and the expressions have the other. -/
  | argumentMismatch (verb : String) (several : Bool) (argument : List Binary64)
  /-- The expression in place `place` (from 1) of `count` has a dimension the verb refuses. -/
  | forbiddenDimension (verb : String) (d : Dimensionality) (place count : Nat)
  /-- A value stands where an expression is needed. -/
  | notExpression (verb : String) (value : Value)
  /-- A string that does not close when written in double quotes. -/
  | unclosedString (s : String)
  /-- A string that reads as more than one word when written in double quotes. -/
  | severalStrings (s : String)
  /-- A string that reads back differently when written in double quotes. -/
  | escapesNeeded (s : String)
  /-- A sum of something other than numbers or vectors. -/
  | sumOfShapes
  /-- A difference of nothing. -/
  | emptyDifference
  /-- A product of shapes with other than one operand. -/
  | productArity
  /-- A quotient of nothing. -/
  | emptyQuotient
  /-- A quotient of something other than numbers. -/
  | quotientOfShapes
  /-- A division by zero. -/
  | divisionByZero
  /-- A file could not be written. -/
  | cannotWrite (path : String)
  /-- A directory, or one above it, could not be made. -/
  | cannotMakeDirectory (trouble : DirectoryTrouble) (path : String)
  /-- A file could not be opened. -/
  | cannotOpen (path : String)
  /-- A configuration file this library does not read. -/
  | unreadableConfiguration (path : String)
  /-- A command line option that does not exist. -/
  | unknownOption (arg : String)
  /-- A command line option given without its operand. -/
  | missingOperand (option : String)
  deriving Inhabited

/-- The families of faults. -/
inductive Fault.Kind where
  | construction
  | dimensionZero
  | dimensionMismatch
  | expressionType
  | stringEncoding
  | operator
  | environment
  deriving DecidableEq, Repr

namespace Fault

/-- The family of a fault. -/
def kind : Fault → Kind
  | .tooFewIndices .. | .indexOutOfRange .. | .modifierArity _ | .unknownSuffix _
  | .missingHeight | .chamferedRounding | .emptyModule _ => .construction
  | .argumentLength .. => .dimensionZero
  | .mixedDimensions .. | .argumentMismatch .. | .forbiddenDimension .. => .dimensionMismatch
  | .notExpression .. => .expressionType
  | .unclosedString _ | .severalStrings _ | .escapesNeeded _ => .stringEncoding
  | .sumOfShapes | .emptyDifference | .productArity | .emptyQuotient | .quotientOfShapes
  | .divisionByZero => .operator
  | .cannotWrite _ | .cannotMakeDirectory .. | .cannotOpen _ | .unreadableConfiguration _
  | .unknownOption _
  | .missingOperand _ => .environment

/-- The word `expression`, or `expressions` for several. -/
def expressionWord (several : Bool) : String :=
  if several then "expressions" else "expression"

/-- An argument vector as messages show it. -/
def argumentText (argument : List Binary64) : String :=
  s!"{argument.length}D argument {(Value.ofReals argument).display}"

/-- The dimension an argument of this length does not imply, for a mismatch. -/
def otherDimension (argument : List Binary64) : String :=
  if argument.length = 2 then "3D" else "2D"

/-- The message of a fault whose text has no quoted value. -/
def text : Fault → String
  | .tooFewIndices part place count =>
    s!"The {part.name} in place {place} has {count} indices; at least {part.minimum} are needed."
  | .indexOutOfRange part index place points =>
    s!"Index {index} in {part.name} {place} is out of range for {points} points."
  | .modifierArity count => s!"A modifier takes exactly one expression, not {count}."
  | .unknownSuffix file => s!"Unknown file suffix for {file}."
  | .missingHeight => "Cannot extrude linearly without a height."
  | .chamferedRounding => "Cannot chamfer a rounded offset."
  | .emptyModule name => s!"Cannot define module “{name}” without children."
  | .argumentLength verb several argument =>
    s!"Cannot {verb} OpenSCAD {expressionWord several} with {argumentText argument}."
  | .mixedDimensions verb lone =>
    let head := s!"Cannot {verb} mixed 2D and 3D expressions."
    match lone with
    | none => head
    | some (place, count, d) => head ++ s!" One, in place {place} of {count}, is {d.name}."
  | .argumentMismatch verb several argument =>
    s!"Cannot {verb} {otherDimension argument} OpenSCAD {expressionWord several} with " ++
      s!"{argumentText argument}."
  | .forbiddenDimension verb d place count =>
    s!"Cannot {verb} {d.name} OpenSCAD expressions. One, in place {place} of {count}, is " ++
      s!"{d.name}."
  | .notExpression verb _ => s!"Cannot {verb} non-OpenSCAD expression"
  | .unclosedString s => s!"String “{s}” has no closing quotation."
  | .severalStrings s => s!"String “{s}” would form multiple OpenSCAD strings."
  | .escapesNeeded s => s!"String “{s}” cannot be an OpenSCAD string without escape codes."
  | .sumOfShapes => "“+” is mathematical. Use “|” for unions."
  | .emptyDifference => "“-” requires at least one operand."
  | .productArity => "Non-numeric “*” requires exactly one operand."
  | .emptyQuotient => "“/” requires at least one operand."
  | .quotientOfShapes => "“/” is mathematical. Numbers only."
  | .divisionByZero => "Division by zero."
  | .cannotWrite path => s!"Cannot write to file: {path}"
  | .cannotMakeDirectory trouble path =>
    s!"filesystem error: cannot create directories: {trouble.text} [{path}]"
  | .cannotOpen path => s!"Cannot open file: {path}"
  | .unreadableConfiguration path => s!"Cannot parse configuration {path}: not supported"
  | .unknownOption arg => s!"Unknown option: {arg}"
  | .missingOperand option => s!"{option} requires an argument"

/-- The full text of a fault, as bytes. -/
def fullText : Fault → List UInt8
  | f@(.notExpression _ value) => utf8 f.text ++ utf8 " " ++ value.quote ++ utf8 "."
  | f => utf8 f.text

/-- The message of a fault, as bytes.  A message is handed on as a NUL-terminated string, so it
ends before the first NUL of its full text. -/
def message (f : Fault) : List UInt8 := f.fullText.takeWhile (· ≠ 0)

end Fault

end CsgScript
