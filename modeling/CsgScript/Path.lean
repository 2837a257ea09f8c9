/-!
# File paths

Paths are texts with `/` between components.  Joining follows the POSIX rules: a right side that
is absolute replaces the left one, an empty left side gives the right side, and a separator is put
between them unless the left side already ends with one.  The parent of a path drops its last
component and the separators before it, keeping a root `/`.

Two paths are the same path when they have the same root and the same elements: a run of
separators counts as one, and a separator at the end is an empty last element.  So `a//b` and
`a/b` are the same path, while `a/b/` and `a/b` are not, nor are `a/./b` and `a/b`.
-/

namespace CsgScript

namespace Path

/-- Whether a path starts at the root. -/
def isAbsolute (p : String) : Bool := p.startsWith "/"

/-- The right path appended to the left one. -/
def join (left right : String) : String :=
  if isAbsolute right || left.isEmpty then right
  else if left.endsWith "/" then left ++ right
  else left ++ "/" ++ right

/-- An absolute right side replaces the left one. -/
theorem join_of_isAbsolute (left : String) {right : String} (h : isAbsolute right = true) :
    join left right = right := by
  simp [join, h]

/-- The path without its last component and the separators before it; `/` for a component
right below the root, and empty for a single component. -/
def parent (p : String) : String :=
  let cs := p.toList
  let dir := (cs.reverse.dropWhile (· ≠ '/')).reverse
  if dir.isEmpty then ""
  else
    let trimmed := (dir.reverse.dropWhile (· = '/')).reverse
    if trimmed.isEmpty then "/" else String.ofList trimmed

/-- The names between the separators of a path, without empty ones. -/
def names (p : String) : List String := (p.splitOn "/").filter (· ≠ "")

/-- Whether a path starts at the root, and its elements after the root: the names between
separators, and an empty name when it ends with a separator. -/
def elements (p : String) : Bool × List String :=
  let cs := p.toList
  let rest := cs.dropWhile (· = '/')
  let names := ((String.ofList rest).splitOn "/").filter (· ≠ "")
  (decide (cs.head? = some '/'), if !rest.isEmpty && cs.getLast? = some '/' then names ++ [""] else names)

/-- Whether two paths are the same path. -/
def same (p p' : String) : Bool := elements p == elements p'

end Path

/-- A path as written, compared as a path. -/
structure PathName where
  text : String
  deriving Inhabited, Repr

instance : BEq PathName := ⟨fun a b => Path.same a.text b.text⟩

end CsgScript
