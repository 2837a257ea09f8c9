/-!
# Dimensions of geometry

Geometry is planar (2D) or solid (3D).  A node of the expression tree either has one of these
dimensions fixed, or is free of dimension (ND): a comment, a special variable, a call of a
module whose geometry is not known here.
-/

namespace CsgScript

/-- Planar or solid. -/
inductive Dim where
  | two
  | three
  deriving DecidableEq, Repr, Inhabited

/-- A fixed dimension, or none. -/
inductive Dimensionality where
  | fixed (d : Dim)
  | free
  deriving DecidableEq, Repr, Inhabited

/-- The name of a dimension: `2D` or `3D`. -/
def Dim.name : Dim → String
  | .two => "2D"
  | .three => "3D"

/-- The name of a dimensionality: `2D`, `3D` or `ND`. -/
def Dimensionality.name : Dimensionality → String
  | .fixed d => d.name
  | .free => "ND"

instance : Coe Dim Dimensionality := ⟨.fixed⟩

end CsgScript
