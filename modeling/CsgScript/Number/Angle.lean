import CsgScript.Number.Arithmetic
/-!
# Angles

Angles are held in radians and written in degrees.  The conversion is `(r · 180) / π` in
doubles, and a result within `10^-9` of a whole number of degrees is snapped to it, so that a
quarter turn stored as `π/2` is written as exactly `90`.
-/

namespace CsgScript

namespace Angle

/-- The double closest to π. -/
def pi : Binary64 := ⟨0x400921FB54442D18⟩

/-- Radians to degrees, as `(r · 180) / π`. -/
def degrees (r : Binary64) : Binary64 := (r * 180) / pi

/-- How close to a whole degree an angle must be to become one. -/
def snapTolerance : Binary64 := Binary64.nearest false 1 (Nat.pow 10 9)

/-- A whole number of degrees when the angle is within rounding noise of one. -/
def snap (d : Binary64) : Binary64 :=
  let nearest := d.round
  if (d - nearest).abs.lt snapTolerance then nearest else d

/-- Radians to degrees, snapped to whole degrees within rounding noise. -/
def toDegrees (r : Binary64) : Binary64 := snap (degrees r)

end Angle

end CsgScript
