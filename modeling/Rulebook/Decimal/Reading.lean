/-!
# Reading decimal numbers

* `nearestFloat`: the floating-point number next to a decimal one.
-/

namespace Rulebook

/-- The floating-point number next to `digits · 10 ^ exponent`. Numbers from `10 ^ 400` on are
infinite, and those below `10 ^ (-400)` are zero, long before the exponent has to be worked out. -/
def nearestFloat (digits : Nat) (exponent : Int) : Float :=
  let size := exponent + (Nat.toDigits 10 digits).length
  if digits = 0 || size < -400 then 0.0
  else if size > 400 then 1.0 / 0.0
  else Float.ofScientific digits (exponent < 0) exponent.natAbs

end Rulebook
