/-!
# Binary floating point, exactly

A finite double-precision number is `mantissa * 2 ^ exponent` for a natural mantissa and an
integer exponent. Its value is handled as a quotient of natural numbers.
-/

set_option autoImplicit false

namespace SessionPool.Decimal

/-- What the 64 bits of a double-precision number stand for. -/
inductive Binary
  | nan
  | infinite (negative : Bool)
  | finite (negative : Bool) (mantissa : Nat) (exponent : Int)
deriving DecidableEq, Repr

def Binary.ofBits (bits : UInt64) : Binary :=
  let n : Nat := bits.toNat
  let negative := n / Nat.pow 2 63 == 1
  let field : Nat := n / Nat.pow 2 52 % Nat.pow 2 11
  let fraction : Nat := n % Nat.pow 2 52
  if field = 2047 then (if fraction = 0 then .infinite negative else .nan)
  else if field = 0 then .finite negative fraction (-1074)
  else .finite negative (Nat.pow 2 52 + fraction) ((field : Int) - 1075)

/-- Numerator and denominator of `m * 2 ^ e`. -/
def quotient (m : Nat) (e : Int) : Nat × Nat :=
  (m * Nat.pow 2 e.toNat, Nat.pow 2 (-e).toNat)

/-- The nearest natural number to `num / den`; a half goes to the even neighbour. -/
def nearest (num den : Nat) : Nat :=
  let q := num / den
  let rest := num % den
  if den < 2 * rest ∨ (2 * rest = den ∧ q % 2 = 1) then q + 1 else q

end SessionPool.Decimal
