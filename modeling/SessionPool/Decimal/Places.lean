import SessionPool.Decimal.Binary
import SessionPool.Text.Numeral

/-!
# A fixed number of decimal places

The exact value of a double-precision number, rounded to the nearest multiple of a power of ten;
a half goes to the even neighbour.
-/

set_option autoImplicit false

namespace SessionPool.Decimal

/-- The text of a number with `places` digits after the point. -/
def withPlaces (places : Nat) (bits : UInt64) : String :=
  match Binary.ofBits bits with
  | .nan => "NaN"
  | .infinite negative => if negative then "-inf" else "inf"
  | .finite negative m e =>
    let (num, den) := quotient m e
    let scaled := nearest (num * Nat.pow 10 places) den
    let whole := toString (scaled / Nat.pow 10 places)
    let sign := if negative then "-" else ""
    if places = 0 then sign ++ whole
    else sign ++ whole ++ "." ++ Text.padded places (scaled % Nat.pow 10 places)

end SessionPool.Decimal
