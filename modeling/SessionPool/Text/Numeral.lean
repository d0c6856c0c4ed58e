/-!
# Numerals

Reading an unsigned decimal number up to a bound, and writing numbers with leading zeros or in
hexadecimal.
-/

set_option autoImplicit false

namespace SessionPool.Text

/-- The value of a row of decimal digits, with `acc` for what was read before; nothing if another
character occurs. -/
def digitsValue? (acc : Nat) : List Char → Option Nat
  | [] => some acc
  | c :: cs => if c.isDigit then digitsValue? (acc * 10 + (c.toNat - '0'.toNat)) cs else none

/-- Reads an unsigned decimal number of at most `bound`. A plus sign may stand in front; there is
at least one digit, and nothing else is allowed. -/
def readNat? (bound : Nat) (cs : List Char) : Option Nat :=
  let digits := match cs with
    | '+' :: rest => rest
    | rest => rest
  if digits.isEmpty then none
  else (digitsValue? 0 digits).filter (· ≤ bound)

/-- A decimal number with zeros in front up to `width` digits. -/
def padded (width n : Nat) : String :=
  let digits := (toString n).toList
  String.ofList (List.replicate (width - digits.length) '0' ++ digits)

/-- The hexadecimal digits of a number, lower case, with zeros in front up to `width`. -/
def hex (width n : Nat) : String :=
  let digits := Nat.toDigits 16 n
  String.ofList (List.replicate (width - digits.length) '0' ++ digits)

/-- Two hexadecimal digits for each byte. -/
def hexBytes (bytes : List UInt8) : String :=
  String.join (bytes.map fun b => hex 2 b.toNat)

/-- The value of a hexadecimal digit. -/
def hexDigit? (c : Char) : Option Nat :=
  if c.isDigit then some (c.toNat - '0'.toNat)
  else if 'a' ≤ c ∧ c ≤ 'f' then some (c.toNat - 'a'.toNat + 10)
  else if 'A' ≤ c ∧ c ≤ 'F' then some (c.toNat - 'A'.toNat + 10)
  else none

/-- Reads bytes written as pairs of hexadecimal digits. -/
def readHexBytes? : List Char → Option (List UInt8)
  | [] => some []
  | [_] => none
  | a :: b :: rest => do
    let hi ← hexDigit? a
    let lo ← hexDigit? b
    return UInt8.ofNat (hi * 16 + lo) :: (← readHexBytes? rest)

end SessionPool.Text
