import SessionPool.Decimal.Binary

/-!
# The fewest digits that read back

Among the decimal numbers that round to a given double-precision number, those with the fewest
digits are tried first, and of two with equally many the nearer one is taken. The digits are then
written positionally, or with an exponent when the number is very large or very small.
-/

set_option autoImplicit false

namespace SessionPool.Decimal

/-- The decimal numbers that read back as one binary number: `low / unit` to `high / unit` around
`value / unit`, the ends included or not. -/
structure Interval where
  low : Nat
  value : Nat
  high : Nat
  unit : Nat
  closed : Bool

/-- The numbers that round to `m * 2 ^ e`. Below a power of two the next number is half as far
away as above it. -/
def Interval.around (m : Nat) (e : Int) : Interval :=
  let (num, den) := quotient 1 (e - 2)
  let below := if m = Nat.pow 2 52 ∧ -1074 < e then 1 else 2
  ⟨(4 * m - below) * num, 4 * m * num, (4 * m + 2) * num, den, m % 2 == 0⟩

/-- Whether `n / scale` lies in the interval. -/
def Interval.holds (i : Interval) (n scale : Nat) : Bool :=
  if i.closed then i.low * scale ≤ n * i.unit && n * i.unit ≤ i.high * scale
  else i.low * scale < n * i.unit && n * i.unit < i.high * scale

/-- The place of the first digit: the least `k` with `value < 10 ^ k`, searched upwards from
the given place. -/
def firstPlace (i : Interval) : Nat → Int → Int
  | 0, k => k
  | fuel + 1, k =>
    if i.value * Nat.pow 10 (-k).toNat < i.unit * Nat.pow 10 k.toNat then k
    else firstPlace i fuel (k + 1)

/-- On the grid of multiples of `10 ^ k`: the neighbour of the value that lies in the interval,
the nearer one if both do. -/
def onGrid? (i : Interval) (k : Int) : Option Nat :=
  let up := Nat.pow 10 k.toNat
  let down := Nat.pow 10 (-k).toNat
  let below := i.value * down / (i.unit * up)
  let inside := fun n => i.holds (n * up) down
  let offBelow := i.value * down - below * up * i.unit
  let offAbove := (below + 1) * up * i.unit - i.value * down
  if inside below && 0 < below then
    if inside (below + 1) && offAbove < offBelow then some (below + 1) else some below
  else if inside (below + 1) then some (below + 1) else none

/-- The shortest digits of `m * 2 ^ e`, as a number and the place of its last digit. -/
def shortest (m : Nat) (e : Int) : Nat × Int :=
  let i := Interval.around m e
  let top := firstPlace i 700 (-330)
  let rec search : Nat → Int → Nat × Int
    | 0, k => (i.value * Nat.pow 10 (-k).toNat / (i.unit * Nat.pow 10 k.toNat), k)
    | fuel + 1, k => match onGrid? i k with
      | some n => (n, k)
      | none => search fuel (k - 1)
  search 17 (top - 1)

/-- A number without its trailing zeros, and its last place moved up accordingly. -/
def dropZeros : Nat → Nat × Int → Nat × Int
  | 0, d => d
  | fuel + 1, (n, k) => if n % 10 = 0 ∧ n ≠ 0 then dropZeros fuel (n / 10, k + 1) else (n, k)

/-- The digits `ds`, of which `point` stand before the point: positional text with at least one
digit on each side. -/
def positional (ds : List Char) (point : Int) : String :=
  if point ≤ 0 then
    "0." ++ String.ofList (List.replicate (-point).toNat '0' ++ ds)
  else if ds.length ≤ point.toNat then
    String.ofList (ds ++ List.replicate (point.toNat - ds.length) '0') ++ ".0"
  else String.ofList (ds.take point.toNat) ++ "." ++ String.ofList (ds.drop point.toNat)

/-- The digits `ds`, of which `point` stand before the point: text with an exponent, one digit
before the point. -/
def scientific (ds : List Char) (point : Int) : String :=
  let tail := ds.drop 1
  String.ofList (ds.take 1) ++ (if tail.isEmpty then "" else "." ++ String.ofList tail) ++
    "e" ++ toString (point - 1)

/-- The text of a number: positional from `10 ^ -4` on and below `10 ^ 16`, otherwise with an
exponent. -/
def shortestText (bits : UInt64) : String :=
  match Binary.ofBits bits with
  | .nan => "NaN"
  | .infinite negative => if negative then "-inf" else "inf"
  | .finite negative m e =>
    let sign := if negative then "-" else ""
    if m = 0 then sign ++ "0.0"
    else
      let (n, k) := dropZeros 20 (shortest m e)
      let ds := (toString n).toList
      let point : Int := ds.length + k
      sign ++ (if -4 < point ∧ point ≤ 16 then positional ds point else scientific ds point)

end SessionPool.Decimal
