/-
**The shortest decimal of a floating-point number.**

A number of double precision stands for all reals that round to it.  Its shortest decimal is, of the
decimals that round to it, one with the fewest digits, and of those the nearest.

Main definitions:

* `HookBridge.Decimal` — a decimal: digits and the place of the last one;
* `HookBridge.Decimal.Cell` — a value with the interval of reals that round to it, in whole numbers
  over one denominator;
* `HookBridge.Decimal.Cell.shortest` — the shortest decimal in a cell;
* `HookBridge.Decimal.text` — a decimal written without an exponent;
* `HookBridge.Decimal.ofFloat` — the text of a number.

For each place, from the leading digit downwards, only the two neighbours of the value on the grid
of that place need a look: if any point of a grid lies in the interval, one of these two does.
-/

set_option relaxedAutoImplicit false
set_option autoImplicit false

namespace HookBridge

/-- The decimal `digits * 10 ^ place`. -/
structure Decimal where
  digits : Nat
  place : Int
  deriving DecidableEq, Repr

namespace Decimal

/-! ### Intervals -/

/-- A positive value and the interval of reals that round to it, all over `den`. -/
structure Cell where
  low : Nat
  value : Nat
  high : Nat
  den : Nat
  /-- the ends of the interval round to the value, too -/
  closed : Bool

namespace Cell

/-- The cell of `m * 2 ^ q`.  Just above a power of two the gap below is half the gap above,
which `isPower` tells. -/
def ofBinary (m : Nat) (q : Int) (isPower : Bool) : Cell :=
  let up := Nat.pow 2 q.toNat
  let down := Nat.pow 2 (-q).toNat
  { low := (4 * m - (if isPower then 1 else 2)) * up
    value := 4 * m * up
    high := (4 * m + 2) * up
    den := 4 * down
    closed := m % 2 == 0 }

/-- The unit of a decimal place, as a fraction. -/
def unit (place : Int) : Nat × Nat :=
  (Nat.pow 10 place.toNat, Nat.pow 10 (-place).toNat)

/-- The decimal `n * 10 ^ place` lies in the interval. -/
def contains (c : Cell) (place : Int) (n : Nat) : Bool :=
  let (up, down) := unit place
  let x := n * up * c.den
  if c.closed then c.low * down ≤ x && x ≤ c.high * down
  else c.low * down < x && x < c.high * down

/-- The number of grid steps below the value, and whether the value is nearer to the step below
than to the step above.  Halfway between two steps the one above counts as the nearer. -/
def below (c : Cell) (place : Int) : Nat × Bool :=
  let (up, down) := unit place
  let scaled := c.value * down
  let step := up * c.den
  (scaled / step, 2 * (scaled % step) < step)

/-- The nearest decimal of a place in the interval, of the two next to the value. -/
def nearest? (c : Cell) (place : Int) : Option Decimal :=
  let (n, isBelow) := c.below place
  let (first, second) := if isBelow then (n, n + 1) else (n + 1, n)
  if c.contains place first then some ⟨first, place⟩
  else if c.contains place second then some ⟨second, place⟩
  else none

/-- The place of the leading digit of the value, or the place next to it. -/
def leading (c : Cell) : Int :=
  if c.den ≤ c.value then (Nat.toDigits 10 (c.value / c.den)).length - 1
  else -((Nat.toDigits 10 (c.den / c.value)).length : Int)

/-- The decimal of the first place, from `place` downwards, that has one in the interval.  After
`n` places the search ends at the value's lower neighbour. -/
def search (c : Cell) (place : Int) : Nat → Decimal
  | 0 => ⟨(c.below place).1, place⟩
  | n + 1 =>
      match c.nearest? place with
      | some d => d
      | none => search c (place - 1) n

/-- The shortest decimal in the interval.  Seventeen digits always suffice. -/
def shortest (c : Cell) : Decimal := c.search c.leading 18

end Cell

/-! ### Text -/

/-- A decimal without an exponent, and without zeros at the end of its fraction. -/
def text (d : Decimal) : String :=
  if 0 ≤ d.place then toString (d.digits * Nat.pow 10 d.place.toNat)
  else
    let places := (-d.place).toNat
    let digits := Nat.toDigits 10 d.digits
    let padded := List.replicate (places + 1 - digits.length) '0' ++ digits
    let whole := padded.take (padded.length - places)
    let fraction := padded.drop (padded.length - places)
    match (fraction.reverse.dropWhile (· == '0')).reverse with
    | [] => String.ofList whole
    | ds => String.ofList (whole ++ '.' :: ds)

/-- The text of a number that is not negative: its shortest decimal without an exponent. -/
def ofFloat (x : Float) : String :=
  let bits := x.toBits.toNat
  let hidden : Nat := Nat.pow 2 52
  let exponent : Nat := bits / hidden % Nat.pow 2 11
  let fraction : Nat := bits % hidden
  if exponent = 2047 then (if fraction = 0 then "inf" else "NaN")
  else if exponent = 0 then
    if fraction = 0 then "0" else (Cell.ofBinary fraction (-1074) false).shortest.text
  else
    (Cell.ofBinary (hidden + fraction) ((exponent : Int) - 1075)
      (fraction == 0 && exponent != 1)).shortest.text

end Decimal

end HookBridge
