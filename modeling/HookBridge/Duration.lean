/-
**Spans of time.**

Main definitions:

* `HookBridge.Duration` — a span of time, counted in nanoseconds;
* `HookBridge.Duration.text` — the span in its largest whole unit, with as many decimals as it
  takes and no more.
-/

set_option relaxedAutoImplicit false
set_option autoImplicit false

namespace HookBridge

/-- A span of time. -/
structure Duration where
  /-- its length in nanoseconds -/
  nanos : Nat
  deriving DecidableEq, Repr, Inhabited

namespace Duration

/-- No time at all. -/
def zero : Duration := ⟨0⟩

/-- A number of milliseconds. -/
def ofMillis (n : Nat) : Duration := ⟨n * 1000000⟩

/-- A number of seconds. -/
def ofSeconds (n : Nat) : Duration := ⟨n * 1000000000⟩

/-- The whole milliseconds of a span. -/
def toMillis (d : Duration) : Nat := d.nanos / 1000000

instance : LE Duration := ⟨fun a b => a.nanos ≤ b.nanos⟩

instance (a b : Duration) : Decidable (a ≤ b) := inferInstanceAs (Decidable (a.nanos ≤ b.nanos))

/-- The decimals of `part / 10 ^ places`, without the zeros at their end. -/
def decimals (part places : Nat) : List Char :=
  let digits := Nat.toDigits 10 part
  let padded := List.replicate (places - digits.length) '0' ++ digits
  (padded.reverse.dropWhile (· == '0')).reverse

/-- A count of units, `places` decimals of which are left in `part`, and the unit's name. -/
def inUnit (whole part places : Nat) (unit : String) : String :=
  match decimals part places with
  | [] => toString whole ++ unit
  | ds => toString whole ++ "." ++ String.ofList ds ++ unit

/-- The span in its largest whole unit: seconds, milliseconds, microseconds or nanoseconds. -/
def text (d : Duration) : String :=
  if 1000000000 ≤ d.nanos then inUnit (d.nanos / 1000000000) (d.nanos % 1000000000) 9 "s"
  else if 1000000 ≤ d.nanos then inUnit (d.nanos / 1000000) (d.nanos % 1000000) 6 "ms"
  else if 1000 ≤ d.nanos then inUnit (d.nanos / 1000) (d.nanos % 1000) 3 "µs"
  else inUnit d.nanos 0 0 "ns"

end Duration

end HookBridge
