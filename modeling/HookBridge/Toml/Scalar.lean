/-
**Numbers, truth values and moments of a TOML document.**

What is not quoted and no bracket is a run of characters, and the form of the run tells what it is:
a whole number, a number with a fraction or an exponent, a truth value or a moment.  A date and a
time of day may have a space between them.

Main definitions:

* `HookBridge.Toml.integer?` — the value of a whole number, within 64 bits;
* `HookBridge.Toml.isFloat` — numbers of double precision that do not overflow upwards;
* `HookBridge.Toml.isMoment` — dates, times of day, and both together;
* `HookBridge.Toml.Scalar`, `HookBridge.Toml.readScalar` — all of these and quoted texts.
-/

import HookBridge.Toml.Text

set_option relaxedAutoImplicit false
set_option autoImplicit false

namespace HookBridge

namespace Toml

/-! ### Numbers -/

/-- The digits of a number without the `_` between them; each `_` needs a digit on either side. -/
def digits? (base : Nat) (cs : List Char) : Option (List Char) :=
  let groups := cs.splitOnP (· == '_')
  if groups.all fun g => !g.isEmpty && g.all (isDigit base) then some groups.flatten else none

/-- The digits of a decimal whole number, which has no needless zero in front. -/
def wholeDigits? (cs : List Char) : Option (List Char) :=
  if cs.head? == some '0' && cs != ['0'] then none else digits? 10 cs

/-- Splits off the sign: whether it is a minus, and the rest. -/
def splitSign : List Char → Bool × List Char
  | '-' :: rest => (true, rest)
  | '+' :: rest => (false, rest)
  | cs => (false, cs)

/-- A whole number, before its size is looked at.  A number of another base has no sign. -/
def unbounded? : List Char → Option Int
  | '0' :: 'x' :: rest => (digits? 16 rest).map fun ds => (ofDigits 16 ds : Int)
  | '0' :: 'o' :: rest => (digits? 8 rest).map fun ds => (ofDigits 8 ds : Int)
  | '0' :: 'b' :: rest => (digits? 2 rest).map fun ds => (ofDigits 2 ds : Int)
  | cs =>
      let (isNegative, unsigned) := splitSign cs
      (wholeDigits? unsigned).map fun ds =>
        if isNegative then -(ofDigits 10 ds : Int) else (ofDigits 10 ds : Int)

/-- The value of a whole number that fits into 64 bits with a sign. -/
def integer? (cs : List Char) : Option Int :=
  match unbounded? cs with
  | some n => if Int64.minValue.toInt ≤ n ∧ n ≤ Int64.maxValue.toInt then some n else none
  | none => none

/-- The least real that double precision rounds to infinity. -/
def overflow : Nat := Nat.pow 2 1024 - Nat.pow 2 970

/-- `n * 10 ^ e` rounds to infinity.  Powers of ten are only taken where the number of digits does
not tell. -/
def overflows (n : Nat) (e : Int) : Bool :=
  if n = 0 then false
  else
    let length : Int := (Nat.toDigits 10 n).length + e
    if length < 309 then false
    else if 309 < length then true
    else overflow * Nat.pow 10 (-e).toNat ≤ n * Nat.pow 10 e.toNat

/-- The number of an exponent. -/
def exponent? (cs : List Char) : Option Int :=
  let (isNegative, unsigned) := splitSign cs
  (digits? 10 unsigned).map fun ds =>
    if isNegative then -(ofDigits 10 ds : Int) else (ofDigits 10 ds : Int)

/-- Splits at the first character of a class, which is dropped. -/
def splitFirst (p : Char → Bool) (cs : List Char) : List Char × Option (List Char) :=
  match cs.dropWhile (!p ·) with
  | [] => (cs, none)
  | _ :: rest => (cs.takeWhile (!p ·), some rest)

/-- A number without its sign, as the digits and the exponent of ten that it is written with; it has
a fraction, an exponent or both. -/
def fractional? (cs : List Char) : Option (List Char × Int) :=
  let (mantissa, exponent) := splitFirst (fun c => c == 'e' || c == 'E') cs
  let (whole, fraction) := splitFirst (· == '.') mantissa
  let e? := match exponent with
    | some e => exponent? e
    | none => if fraction.isSome then some 0 else none
  let f? := match fraction with
    | some f => digits? 10 f
    | none => some []
  match wholeDigits? whole, f?, e? with
  | some w, some f, some e => some (w ++ f, e - f.length)
  | _, _, _ => none

/-- A number of double precision.  A positive number that rounds to infinity is none; infinity has
a word of its own. -/
def isFloat (cs : List Char) : Bool :=
  let (isNegative, unsigned) := splitSign cs
  unsigned == "inf".toList || unsigned == "nan".toList ||
    match fractional? unsigned with
    | some (ds, e) => isNegative || !overflows (ofDigits 10 ds) e
    | none => false

/-! ### Moments -/

/-- A number of exactly `width` digits within bounds. -/
def isField (width low high : Nat) (cs : List Char) : Bool :=
  cs.length == width && cs.all (isDigit 10) && low ≤ ofDigits 10 cs && ofDigits 10 cs ≤ high

/-- A year, a month and a day.  Every month may have 31 days. -/
def isDate (cs : List Char) : Bool :=
  match cs.splitOnP (· == '-') with
  | [year, month, day] => isField 4 0 9999 year && isField 2 1 12 month && isField 2 1 31 day
  | _ => false

/-- A number of seconds, with a fraction or without. -/
def isSeconds (cs : List Char) : Bool :=
  match splitFirst (· == '.') cs with
  | (whole, none) => isField 2 0 60 whole
  | (whole, some fraction) =>
      isField 2 0 60 whole && !fraction.isEmpty && fraction.all (isDigit 10)

/-- A time of day. -/
def isTime (cs : List Char) : Bool :=
  match cs.splitOnP (· == ':') with
  | [hour, minute, second] =>
      isField 2 0 23 hour && isField 2 0 59 minute && isSeconds second
  | _ => false

/-- Hours and minutes from the prime meridian. -/
def isOffset (cs : List Char) : Bool :=
  match cs.splitOnP (· == ':') with
  | [hour, minute] => isField 2 0 23 hour && isField 2 0 59 minute
  | _ => false

/-- A time of day that may have an offset. -/
def isZonedTime (cs : List Char) : Bool :=
  match splitFirst (fun c => c == 'Z' || c == 'z') cs with
  | (time, some rest) => isTime time && rest.isEmpty
  | (_, none) =>
      match splitFirst (fun c => c == '+' || c == '-') cs with
      | (time, some offset) => isTime time && isOffset offset
      | (time, none) => isTime time

/-- A date, a time of day, or a date and a time of day with a letter or a space between them. -/
def isMoment (cs : List Char) : Bool :=
  isTime cs ||
    match splitFirst (fun c => c == 'T' || c == 't' || c == ' ') cs with
    | (date, some time) => isDate date && isZonedTime time
    | (date, none) => isDate date

/-! ### Scalars -/

/-- A value without parts.  Of the values that no setting has only the kind is kept. -/
inductive Scalar
  | text (s : String)
  | integer (n : Int)
  | float
  | boolean
  | moment
  deriving DecidableEq, Repr

/-- The scalar that a run of characters writes. -/
def Scalar.ofRun? (run : List Char) : Option Scalar :=
  if run = "true".toList ∨ run = "false".toList then some .boolean
  else
    match integer? run with
    | some n => some (.integer n)
    | none => if isFloat run then some .float else if isMoment run then some .moment else none

/-- A character of a scalar that is not quoted. -/
def isRunChar (c : Char) : Bool := isKeyChar c || c == '+' || c == '.' || c == ':'

/-- The run of characters that stands next, and the rest.  A date takes the run behind a single
space along if a digit begins it. -/
def splitRun (cs : List Char) : List Char × List Char :=
  let run := cs.takeWhile isRunChar
  match cs.dropWhile isRunChar with
  | ' ' :: c :: rest =>
      if isDate run && isDigit 10 c then
        (run ++ ' ' :: (c :: rest).takeWhile isRunChar, (c :: rest).dropWhile isRunChar)
      else (run, ' ' :: c :: rest)
  | rest => (run, rest)

/-- Reads a scalar. -/
def readScalar : Reader Scalar := fun cs =>
  match cs.head?.bind Quoting.ofMark? with
  | some _ => (readQuoted cs).map fun (s, rest) => (.text s, rest)
  | none =>
      let (run, rest) := splitRun cs
      (Scalar.ofRun? run).map fun s => (s, rest)

end Toml

end HookBridge
