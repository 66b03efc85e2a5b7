/-
**Numeric addresses of hosts.**

An address of version 4 is one number, or up to four with dots between them, of which the last fills
the rest.  An address of version 6 is eight groups of hexadecimal digits with colons between them; two
colons stand for as many groups of zeros as are missing, and the last two groups may be written as
four numbers with dots.

Main definitions:

* `HookBridge.Http.Address.isNumeric` — whether a host name has to be an address of version 4;
* `HookBridge.Http.Address.version4?`, `HookBridge.Http.Address.text4` — the address that a text
  spells, and its usual text;
* `HookBridge.Http.Address.isVersion6` — whether a text spells an address of version 6.
-/

set_option relaxedAutoImplicit false
set_option autoImplicit false

namespace HookBridge

namespace Http

namespace Address

/-! ### Version 4 -/

/-- The value of digits in a base, the digits being known to be some of it. -/
def valueOf (base : Nat) (cs : List Char) : Nat :=
  cs.foldl (fun n c => base * n + (if c.isDigit then c.toNat - 48 else c.toLower.toNat - 87)) 0

/-- A hexadecimal digit. -/
def isHexDigit (c : Char) : Bool :=
  c.isDigit || c.isAlpha && 97 ≤ c.toLower.toNat && c.toLower.toNat ≤ 102

/-- The number that a part of an address spells: hexadecimal behind `0x`, octal behind `0`, and else
decimal. -/
def number? : List Char → Option Nat
  | [] => none
  | ['0'] => some 0
  | '0' :: c :: rest =>
      if c == 'x' || c == 'X' then if rest.all isHexDigit then some (valueOf 16 rest) else none
      else if (c :: rest).all fun d => d.isDigit && d.toNat < 56 then some (valueOf 8 (c :: rest))
      else none
  | cs => if cs.all Char.isDigit then some (valueOf 10 cs) else none

/-- The parts of a text between its dots; one dot at its end does not count. -/
def dotted (cs : List Char) : List (List Char) :=
  let parts := cs.splitOnP (· == '.')
  if parts.getLast? = some [] then parts.dropLast else parts

/-- The last part of the host name is a number, if only by its digits. -/
def isNumeric (cs : List Char) : Bool :=
  match (dotted cs).getLast? with
  | none => false
  | some last => !last.isEmpty && last.all Char.isDigit || (number? last).isSome

/-- The address that a text spells. -/
def version4? (cs : List Char) : Option Nat :=
  let parts := dotted cs
  if 4 < parts.length then none
  else
    match parts.mapM number? with
    | none => none
    | some numbers =>
        match numbers.getLast? with
        | none => none
        | some last =>
            let front := numbers.dropLast
            if front.all (· < 256) && last < Nat.pow 256 (4 - front.length) then
              some (front.foldl (fun n k => 256 * n + k) 0 * Nat.pow 256 (4 - front.length) + last)
            else none

/-- The usual text of an address. -/
def text4 (n : Nat) : List Char :=
  let byte := fun k : Nat => Nat.toDigits 10 (n / Nat.pow 256 k % 256)
  byte 3 ++ '.' :: byte 2 ++ '.' :: byte 1 ++ '.' :: byte 0

/-! ### Version 6 -/

/-- A group of hexadecimal digits. -/
def isGroup (cs : List Char) : Bool := !cs.isEmpty && cs.length ≤ 4 && cs.all isHexDigit

/-- A number with dots around it, at most 255 and without needless zeros. -/
def isByte (cs : List Char) : Bool :=
  !cs.isEmpty && cs.length ≤ 3 && cs.all Char.isDigit && valueOf 10 cs < 256 &&
    (cs.head? != some '0' || cs.length == 1)

/-- Four numbers with dots between them. -/
def isQuad (cs : List Char) : Bool :=
  let parts := cs.splitOnP (· == '.')
  parts.length == 4 && parts.all isByte

/-- The number of groups that a text with single colons spells.  Four numbers at its end, where they
are allowed, count as two groups. -/
def groups? (quad : Bool) (cs : List Char) : Option Nat :=
  if cs.isEmpty then some 0
  else
    let parts := cs.splitOnP (· == ':')
    if parts.all isGroup then some parts.length
    else if quad && parts.dropLast.all isGroup && parts.getLast?.any isQuad then
      some (parts.length + 1)
    else none

/-- What stands before the first two colons of a text, and what behind them. -/
def splitAtGap? : List Char → Option (List Char × List Char)
  | ':' :: ':' :: rest => some ([], rest)
  | c :: rest => (splitAtGap? rest).map fun (front, back) => (c :: front, back)
  | [] => none

/-- The text spells an address. -/
def isVersion6 (cs : List Char) : Bool :=
  match splitAtGap? cs with
  | none => groups? true cs == some 8
  | some (front, back) =>
      match groups? false front, groups? true back with
      | some m, some n => m + n ≤ 7
      | _, _ => false

end Address

end Http

end HookBridge
