import Bookkeeping.Decimal.Basic

/-!
# Writing and reading decimals

`text` writes every place of a decimal.  `textTo p` writes `p` places, cutting without rounding or
filling with zeros; the sign stays even when only zeros are left.  `ofDigits?` reads digits with at
most one point, keeping as many places as a decimal can hold.
-/

namespace Bookkeeping

namespace Decimal

/-- The digits of the mantissa, with at least one before the point. -/
def digits (d : Decimal) : List Char :=
  (Nat.toDigits 10 d.mantissa).leftpad (d.places + 1) '0'

/-- The digits before the point. -/
def wholeDigits (d : Decimal) : List Char := d.digits.take (d.digits.length - d.places)

/-- The digits after the point. -/
def placeDigits (d : Decimal) : List Char := d.digits.drop (d.digits.length - d.places)

/-- The number with exactly `p` places, cut or filled with zeros. -/
def charsTo (p : Nat) (d : Decimal) : List Char :=
  let shown := (d.placeDigits ++ List.replicate (p - d.places) '0').take p
  (if d.negative then ['-'] else []) ++ d.wholeDigits ++ (if p = 0 then [] else '.' :: shown)

/-- The number with exactly `p` places, cut or filled with zeros. -/
def textTo (p : Nat) (d : Decimal) : String := String.ofList (d.charsTo p)

/-- The number with all its places. -/
def text (d : Decimal) : String := d.textTo d.places

/-! ## Reading -/

/-- A number as far as it has been read. -/
structure Partial where
  mantissa : Nat
  places : Nat
  /-- The point has been read. -/
  pointed : Bool

/-- The number that the first digit beyond what fits rounds up or leaves alone. -/
def roundLast? (m places digit : Nat) : Option Decimal :=
  let m := if 5 ≤ digit then m + 1 else m
  if m < limit then fit? false m places
  else if places = 0 then none
  else fit? false ((m + 4) / 10) (places - 1)

/-- Reads on from what has been read; the text holds digits and at most one point. -/
def readFrom : Partial → List Char → Option Decimal
  | p, [] => fit? false p.mantissa p.places
  | p, '.' :: rest => readFrom { p with pointed := true } rest
  | p, c :: rest =>
    let digit := c.toNat - 48
    let m := p.mantissa * 10 + digit
    if p.pointed then
      if p.places < maxPlaces ∧ m < limit then
        readFrom { p with mantissa := m, places := p.places + 1 } rest
      else roundLast? p.mantissa p.places digit
    else if m < limit then readFrom { p with mantissa := m } rest
    else none

/-- The decimal written as digits with at most one point and at least one digit. -/
def ofDigits? (s : List Char) : Option Decimal :=
  if s.all (fun c => c.isDigit || c == '.') && s.any Char.isDigit && s.count '.' ≤ 1 then
    readFrom ⟨0, 0, false⟩ s
  else none

end Decimal

end Bookkeeping
