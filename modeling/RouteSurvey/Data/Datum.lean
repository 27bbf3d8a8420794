/-! # Data

The self-describing values that data formats have in common, and the limit of the
numbers they can hold.
-/

namespace RouteSurvey.Data

/-- A value of a data format. -/
inductive Datum where
  | null
  | flag (value : Bool)
  /-- A number; a whole number from 0 below 2 to the 64th is also an index -/
  | number (index? : Option Nat)
  | text (s : String)
  | list (items : List Datum)
  | record (entries : List (Datum × Datum))
  /-- Something that may stand where nobody looks, but cannot be read: nested too deeply,
  a number out of range, or text with half a surrogate pair -/
  | unreadable
deriving Repr, BEq, Inhabited

mutual

/-- Nothing inside is unreadable. -/
def Datum.isReadable : Datum → Bool
  | .unreadable => false
  | .list items => listIsReadable items
  | .record entries => entriesAreReadable entries
  | _ => true

/-- No item is unreadable. -/
def listIsReadable : List Datum → Bool
  | [] => true
  | item :: rest => item.isReadable && listIsReadable rest

/-- No key and no value is unreadable. -/
def entriesAreReadable : List (Datum × Datum) → Bool
  | [] => true
  | (key, value) :: rest => key.isReadable && value.isReadable && entriesAreReadable rest

end

namespace Decimal

/-- The value of decimal digits. -/
def natOfDigits (digits : List Char) : Nat :=
  digits.foldl (fun n c => 10 * n + (c.toNat - '0'.toNat)) 0

/-- Digits up to the given place, and the power of ten they count, reach the least value
that rounds to infinity in double precision, `2 ^ 1024 - 2 ^ 970`. -/
def overflows (digits : List Char) (exponent : Int) : Bool :=
  let significant := digits.dropWhile (· == '0')
  let magnitude := (significant.length : Int) + exponent
  if significant.isEmpty || magnitude < 300 then false
  else if 320 < magnitude then true
  else
    let limit := Nat.pow 2 1024 - Nat.pow 2 970
    let n := natOfDigits significant
    if 0 ≤ exponent then decide (limit ≤ n * Nat.pow 10 exponent.toNat)
    else decide (limit * Nat.pow 10 (-exponent).toNat ≤ n)

end Decimal

end RouteSurvey.Data
