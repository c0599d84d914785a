/-!
Contract: numbers in decimal.

Owns:
- `Decimal`: the shortest text of a whole number, the number of a run of ASCII digits, and the limits
  of numbers in sixty-four bits;
- `DoublePrecision`: which decimal numbers are in the range of double precision, which products of
  two rounded numbers are in it, for a reader that rounds the digits and the power of ten each on its
  own before it multiplies, and which decimal numbers round to a whole number.

Does not own: the signs and formats of the readers that use it (`RoleVault.Json.Reader`,
`RoleVault.Toml.Reader`, `RoleVault.Store.Edit`).
-/

namespace RoleVault.Text.Decimal

/-- Two to the sixty-third, the first number beyond sixty-four bits with a sign. -/
def signedLimit : Nat := 0x8000000000000000

/-- Two to the sixty-fourth, the first number beyond sixty-four bits. -/
def wordLimit : Nat := 0x10000000000000000

/-- The digits of a natural number, without leading zeros. -/
def digits (value : Nat) : List Char :=
  Nat.toDigits 10 value

def ofNat (value : Nat) : String :=
  String.ofList (digits value)

/-- The decimal text of an integer, with a minus sign where it is negative. -/
def ofInt : Int → String
  | .ofNat value => ofNat value
  | .negSucc value => "-" ++ ofNat (value + 1)

/-- The number that a nonempty run of ASCII digits writes; leading zeros are allowed. -/
def toNat? (chars : List Char) : Option Nat :=
  if chars.isEmpty || !chars.all Char.isDigit then none else some (Nat.ofDigitChars 10 chars 0)

/-- The digits of a number, filled up with zeros on the left to at least `width` places. -/
def padded (width value : Nat) : String :=
  let written := digits value
  String.ofList (List.replicate (width - written.length) '0' ++ written)

theorem all_isDigit_digits (value : Nat) : (digits value).all Char.isDigit = true := by
  rw [List.all_eq_true]
  exact fun char member => Nat.isDigit_of_mem_toDigits (by decide) (by decide) member

theorem digits_ne_nil (value : Nat) : digits value ≠ [] :=
  Nat.toDigits_ne_nil

end RoleVault.Text.Decimal

namespace RoleVault.Text.DoublePrecision

/-- The least number that rounds beyond the range. -/
def limit : Nat := Nat.pow 2 1024 - Nat.pow 2 970

/-- Whether `significand` times ten to the power of `exponent` is in the range.  The limit has 309
digits, so numbers with fewer or more of them need no further look. -/
def isFinite (significand : Nat) (exponent : Int) : Bool :=
  let size := (Nat.toDigits 10 significand).length + exponent
  if significand = 0 || size < 309 then true
  else if size > 309 then false
  else if 0 ≤ exponent then significand * Nat.pow 10 exponent.toNat < limit
  else significand < limit * Nat.pow 10 exponent.natAbs

/-- The whole number with 53 significant binary digits that is nearest to a quotient; of two equally
near ones the even one. -/
def nearest (numerator denominator : Nat) : Nat :=
  let step := Nat.pow 2 ((numerator / denominator).log2 - 52)
  let part := denominator * step
  let count := numerator / part
  let excess := 2 * (numerator % part)
  if part < excess || (excess = part && count % 2 = 1) then (count + 1) * step else count * step

/-- The largest power of ten in the range. -/
def maxPower : Nat := 308

/-- Whether `significand` times ten to the power of `exponent` is in the range when each of the two
factors is rounded first.  A division by a power of ten never leaves the range. -/
def productIsFinite (significand : Nat) (exponent : Int) : Bool :=
  if significand = 0 || exponent < 0 then true
  else if exponent > maxPower then false
  else nearest significand 1 * nearest (Nat.pow 10 exponent.toNat) 1 < limit

/-- How many of the least positive numbers make up one. -/
def unit : Nat := Nat.pow 2 1074

/-- The whole number that `significand` times ten to the power of `exponent` rounds to, if it rounds
to one and stays below `bound`.  The bound has fewer than four hundred digits, as have the places in
which a number can differ from zero. -/
def nearestWhole? (bound significand : Nat) (exponent : Int) : Option Nat :=
  let size := (Nat.toDigits 10 significand).length + exponent
  if significand = 0 || size < -400 then some 0
  else if size > 400 then none
  else
    let units := nearest (significand * Nat.pow 10 exponent.toNat * unit)
      (Nat.pow 10 (-exponent).toNat)
    if units % unit = 0 && units / unit < bound then some (units / unit) else none

end RoleVault.Text.DoublePrecision
