import JiraMarkup.Text

/-!
# Shortest decimals

Numbers in double precision are read from decimals by rounding to the nearest
one, and written with the fewest digits that read back. All arithmetic is on
natural numbers.
-/

namespace JiraMarkup.Decimal

structure Binary where
  significand : Nat
  exponent : Int
deriving DecidableEq

structure Fraction where
  num : Nat
  den : Nat

def Fraction.scaled (base n : Nat) (exponent : Int) : Fraction :=
  if 0 ≤ exponent then ⟨n * base.pow exponent.toNat, 1⟩ else ⟨n, base.pow (-exponent).toNat⟩

def Fraction.le (a b : Fraction) : Bool := a.num * b.den ≤ b.num * a.den

def Fraction.lt (a b : Fraction) : Bool := !b.le a

def divideToEven (n d : Nat) : Nat :=
  let q := n / d
  let r := n % d
  if 2 * r < d then q else if d < 2 * r then q + 1 else q + q % 2

/-! ## Reading -/

def bits : Nat := 53

def bound : Nat := Nat.pow 2 bits

def leastExponent : Int := -1074

def digitCount (n : Nat) : Nat := (Nat.toDigits 10 n).length

/-- The number of double precision nearest to `n * 10 ^ exponent`, or none if
that is too large. -/
def nearest? (n : Nat) (exponent : Int) : Option Binary :=
  if n = 0 || exponent + digitCount n < -400 then some ⟨0, leastExponent⟩
  else if 400 < exponent + digitCount n then none
  else
    let f := Fraction.scaled 10 n exponent
    let estimate : Int := max leastExponent ((f.num.log2 : Int) - f.den.log2 - bits)
    let q := if (Fraction.scaled 2 bound estimate).le f then estimate + 1 else estimate
    let s :=
      if 0 ≤ q then divideToEven f.num (f.den * Nat.pow 2 q.toNat)
      else divideToEven (f.num * Nat.pow 2 (-q).toNat) f.den
    let b : Binary := if s = bound then ⟨bound / 2, q + 1⟩ else ⟨s, q⟩
    if 971 < b.exponent then none else some b

/-! ## Writing -/

/-- The interval of numbers that are read as `b`, in quarters of its last
place; its ends belong to it if the significand is even. -/
def readsAs (b : Binary) (f : Fraction) : Bool :=
  let below := if b.significand = bound / 2 && leastExponent < b.exponent then 1 else 2
  let low := Fraction.scaled 2 (4 * b.significand - below) (b.exponent - 2)
  let high := Fraction.scaled 2 (4 * b.significand + 2) (b.exponent - 2)
  if b.significand % 2 = 0 then low.le f && f.le high else low.lt f && f.lt high

def decimalExponent (f : Fraction) : (fuel : Nat) → (k : Int) → Int
  | 0, k => k
  | fuel + 1, k =>
    if f.lt (.scaled 10 1 (k - 1)) then decimalExponent f fuel (k - 1) else k

/-- The decimal nearest to `f` among its two neighbours with the last digit at
`10 ^ place`, if one of them reads back. -/
def neighbour? (b : Binary) (f : Fraction) (place : Int) : Option Nat :=
  let unit := Fraction.scaled 10 1 place
  let c := f.num * unit.den / (f.den * unit.num)
  let lowHit := readsAs b (.scaled 10 c place)
  let highHit := readsAs b (.scaled 10 (c + 1) place)
  -- twice the value against the sum of both neighbours
  let lowNearer := (Fraction.mk (2 * f.num) f.den).le (.scaled 10 (2 * c + 1) place)
  if lowHit && (!highHit || lowNearer) then some c
  else if highHit then some (c + 1)
  else none

/-- The fewest digits that read back, and the place of the last one. -/
def shortest (b : Binary) : Nat × Int :=
  let f := Fraction.scaled 2 b.significand b.exponent
  let k := decimalExponent f 700 310
  ((List.range 17).findSome? fun (n : Nat) =>
    let place : Int := k - 1 - n
    (neighbour? b f place).map (·, place)).getD (0, 0)

def dropZeros : (fuel : Nat) → Nat × Int → Nat × Int
  | 0, d => d
  | fuel + 1, (digits, place) =>
    if digits % 10 = 0 then dropZeros fuel (digits / 10, place + 1) else (digits, place)

def positional (digits : Nat) (place : Int) : Text :=
  let shown := Nat.toDigits 10 digits
  if 0 ≤ place then shown ++ List.replicate place.toNat '0' ++ ['.', '0']
  else
    let after := (-place).toNat
    let padded := List.replicate (after + 1 - shown.length) '0' ++ shown
    padded.take (padded.length - after) ++ '.' :: padded.drop (padded.length - after)

def write (b : Binary) : Text :=
  if b.significand = 0 then ['0', '.', '0']
  else
    let (digits, place) := dropZeros bits (shortest b)
    positional digits place

end JiraMarkup.Decimal
