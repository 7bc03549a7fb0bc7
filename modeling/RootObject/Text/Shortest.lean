import RootObject.Text.Decimal

/-!
The shortest decimal text of a binary floating-point number. Every number owns an interval of reals that
round to it, ends included when its significand is even. Of all decimals in the interval those with the
fewest digits are taken, and of these the nearest to the number, or the even one where the number lies
half-way between two. The search goes down the decimal grids; on each only the two neighbours of the
number can be the nearest.
-/

namespace RootObject.Shortest

/-- A finite positive number as `significand * 2 ^ exponent`, and whether the next smaller number is
only half as far away as the next larger one. -/
structure Binary where
  significand : Nat
  exponent : Int
  atPowerOfTwo : Bool
  deriving DecidableEq, Repr

/-- The parts of a number from its bits, the sign left out. -/
def Binary.ofBits (bits : Nat) : Binary :=
  let fraction : Nat := bits % 0x10000000000000
  let biased : Nat := bits / 0x10000000000000 % 0x800
  if biased = 0 then ⟨fraction, -1074, false⟩
  else ⟨0x10000000000000 + fraction, (biased : Int) - 1075, fraction = 0 && 1 < biased⟩

/-- The decimal `digits * 10 ^ exponent`. -/
structure Scaled where
  digits : Nat
  exponent : Int
  deriving DecidableEq, Repr

/-- A positive real as a quotient of whole numbers, by four times its significand in binary. -/
def ratio (quadrupled : Nat) (exponent : Int) : Nat × Nat :=
  let shift := exponent - 2
  (quadrupled * Nat.pow 2 shift.toNat, Nat.pow 2 (-shift).toNat)

/-- The quotient in units of `10 ^ exponent`. -/
def inUnits (exponent : Int) (value : Nat × Nat) : Nat × Nat :=
  (value.1 * Nat.pow 10 (-exponent).toNat, value.2 * Nat.pow 10 exponent.toNat)

/-- The decimal on one grid that reads back as the number, if there is one. -/
def onGrid? (number : Binary) (exponent : Int) : Option Scaled :=
  let quadrupled := 4 * number.significand
  let below := quadrupled - if number.atPowerOfTwo then 1 else 2
  let low := inUnits exponent (ratio below number.exponent)
  let value := inUnits exponent (ratio quadrupled number.exponent)
  let high := inUnits exponent (ratio (quadrupled + 2) number.exponent)
  let even := number.significand % 2 = 0
  let holds (digits : Nat) : Bool :=
    let scaled := digits * value.2
    0 < digits && (low.1 < scaled || even && low.1 = scaled) &&
      (scaled < high.1 || even && scaled = high.1)
  let floor := value.1 / value.2
  let doubledRest := 2 * (value.1 % value.2)
  let floorIsNearer := doubledRest < value.2 || doubledRest = value.2 && floor % 2 = 0
  match holds floor, holds (floor + 1) with
  | true, true => some ⟨if floorIsNearer then floor else floor + 1, exponent⟩
  | true, false => some ⟨floor, exponent⟩
  | false, true => some ⟨floor + 1, exponent⟩
  | false, false => none

/-- The first grid with a hit, from `10 ^ exponent` down. -/
def search (number : Binary) : Nat → Int → Scaled
  | 0, exponent => ⟨0, exponent⟩
  | grids + 1, exponent =>
      match onGrid? number exponent with
      | some decimal => decimal
      | none => search number grids (exponent - 1)

/-- The shortest decimal of a positive number. No number reaches `10 ^ 309`, and the least one is above
`10 ^ -324`. -/
def decimal (number : Binary) : Scaled :=
  search number 640 309

/-- A decimal with a point where the exponent of its first digit is from -5 to 15, and with that exponent
and the exponent's sign elsewhere. -/
def layout (decimal : Scaled) : String :=
  let digits := Decimal.digits decimal.digits
  let leading := decimal.exponent + digits.length - 1
  let zeros (count : Int) : List Char := List.replicate count.toNat '0'
  if -5 ≤ leading ∧ leading ≤ 15 then
    if leading < 0 then String.ofList ("0.".toList ++ zeros (-leading - 1) ++ digits)
    else
      let whole := (digits ++ zeros decimal.exponent).take (leading.toNat + 1)
      let fraction := digits.drop (leading.toNat + 1)
      String.ofList (whole ++ ['.'] ++ if fraction.isEmpty then ['0'] else fraction)
  else
    let fraction := digits.drop 1
    let point := if fraction.isEmpty then [] else '.' :: fraction
    String.ofList <| digits.take 1 ++ point ++ ['e', if leading < 0 then '-' else '+'] ++
      Decimal.digits leading.natAbs

end RootObject.Shortest

namespace RootObject

/-- The shortest text of a finite number, with its sign. -/
def shortestText (value : Float) : String :=
  let bits := value.toBits.toNat
  let sign := if bits < 0x8000000000000000 then "" else "-"
  let number := Shortest.Binary.ofBits (bits % 0x8000000000000000)
  sign ++ if number.significand = 0 then "0.0" else Shortest.layout (Shortest.decimal number)

end RootObject
