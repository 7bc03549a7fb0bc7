import RootObject.Json.Cursor

/-!
JSON numbers, from behind their sign. A whole number is kept exactly where it fits 64 bits; any other is a
floating-point number, computed from the leading digits that fit 64 bits and a power of ten.
-/

namespace RootObject.Json

inductive Number where
  | natural (value : Nat)
  /-- A number below zero. -/
  | negative (value : Int)
  | float (value : Float)

namespace Number

/-- The largest significand. -/
def maxSignificand : Nat :=
  0xFFFFFFFFFFFFFFFF

/-- The largest exponent that can be written. -/
def maxExponent : Nat :=
  0x7FFFFFFF

/-- A significand, and the power of ten that it is a multiple of. -/
structure Parts where
  significand : Nat
  exponent : Int
  deriving DecidableEq, Repr

/-- Digits of a whole number after some others. From the first that does not fit on they only raise
the power of ten. -/
def Parts.whole (significand : Nat) : List UInt8 → Parts
  | [] => ⟨significand, 0⟩
  | digit :: rest =>
      if significand * 10 + digitValue digit ≤ maxSignificand then
        whole (significand * 10 + digitValue digit) rest
      else ⟨significand, rest.length + 1⟩

/-- Digits behind the point after some others. From the first that does not fit on they are ignored. -/
def Parts.fraction (parts : Parts) : List UInt8 → Parts
  | [] => parts
  | digit :: rest =>
      if parts.significand * 10 + digitValue digit ≤ maxSignificand then
        fraction ⟨parts.significand * 10 + digitValue digit, parts.exponent - 1⟩ rest
      else parts

def powerOfTen (exponent : Nat) : Float :=
  Float.ofScientific 1 false exponent

/-- The number divided by `10 ^ exponent`, in steps that a power of ten exists for. -/
def dividedBy (value : Float) (exponent : Nat) : Nat → Float
  | 0 => value
  | steps + 1 =>
      if exponent ≤ 308 then value / powerOfTen exponent
      else if value == 0 then value
      else dividedBy (value / powerOfTen 308) (exponent - 308) steps

/-- The floating-point number that the parts denote, if it is finite. After three steps of division
every significand has become zero. -/
def Parts.value? (parts : Parts) : Option Float :=
  let value := parts.significand.toUInt64.toFloat
  if parts.exponent < 0 then some (dividedBy value parts.exponent.natAbs 4)
  else if parts.exponent ≤ 308 then
    let scaled := value * powerOfTen parts.exponent.toNat
    if scaled.isInf then none else some scaled
  else if parts.significand = 0 then some value
  else none

/-- The number that the parts denote, with its sign. -/
def ofParts (positive : Bool) (parts : Parts) : Reader Number := do
  match parts.value? with
  | some value => return .float (if positive then value else -value)
  | none => Reader.refuse .numberTooLarge

/-- The digits ahead, which are taken. -/
def digits : Reader (List UInt8) :=
  fun rest => .ok (rest.span isDigit)

/-- The number that the digits of an exponent denote after `value`; none, and the rest behind the digit
that is too much, where it cannot be written. -/
def exponentDigits (value : Nat) : List UInt8 → Option Nat × List UInt8
  | [] => (some value, [])
  | digit :: rest =>
      if isDigit digit then
        if value * 10 + digitValue digit ≤ maxExponent then
          exponentDigits (value * 10 + digitValue digit) rest
        else (none, rest)
      else (some value, digit :: rest)

/-- The number from behind the `e`. -/
def exponent (positive : Bool) (parts : Parts) : Reader Number := do
  let sign ← Reader.peek
  if sign = some 0x2B ∨ sign = some 0x2D then
    Reader.advance
  match ← Reader.next with
  | none => Reader.refuse .endInValue
  | some first =>
      if isDigit first then
        let rest ← get
        let (exponent?, rest) := exponentDigits (digitValue first) rest
        set rest
        match exponent? with
        | some exponent =>
            let shift : Int := if sign = some 0x2D then -exponent else exponent
            ofParts positive { parts with exponent := parts.exponent + shift }
        | none =>
            if parts.significand ≠ 0 ∧ sign ≠ some 0x2D then Reader.refuse .numberTooLarge
            else
              let _ ← digits
              return .float (if positive then 0 else -0)
      else Reader.refuse .numberMalformed

/-- The number from behind the point. -/
def fraction (positive : Bool) (parts : Parts) : Reader Number := do
  match ← digits with
  | [] =>
      match ← Reader.peek with
      | some _ => Reader.refuseNext .numberMalformed
      | none => Reader.refuseNext .endInValue
  | first :: rest =>
      let parts := parts.fraction (first :: rest)
      match ← Reader.peek with
      | some 0x65 | some 0x45 =>
          Reader.advance
          exponent positive parts
      | _ => ofParts positive parts

/-- A whole number as far as it can be kept. Zero has no sign but as a floating-point number. -/
def ofWhole (positive : Bool) (parts : Parts) : Reader Number := do
  if parts.exponent ≠ 0 then ofParts positive parts
  else if positive then return .natural parts.significand
  else if 0 < parts.significand ∧ parts.significand ≤ 0x8000000000000000 then
    return .negative (-(parts.significand : Int))
  else return .float (-parts.significand.toUInt64.toFloat)

/-- The digits before the point. A leading zero stands alone. -/
def leadingDigits : Reader (List UInt8) := do
  match ← Reader.next with
  | none => Reader.refuse .endInValue
  | some first =>
      if first = 0x30 then
        match ← Reader.peek with
        | some second => if isDigit second then Reader.refuseNext .numberMalformed else return [first]
        | none => return [first]
      else if isDigit first then
        let rest ← digits
        return first :: rest
      else Reader.refuse .numberMalformed

/-- The number with the given sign. -/
def read (positive : Bool) : Reader Number := do
  let parts := Parts.whole 0 (← leadingDigits)
  match ← Reader.peek with
  | some 0x2E =>
      Reader.advance
      fraction positive parts
  | some 0x65 | some 0x45 =>
      Reader.advance
      exponent positive parts
  | _ => ofWhole positive parts

/-- Looks over digits, at least one. -/
def skipDigits : Reader Unit := do
  match ← Reader.next with
  | none => Reader.refuse .numberMalformed
  | some first =>
      if isDigit first then let _ ← digits
      else Reader.refuse .numberMalformed

/-- Looks over an exponent, from behind the `e`. -/
def skipExponent : Reader Unit := do
  let sign ← Reader.peek
  if sign = some 0x2B ∨ sign = some 0x2D then
    Reader.advance
  skipDigits

/-- Looks over the digits before the point. -/
def skipWhole : Reader Unit := do
  match ← Reader.next with
  | none => Reader.refuse .numberMalformed
  | some first =>
      if first = 0x30 then
        match ← Reader.peek with
        | some second => if isDigit second then Reader.refuseNext .numberMalformed else return
        | none => return
      else if isDigit first then let _ ← digits
      else Reader.refuse .numberMalformed

/-- Looks over an exponent, if there is one. -/
def skipPower : Reader Unit := do
  match ← Reader.peek with
  | some 0x65 | some 0x45 =>
      Reader.advance
      skipExponent
  | _ => return

/-- Looks over what follows the digits before the point. -/
def skipTail : Reader Unit := do
  match ← Reader.peek with
  | some 0x2E =>
      Reader.advance
      match ← digits with
      | [] => Reader.refuseNext .numberMalformed
      | _ => skipPower
  | _ => skipPower

/-- Looks a number over without computing it. -/
def skip : Reader Unit := do
  skipWhole
  skipTail

end Number
end RootObject.Json
