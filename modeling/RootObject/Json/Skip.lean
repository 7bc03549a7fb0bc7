import RootObject.Json.Number
import RootObject.Json.Text
import RootObject.Text.Shortest

/-!
Looking over values of any kind, which are well formed but of no interest, and telling what a value is
that stands where another was expected.
-/

namespace RootObject.Json

open Reader

/-- Looks over the elements of a list, from behind its bracket or a comma. -/
def skipElements (skipElement : Reader Unit) : List UInt8 → Reader Unit
  | [] => refuse .endInList
  | _ :: rounds => do
      skipElement
      match ← peekToken with
      | some 0x2C =>
          advance
          skipElements skipElement rounds
      | some 0x5D => advance
      | some _ => refuseNext .listEndExpected
      | none => refuseNext .endInList

/-- Looks over the key of a member and the colon behind it. -/
def skipKey : Reader Unit := do
  match ← peekToken with
  | some 0x22 =>
      advance
      Text.skip
      colon
  | some _ => refuseNext .keyNotString
  | none => refuseNext .endInObject

/-- Looks over the members of an object, from behind its brace or a comma. -/
def skipMembers (skipMember : Reader Unit) : List UInt8 → Reader Unit
  | [] => refuse .endInObject
  | _ :: rounds => do
      skipKey
      skipMember
      match ← peekToken with
      | some 0x2C =>
          advance
          skipMembers skipMember rounds
      | some 0x7D => advance
      | some _ => refuseNext .objectEndExpected
      | none => refuseNext .endInObject

/-- Looks over a value in which lists and objects are nested at most so deep. A list or an object has no
more elements than that either, as each takes a byte. -/
def skipWithin : List UInt8 → Reader Unit
  | [] => refuse .endInValue
  | round :: rounds => do
      match ← peekValue with
      | 0x6E =>
          advance
          word "ull"
      | 0x74 =>
          advance
          word "rue"
      | 0x66 =>
          advance
          word "alse"
      | 0x2D =>
          advance
          Number.skip
      | 0x22 =>
          advance
          Text.skip
      | 0x5B =>
          advance
          match ← peekToken with
          | some 0x5D => advance
          | some _ => skipElements (skipWithin rounds) (round :: rounds)
          | none => refuseNext .endInList
      | 0x7B =>
          advance
          match ← peekToken with
          | some 0x7D => advance
          | some _ => skipMembers (skipWithin rounds) (round :: rounds)
          | none => refuseNext .endInObject
      | byte => if isDigit byte then Number.skip else refuseNext .valueExpected

/-- Looks over a value. -/
def skip : Reader Unit :=
  bounded skipWithin

def Number.description : Number → String
  | .natural value => "integer `" ++ Decimal.ofNat value ++ "`"
  | .negative value => "integer `" ++ Decimal.ofInt value ++ "`"
  | .float value => "floating point `" ++ shortestText value ++ "`"

/-- What the value ahead is. All of it is read but lists and objects. -/
def description : Reader String := do
  match ← peekValue with
  | 0x6E =>
      advance
      word "ull"
      return "null"
  | 0x74 =>
      advance
      word "rue"
      return "boolean `true`"
  | 0x66 =>
      advance
      word "alse"
      return "boolean `false`"
  | 0x2D =>
      advance
      let number ← Number.read false
      return number.description
  | 0x22 =>
      advance
      let text ← Text.read
      return "string " ++ quoted text
  | 0x5B => return "sequence"
  | 0x7B => return "map"
  | byte =>
      if isDigit byte then
        let number ← Number.read true
        return number.description
      else refuseNext .valueExpected

/-- Refuses the value ahead for its type. -/
def refuseType {α : Type} (expected : String) : Reader α := do
  let found ← description
  refuse (.wrongType found expected)

end RootObject.Json
