import RootObject.Json.Skip

/-!
Reading the values that records are made of: booleans, sizes, names of variants, and records
themselves. A record is an object whose fields come in any order, each at most once, with unknown
ones looked over; or the list of its fields in their order, from which later ones may be missing.
What is missing keeps its default.
-/

namespace RootObject.Json

open Reader

def readBool : Reader Bool := do
  match ← peekValue with
  | 0x74 =>
      advance
      word "rue"
      return true
  | 0x66 =>
      advance
      word "alse"
      return false
  | _ => refuseType "a boolean"

/-- A whole number of 64 bits without a sign. -/
def readSize : Reader Nat := do
  let byte ← peekValue
  if byte = 0x2D ∨ isDigit byte then
    if byte = 0x2D then
      advance
    let number ← Number.read (byte ≠ 0x2D)
    match number with
    | .natural value => return value
    | .negative _ => refuse (.wrongValue number.description "usize")
    | .float _ => refuse (.wrongType number.description "usize")
  else refuseType "usize"

/-- One of the variants, by its name. -/
def variantNamed {α : Type} (variants : List (String × α)) (name : String) : Reader α :=
  match variants.lookup name with
  | some value => return value
  | none => refuse (.variantUnknown name (variants.map Prod.fst))

/-- The key of the next member, if another follows. -/
def nextKey? (first : Bool) : Reader (Option String) := do
  match ← peekToken with
  | some 0x7D => return none
  | some byte =>
      if first then
        if byte = 0x22 then
          advance
          return some (← Text.read)
        else refuseNext .keyNotString
      else if byte = 0x2C then
        advance
        match ← peekToken with
        | some 0x22 =>
            advance
            return some (← Text.read)
        | some 0x7D => refuseNext .commaTrailing
        | some _ => refuseNext .keyNotString
        | none => refuseNext .endInValue
      else refuseNext .objectEndExpected
  | none => refuseNext .endInObject

/-- The `null` that a variant carries where it is written as the key of an object. -/
def readUnit : Reader Unit := do
  match ← peekValue with
  | 0x6E =>
      advance
      word "ull"
  | _ => refuseType "unit"

/-- A variant: its name, or an object with the name as the only key and `null` as the value. -/
def readVariant {α : Type} (variants : List (String × α)) : Reader α := do
  match ← peekValue with
  | 0x22 =>
      advance
      variantNamed variants (← Text.read)
  | 0x7B =>
      advance
      match ← nextKey? true with
      | none => refuseNext .valueExpected
      | some name =>
          let value ← variantNamed variants name
          colon
          readUnit
          match ← peekToken with
          | some 0x7D =>
              advance
              return value
          | some _ => refuse .valueExpected
          | none => refuse .endInObject
  | _ => refuseNext .valueExpected

/-- A value, or `null` for none. -/
def readOptional {α : Type} (read : Reader α) : Reader (Option α) := do
  match ← peekValue with
  | 0x6E =>
      advance
      word "ull"
      return none
  | _ => return some (← read)

/-- A field of a record: its name, and a reader of its value that puts it into the record. -/
structure Field (α : Type) where
  name : String
  read : α → Reader α

/-- Whether another element of a list follows, which then is ahead. -/
def nextElement (first : Bool) : Reader Bool := do
  match ← peekToken with
  | some 0x5D => return false
  | some byte =>
      if first then return true
      else if byte = 0x2C then
        advance
        match ← peekToken with
        | some 0x5D => refuseNext .commaTrailing
        | some _ => return true
        | none => refuseNext .endInValue
      else refuseNext .listEndExpected
  | none => refuseNext .endInList

/-- The fields of a record in their order, as far as the list goes. -/
def readElements {α : Type} (first : Bool) (value : α) : List (Field α) → Reader α
  | [] => return value
  | field :: fields => do
      if ← nextElement first then
        readElements false (← field.read value) fields
      else return value

/-- The end of a list with all its elements read. -/
def listEnd : Reader Unit := do
  match ← peekToken with
  | some 0x5D => advance
  | some 0x2C =>
      advance
      match ← peekToken with
      | some 0x5D => refuseNext .commaTrailing
      | _ => refuseNext .textTrailing
  | some _ => refuseNext .textTrailing
  | none => refuseNext .endInList

/-- Refuses a field that was there before. The object is looked at up to its next token first. -/
def refuseDuplicate {α : Type} (name : String) : Reader α := do
  skipBlanks
  if (← peek) = some 0x7D then
    advance
  refuse (.fieldDuplicated name)

/-- The members of an object up to its end, with the names of the fields read so far. -/
def readMembers {α : Type} (fields : List (Field α)) (seen : List String) (value : α) :
    List UInt8 → Reader α
  | [] => refuse .endInObject
  | _ :: rounds => do
      match ← nextKey? seen.isEmpty with
      | none =>
          advance
          return value
      | some key =>
          match fields.find? fun field => field.name = key with
          | none =>
              colon
              skip
              readMembers fields (key :: seen) value rounds
          | some field =>
              if seen.contains key then refuseDuplicate key
              else
                colon
                readMembers fields (key :: seen) (← field.read value) rounds

/-- A record with the given fields, on top of its defaults. -/
def readRecord {α : Type} (typeName : String) (fields : List (Field α)) (default : α) : Reader α := do
  match ← peekValue with
  | 0x5B =>
      advance
      let value ← readElements true default fields
      listEnd
      return value
  | 0x7B =>
      advance
      bounded (readMembers fields [] default)
  | _ => refuseType ("struct " ++ typeName)

end RootObject.Json
