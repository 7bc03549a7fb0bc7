import RootObject.Text.Decimal
import RootObject.Text.Quoted
import RootObject.Text.Utf8

/-!
Reading JSON text byte by byte: readers, the causes for which they refuse a text, and the places where
they do. A reader takes what it needs from the front of the bytes and leaves the rest. A refusal
remembers how many bytes were left, from which line and column follow.
-/

namespace RootObject.Json

/-- Why a text is refused. -/
inductive Cause where
  | endInValue
  | endInString
  | endInList
  | endInObject
  | colonExpected
  | listEndExpected
  | objectEndExpected
  | identExpected
  | valueExpected
  | escapeUnknown
  | numberMalformed
  | numberTooLarge
  | surrogateAlone
  | hexEscapeUnpaired
  | controlCharacter
  | keyNotString
  | commaTrailing
  | textTrailing
  /-- A value of another type than the one asked for. -/
  | wrongType (found expected : String)
  /-- A value of the right type out of its range. -/
  | wrongValue (found expected : String)
  | variantUnknown (found : String) (known : List String)
  | fieldDuplicated (name : String)
  deriving DecidableEq, Repr

/-- What kind of refusal a cause is. -/
inductive Category where
  /-- The text ends too early. -/
  | early
  /-- The text is no JSON. -/
  | malformed
  /-- The text is JSON for something else. -/
  | unsuitable
  deriving DecidableEq, Repr

/-- Names in an enumeration of alternatives, each between backticks. -/
def alternatives (names : List String) : String :=
  let marked := names.map fun name => "`" ++ name ++ "`"
  match marked with
  | [first, second] => first ++ " or " ++ second
  | [only] => only
  | _ => "one of " ++ ", ".intercalate marked

namespace Cause

def category : Cause → Category
  | endInValue | endInString | endInList | endInObject => .early
  | wrongType .. | wrongValue .. | variantUnknown .. | fieldDuplicated _ => .unsuitable
  | _ => .malformed

def message : Cause → String
  | endInValue => "EOF while parsing a value"
  | endInString => "EOF while parsing a string"
  | endInList => "EOF while parsing a list"
  | endInObject => "EOF while parsing an object"
  | colonExpected => "expected `:`"
  | listEndExpected => "expected `,` or `]`"
  | objectEndExpected => "expected `,` or `\x7d`"
  | identExpected => "expected ident"
  | valueExpected => "expected value"
  | escapeUnknown => "invalid escape"
  | numberMalformed => "invalid number"
  | numberTooLarge => "number out of range"
  | surrogateAlone => "lone leading surrogate in hex escape"
  | hexEscapeUnpaired => "unexpected end of hex escape"
  | controlCharacter => "control character (\\u0000-\\u001F) found while parsing a string"
  | keyNotString => "key must be a string"
  | commaTrailing => "trailing comma"
  | textTrailing => "trailing characters"
  | wrongType found expected => "invalid type: " ++ found ++ ", expected " ++ expected
  | wrongValue found expected => "invalid value: " ++ found ++ ", expected " ++ expected
  | variantUnknown found known =>
      "unknown variant `" ++ found ++ "`, expected " ++ alternatives known
  | fieldDuplicated name => "duplicate field `" ++ name ++ "`"

end Cause

/-- A refusal, with the number of bytes left where it happened. -/
structure Refusal where
  cause : Cause
  left : Nat
  deriving DecidableEq, Repr

abbrev Reader (α : Type) : Type :=
  StateT (List UInt8) (Except Refusal) α

namespace Reader

variable {α : Type}

/-- Refuses the text at the next byte, which is not counted as read. -/
def refuse (cause : Cause) : Reader α :=
  fun rest => .error ⟨cause, rest.length⟩

/-- Refuses the text for its next byte, which is counted as read. -/
def refuseNext (cause : Cause) : Reader α :=
  fun rest => .error ⟨cause, rest.length - 1⟩

/-- The next byte, which stays. -/
def peek : Reader (Option UInt8) :=
  fun rest => .ok (rest.head?, rest)

/-- Drops the next byte. -/
def advance : Reader Unit :=
  fun rest => .ok ((), rest.tail)

/-- The next byte, which is taken. -/
def next : Reader (Option UInt8) :=
  fun rest => .ok (rest.head?, rest.tail)

/-- The blanks between tokens: space, line end, return, tab. -/
def isBlank (byte : UInt8) : Bool :=
  byte = 0x20 || byte = 0x0A || byte = 0x0D || byte = 0x09

def skipBlanks : Reader Unit :=
  fun rest => .ok ((), rest.dropWhile isBlank)

/-- The next byte that is no blank, which stays. -/
def peekToken : Reader (Option UInt8) := do
  skipBlanks
  peek

/-- The first byte of a value, which stays. -/
def peekValue : Reader UInt8 := do
  match ← peekToken with
  | some byte => return byte
  | none => refuseNext .endInValue

/-- Takes the given bytes one by one. -/
def exactly : List UInt8 → Reader Unit
  | [] => return
  | expected :: rest => do
      match ← next with
      | none => refuse .endInValue
      | some byte => if byte = expected then exactly rest else refuse .identExpected

/-- Takes the remaining letters of a word. -/
def word (letters : String) : Reader Unit :=
  exactly (Utf8.encode letters)

/-- Takes the colon after a key. -/
def colon : Reader Unit := do
  match ← peekToken with
  | some 0x3A => advance
  | some _ => refuseNext .colonExpected
  | none => refuseNext .endInObject

/-- Runs a reader that goes round and round. It counts its rounds by a list that it is given: by the bytes
ahead and one more, which are enough if every round takes a byte. -/
def bounded (read : List UInt8 → Reader α) : Reader α :=
  fun rest => read (0 :: rest) rest

end Reader

/-- Whether a byte is a decimal digit. -/
def isDigit (byte : UInt8) : Bool :=
  0x30 ≤ byte && byte ≤ 0x39

/-- The value of a decimal digit. -/
def digitValue (byte : UInt8) : Nat :=
  byte.toNat - 0x30

end RootObject.Json
