import RootObject.Json.Cursor
import RootObject.Text.Utf8

/-!
JSON strings, from behind their opening quote. A string is read, with its escapes resolved and its
surrogates paired, or skipped, where the digits of an escape are looked at and nothing more.
-/

namespace RootObject.Json.Text

/-- The byte that a short escape stands for, by its letter. -/
def shortEscape? (letter : UInt8) : Option UInt8 :=
  [(0x22, 0x22), (0x5C, 0x5C), (0x2F, 0x2F), (0x62, 0x08), (0x66, 0x0C), (0x6E, 0x0A), (0x72, 0x0D),
    (0x74, 0x09)].lookup letter

def hexValue? (byte : UInt8) : Option Nat :=
  if 0x30 ≤ byte && byte ≤ 0x39 then some (byte.toNat - 0x30)
  else if 0x61 ≤ byte && byte ≤ 0x66 then some (byte.toNat - 0x57)
  else if 0x41 ≤ byte && byte ≤ 0x46 then some (byte.toNat - 0x37)
  else none

/-- The number that four hexadecimal digits denote. -/
def hexEscape : Reader Nat
  | a :: b :: c :: d :: rest =>
      let value? := do
        return (((← hexValue? a) * 16 + (← hexValue? b)) * 16 + (← hexValue? c)) * 16 + (← hexValue? d)
      match value? with
      | some value => .ok (value, rest)
      | none => Reader.refuse .escapeUnknown rest
  | _ => Reader.refuse .endInString []

/-- Takes one byte of the pair that has to follow a leading surrogate. -/
def pairByte (expected : UInt8) : Reader Unit := do
  match ← Reader.next with
  | none => Reader.refuse .endInString
  | some byte => if byte = expected then return else Reader.refuse .hexEscapeUnpaired

/-- The character of a numeric escape, from behind its letter. One above U+FFFF is written as two. -/
def unicodeEscape : Reader Char := do
  let first ← hexEscape
  if 0xDC00 ≤ first ∧ first ≤ 0xDFFF then
    Reader.refuse .surrogateAlone
  else if first < 0xD800 ∨ 0xDBFF < first then
    return Char.ofNat first
  else
    pairByte 0x5C
    pairByte 0x75
    let second ← hexEscape
    if second < 0xDC00 ∨ 0xDFFF < second then
      Reader.refuse .surrogateAlone
    else
      return Char.ofNat (0x10000 + (first - 0xD800) * 0x400 + (second - 0xDC00))

/-- What an escape stands for, from behind its backslash. -/
def escape : Reader (List UInt8) := do
  match ← Reader.next with
  | none => Reader.refuse .endInString
  | some letter =>
      match shortEscape? letter with
      | some byte => return [byte]
      | none =>
          if letter = 0x75 then return Utf8.encodeChar (← unicodeEscape)
          else Reader.refuse .escapeUnknown

/-- Looks an escape over, from behind its backslash. -/
def skipEscape : Reader Unit := do
  match ← Reader.next with
  | none => Reader.refuse .endInString
  | some letter =>
      if (shortEscape? letter).isSome then return
      else if letter = 0x75 then let _ ← hexEscape
      else Reader.refuse .escapeUnknown

/-- The bytes up to the closing quote behind those already read, the latest of which come first. -/
def bytesOnto (read : List UInt8) : List UInt8 → Reader (List UInt8)
  | [] => Reader.refuse .endInString
  | _ :: rounds => do
      match ← Reader.next with
      | none => Reader.refuse .endInString
      | some 0x22 => return read.reverse
      | some 0x5C =>
          let bytes ← escape
          bytesOnto (bytes.reverse ++ read) rounds
      | some byte =>
          if byte < 0x20 then Reader.refuse .controlCharacter else bytesOnto (byte :: read) rounds

/-- The text up to the closing quote. -/
def read : Reader String := do
  return Utf8.decode (← Reader.bounded (bytesOnto []))

/-- Drops all up to the closing quote, in so many rounds. -/
def skipWithin : List UInt8 → Reader Unit
  | [] => Reader.refuse .endInString
  | _ :: rounds => do
      match ← Reader.peek with
      | none => Reader.refuse .endInString
      | some byte =>
          if byte < 0x20 then Reader.refuse .controlCharacter
          else
            Reader.advance
            if byte = 0x22 then return
            else
              if byte = 0x5C then skipEscape
              skipWithin rounds

/-- Drops all up to the closing quote. -/
def skip : Reader Unit :=
  Reader.bounded skipWithin

end RootObject.Json.Text
