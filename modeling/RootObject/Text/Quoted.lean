import RootObject.Text.Printable

/-!
Quoted text and the text of record values. A quoted text stands between double quotes and shows
every character that would not be seen, or would not be told apart, by an escape: a short one for
NUL, tab, line ends, the quote and the backslash, and the code point in hexadecimal for the others.
A record shows its name and, in braces, its fields in order.
-/

namespace RootObject.Quoted

/-- The digits of a number in base sixteen, most significant first, with no leading zero. -/
def hexDigits (n : Nat) : List Char :=
  if n < 16 then [Nat.digitChar n] else hexDigits (n / 16) ++ [Nat.digitChar (n % 16)]
  termination_by n
  decreasing_by omega

/-- What stands for a character between the quotes. -/
def escape (c : Char) : List Char :=
  if c = '\x00' then ['\\', '0']
  else if c = '\t' then ['\\', 't']
  else if c = '\r' then ['\\', 'r']
  else if c = '\n' then ['\\', 'n']
  else if c = '"' then ['\\', '"']
  else if c = '\\' then ['\\', '\\']
  else if Printable.holds c then [c]
  else ['\\', 'u', '\x7b'] ++ hexDigits c.toNat ++ ['\x7d']

end RootObject.Quoted

namespace RootObject

/-- The text in double quotes, escaped. -/
def quoted (text : String) : String :=
  "\"" ++ String.ofList (text.toList.flatMap Quoted.escape) ++ "\""

/-- The text of a record value: its name, and its fields with the texts of their values. -/
def recordText (name : String) (fields : List (String × String)) : String :=
  name ++ " \x7b " ++ ", ".intercalate (fields.map fun field => field.1 ++ ": " ++ field.2) ++ " \x7d"

end RootObject
