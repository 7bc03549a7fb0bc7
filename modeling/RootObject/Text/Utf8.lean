/-!
UTF-8 in both directions. Writing is `encode`. Reading never refuses: `decode` puts U+FFFD for
every longest run of bytes that starts a character and cannot be continued. The reader is a machine
over single bytes, and a byte below 0x80 always brings it back between characters
(`step_ascii`), so a text may be cut at such a byte before or after it is read.
-/

namespace RootObject.Utf8

/-- What stands for a run of bytes that is no character. -/
def replacement : Char := '\uFFFD'

/-- The one to four bytes of a character. -/
def encodeChar (c : Char) : List UInt8 :=
  let n := c.toNat
  if n < 0x80 then
    [n.toUInt8]
  else if n < 0x800 then
    [(0xC0 + n / 0x40).toUInt8, (0x80 + n % 0x40).toUInt8]
  else if n < 0x10000 then
    [(0xE0 + n / 0x1000).toUInt8, (0x80 + n / 0x40 % 0x40).toUInt8, (0x80 + n % 0x40).toUInt8]
  else
    [(0xF0 + n / 0x40000).toUInt8, (0x80 + n / 0x1000 % 0x40).toUInt8,
      (0x80 + n / 0x40 % 0x40).toUInt8, (0x80 + n % 0x40).toUInt8]

/-- The bytes of a text. -/
def encode (text : String) : List UInt8 :=
  text.toList.flatMap encodeChar

/-- The bytes that may follow: any continuation byte, or after some beginnings only a part of them,
which leaves out overlong forms, surrogates and all above U+10FFFF. -/
inductive Follow where
  | any
  | fromA0
  | to9F
  | from90
  | to8F
  deriving DecidableEq, Repr

namespace Follow

def low : Follow → Nat
  | .any | .to9F | .to8F => 0x80
  | .fromA0 => 0xA0
  | .from90 => 0x90

def high : Follow → Nat
  | .any | .fromA0 | .from90 => 0xBF
  | .to9F => 0x9F
  | .to8F => 0x8F

/-- Every continuation byte has its high bit set. -/
theorem le_low (follow : Follow) : 0x80 ≤ follow.low := by
  cases follow <;> decide

end Follow

/-- Where the reader stands. In `within value more follow` a character has begun: its bits so far
are `value`, the next byte is one of `follow`, and `more` bytes come after that one. -/
inductive State where
  | between
  | within (value more : Nat) (follow : Follow)
  deriving DecidableEq, Repr

/-- A byte that begins a character. -/
def lead (byte : UInt8) : List Char × State :=
  let b := byte.toNat
  if b < 0x80 then ([Char.ofNat b], .between)
  else if b < 0xC2 then ([replacement], .between)
  else if b < 0xE0 then ([], .within (b - 0xC0) 0 .any)
  else if b = 0xE0 then ([], .within 0 1 .fromA0)
  else if b = 0xED then ([], .within 0xD 1 .to9F)
  else if b < 0xF0 then ([], .within (b - 0xE0) 1 .any)
  else if b = 0xF0 then ([], .within 0 2 .from90)
  else if b < 0xF4 then ([], .within (b - 0xF0) 2 .any)
  else if b = 0xF4 then ([], .within 4 2 .to8F)
  else ([replacement], .between)

/-- One byte: the characters it completes, and where the reader then stands. A byte that cannot
continue the open character closes it as refused and is read again as a beginning. -/
def step : State → UInt8 → List Char × State
  | .between, byte => lead byte
  | .within value more follow, byte =>
      let b := byte.toNat
      if follow.low ≤ b ∧ b ≤ follow.high then
        let value' := value * 0x40 + (b - 0x80)
        match more with
        | 0 => ([Char.ofNat value'], .between)
        | more + 1 => ([], .within value' more .any)
      else
        let (chars, next) := lead byte
        (replacement :: chars, next)

/-- What the end of the bytes completes: an open character is refused. -/
def finish : State → List Char
  | .between => []
  | .within .. => [replacement]

/-- The characters read from a standing point to the end of the bytes. -/
def chars : State → List UInt8 → List Char
  | state, [] => finish state
  | state, byte :: rest => (step state byte).1 ++ chars (step state byte).2 rest

/-- `chars` with the characters already read in hand, latest first. -/
def charsOnto (read : List Char) : State → List UInt8 → List Char
  | state, [] => (finish state).reverse ++ read
  | state, byte :: rest => charsOnto ((step state byte).1.reverse ++ read) (step state byte).2 rest

theorem charsOnto_eq (read : List Char) (state : State) (bytes : List UInt8) :
    charsOnto read state bytes = (chars state bytes).reverse ++ read := by
  induction bytes generalizing read state with
  | nil => rfl
  | cons byte rest ih => simp [charsOnto, chars, ih]

/-- The text that the bytes spell, with U+FFFD for what is no character. -/
def decode (bytes : List UInt8) : String :=
  String.ofList (charsOnto [] .between bytes).reverse

theorem toList_decode (bytes : List UInt8) : (decode bytes).toList = chars .between bytes := by
  simp [decode, charsOnto_eq]

/-- After a byte below 0x80 the reader stands between characters, wherever it stood before. -/
theorem step_ascii (state : State) (byte : UInt8) (ascii : byte.toNat < 0x80) :
    step state byte = (finish state ++ [Char.ofNat byte.toNat], .between) := by
  cases state with
  | between => simp [step, lead, finish, ascii]
  | within value more follow =>
      have outside : ¬ (follow.low ≤ byte.toNat ∧ byte.toNat ≤ follow.high) := by
        have := follow.le_low
        omega
      simp [step, lead, finish, ascii, outside]

/-- Whether the bytes are the text of some characters, nothing refused. -/
def Valid (bytes : List UInt8) : Prop :=
  encode (decode bytes) = bytes

instance (bytes : List UInt8) : Decidable (Valid bytes) :=
  inferInstanceAs (Decidable (_ = _))

end RootObject.Utf8
