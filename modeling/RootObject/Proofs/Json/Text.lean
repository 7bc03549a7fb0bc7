import RootObject.Json.Text
import RootObject.Proofs.Json.Reading
import RootObject.Proofs.Text.Utf8

/-!
Strings in JSON, from behind their opening quote. `Spelling` says, beside the reader, which tokens spell a
text: every character stands for itself or is written as an escape, one above U+FFFF as two. The reader takes
each of them as that text (`spells_of_spelling`). `Quoted` asks less, as looking a string over does: any four
digits make an escape, whether they denote a character or not (`skip_quoted`).
-/

namespace RootObject.Json.Text

/-! ### What stands between quotes -/

/-- The letters of short escapes, and the characters that they stand for. -/
def shortEscapes : List (UInt8 × Char) :=
  [(0x22, '"'), (0x5C, '\\'), (0x2F, '/'), (0x62, '\x08'), (0x66, '\x0c'), (0x6E, '\n'), (0x72, '\r'),
    (0x74, '\t')]

/-- The byte is the digit with this value in base sixteen, whether a small letter or a capital. -/
def HexDigit (byte : UInt8) (value : Nat) : Prop :=
  value < 16 ∧
    (byte.toNat = (Nat.digitChar value).toNat ∨ byte.toNat = (Nat.digitChar value).toUpper.toNat)

/-- The bytes are four digits that denote the number in base sixteen. -/
inductive HexDigits : List UInt8 → Nat → Prop where
  | four {a b c d : UInt8} {i j k l : Nat} (first : HexDigit a i) (second : HexDigit b j)
      (third : HexDigit c k) (fourth : HexDigit d l) :
      HexDigits [a, b, c, d] (((i * 16 + j) * 16 + k) * 16 + l)

/-- The bytes stand for the character: its own, if it may stand for itself, a short escape, its number, or
above U+FFFF the two numbers that it is split into. -/
inductive Stands : List UInt8 → Char → Prop where
  | itself {c : Char} (printable : 0x20 ≤ c.toNat) (noQuote : c ≠ '"') (noBackslash : c ≠ '\\') :
      Stands (Utf8.encodeChar c) c
  | short {letter : UInt8} {c : Char} (known : (letter, c) ∈ shortEscapes) : Stands [0x5C, letter] c
  | number {digits : List UInt8} {c : Char} (denotes : HexDigits digits c.toNat) :
      Stands (0x5C :: 0x75 :: digits) c
  | pair {high low : List UInt8} {c : Char} (large : 0x10000 ≤ c.toNat)
      (denotesHigh : HexDigits high (0xD800 + (c.toNat - 0x10000) / 0x400))
      (denotesLow : HexDigits low (0xDC00 + (c.toNat - 0x10000) % 0x400)) :
      Stands (0x5C :: 0x75 :: (high ++ 0x5C :: 0x75 :: low)) c

/-- Up to the closing quote, the token is one character of a text after another. -/
inductive Spelling : List UInt8 → List Char → Prop where
  | done : Spelling [0x22] []
  | char {bytes token : List UInt8} {c : Char} {text : List Char} (stands : Stands bytes c)
      (more : Spelling token text) : Spelling (bytes ++ token) (c :: text)

/-- Nothing among the bytes of a string ends it, begins an escape, or is refused. -/
def Plain (bytes : List UInt8) : Prop :=
  ∀ byte ∈ bytes, byte ≠ 0x22 ∧ byte ≠ 0x5C ∧ ¬ byte < 0x20

instance (bytes : List UInt8) : Decidable (Plain bytes) :=
  List.decidableBAll _ bytes

/-- Up to the closing quote, the token is plain bytes and escapes. -/
inductive Quoted : List UInt8 → Prop where
  | done : Quoted [0x22]
  | plain {byte : UInt8} {token : List UInt8} (plain : Plain [byte]) (more : Quoted token) :
      Quoted (byte :: token)
  | short {letter : UInt8} {c : Char} {token : List UInt8} (known : (letter, c) ∈ shortEscapes)
      (more : Quoted token) : Quoted (0x5C :: letter :: token)
  | number {digits token : List UInt8} {value : Nat} (denotes : HexDigits digits value)
      (more : Quoted token) : Quoted (0x5C :: 0x75 :: (digits ++ token))

/-! ### Escapes -/

theorem hexValue?_of_hexDigit {byte : UInt8} {value : Nat} (digit : HexDigit byte value) :
    hexValue? byte = some value := by
  have known : ∀ value < 16, hexValue? (UInt8.ofNat (Nat.digitChar value).toNat) = some value ∧
      hexValue? (UInt8.ofNat (Nat.digitChar value).toUpper.toNat) = some value := by decide
  obtain ⟨small, is⟩ := digit
  rw [← UInt8.ofNat_toNat (x := byte)]
  rcases is with same | same
  · rw [same]
    exact (known value small).1
  · rw [same]
    exact (known value small).2

theorem hexEscape_append {digits : List UInt8} {value : Nat} (denotes : HexDigits digits value)
    (rest : List UInt8) : hexEscape (digits ++ rest) = .ok (value, rest) := by
  cases denotes with
  | four first second third fourth =>
      simp [hexEscape, hexValue?_of_hexDigit first, hexValue?_of_hexDigit second,
        hexValue?_of_hexDigit third, hexValue?_of_hexDigit fourth]

/-- A short escape stands for a character of one byte. -/
theorem shortEscape?_of_mem {letter : UInt8} {c : Char} (known : (letter, c) ∈ shortEscapes) :
    ∃ byte, shortEscape? letter = some byte ∧ Utf8.encodeChar c = [byte] := by
  simp only [shortEscapes, List.mem_cons, Prod.mk.injEq, List.not_mem_nil, or_false] at known
  rcases known with ⟨rfl, rfl⟩ | ⟨rfl, rfl⟩ | ⟨rfl, rfl⟩ | ⟨rfl, rfl⟩ | ⟨rfl, rfl⟩ | ⟨rfl, rfl⟩ |
    ⟨rfl, rfl⟩ | ⟨rfl, rfl⟩ <;> exact ⟨_, rfl, by decide⟩

theorem escape_short {letter : UInt8} {c : Char} (known : (letter, c) ∈ shortEscapes) (rest : List UInt8) :
    escape (letter :: rest) = .ok (Utf8.encodeChar c, rest) := by
  obtain ⟨byte, short, written⟩ := shortEscape?_of_mem known
  have next : Reader.next (letter :: rest) = .ok (some letter, rest) := rfl
  rw [escape, Reader.bind_of_ok next, written]
  simp only [short]
  rfl

theorem escape_number {tail rest : List UInt8} {c : Char} (denotes : unicodeEscape tail = .ok (c, rest)) :
    escape (0x75 :: tail) = .ok (Utf8.encodeChar c, rest) := by
  have next : Reader.next (0x75 :: tail) = .ok (some 0x75, tail) := rfl
  have other : shortEscape? 0x75 = none := by decide
  rw [escape, Reader.bind_of_ok next]
  simp only [other, if_true]
  rw [Reader.bind_of_ok denotes]
  rfl

/-- A character that four digits denote is no surrogate. -/
theorem unicodeEscape_number {digits : List UInt8} {c : Char} (denotes : HexDigits digits c.toNat)
    (rest : List UInt8) : unicodeEscape (digits ++ rest) = .ok (c, rest) := by
  have valid : c.toNat < 0xD800 ∨ (0xDFFF < c.toNat ∧ c.toNat < 0x110000) := c.valid
  have alone : ¬ (0xDC00 ≤ c.toNat ∧ c.toNat ≤ 0xDFFF) := by omega
  have whole : c.toNat < 0xD800 ∨ 0xDBFF < c.toNat := by omega
  rw [unicodeEscape, Reader.bind_of_ok (hexEscape_append denotes rest), if_neg alone, if_pos whole,
    Char.ofNat_toNat]
  rfl

theorem pairByte_cons (byte : UInt8) (rest : List UInt8) : pairByte byte (byte :: rest) = .ok ((), rest) := by
  have next : Reader.next (byte :: rest) = .ok (some byte, rest) := rfl
  rw [pairByte, Reader.bind_of_ok next]
  simp only [if_true]
  rfl

/-- Two numbers denote the character that is split into them. -/
theorem unicodeEscape_pair {high low : List UInt8} {c : Char} (large : 0x10000 ≤ c.toNat)
    (denotesHigh : HexDigits high (0xD800 + (c.toNat - 0x10000) / 0x400))
    (denotesLow : HexDigits low (0xDC00 + (c.toNat - 0x10000) % 0x400)) (rest : List UInt8) :
    unicodeEscape (high ++ 0x5C :: 0x75 :: (low ++ rest)) = .ok (c, rest) := by
  have valid : c.toNat < 0xD800 ∨ (0xDFFF < c.toNat ∧ c.toNat < 0x110000) := c.valid
  have alone : ¬ (0xDC00 ≤ 0xD800 + (c.toNat - 0x10000) / 0x400 ∧
      0xD800 + (c.toNat - 0x10000) / 0x400 ≤ 0xDFFF) := by omega
  have whole : ¬ (0xD800 + (c.toNat - 0x10000) / 0x400 < 0xD800 ∨
      0xDBFF < 0xD800 + (c.toNat - 0x10000) / 0x400) := by omega
  have paired : ¬ (0xDC00 + (c.toNat - 0x10000) % 0x400 < 0xDC00 ∨
      0xDFFF < 0xDC00 + (c.toNat - 0x10000) % 0x400) := by omega
  have joined : 0x10000 + (0xD800 + (c.toNat - 0x10000) / 0x400 - 0xD800) * 0x400 +
      (0xDC00 + (c.toNat - 0x10000) % 0x400 - 0xDC00) = c.toNat := by omega
  rw [unicodeEscape, Reader.bind_of_ok (hexEscape_append denotesHigh _), if_neg alone, if_neg whole,
    Reader.bind_of_ok (pairByte_cons _ _), Reader.bind_of_ok (pairByte_cons _ _),
    Reader.bind_of_ok (hexEscape_append denotesLow rest), if_neg paired, joined, Char.ofNat_toNat]
  rfl

/-! ### Reading strings -/

/-- Behind its opening quote, the token is a string with the text. -/
def Spells (token : List UInt8) (text : String) : Prop :=
  ∀ rest, read (token ++ rest) = .ok (text, rest)

theorem bytesOnto_quote (before : List UInt8) (round : UInt8) (rounds rest : List UInt8) :
    bytesOnto before (round :: rounds) (0x22 :: rest) = .ok (before.reverse, rest) := by
  simp [bytesOnto]
  rfl

theorem bytesOnto_plain {bytes : List UInt8} (plain : Plain bytes) (before rest rounds : List UInt8)
    (enough : bytes.length ≤ rounds.length) :
    bytesOnto before rounds (bytes ++ rest) =
      bytesOnto (bytes.reverse ++ before) (rounds.drop bytes.length) rest := by
  induction bytes generalizing before rounds with
  | nil => rfl
  | cons byte bytes ih =>
      cases rounds with
      | nil => nomatch enough
      | cons round rounds =>
          obtain ⟨plainByte, plain⟩ := List.forall_mem_cons.mp plain
          have next : Reader.next (byte :: (bytes ++ rest)) = .ok (some byte, bytes ++ rest) := rfl
          rw [bytesOnto, List.cons_append, Reader.bind_of_ok next]
          simp [plainByte]
          exact ih plain _ _ (Nat.le_of_succ_le_succ enough)

theorem bytesOnto_escape {tail bytes rest : List UInt8} (escaped : escape tail = .ok (bytes, rest))
    (before : List UInt8) (round : UInt8) (rounds : List UInt8) :
    bytesOnto before (round :: rounds) (0x5C :: tail) = bytesOnto (bytes.reverse ++ before) rounds rest := by
  have next : Reader.next (0x5C :: tail) = .ok (some 0x5C, tail) := rfl
  rw [bytesOnto, Reader.bind_of_ok next]
  exact Reader.bind_of_ok escaped

/-- A byte of a character is the character's own number, or above all that strings end at. -/
theorem toNat_of_mem_encodeChar {c : Char} {byte : UInt8} (among : byte ∈ Utf8.encodeChar c) :
    byte.toNat = c.toNat ∨ 0x80 ≤ byte.toNat := by
  rcases Utf8.encodeChar_cases c with ⟨a, eq, _⟩ | ⟨a, b, eq, _⟩ | ⟨a, b, d, eq, _⟩ | ⟨a, b, d, e, eq, _⟩
  all_goals simp only [eq, List.mem_cons, List.not_mem_nil, or_false] at among
  · subst among
    omega
  · rcases among with rfl | rfl <;> omega
  · rcases among with rfl | rfl | rfl <;> omega
  · rcases among with rfl | rfl | rfl | rfl <;> omega

theorem plain_encodeChar {c : Char} (printable : 0x20 ≤ c.toNat) (noQuote : c ≠ '"')
    (noBackslash : c ≠ '\\') : Plain (Utf8.encodeChar c) := by
  intro byte among
  have number := toNat_of_mem_encodeChar among
  refine ⟨?_, ?_, fun control => ?_⟩
  · rintro rfl
    exact noQuote (Char.toNat_inj.mp (number.resolve_right (by decide)).symm)
  · rintro rfl
    exact noBackslash (Char.toNat_inj.mp (number.resolve_right (by decide)).symm)
  · have small : byte.toNat < 0x20 := control
    omega

/-- What stands for a character is read as its bytes, in no more rounds than it has bytes itself. -/
theorem bytesOnto_stands {bytes : List UInt8} {c : Char} (stands : Stands bytes c)
    (before rest rounds : List UInt8) (enough : bytes.length ≤ rounds.length) :
    ∃ left, rounds.length ≤ left.length + bytes.length ∧
      bytesOnto before rounds (bytes ++ rest) =
        bytesOnto ((Utf8.encodeChar c).reverse ++ before) left rest := by
  cases stands with
  | itself printable noQuote noBackslash =>
      have plain := plain_encodeChar printable noQuote noBackslash
      refine ⟨rounds.drop (Utf8.encodeChar c).length, ?_, bytesOnto_plain plain before rest rounds enough⟩
      rw [List.length_drop]
      omega
  | short known =>
      cases rounds with
      | nil => nomatch enough
      | cons round rounds =>
          refine ⟨rounds, ?_, bytesOnto_escape (escape_short known rest) before round rounds⟩
          simp only [List.length_cons]
          omega
  | @number digits _ denotes =>
      cases rounds with
      | nil => nomatch enough
      | cons round rounds =>
          refine ⟨rounds, ?_, ?_⟩
          · simp only [List.length_cons]
            omega
          · exact bytesOnto_escape (escape_number (unicodeEscape_number denotes rest)) before round rounds
  | @pair high low _ large denotesHigh denotesLow =>
      cases rounds with
      | nil => nomatch enough
      | cons round rounds =>
          refine ⟨rounds, ?_, ?_⟩
          · simp only [List.length_cons]
            omega
          · have paired := unicodeEscape_pair large denotesHigh denotesLow rest
            simp only [List.cons_append, List.append_assoc]
            exact bytesOnto_escape (escape_number paired) before round rounds

theorem bytesOnto_spelling {token : List UInt8} {text : List Char} (spelling : Spelling token text)
    (before rest rounds : List UInt8) (enough : token.length ≤ rounds.length) :
    bytesOnto before rounds (token ++ rest) = .ok (before.reverse ++ text.flatMap Utf8.encodeChar, rest) := by
  induction spelling generalizing before rounds with
  | done =>
      cases rounds with
      | nil => nomatch enough
      | cons round rounds =>
          rw [List.flatMap_nil, List.append_nil]
          exact bytesOnto_quote before round rounds rest
  | @char bytes token c text stands more ih =>
      rw [List.length_append] at enough
      obtain ⟨left, few, read⟩ := bytesOnto_stands stands before (token ++ rest) rounds (by omega)
      rw [List.append_assoc, read, ih _ left (by omega)]
      simp

/-- A text is read from every token that spells it. -/
theorem spells_of_spelling {token : List UInt8} {text : String} (spelling : Spelling token text.toList) :
    Spells token text := by
  intro rest
  have bytes : Reader.bounded (bytesOnto []) (token ++ rest) = .ok (Utf8.encode text, rest) := by
    refine bytesOnto_spelling spelling [] rest (0 :: (token ++ rest)) ?_
    rw [List.length_cons, List.length_append]
    omega
  rw [read, Reader.bind_of_ok bytes, Utf8.decode_encode]
  rfl

/-- A character of which the bytes are plain may stand for itself. -/
theorem stands_of_plain {c : Char} (plain : Plain (Utf8.encodeChar c)) : Stands (Utf8.encodeChar c) c := by
  by_cases ascii : c.toNat < 0x80
  · have own : Utf8.encodeChar c = [c.toNat.toUInt8] := by simp [Utf8.encodeChar, ascii]
    have number : c.toNat.toUInt8.toNat = c.toNat := by simp; omega
    rw [own] at plain
    obtain ⟨noQuote, noBackslash, printable⟩ := plain _ (List.mem_singleton_self _)
    refine .itself ?_ ?_ ?_
    · rw [UInt8.lt_iff_toNat_lt, number] at printable
      exact Nat.not_lt.mp printable
    · rintro rfl
      exact noQuote rfl
    · rintro rfl
      exact noBackslash rfl
  · refine .itself (by omega) ?_ ?_
    · rintro rfl
      exact ascii (by decide)
    · rintro rfl
      exact ascii (by decide)

theorem spelling_plain {text : List Char} (plain : Plain (text.flatMap Utf8.encodeChar)) :
    Spelling (text.flatMap Utf8.encodeChar ++ [0x22]) text := by
  induction text with
  | nil => exact .done
  | cons c text ih =>
      rw [List.flatMap_cons] at plain ⊢
      rw [List.append_assoc]
      have own : Plain (Utf8.encodeChar c) := fun byte among => plain byte (List.mem_append_left _ among)
      have others : Plain (text.flatMap Utf8.encodeChar) :=
        fun byte among => plain byte (List.mem_append_right _ among)
      exact .char (stands_of_plain own) (ih others)

theorem spells_plain {text : String} (plain : Plain (Utf8.encode text)) :
    Spells (Utf8.encode text ++ [0x22]) text :=
  spells_of_spelling (spelling_plain plain)

/-! ### Looking strings over -/

theorem skipEscape_short {letter : UInt8} {c : Char} (known : (letter, c) ∈ shortEscapes)
    (rest : List UInt8) : skipEscape (letter :: rest) = .ok ((), rest) := by
  obtain ⟨byte, short, -⟩ := shortEscape?_of_mem known
  have next : Reader.next (letter :: rest) = .ok (some letter, rest) := rfl
  rw [skipEscape, Reader.bind_of_ok next]
  simp only [short, Option.isSome_some, if_true]
  rfl

theorem skipEscape_number {digits : List UInt8} {value : Nat} (denotes : HexDigits digits value)
    (rest : List UInt8) : skipEscape (0x75 :: (digits ++ rest)) = .ok ((), rest) := by
  have next : Reader.next (0x75 :: (digits ++ rest)) = .ok (some 0x75, digits ++ rest) := rfl
  have other : shortEscape? 0x75 = none := by decide
  rw [skipEscape, Reader.bind_of_ok next]
  simp only [other, Option.isSome_none, Bool.false_eq_true, if_false, if_true]
  rw [Reader.bind_of_ok (hexEscape_append denotes rest)]
  rfl

theorem skipWithin_escape {tail rest : List UInt8} (escaped : skipEscape tail = .ok ((), rest))
    (round : UInt8) (rounds : List UInt8) :
    skipWithin (round :: rounds) (0x5C :: tail) = skipWithin rounds rest := by
  have peek : Reader.peek (0x5C :: tail) = .ok (some 0x5C, 0x5C :: tail) := rfl
  rw [skipWithin, Reader.bind_of_ok peek]
  change (skipEscape >>= fun _ => skipWithin rounds) tail = _
  exact Reader.bind_of_ok escaped

theorem skipWithin_quoted {token : List UInt8} (quoted : Quoted token) (rest rounds : List UInt8)
    (enough : token.length ≤ rounds.length) : skipWithin rounds (token ++ rest) = .ok ((), rest) := by
  induction quoted generalizing rounds with
  | done =>
      cases rounds with
      | nil => nomatch enough
      | cons round rounds => rfl
  | @plain byte token plain more ih =>
      cases rounds with
      | nil => nomatch enough
      | cons round rounds =>
          obtain ⟨noQuote, noBackslash, printable⟩ := plain byte (List.mem_singleton_self byte)
          have peek : Reader.peek (byte :: (token ++ rest)) = .ok (some byte, byte :: (token ++ rest)) := rfl
          rw [skipWithin, List.cons_append, Reader.bind_of_ok peek]
          simp only [printable, noQuote, noBackslash, if_false]
          exact ih rounds (Nat.le_of_succ_le_succ enough)
  | @short letter c token known more ih =>
      cases rounds with
      | nil => nomatch enough
      | cons round rounds =>
          simp only [List.length_cons] at enough
          rw [List.cons_append, List.cons_append, skipWithin_escape (skipEscape_short known _)]
          exact ih rounds (by omega)
  | @number digits token value denotes more ih =>
      cases rounds with
      | nil => nomatch enough
      | cons round rounds =>
          simp only [List.length_cons, List.length_append] at enough
          rw [List.cons_append, List.cons_append, List.append_assoc,
            skipWithin_escape (skipEscape_number denotes _)]
          exact ih rounds (by omega)

/-- Everything that is quoted is looked over. -/
theorem skip_quoted {token : List UInt8} (quoted : Quoted token) (rest : List UInt8) :
    skip (token ++ rest) = .ok ((), rest) := by
  refine skipWithin_quoted quoted rest (0 :: (token ++ rest)) ?_
  rw [List.length_cons, List.length_append]
  omega

end RootObject.Json.Text
