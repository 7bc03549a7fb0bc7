import Mathlib.Data.List.Forall2
import Mathlib.Data.Nat.Digits.Defs
import RootObject.Literal
import RootObject.Proofs.Text.Utf8

/-!
The grammar of integer literals, and the numbers they denote, stated apart from how they are read.
`numeral?` reads the grammar's texts and no others (`integer_iff`), so a text that is read as a 32-bit
value denotes it, one that is out of range denotes a number that no 32 bits hold, and a malformed one
denotes nothing.
-/

namespace RootObject.Literal

/-! ### Booleans -/

theorem parseBool_eq_ok_iff {text : String} {value : Bool} :
    parseBool text = .ok value ↔ text = if value then "true" else "false" := by
  unfold parseBool
  by_cases isTrue : text = "true"
  · cases value <;> simp [isTrue]
  · by_cases isFalse : text = "false"
    · cases value <;> simp [isFalse]
    · cases value <;> simp [isTrue, isFalse]

theorem parseBool_eq_malformed_iff {text : String} :
    parseBool text = .error .malformed ↔ ∀ value : Bool, text ≠ if value then "true" else "false" := by
  unfold parseBool
  by_cases isTrue : text = "true"
  · simp [isTrue]
  · by_cases isFalse : text = "false"
    · simp [isFalse]
    · simp [isTrue, isFalse]

/-- A token that is no boolean is malformed. -/
theorem parseBool_ne_outOfRange (text : String) : parseBool text ≠ .error .outOfRange := by
  unfold parseBool
  split
  · simp
  · split <;> simp

/-! ### The grammar -/

/-- The digit of this value, a letter of either case from ten on. -/
def IsDigit (base : Nat) (c : Char) (digit : Nat) : Prop :=
  digit < base ∧ (c = Nat.digitChar digit ∨ c = (Nat.digitChar digit).toUpper)

/-- One or more digits, most significant first, and the number that they denote. -/
def Magnitude (base : Nat) (cs : List Char) (n : Nat) : Prop :=
  cs ≠ [] ∧ ∃ digits, List.Forall₂ (IsDigit base) cs digits ∧ Nat.ofDigits base digits.reverse = n

/-- An integer literal without a sign. -/
inductive Unsigned : List Char → Nat → Prop where
  | decimal {cs : List Char} {n : Nat} : Magnitude 10 cs n → Unsigned cs n
  | hexadecimal {cs : List Char} {n : Nat} : Magnitude 16 cs n → Unsigned ('0' :: 'x' :: cs) n

/-- An integer literal, and the number that it denotes. -/
inductive Integer : List Char → Int → Prop where
  | plain {cs : List Char} {n : Nat} : Unsigned cs n → Integer cs n
  | plus {cs : List Char} {n : Nat} : Unsigned cs n → Integer ('+' :: cs) n
  | minus {cs : List Char} {n : Nat} : Unsigned cs n → Integer ('-' :: cs) (-n)

/-! ### Digits -/

theorem digitValue?_digitChar {base digit : Nat} (small : digit < 16) (less : digit < base) :
    digitValue? base (Nat.digitChar digit) = some digit ∧
      digitValue? base (Nat.digitChar digit).toUpper = some digit := by
  have known : ∀ digit < 16, digitValue? 16 (Nat.digitChar digit) = some digit ∧
      digitValue? 16 (Nat.digitChar digit).toUpper = some digit := by decide
  obtain ⟨lower, upper⟩ := known digit small
  unfold digitValue? at lower upper ⊢
  simp only [Option.filter_eq_some_iff] at lower upper ⊢
  exact ⟨⟨lower.1, decide_eq_true less⟩, ⟨upper.1, decide_eq_true less⟩⟩

/-- What the characters of a range are, told by their distance from the first. -/
theorem eq_of_between {first last c : Char} (lower : first ≤ c) (upper : c ≤ last)
    (named : Nat → Char)
    (known : ∀ k < last.toNat - first.toNat + 1, Char.ofNat (first.toNat + k) = named k) :
    c = named (c.toNat - first.toNat) := by
  rw [Char.le_def, UInt32.le_iff_toNat_le] at lower upper
  change first.toNat ≤ c.toNat at lower
  change c.toNat ≤ last.toNat at upper
  rw [← known (c.toNat - first.toNat) (by omega), Nat.add_sub_cancel' lower, Char.ofNat_toNat]

/-- A character is read as the digit it is. -/
theorem digitValue?_eq_some_iff {base : Nat} (most : base ≤ 16) {c : Char} {digit : Nat} :
    digitValue? base c = some digit ↔ IsDigit base c digit := by
  constructor
  · intro read
    unfold digitValue? at read
    obtain ⟨read, less⟩ := Option.filter_eq_some_iff.mp read
    refine ⟨of_decide_eq_true less, ?_⟩
    split at read
    · next bounds =>
        cases read
        exact .inl (eq_of_between bounds.1 bounds.2 Nat.digitChar (by decide))
    split at read
    · next bounds =>
        cases read
        exact .inl (eq_of_between bounds.1 bounds.2 (fun k => Nat.digitChar (k + 10)) (by decide))
    split at read
    · next bounds =>
        cases read
        exact .inr (eq_of_between bounds.1 bounds.2 (fun k => (Nat.digitChar (k + 10)).toUpper)
          (by decide))
    · cases read
  · rintro ⟨less, rfl | rfl⟩
    · exact (digitValue?_digitChar (by omega) less).1
    · exact (digitValue?_digitChar (by omega) less).2

theorem mapM_digitValue? {base : Nat} (most : base ≤ 16) {cs : List Char} {digits : List Nat} :
    cs.mapM (digitValue? base) = some digits ↔ List.Forall₂ (IsDigit base) cs digits := by
  induction cs generalizing digits with
  | nil => simp [eq_comm]
  | cons c cs ih =>
      simp only [List.mapM_cons, Option.bind_eq_bind, Option.bind_eq_some_iff,
        List.forall₂_cons_left_iff, digitValue?_eq_some_iff most, ih]
      constructor
      · rintro ⟨digit, is, rest, are, same⟩
        cases same
        exact ⟨digit, rest, is, are, rfl⟩
      · rintro ⟨digit, rest, is, are, rfl⟩
        exact ⟨digit, is, rest, are, rfl⟩

theorem foldl_eq_ofDigits (base : Nat) (digits : List Nat) (start : Nat) :
    digits.foldl (fun value digit => value * base + digit) start =
      Nat.ofDigits base (digits.reverse ++ [start]) := by
  induction digits generalizing start with
  | nil => simp
  | cons digit digits ih =>
      rw [List.foldl_cons, ih, List.reverse_cons, List.append_assoc, Nat.ofDigits_append,
        Nat.ofDigits_append, Nat.ofDigits_singleton, List.singleton_append, Nat.ofDigits_cons,
        Nat.ofDigits_singleton, Nat.add_comm digit, Nat.mul_comm base]

/-! ### Numerals -/

theorem Radix.base_le (radix : Radix) : radix.base ≤ 16 := by
  cases radix <;> decide

theorem Numeral.magnitude_eq (numeral : Numeral) :
    numeral.magnitude = Nat.ofDigits numeral.radix.base numeral.digits.reverse := by
  rw [Numeral.magnitude, foldl_eq_ofDigits, Nat.ofDigits_append_zero]

theorem digits?_eq_some_iff {radix : Radix} {cs : List Char} {digits : List Nat} :
    digits? radix cs = some digits ↔ cs ≠ [] ∧ List.Forall₂ (IsDigit radix.base) cs digits := by
  cases cs with
  | nil => simp [digits?]
  | cons c cs =>
      simp only [digits?, mapM_digitValue? radix.base_le]
      simp

/-- The digits of a magnitude are read, and denote it. -/
theorem magnitude_iff (radix : Radix) {negative : Bool} {cs : List Char} {n : Nat} :
    Magnitude radix.base cs n ↔
      ∃ numeral, (digits? radix cs).map (Numeral.mk negative radix) = some numeral ∧
        numeral.magnitude = n := by
  constructor
  · rintro ⟨some, digits, are, denote⟩
    refine ⟨⟨negative, radix, digits⟩, ?_, (Numeral.magnitude_eq _).trans denote⟩
    rw [digits?_eq_some_iff.mpr ⟨some, are⟩, Option.map_some]
  · rintro ⟨numeral, read, rfl⟩
    obtain ⟨digits, written, rfl⟩ := Option.map_eq_some_iff.mp read
    obtain ⟨some, are⟩ := digits?_eq_some_iff.mp written
    exact ⟨some, digits, are, (Numeral.magnitude_eq ⟨negative, radix, digits⟩).symm⟩

theorem not_isDigit_of_none {base : Nat} (most : base ≤ 16) {c : Char} {digit : Nat}
    (none : digitValue? base c = none) : ¬ IsDigit base c digit := by
  intro is
  rw [← digitValue?_eq_some_iff most, none] at is
  cases is

theorem unsigned_iff {negative : Bool} {cs : List Char} {n : Nat} :
    Unsigned cs n ↔ ∃ numeral, unsigned? negative cs = some numeral ∧ numeral.magnitude = n := by
  constructor
  · rintro (magnitude | magnitude)
    · unfold unsigned?
      split
      -- The second character of what is read as hexadecimal is no decimal digit.
      · obtain ⟨-, digits, are, -⟩ := magnitude
        cases are with
        | cons _ are =>
            cases are with
            | cons is _ => exact absurd is (not_isDigit_of_none (by decide) (by decide))
      · exact (magnitude_iff .decimal).mp magnitude
    · next cs =>
        cases cs with
        | nil => exact absurd rfl magnitude.1
        | cons d rest => exact (magnitude_iff .hexadecimal).mp magnitude
  · rintro ⟨numeral, read, rfl⟩
    unfold unsigned? at read
    split at read
    · exact .hexadecimal ((magnitude_iff .hexadecimal).mpr ⟨numeral, read, rfl⟩)
    · exact .decimal ((magnitude_iff .decimal).mpr ⟨numeral, read, rfl⟩)

theorem negative_of_unsigned? {negative : Bool} {cs : List Char} {numeral : Numeral}
    (read : unsigned? negative cs = some numeral) : numeral.negative = negative := by
  unfold unsigned? at read
  split at read
  all_goals
    obtain ⟨digits, -, rfl⟩ := Option.map_eq_some_iff.mp read
    rfl

theorem not_unsigned_of_sign {sign : Char} (is : sign = '+' ∨ sign = '-') {cs : List Char} {n : Nat} :
    ¬ Unsigned (sign :: cs) n := by
  intro unsigned
  cases unsigned with
  | decimal magnitude =>
      obtain ⟨-, digits, are, -⟩ := magnitude
      cases are with
      | cons digit _ =>
          rcases is with rfl | rfl
          all_goals exact absurd digit (not_isDigit_of_none (by decide) (by decide))
  | hexadecimal magnitude => rcases is with absurd | absurd <;> cases absurd

/-- What is read as a numeral is an integer literal, and the numeral stands for what it denotes. -/
theorem integer_iff {cs : List Char} {value : Int} :
    Integer cs value ↔ ∃ numeral, numeral? cs = some numeral ∧ numeral.value = value := by
  constructor
  · rintro (unsigned | unsigned | unsigned)
    · unfold numeral?
      split
      · exact absurd unsigned (not_unsigned_of_sign (.inr rfl))
      · exact absurd unsigned (not_unsigned_of_sign (.inl rfl))
      · obtain ⟨numeral, read, rfl⟩ := unsigned_iff.mp unsigned
        exact ⟨numeral, read, by simp [Numeral.value, negative_of_unsigned? read]⟩
    · obtain ⟨numeral, read, rfl⟩ := unsigned_iff.mp unsigned
      exact ⟨numeral, read, by simp [Numeral.value, negative_of_unsigned? read]⟩
    · obtain ⟨numeral, read, rfl⟩ := unsigned_iff.mp unsigned
      exact ⟨numeral, read, by simp [Numeral.value, negative_of_unsigned? read]⟩
  · rintro ⟨numeral, read, rfl⟩
    unfold numeral? at read
    split at read
    · rw [Numeral.value, negative_of_unsigned? read, if_pos rfl]
      exact .minus (unsigned_iff.mpr ⟨numeral, read, rfl⟩)
    · rw [Numeral.value, negative_of_unsigned? read, if_neg Bool.false_ne_true]
      exact .plus (unsigned_iff.mpr ⟨numeral, read, rfl⟩)
    · rw [Numeral.value, negative_of_unsigned? read, if_neg Bool.false_ne_true]
      exact .plain (unsigned_iff.mpr ⟨numeral, read, rfl⟩)

/-! ### Reading as 32 bits -/

/-- The number is one of 32 bits with a sign. -/
def Fits (n : Int) : Prop :=
  -0x80000000 ≤ n ∧ n ≤ 0x7FFFFFFF

theorem int32OfInt_eq_ok_iff {n : Int} {value : Int32} :
    int32OfInt n = .ok value ↔ Fits n ∧ value.toInt = n := by
  unfold int32OfInt
  split
  · next fits =>
      rw [Except.ok.injEq]
      constructor
      · rintro rfl
        exact ⟨fits, Int32.toInt_ofInt_of_le (by omega) (by omega)⟩
      · rintro ⟨-, rfl⟩
        exact Int32.ofInt_toInt value
  · next large =>
      constructor
      · intro refused
        cases refused
      · rintro ⟨fits, -⟩
        exact absurd fits large

theorem int32OfInt_eq_error_iff {n : Int} {error : LiteralError} :
    int32OfInt n = .error error ↔ ¬ Fits n ∧ error = .outOfRange := by
  unfold int32OfInt
  split
  · next fits =>
      constructor
      · intro read
        cases read
      · rintro ⟨large, -⟩
        exact absurd fits large
  · next large =>
      rw [Except.error.injEq]
      constructor
      · rintro rfl
        exact ⟨large, rfl⟩
      · rintro ⟨-, rfl⟩
        rfl

theorem parseInt32_eq_ok_iff {text : String} {value : Int32} :
    parseInt32 text = .ok value ↔ ∃ n, Integer text.toList n ∧ Fits n ∧ value.toInt = n := by
  rw [parseInt32_eq]
  simp only [integer_iff]
  cases numeral? text.toList with
  | none => simp
  | some numeral => simp [int32OfInt_eq_ok_iff]

theorem parseInt32_eq_outOfRange_iff {text : String} :
    parseInt32 text = .error .outOfRange ↔ ∃ n, Integer text.toList n ∧ ¬ Fits n := by
  rw [parseInt32_eq]
  simp only [integer_iff]
  cases numeral? text.toList with
  | none => simp
  | some numeral => simp [int32OfInt_eq_error_iff]

theorem parseInt32_eq_malformed_iff {text : String} :
    parseInt32 text = .error .malformed ↔ ¬ ∃ n, Integer text.toList n := by
  rw [parseInt32_eq]
  simp only [integer_iff]
  cases numeral? text.toList with
  | none => simp
  | some numeral => simp [int32OfInt_eq_error_iff]

/-- A text is read as the value of 32 bits that it denotes, is out of range if it denotes a number
that is none, and malformed if it denotes nothing. On the way a sign is cut off at the end of its one
byte, and the negation of what fits 64 bits fits them too. -/
theorem parseInt32_decides (text : String) :
    (∀ value, parseInt32 text = .ok value ↔
      ∃ n, Integer text.toList n ∧ Fits n ∧ value.toInt = n) ∧
    (parseInt32 text = .error .outOfRange ↔ ∃ n, Integer text.toList n ∧ ¬ Fits n) ∧
    (parseInt32 text = .error .malformed ↔ ¬ ∃ n, Integer text.toList n) ∧
    (∀ sign rest, sign = 0x2B ∨ sign = 0x2D → Utf8.encode text = sign :: rest →
      ∃ unsigned, text.toList = Char.ofNat sign.toNat :: unsigned ∧
        unsigned.flatMap Utf8.encodeChar = rest) ∧
    (∀ numeral magnitude, numeral? text.toList = some numeral →
      numeral.magnitude64? = some magnitude → (-magnitude).toInt = -magnitude.toInt) := by
  refine ⟨?ok, ?outOfRange, ?malformed, ?cut, ?negated⟩
  case cut =>
      intro sign rest isSign
      refine Utf8.toList_of_encode ?_
      rcases isSign with rfl | rfl <;> decide
  case negated =>
      intro numeral magnitude _ read
      have known := numeral.magnitude64?_spec
      rw [read] at known
      have := magnitude.toInt_lt
      rw [Int64.toInt_neg]
      exact Int.bmod_eq_of_le (by omega) (by omega)
  all_goals
    rw [parseInt32_eq]
    simp only [integer_iff]
    cases read : numeral? text.toList with
    | none => simp
    | some numeral => simp [int32OfInt_eq_ok_iff, int32OfInt_eq_error_iff]

end RootObject.Literal
