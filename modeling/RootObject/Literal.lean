/-!
Literals of the language. A boolean is `true` or `false` and nothing else. An integer is an optional
sign, then decimal digits, or `0x` and hexadecimal digits of either case; a leading zero is an
ordinary digit. The number an integer literal stands for is unbounded. Reading it as a value asks further
that it fits 32 bits, which is told in 64 bits; a number too large for those is out of range as well
(`parseInt32_eq`).
-/

namespace RootObject

/-- Why a text is no literal of the kind asked for. -/
inductive LiteralError where
  | malformed
  | outOfRange
  deriving DecidableEq, Repr

def LiteralError.message : LiteralError → String
  | .malformed => "malformed literal"
  | .outOfRange => "literal out of range"

namespace Literal

/-- The value of a digit in a base up to sixteen, if the character is one. -/
def digitValue? (base : Nat) (c : Char) : Option Nat :=
  let value? :=
    if '0' ≤ c ∧ c ≤ '9' then some (c.toNat - '0'.toNat)
    else if 'a' ≤ c ∧ c ≤ 'f' then some (c.toNat - 'a'.toNat + 10)
    else if 'A' ≤ c ∧ c ≤ 'F' then some (c.toNat - 'A'.toNat + 10)
    else none
  value?.filter (· < base)

/-- What integers are written in. -/
inductive Radix where
  | decimal
  | hexadecimal
  deriving DecidableEq, Repr

def Radix.base : Radix → Nat
  | .decimal => 10
  | .hexadecimal => 16

/-- An integer as it is written: whether a minus sign is in front, and its digits, most significant
first. -/
structure Numeral where
  negative : Bool
  radix : Radix
  digits : List Nat
  deriving DecidableEq, Repr

namespace Numeral

/-- The number without its sign. -/
def magnitude (numeral : Numeral) : Nat :=
  numeral.digits.foldl (fun value digit => value * numeral.radix.base + digit) 0

/-- The number that the numeral stands for. -/
def value (numeral : Numeral) : Int :=
  if numeral.negative then -(numeral.magnitude : Int) else numeral.magnitude

/-- A number in 64 bits, if it fits them. -/
def int64OfInt? (n : Int) : Option Int64 :=
  if -0x8000000000000000 ≤ n ∧ n ≤ 0x7FFFFFFFFFFFFFFF then some (Int64.ofInt n) else none

/-- A number in 64 bits with one more digit behind it, if that fits them too. -/
def shift? (base : Nat) (value : Int64) (digit : Nat) : Option Int64 :=
  int64OfInt? (value.toInt * base + digit)

/-- The number without its sign in 64 bits, given up at the first digit that makes it too large. -/
def magnitude64? (numeral : Numeral) : Option Int64 :=
  numeral.digits.foldlM (shift? numeral.radix.base) 0

/-- A number in 64 bits with the numeral's sign. -/
def signed64 (numeral : Numeral) (magnitude : Int64) : Int64 :=
  if numeral.negative then -magnitude else magnitude

theorem toInt_of_int64OfInt? {n : Int} {value : Int64} (fits : int64OfInt? n = some value) :
    value.toInt = n := by
  unfold int64OfInt? at fits
  split at fits
  · cases fits
    exact Int64.toInt_ofInt_of_le (by omega) (by omega)
  · cases fits

theorem lt_of_int64OfInt?_eq_none {n : Int} (nonneg : 0 ≤ n) (refused : int64OfInt? n = none) :
    0x7FFFFFFFFFFFFFFF < n := by
  unfold int64OfInt? at refused
  split at refused
  · cases refused
  · omega

theorem le_foldl (base : Nat) (pos : 0 < base) (digits : List Nat) (value : Nat) :
    value ≤ digits.foldl (fun value digit => value * base + digit) value := by
  induction digits generalizing value with
  | nil => exact Nat.le_refl value
  | cons digit digits ih =>
      have larger : value ≤ value * base := Nat.le_mul_of_pos_right value pos
      have := ih (value * base + digit)
      simp only [List.foldl_cons]
      omega

/-- In 64 bits digits are taken in as they are without a bound, until the number is too large. -/
theorem foldlM_shift? (base : Nat) (pos : 0 < base) (digits : List Nat) (start : Int64)
    (value : Nat) (same : start.toInt = value) :
    match digits.foldlM (shift? base) start with
    | some final => final.toInt = digits.foldl (fun value digit => value * base + digit) value
    | none => 0x7FFFFFFFFFFFFFFF < digits.foldl (fun value digit => value * base + digit) value := by
  induction digits generalizing start value with
  | nil => exact same
  | cons digit digits ih =>
      simp only [List.foldlM_cons, List.foldl_cons]
      cases shifted : shift? base start digit with
      | some next =>
          have taken := toInt_of_int64OfInt? shifted
          exact ih next _ (by rw [taken, same]; push_cast; rfl)
      | none =>
          unfold shift? at shifted
          rw [same] at shifted
          have large := lt_of_int64OfInt?_eq_none (Int.natCast_nonneg (value * base + digit)) shifted
          have := le_foldl base pos digits (value * base + digit)
          change 0x7FFFFFFFFFFFFFFF < _
          omega

/-- The number without its sign is read exactly, or is larger than 64 bits hold. -/
theorem magnitude64?_spec (numeral : Numeral) :
    match numeral.magnitude64? with
    | some magnitude => magnitude.toInt = numeral.magnitude
    | none => 0x7FFFFFFFFFFFFFFF < numeral.magnitude :=
  foldlM_shift? numeral.radix.base (by cases numeral.radix <;> decide) numeral.digits 0 0 rfl

/-- No magnitude is the least number, so none is changed by more than its sign. -/
theorem toInt_signed64 {numeral : Numeral} {magnitude : Int64}
    (read : numeral.magnitude64? = some magnitude) :
    (numeral.signed64 magnitude).toInt = numeral.value := by
  have known := numeral.magnitude64?_spec
  rw [read] at known
  unfold signed64 value
  split
  · rw [Int64.toInt_neg, known]
    have := magnitude.toInt_lt
    exact Int.bmod_eq_of_le (by omega) (by omega)
  · exact known

end Numeral

/-- One or more digits. -/
def digits? (radix : Radix) : List Char → Option (List Nat)
  | [] => none
  | cs => cs.mapM (digitValue? radix.base)

/-- A numeral behind its sign. `0x` with nothing after it is read as decimal, and so refused for its
`x`. -/
def unsigned? (negative : Bool) : List Char → Option Numeral
  | '0' :: 'x' :: d :: rest => (digits? .hexadecimal (d :: rest)).map (⟨negative, .hexadecimal, ·⟩)
  | cs => (digits? .decimal cs).map (⟨negative, .decimal, ·⟩)

/-- The integer that a text writes, if it writes one. -/
def numeral? : List Char → Option Numeral
  | '-' :: rest => unsigned? true rest
  | '+' :: rest => unsigned? false rest
  | cs => unsigned? false cs

end Literal

def parseBool (text : String) : Except LiteralError Bool :=
  if text = "true" then .ok true
  else if text = "false" then .ok false
  else .error .malformed

/-- A number as a value of 32 bits. -/
def int32OfInt (value : Int) : Except LiteralError Int32 :=
  if -0x80000000 ≤ value ∧ value ≤ 0x7FFFFFFF then .ok (Int32.ofInt value) else .error .outOfRange

/-- A malformed text is refused as malformed however large its digits are. -/
def parseInt32 (text : String) : Except LiteralError Int32 :=
  match Literal.numeral? text.toList with
  | none => .error .malformed
  | some numeral =>
      match numeral.magnitude64? with
      | none => .error .outOfRange
      | some magnitude => int32OfInt (numeral.signed64 magnitude).toInt

/-- Numbers beyond 64 bits are out of range whatever they are. -/
theorem parseInt32_eq (text : String) :
    parseInt32 text =
      match Literal.numeral? text.toList with
      | none => .error .malformed
      | some numeral => int32OfInt numeral.value := by
  unfold parseInt32
  split
  · rfl
  · next numeral _ =>
      split
      · next read =>
          have large := numeral.magnitude64?_spec
          rw [read] at large
          unfold int32OfInt Literal.Numeral.value
          split <;> rw [if_neg (by omega)]
      · next magnitude read => rw [Literal.Numeral.toInt_signed64 read]

end RootObject
