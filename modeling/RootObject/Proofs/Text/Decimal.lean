import RootObject.Text.Decimal
import RootObject.Text.Utf8

/-!
Decimal text against the standard library's: `ofInt` writes what `toString` writes. And decimal text byte
by byte: every digit has one.
-/

namespace RootObject.Decimal

theorem digit_eq {n : Nat} (small : n < 10) : digit n = n.digitChar := by
  have known : ∀ n < 10, digit n = n.digitChar := by decide
  exact known n small

theorem digits_eq (n : Nat) : digits n = Nat.toDigits 10 n := by
  induction n using digits.induct with
  | case1 n small => rw [digits, if_pos small, Nat.toDigits_of_lt_base small, digit_eq small]
  | case2 n large ih =>
      rw [digits, if_neg large, Nat.toDigits_eq_if (by decide), if_neg large, ih,
        digit_eq (Nat.mod_lt n (by decide))]

/-- The text of an integer is the usual one. -/
theorem ofInt_eq_toString (n : Int) : ofInt n = toString n := by
  cases n with
  | ofNat n =>
      change String.ofList (digits n) = String.ofList (Nat.toDigits 10 n)
      rw [digits_eq]
  | negSucc n =>
      change "-" ++ String.ofList (digits (n + 1)) = "-" ++ String.ofList (Nat.toDigits 10 (n + 1))
      rw [digits_eq]

/-! ### The bytes of a number -/

/-- The byte of a digit. -/
def digitByte (n : Nat) : UInt8 :=
  (0x30 + n).toUInt8

theorem encodeChar_digit {n : Nat} (small : n < 10) : Utf8.encodeChar (digit n) = [digitByte n] := by
  have known : ∀ n < 10, Utf8.encodeChar (digit n) = [digitByte n] := by decide
  exact known n small

theorem encode_ofNat_of_lt {n : Nat} (small : n < 10) : Utf8.encode (ofNat n) = [digitByte n] := by
  rw [ofNat, digits, if_pos small, Utf8.encode, String.toList_ofList]
  simp [encodeChar_digit small]

theorem encode_ofNat_of_not_lt {n : Nat} (large : ¬ n < 10) :
    Utf8.encode (ofNat n) = Utf8.encode (ofNat (n / 10)) ++ [digitByte (n % 10)] := by
  rw [ofNat, digits, if_neg large]
  simp [Utf8.encode, ofNat, encodeChar_digit (Nat.mod_lt n (by decide))]

end RootObject.Decimal
