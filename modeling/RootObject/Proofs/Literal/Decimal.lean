import Mathlib.Data.Nat.Digits.Defs
import RootObject.Proofs.Literal.Grammar
import RootObject.Proofs.Text.Decimal

/-!
Decimal text is an integer literal: the text of a number denotes that number (`integer_ofInt`), so a
value of 32 bits, the least one included, is read back from its text (`parseInt32_toString`).
-/

namespace RootObject.Literal

/-- The digits of a number denote it. -/
theorem magnitude_digits (n : Nat) : Magnitude 10 (Decimal.digits n) n := by
  induction n using Decimal.digits.induct with
  | case1 n small =>
      rw [Decimal.digits, if_pos small]
      refine ⟨by simp, [n], .cons ⟨small, .inl (Decimal.digit_eq small)⟩ .nil, ?_⟩
      simp
  | case2 n large ih =>
      obtain ⟨-, digits, are, denote⟩ := ih
      have last := Nat.mod_lt n (show 10 > 0 by decide)
      rw [Decimal.digits, if_neg large]
      refine ⟨by simp, digits ++ [n % 10], ?_, ?_⟩
      · apply List.rel_append are
        exact .cons ⟨last, .inl (Decimal.digit_eq last)⟩ .nil
      · rw [List.reverse_append, List.reverse_singleton, List.singleton_append, Nat.ofDigits_cons, denote]
        omega

/-- The text of a number denotes it. -/
theorem integer_ofInt (n : Int) : Integer (Decimal.ofInt n).toList n := by
  cases n with
  | ofNat n =>
      rw [Decimal.ofInt, Decimal.ofNat, String.toList_ofList]
      exact .plain (.decimal (magnitude_digits n))
  | negSucc n =>
      have negated : (Decimal.ofInt (.negSucc n)).toList = '-' :: Decimal.digits (n + 1) := by
        simp [Decimal.ofInt, Decimal.ofNat]
      rw [negated]
      exact .minus (.decimal (magnitude_digits (n + 1)))

theorem fits_toInt (value : Int32) : Fits value.toInt := by
  have upper := value.toInt_lt
  have lower := value.le_toInt
  unfold Fits
  omega

theorem parseInt32_toString (value : Int32) : parseInt32 (toString value.toInt) = .ok value := by
  rw [← Decimal.ofInt_eq_toString]
  exact parseInt32_eq_ok_iff.mpr ⟨value.toInt, integer_ofInt _, fits_toInt value, rfl⟩

/-! ### What literals look like -/

/-- The characters that integer literals are made of. -/
def alphabet : List Char :=
  ['+', '-', 'x', '0', '1', '2', '3', '4', '5', '6', '7', '8', '9', 'a', 'b', 'c', 'd', 'e', 'f', 'A', 'B',
    'C', 'D', 'E', 'F']

theorem IsDigit.mem_alphabet {base digit : Nat} (most : base ≤ 16) {c : Char}
    (is : IsDigit base c digit) : c ∈ alphabet := by
  have known : ∀ digit < 16, Nat.digitChar digit ∈ alphabet ∧
      (Nat.digitChar digit).toUpper ∈ alphabet := by decide
  obtain ⟨less, rfl | rfl⟩ := is
  · exact (known digit (by omega)).1
  · exact (known digit (by omega)).2

theorem Magnitude.mem_alphabet {base n : Nat} (most : base ≤ 16) {cs : List Char}
    (denotes : Magnitude base cs n) {c : Char} (mem : c ∈ cs) : c ∈ alphabet := by
  obtain ⟨-, digits, are, -⟩ := denotes
  induction are with
  | nil => cases mem
  | cons is _ ih =>
      rcases List.mem_cons.mp mem with rfl | mem
      · exact is.mem_alphabet most
      · exact ih mem

theorem Integer.mem_alphabet {cs : List Char} {n : Int} (denotes : Integer cs n) {c : Char}
    (mem : c ∈ cs) : c ∈ alphabet := by
  have unsigned {cs : List Char} {n : Nat} (denotes : Unsigned cs n) (mem : c ∈ cs) : c ∈ alphabet := by
    cases denotes with
    | decimal denotes => exact denotes.mem_alphabet (by decide) mem
    | hexadecimal denotes =>
        simp only [List.mem_cons] at mem
        rcases mem with rfl | rfl | mem
        · decide
        · decide
        · exact denotes.mem_alphabet (by decide) mem
  cases denotes with
  | plain denotes => exact unsigned denotes mem
  | plus denotes =>
      rcases List.mem_cons.mp mem with rfl | mem
      · decide
      · exact unsigned denotes mem
  | minus denotes =>
      rcases List.mem_cons.mp mem with rfl | mem
      · decide
      · exact unsigned denotes mem

/-- A sign and ten digits are the most that a value of 32 bits needs. -/
theorem length_toString_le (value : Int32) : (toString value.toInt).toList.length ≤ 11 := by
  have upper := value.toInt_lt
  have lower := value.le_toInt
  rw [← Decimal.ofInt_eq_toString]
  have few (n : Nat) (small : n < 10 ^ 10) : (Decimal.digits n).length ≤ 10 := by
    rw [Decimal.digits_eq]
    exact Nat.toDigits_length 10 n 10 (by decide) small
  cases same : value.toInt with
  | ofNat n =>
      rw [same, Int.ofNat_eq_natCast] at upper
      have := few n (by omega)
      simp only [Decimal.ofInt, Decimal.ofNat, String.toList_ofList]
      omega
  | negSucc n =>
      have := few (n + 1) (by omega)
      simp [Decimal.ofInt, Decimal.ofNat]
      omega

end RootObject.Literal
