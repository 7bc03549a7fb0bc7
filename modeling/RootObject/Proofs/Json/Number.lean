import Mathlib.Data.List.TakeDrop
import RootObject.Json.Record
import RootObject.Proofs.Json.Reading
import RootObject.Proofs.Text.Decimal

/-!
Whole numbers in JSON. Every number that fits 64 bits is read back exactly from its decimal text
(`reads_readSize`), up to the largest; and no text whatever makes a reader come back with a natural number
that does not fit (`yields_readSize`).
-/

namespace RootObject.Json

theorem isDigit_digitByte {n : Nat} (small : n < 10) : isDigit (Decimal.digitByte n) = true := by
  have known : ∀ n < 10, isDigit (Decimal.digitByte n) = true := by decide
  exact known n small

theorem isBlank_of_isDigit {byte : UInt8} (digit : isDigit byte = true) : Reader.isBlank byte = false := by
  cases blank : Reader.isBlank byte with
  | false => rfl
  | true => obtain rfl | rfl | rfl | rfl := Reader.eq_of_isBlank blank <;> cases digit

theorem digitValue_digitByte {n : Nat} (small : n < 10) : digitValue (Decimal.digitByte n) = n := by
  have known : ∀ n < 10, digitValue (Decimal.digitByte n) = n := by decide
  exact known n small

namespace Number

/-! ### The value of digits -/

/-- Digits that were all kept may be read before the others. -/
theorem Parts.whole_append {start value : Nat} {before : List UInt8}
    (kept : Parts.whole start before = ⟨value, 0⟩) (behind : List UInt8) :
    Parts.whole start (before ++ behind) = Parts.whole value behind := by
  induction before generalizing start with
  | nil =>
      cases kept
      rfl
  | cons digit before ih =>
      rw [Parts.whole] at kept
      rw [List.cons_append, Parts.whole]
      split at kept
      · next fits => rw [if_pos fits, ih kept]
      · have : (before.length : Int) + 1 = 0 := congrArg Parts.exponent kept
        omega

theorem Parts.whole_ofNat {n : Nat} (fits : n ≤ maxSignificand) :
    Parts.whole 0 (Utf8.encode (Decimal.ofNat n)) = ⟨n, 0⟩ := by
  induction n using Decimal.digits.induct with
  | case1 n small =>
      rw [Decimal.encode_ofNat_of_lt small, Parts.whole, digitValue_digitByte small, Nat.zero_mul,
        Nat.zero_add, if_pos fits, Parts.whole]
  | case2 n large ih =>
      have last := Nat.mod_lt n (show 10 > 0 by decide)
      have whole : n / 10 * 10 + n % 10 = n := by omega
      rw [Decimal.encode_ofNat_of_not_lt large, whole_append (ih (by omega)), Parts.whole,
        digitValue_digitByte last, whole, if_pos fits, Parts.whole]

/-- The significand never outgrows 64 bits. -/
theorem Parts.significand_whole_le {start : Nat} (fits : start ≤ maxSignificand) (digits : List UInt8) :
    (Parts.whole start digits).significand ≤ maxSignificand := by
  induction digits generalizing start with
  | nil => exact fits
  | cons digit digits ih =>
      rw [Parts.whole]
      split
      · next more => exact ih more
      · exact fits

/-! ### The digits before a point -/

/-- Digits as a whole number is written with them: a leading zero stands alone. -/
inductive Whole : List UInt8 → Prop where
  | zero : Whole [0x30]
  | digits {first : UInt8} {more : List UInt8} (nonzero : first ≠ 0x30) (digit : isDigit first = true)
      (digits : ∀ byte ∈ more, isDigit byte = true) : Whole (first :: more)

theorem Whole.snoc {bytes : List UInt8} (whole : Whole bytes) (nonzero : bytes ≠ [0x30]) {last : UInt8}
    (digit : isDigit last = true) : Whole (bytes ++ [last]) ∧ bytes ++ [last] ≠ [0x30] := by
  cases whole with
  | zero => exact absurd rfl nonzero
  | digits other first more =>
      refine ⟨.digits other first ?_, by simp⟩
      simpa [or_imp, forall_and] using ⟨more, digit⟩

theorem whole_ofNat (n : Nat) :
    Whole (Utf8.encode (Decimal.ofNat n)) ∧ (0 < n → Utf8.encode (Decimal.ofNat n) ≠ [0x30]) := by
  induction n using Decimal.digits.induct with
  | case1 n small =>
      have known : ∀ n < 10, 0 < n → Decimal.digitByte n ≠ 0x30 := by decide
      rw [Decimal.encode_ofNat_of_lt small]
      by_cases positive : 0 < n
      · have nonzero := known n small positive
        exact ⟨.digits nonzero (isDigit_digitByte small) (by simp), fun _ => by simpa using nonzero⟩
      · obtain rfl : n = 0 := by omega
        exact ⟨.zero, fun positive => absurd positive (by decide)⟩
  | case2 n large ih =>
      have snoc := ih.1.snoc (ih.2 (by omega)) (isDigit_digitByte (Nat.mod_lt n (by decide)))
      rw [Decimal.encode_ofNat_of_not_lt large]
      exact ⟨snoc.1, fun _ => snoc.2⟩

/-- A whole number begins with a digit. -/
theorem Whole.exists_eq_cons {bytes : List UInt8} (whole : Whole bytes) :
    ∃ first more, bytes = first :: more ∧ isDigit first = true := by
  cases whole with
  | zero => exact ⟨0x30, [], rfl, by decide⟩
  | digits _ digit _ => exact ⟨_, _, rfl, digit⟩

theorem span_append {digits rest : List UInt8} (are : ∀ byte ∈ digits, isDigit byte = true)
    (ends : NoDigit rest) : (digits ++ rest).span isDigit = (digits, rest) := by
  rw [List.span_eq_takeWhile_dropWhile, List.takeWhile_append_of_pos are,
    List.dropWhile_append_of_pos are]
  cases rest with
  | nil => simp
  | cons byte rest => simp [ends byte rfl]

theorem Whole.leadingDigits {bytes rest : List UInt8} (whole : Whole bytes) (ends : NoDigit rest) :
    leadingDigits (bytes ++ rest) = .ok (bytes, rest) := by
  cases whole with
  | zero =>
      cases rest with
      | nil => rfl
      | cons byte rest =>
          change (if isDigit byte then Reader.refuseNext .numberMalformed else pure [0x30] : Reader _)
            (byte :: rest) = _
          rw [ends byte rfl]
          rfl
  | @digits first more nonzero digit are =>
      change (if first = 0x30 then _ else if isDigit first then _ else _ : Reader _) (more ++ rest) = _
      rw [if_neg nonzero, if_pos digit]
      change Except.ok (first :: ((more ++ rest).span isDigit).1, ((more ++ rest).span isDigit).2) = _
      rw [span_append are ends]

theorem read_ofNat {n : Nat} (fits : n ≤ maxSignificand) {rest : List UInt8} (closed : Closed rest) :
    Number.read true (Utf8.encode (Decimal.ofNat n) ++ rest) = .ok (.natural n, rest) := by
  rw [Number.read, Reader.bind_of_ok ((whole_ofNat n).1.leadingDigits closed.noDigit), Parts.whole_ofNat fits]
  cases rest with
  | nil => rfl
  | cons byte rest =>
      have others := (closed byte rfl).2
      simp only [List.mem_cons, List.not_mem_nil, or_false, not_or] at others
      rw [Reader.bind_of_ok (show Reader.peek (byte :: rest) = .ok (some byte, byte :: rest) from rfl)]
      simp [others]
      rfl

/-! ### Numbers that any text may hold -/

section Floats

variable {good : Number → Prop} (floats : ∀ value, good (.float value))
include floats

theorem yields_ofParts (positive : Bool) (parts : Parts) : Yields good (ofParts positive parts) := by
  unfold ofParts
  split
  · exact .pure (floats _)
  · exact .refuse _

theorem yields_exponent (positive : Bool) (parts : Parts) : Yields good (exponent positive parts) := by
  unfold exponent
  refine .bind_any fun sign => .after_when (.bind_any fun first => ?_)
  split
  · exact .refuse _
  · split
    · refine .bind_any fun rest => .bind_any fun _ => ?_
      split
      · exact yields_ofParts floats _ _
      · split
        · exact .refuse _
        · exact .bind_any fun _ => .pure (floats _)
    · exact .refuse _

theorem yields_fraction (positive : Bool) (parts : Parts) : Yields good (fraction positive parts) := by
  unfold fraction
  refine .bind_any fun digits => ?_
  split
  · refine .bind_any fun next => ?_
    split
    · exact .refuseNext _
    · exact .refuseNext _
  · refine .bind_any fun next => ?_
    split
    · exact .bind_any fun _ => yields_exponent floats _ _
    · exact .bind_any fun _ => yields_exponent floats _ _
    · exact yields_ofParts floats _ _

/-- A number is good where floating-point numbers are, and whole numbers of the significands that are read. -/
theorem yields_read {positive : Bool}
    (wholes : ∀ parts, parts.significand ≤ maxSignificand → Yields good (ofWhole positive parts)) :
    Yields good (Number.read positive) := by
  unfold Number.read
  refine .bind_any fun digits => ?_
  have fits := Parts.significand_whole_le (Nat.zero_le maxSignificand) digits
  refine .bind_any fun next => ?_
  split
  · exact .bind_any fun _ => yields_fraction floats _ _
  · exact .bind_any fun _ => yields_exponent floats _ _
  · exact .bind_any fun _ => yields_exponent floats _ _
  · exact wholes _ fits

end Floats

/-- A natural number fits 64 bits. -/
def Fits : Number → Prop
  | .natural value => value ≤ maxSignificand
  | .negative _ | .float _ => True

theorem yields_ofWhole (positive : Bool) {parts : Parts} (fits : parts.significand ≤ maxSignificand) :
    Yields Fits (ofWhole positive parts) := by
  unfold ofWhole
  split
  · exact yields_ofParts (fun _ => trivial) _ _
  · split
    · exact .pure fits
    · split
      · exact .pure trivial
      · exact .pure trivial

theorem yields_read_fits (positive : Bool) : Yields Fits (Number.read positive) :=
  yields_read (fun _ => trivial) fun _ fits => yields_ofWhole positive fits

end Number

/-! ### Sizes -/

theorem yields_refuseType {α : Type} {good : α → Prop} (expected : String) :
    Yields good (refuseType expected) :=
  .bind_any fun _ => .refuse _

theorem yields_readSize : Yields (· ≤ Number.maxSignificand) readSize := by
  unfold readSize
  refine .bind_any fun byte => ?_
  split
  · refine .after_when (.bind (Number.yields_read_fits _) fun number fits => ?_)
    split
    · exact .pure fits
    · exact .refuse _
    · exact .refuse _
  · exact yields_refuseType _

theorem reads_readSize {n : Nat} (fits : n ≤ Number.maxSignificand) :
    Reads readSize (Utf8.encode (Decimal.ofNat n)) n := by
  obtain ⟨first, more, written, digit⟩ := (Number.whole_ofNat n).1.exists_eq_cons
  have positive : first ≠ 0x2D := by
    rintro rfl
    cases digit
  rw [written]
  refine .of_peekValue (isBlank_of_isDigit digit) fun rest closed => ?_
  rw [if_pos (.inr digit), if_neg positive, decide_eq_true positive, ← List.cons_append, ← written]
  exact Reader.bind_of_ok (Number.read_ofNat fits closed)

end RootObject.Json
