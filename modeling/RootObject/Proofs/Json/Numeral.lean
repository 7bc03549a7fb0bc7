import RootObject.Proofs.Json.Number

/-!
Numbers as JSON writes them: a minus sign or none, a whole number, and maybe a fraction and an exponent.
Every numeral is looked over without being computed (`skip_numeral`). As a size, only whole numbers without
a sign that fit 64 bits are taken; a numeral with anything more, or a larger one, is refused
(`refuses_readSize`).
-/

namespace RootObject.Json

namespace Number

/-! ### Numerals -/

/-- Digits, at least one. -/
def Digits (bytes : List UInt8) : Prop :=
  bytes ≠ [] ∧ ∀ byte ∈ bytes, isDigit byte = true

/-- The part of a numeral behind its whole number: none, or digits behind a point. -/
inductive Fraction : List UInt8 → Prop where
  | none : Fraction []
  | point {digits : List UInt8} (are : Digits digits) : Fraction (0x2E :: digits)

/-- The power of ten at the end of a numeral: none, or digits behind a letter and maybe a sign. -/
inductive Exponent : List UInt8 → Prop where
  | none : Exponent []
  | power {letter : UInt8} {sign digits : List UInt8} (marks : letter = 0x65 ∨ letter = 0x45)
      (signed : sign = [] ∨ sign = [0x2B] ∨ sign = [0x2D]) (are : Digits digits) :
      Exponent (letter :: (sign ++ digits))

/-- The parts of a number as it is written. -/
structure Numeral (sign whole fraction exponent : List UInt8) : Prop where
  signed : sign = [] ∨ sign = [0x2D]
  whole : Whole whole
  fraction : Fraction fraction
  exponent : Exponent exponent

variable {sign whole fraction exponent rest : List UInt8}

theorem Exponent.noDigit (is : Exponent exponent) (closed : Closed rest) : NoDigit (exponent ++ rest) := by
  cases is with
  | none => exact closed.noDigit
  | power marks signed are =>
      intro byte head
      cases head
      rcases marks with rfl | rfl <;> decide

theorem Fraction.noDigit (is : Fraction fraction) (ends : NoDigit rest) : NoDigit (fraction ++ rest) := by
  cases is with
  | none => exact ends
  | point are =>
      intro byte head
      cases head
      decide

/-! ### Looking numerals over -/

theorem digits_append {bytes : List UInt8} (are : ∀ byte ∈ bytes, isDigit byte = true) (ends : NoDigit rest) :
    digits (bytes ++ rest) = .ok (bytes, rest) :=
  congrArg Except.ok (span_append are ends)

theorem skipWhole_append (is : Whole whole) (ends : NoDigit rest) :
    skipWhole (whole ++ rest) = .ok ((), rest) := by
  cases is with
  | zero =>
      cases rest with
      | nil => rfl
      | cons byte rest =>
          change (if isDigit byte then Reader.refuseNext .numberMalformed else pure () : Reader _)
            (byte :: rest) = _
          rw [ends byte rfl]
          rfl
  | @digits first more nonzero digit are =>
      change (if first = 0x30 then _ else if isDigit first then _ else _ : Reader _) (more ++ rest) = _
      rw [if_neg nonzero, if_pos digit, Reader.bind_of_ok (digits_append are ends)]
      rfl

theorem skipDigits_append {digits : List UInt8} (are : Digits digits) (ends : NoDigit rest) :
    skipDigits (digits ++ rest) = .ok ((), rest) := by
  obtain ⟨nonempty, each⟩ := are
  cases digits with
  | nil => exact absurd rfl nonempty
  | cons first more =>
      obtain ⟨digit, each⟩ := List.forall_mem_cons.mp each
      change (if isDigit first then _ else _ : Reader Unit) (more ++ rest) = _
      rw [if_pos digit, Reader.bind_of_ok (digits_append each ends)]
      rfl

/-- A digit is no sign. -/
theorem Digits.unsigned {digits : List UInt8} (are : Digits digits) (rest : List UInt8) :
    ¬ ((digits ++ rest).head? = some 0x2B ∨ (digits ++ rest).head? = some 0x2D) := by
  obtain ⟨nonempty, each⟩ := are
  cases digits with
  | nil => exact absurd rfl nonempty
  | cons first more =>
      have digit := each first List.mem_cons_self
      simp only [List.cons_append, List.head?_cons, Option.some.injEq]
      rintro (rfl | rfl)
      · exact absurd digit (by decide)
      · exact absurd digit (by decide)

theorem skipExponent_append {digits : List UInt8} (signed : sign = [] ∨ sign = [0x2B] ∨ sign = [0x2D])
    (are : Digits digits) (ends : NoDigit rest) :
    skipExponent (sign ++ (digits ++ rest)) = .ok ((), rest) := by
  have behind := skipDigits_append are ends
  rcases signed with rfl | rfl | rfl
  · have unsigned := are.unsigned rest
    rw [skipExponent, List.nil_append,
      Reader.bind_of_ok (show Reader.peek _ = .ok ((digits ++ rest).head?, digits ++ rest) from rfl)]
    rw [if_neg unsigned]
    exact behind
  · exact behind
  · exact behind

theorem skipPower_append (is : Exponent exponent) (closed : Closed rest) :
    skipPower (exponent ++ rest) = .ok ((), rest) := by
  cases is with
  | none =>
      cases rest with
      | nil => rfl
      | cons byte rest =>
          have others := (closed byte rfl).2
          simp only [List.mem_cons, List.not_mem_nil, or_false, not_or] at others
          rw [List.nil_append, skipPower,
            Reader.bind_of_ok (show Reader.peek (byte :: rest) = .ok (some byte, byte :: rest) from rfl)]
          simp [others]
          rfl
  | power marks signed are =>
      have behind := skipExponent_append signed are closed.noDigit
      rw [List.cons_append, List.append_assoc]
      rcases marks with rfl | rfl
      · exact behind
      · exact behind

theorem skipTail_of_no_point {bytes : List UInt8} (noPoint : bytes.head? ≠ some 0x2E) :
    skipTail bytes = skipPower bytes := by
  cases bytes with
  | nil => rfl
  | cons byte rest =>
      have other : byte ≠ 0x2E := by simpa using noPoint
      rw [skipTail,
        Reader.bind_of_ok (show Reader.peek (byte :: rest) = .ok (some byte, byte :: rest) from rfl)]
      simp [other]

theorem Exponent.noPoint (is : Exponent exponent) (closed : Closed rest) :
    (exponent ++ rest).head? ≠ some 0x2E := by
  cases is with
  | none =>
      intro head
      exact absurd (closed _ head).2 (by decide)
  | power marks signed are => rcases marks with rfl | rfl <;> simp

theorem skipTail_append (isFraction : Fraction fraction) (isExponent : Exponent exponent)
    (closed : Closed rest) : skipTail (fraction ++ (exponent ++ rest)) = .ok ((), rest) := by
  have power := skipPower_append isExponent closed
  cases isFraction with
  | none => rw [List.nil_append, skipTail_of_no_point (isExponent.noPoint closed), power]
  | @point bytes are =>
      have peek : Reader.peek (0x2E :: (bytes ++ (exponent ++ rest))) =
          .ok (some 0x2E, 0x2E :: (bytes ++ (exponent ++ rest))) := rfl
      rw [List.cons_append, skipTail, Reader.bind_of_ok peek]
      refine (Reader.bind_of_ok (Reader.advance_cons 0x2E _)).trans ?_
      rw [Reader.bind_of_ok (digits_append are.2 (isExponent.noDigit closed))]
      cases bytes with
      | nil => exact absurd rfl are.1
      | cons first more => exact power

/-- A numeral is looked over from behind its sign. -/
theorem skip_numeral (numeral : Numeral sign whole fraction exponent) (closed : Closed rest) :
    skip (whole ++ (fraction ++ (exponent ++ rest))) = .ok ((), rest) := by
  have ends := numeral.fraction.noDigit (numeral.exponent.noDigit closed)
  rw [skip, Reader.bind_of_ok (skipWhole_append numeral.whole ends)]
  exact skipTail_append numeral.fraction numeral.exponent closed

/-! ### Numerals that are no sizes -/

/-- The number is no natural one. -/
def Unnatural : Number → Prop
  | .natural _ => False
  | .negative _ | .float _ => True

theorem yields_read_negative : Yields Unnatural (Number.read false) := by
  refine yields_read (fun _ => trivial) fun parts _ => ?_
  unfold ofWhole
  split
  · exact yields_ofParts (fun _ => trivial) _ _
  · split
    · contradiction
    · split
      · exact .pure trivial
      · exact .pure trivial

/-- Where a digit was not kept, the power of ten is above zero. -/
theorem Parts.exponent_append {start : Nat} {before : List UInt8}
    (dropped : 0 < (Parts.whole start before).exponent) (behind : List UInt8) :
    0 < (Parts.whole start (before ++ behind)).exponent := by
  induction before generalizing start with
  | nil => exact absurd dropped (Int.lt_irrefl 0)
  | cons digit before ih =>
      rw [Parts.whole] at dropped
      rw [List.cons_append, Parts.whole]
      split at dropped
      · next fits =>
          rw [if_pos fits]
          exact ih dropped
      · next large =>
          rw [if_neg large]
          exact Int.lt_add_one_of_le (Int.natCast_nonneg _)

/-- Not all digits are kept of a number that does not fit 64 bits. -/
theorem Parts.exponent_ofNat {n : Nat} (large : maxSignificand < n) :
    0 < (Parts.whole 0 (Utf8.encode (Decimal.ofNat n))).exponent := by
  induction n using Decimal.digits.induct with
  | case1 n small =>
      unfold maxSignificand at large
      omega
  | case2 n notSmall ih =>
      have last := Nat.mod_lt n (show 10 > 0 by decide)
      have whole : n / 10 * 10 + n % 10 = n := by omega
      rw [Decimal.encode_ofNat_of_not_lt notSmall]
      by_cases fits : n / 10 ≤ maxSignificand
      · rw [whole_append (whole_ofNat fits), Parts.whole, digitValue_digitByte last, whole,
          if_neg (Nat.not_le.mpr large)]
        exact Int.zero_lt_one
      · exact exponent_append (ih (by omega)) _

/-- A numeral without a sign that is read as a natural number is a whole number of which all digits are
kept. -/
theorem natural_of_read (numeral : Numeral [] whole fraction exponent) (closed : Closed rest) {n : Nat}
    {left : List UInt8}
    (ok : Number.read true (whole ++ (fraction ++ (exponent ++ rest))) = .ok (.natural n, left)) :
    fraction = [] ∧ exponent = [] ∧ (Parts.whole 0 whole).exponent = 0 := by
  obtain ⟨-, isWhole, isFraction, isExponent⟩ := numeral
  have ends := isFraction.noDigit (isExponent.noDigit closed)
  rw [Number.read, Reader.bind_of_ok (isWhole.leadingDigits ends)] at ok
  cases isFraction with
  | @point bytes are =>
      exact (yields_fraction (fun _ => trivial) true _ _ _ _ ok : Unnatural (.natural n)).elim
  | none =>
      cases isExponent with
      | @power letter sign digits marks signed are =>
          have power : Number.exponent true (Parts.whole 0 whole) (sign ++ digits ++ rest) =
              .ok (.natural n, left) := by
            rcases marks with rfl | rfl
            · exact ok
            · exact ok
          exact (yields_exponent (fun _ => trivial) true _ _ _ _ power : Unnatural (.natural n)).elim
      | none =>
          refine ⟨rfl, rfl, ?_⟩
          have kept : ofWhole true (Parts.whole 0 whole) rest = .ok (.natural n, left) := by
            cases rest with
            | nil => exact ok
            | cons byte rest =>
                have others := (closed byte rfl).2
                simp only [List.mem_cons, List.not_mem_nil, or_false, not_or] at others
                rw [List.nil_append, List.nil_append, Reader.bind_of_ok
                  (show Reader.peek (byte :: rest) = .ok (some byte, byte :: rest) from rfl)] at ok
                simpa [others] using ok
          by_cases shifted : (Parts.whole 0 whole).exponent = 0
          · exact shifted
          · rw [ofWhole, if_pos shifted] at kept
            exact (yields_ofParts (fun _ => trivial) true _ _ _ _ kept : Unnatural (.natural n)).elim

end Number

/-- A numeral that is no size: one with a sign, a fraction or an exponent, or of a number that does not fit
64 bits. -/
inductive NoSize : List UInt8 → Prop where
  | numeral {sign whole fraction exponent : List UInt8} (is : Number.Numeral sign whole fraction exponent)
      (more : sign ≠ [] ∨ fraction ≠ [] ∨ exponent ≠ [] ∨
        ∃ n, 0x10000000000000000 ≤ n ∧ whole = Utf8.encode (Decimal.ofNat n)) :
      NoSize (sign ++ (whole ++ (fraction ++ exponent)))

/-- A size is read where a natural number is. -/
theorem natural_of_readSize {first : UInt8} {blanks more left : List UInt8} {value : Nat}
    (blank : Blanks blanks) (begins : first = 0x2D ∨ isDigit first = true)
    (ok : readSize (blanks ++ first :: more) = .ok (value, left)) :
    Number.read (first ≠ 0x2D) (if first = 0x2D then more else first :: more) = .ok (.natural value, left) := by
  have shown : Reader.isBlank first = false := by
    rcases begins with rfl | digit
    · decide
    · exact isBlank_of_isDigit digit
  rw [readSize, Reader.bind_of_ok (Reader.peekValue_cons blank shown more), if_pos begins] at ok
  by_cases negative : first = 0x2D
  · rw [if_pos negative, Reader.bind_of_ok (Reader.advance_cons first more)] at ok
    rw [if_pos negative]
    obtain ⟨number, behind, read, judged⟩ := Reader.exists_of_bind_ok ok
    cases number <;> cases judged
    exact read
  · rw [if_neg negative] at ok
    rw [if_neg negative]
    obtain ⟨number, behind, read, judged⟩ := Reader.exists_of_bind_ok ok
    cases number <;> cases judged
    exact read

/-- A numeral that is no size is refused as one. -/
theorem refuses_readSize {bytes : List UInt8} (noSize : NoSize bytes) : Refuses readSize bytes := by
  obtain ⟨is, more⟩ := noSize
  rintro blanks rest blank closed ⟨value, left⟩ ok
  simp only [List.append_assoc] at ok
  rcases is.signed with rfl | rfl
  · obtain ⟨first, others, written, digit⟩ := is.whole.exists_eq_cons
    have positive : first ≠ 0x2D := by
      rintro rfl
      cases digit
    rw [List.nil_append, written, List.cons_append] at ok
    have read := natural_of_readSize blank (.inr digit) ok
    rw [if_neg positive, decide_eq_true positive, ← List.cons_append, ← written] at read
    obtain ⟨rfl, rfl, kept⟩ := Number.natural_of_read is closed read
    rcases more with more | more | more | ⟨n, large, rfl⟩
    · exact more rfl
    · exact more rfl
    · exact more rfl
    · have dropped := Number.Parts.exponent_ofNat (Nat.lt_of_succ_le large)
      rw [kept] at dropped
      exact absurd dropped (Int.lt_irrefl 0)
  · have read := natural_of_readSize blank (.inl rfl) ok
    exact (Number.yields_read_negative _ _ _ read : Number.Unnatural (.natural value)).elim

end RootObject.Json
