import RootObject.Json.Skip
import RootObject.Proofs.Json.Numeral
import RootObject.Proofs.Json.Text

/-!
JSON values of any kind, as they are written. `Wellformed` is the grammar: words, numerals, strings, and
lists and objects of such values, nested as deep as may be, with blanks wherever they may stand. It takes
nothing from the readers. Whatever is well formed is looked over to its last byte (`reads_skip`).
-/

namespace RootObject.Json

/-! ### Lists and objects -/

/-- What may stand before an element of a list or the key of a member: blanks, among them a comma unless it
is the first. -/
inductive Parted : Bool → List UInt8 → Prop where
  | first {blanks : List UInt8} (blank : Blanks blanks) : Parted true blanks
  | comma {before behind : List UInt8} (blankBefore : Blanks before) (blankBehind : Blanks behind) :
      Parted false (before ++ 0x2C :: behind)

/-- The bytes are the elements of a list up to its end. -/
inductive Elements : Bool → List (List UInt8) → List UInt8 → Prop where
  | done {first : Bool} {blanks : List UInt8} (blank : Blanks blanks) : Elements first [] (blanks ++ [0x5D])
  | element {first : Bool} {gap element rest : List UInt8} {elements : List (List UInt8)}
      (parted : Parted first gap) (more : Elements false elements rest) :
      Elements first (element :: elements) (gap ++ (element ++ rest))

/-- The bytes are the members of an object up to its end, each a key, which its token names, with a value. -/
inductive Keyed {κ : Type} (Names : List UInt8 → κ → Prop) :
    Bool → List (κ × List UInt8) → List UInt8 → Prop where
  | done {first : Bool} {blanks : List UInt8} (blank : Blanks blanks) :
      Keyed Names first [] (blanks ++ [0x7D])
  | member {first : Bool} {gap token before behind value rest : List UInt8} {key : κ}
      {members : List (κ × List UInt8)} (parted : Parted first gap) (names : Names token key)
      (blankBefore : Blanks before) (blankBehind : Blanks behind) (more : Keyed Names false members rest) :
      Keyed Names first ((key, value) :: members)
        (gap ++ 0x22 :: (token ++ (before ++ 0x3A :: (behind ++ (value ++ rest)))))

theorem Parted.closed {first : Bool} {gap rest : List UInt8} (parted : Parted first gap)
    (closed : Closed rest) : Closed (gap ++ rest) := by
  cases parted with
  | first blank => exact blank.closed closed
  | comma blankBefore _ =>
      rw [List.append_assoc]
      exact blankBefore.closed (closed_cons _ (by decide))

theorem Elements.closed {elements : List (List UInt8)} {bytes : List UInt8}
    (is : Elements false elements bytes) (rest : List UInt8) : Closed (bytes ++ rest) := by
  cases is with
  | done blank =>
      rw [List.append_assoc]
      exact blank.closed (closed_cons _ (by decide))
  | element parted _ =>
      cases parted with
      | comma blankBefore _ =>
          simp only [List.append_assoc]
          exact blankBefore.closed (closed_cons _ (by decide))

theorem Elements.length_le {first : Bool} {elements : List (List UInt8)} {bytes : List UInt8}
    (is : Elements first elements bytes) {element : List UInt8} (among : element ∈ elements) :
    element.length ≤ bytes.length := by
  induction is with
  | done => cases among
  | element _ _ ih =>
      simp only [List.length_append]
      rcases List.mem_cons.mp among with rfl | later
      · omega
      · have := ih later
        omega

section Keyed

variable {κ : Type} {Names : List UInt8 → κ → Prop} {first : Bool} {members : List (κ × List UInt8)}
  {bytes : List UInt8}

theorem Keyed.closed (is : Keyed Names first members bytes) (rest : List UInt8) : Closed (bytes ++ rest) := by
  cases is with
  | done blank =>
      rw [List.append_assoc]
      exact blank.closed (closed_cons _ (by decide))
  | member parted _ _ _ _ =>
      rw [List.append_assoc]
      exact parted.closed (closed_cons _ (by decide))

theorem Keyed.length_le (is : Keyed Names first members bytes) {member : κ × List UInt8}
    (among : member ∈ members) : member.2.length ≤ bytes.length := by
  induction is with
  | done => cases among
  | member _ _ _ _ _ ih =>
      simp only [List.length_append, List.length_cons]
      rcases List.mem_cons.mp among with rfl | later
      · dsimp only
        omega
      · have := ih later
        omega

end Keyed

/-! ### The grammar -/

/-- The bytes are a JSON value, without blanks around it. -/
inductive Wellformed : List UInt8 → Prop where
  | word {letters : String} (known : letters ∈ ["null", "true", "false"]) :
      Wellformed (Utf8.encode letters)
  | number {sign whole fraction exponent : List UInt8} (is : Number.Numeral sign whole fraction exponent) :
      Wellformed (sign ++ (whole ++ (fraction ++ exponent)))
  | string {token : List UInt8} (quoted : Text.Quoted token) : Wellformed (0x22 :: token)
  | list {elements : List (List UInt8)} {bytes : List UInt8} (is : Elements true elements bytes)
      (each : ∀ element ∈ elements, Wellformed element) : Wellformed (0x5B :: bytes)
  | object {members : List (Unit × List UInt8)} {bytes : List UInt8}
      (is : Keyed (fun token _ => Text.Quoted token) true members bytes)
      (each : ∀ member ∈ members, Wellformed member.2) : Wellformed (0x7B :: bytes)

/-- A value begins with no blank and with nothing that ends a list. -/
theorem Wellformed.exists_eq_cons {bytes : List UInt8} (wellformed : Wellformed bytes) :
    ∃ first more, bytes = first :: more ∧ Reader.isBlank first = false ∧ first ≠ 0x5D := by
  cases wellformed with
  | word known =>
      simp only [List.mem_cons, List.not_mem_nil, or_false] at known
      rcases known with rfl | rfl | rfl
      · exact ⟨0x6E, Utf8.encode "ull", by decide +kernel, by decide⟩
      · exact ⟨0x74, Utf8.encode "rue", by decide +kernel, by decide⟩
      · exact ⟨0x66, Utf8.encode "alse", by decide +kernel, by decide⟩
  | number is =>
      rcases is.signed with rfl | rfl
      · obtain ⟨first, more, rfl, digit⟩ := is.whole.exists_eq_cons
        refine ⟨first, _, rfl, isBlank_of_isDigit digit, ?_⟩
        rintro rfl
        cases digit
      · exact ⟨0x2D, _, rfl, by decide⟩
  | string => exact ⟨0x22, _, rfl, by decide⟩
  | list => exact ⟨0x5B, _, rfl, by decide⟩
  | object => exact ⟨0x7B, _, rfl, by decide⟩

/-! ### Looking values over -/

/-- Elements are looked over from one on, where each is. -/
theorem skipElements_append {read : Reader Unit} {elements : List (List UInt8)}
    {blanks element bytes : List UInt8} (more : Elements false elements bytes)
    (each : ∀ element ∈ elements, Reads read element ()) (reads : Reads read element ())
    (blank : Blanks blanks) (rest rounds : List UInt8) (enough : bytes.length ≤ rounds.length) :
    skipElements read rounds (blanks ++ (element ++ (bytes ++ rest))) = .ok ((), rest) := by
  have closed := more.closed rest
  generalize isFirst : false = first at more
  induction more generalizing blanks element rounds with
  | @done _ blanksEnd blankEnd =>
      cases rounds with
      | nil => simp at enough
      | cons round rounds =>
          rw [skipElements, ← List.append_assoc blanks, Reader.bind_of_ok (reads _ _ blank closed),
            List.append_assoc, List.singleton_append,
            Reader.bind_of_ok (Reader.peekToken_cons blankEnd (by decide) _)]
          rfl
  | @element _ gap next bytes elements parted more ih =>
      subst isFirst
      obtain ⟨readsNext, each⟩ := List.forall_mem_cons.mp each
      cases rounds with
      | nil => cases parted with | comma => simp at enough
      | cons round rounds =>
          rw [skipElements, ← List.append_assoc blanks, Reader.bind_of_ok (reads _ _ blank closed)]
          cases parted with
          | @comma before behind blankBefore blankBehind =>
              simp only [List.append_assoc, List.cons_append]
              rw [Reader.bind_of_ok (Reader.peekToken_cons blankBefore (by decide) _)]
              refine (Reader.bind_of_ok (Reader.advance_cons 0x2C _)).trans ?_
              refine ih each readsNext blankBehind rounds ?_ (more.closed rest) rfl
              simp only [List.length_append, List.length_cons] at enough
              omega

theorem skipKey_append {blanks token before : List UInt8} (quoted : Text.Quoted token) (blank : Blanks blanks)
    (blankBefore : Blanks before) (rest : List UInt8) :
    skipKey (blanks ++ 0x22 :: (token ++ (before ++ 0x3A :: rest))) = .ok ((), rest) := by
  rw [skipKey, Reader.bind_of_ok (Reader.peekToken_cons blank (by decide) _)]
  refine (Reader.bind_of_ok (Reader.advance_cons 0x22 _)).trans ?_
  rw [Reader.bind_of_ok (Text.skip_quoted quoted _), Reader.colon_cons blankBefore]

/-- Members are looked over from one on, where their values are. -/
theorem skipMembers_append {κ : Type} {read : Reader Unit} {members : List (κ × List UInt8)}
    {blanks token before behind value bytes : List UInt8}
    (more : Keyed (fun token _ => Text.Quoted token) false members bytes)
    (each : ∀ member ∈ members, Reads read member.2 ()) (reads : Reads read value ())
    (quoted : Text.Quoted token) (blank : Blanks blanks) (blankBefore : Blanks before)
    (blankBehind : Blanks behind) (rest rounds : List UInt8) (enough : bytes.length ≤ rounds.length) :
    skipMembers read rounds
      (blanks ++ 0x22 :: (token ++ (before ++ 0x3A :: (behind ++ (value ++ (bytes ++ rest)))))) =
        .ok ((), rest) := by
  have closed := more.closed rest
  generalize isFirst : false = first at more
  induction more generalizing blanks token before behind value rounds with
  | @done _ blanksEnd blankEnd =>
      cases rounds with
      | nil => simp at enough
      | cons round rounds =>
          rw [skipMembers, Reader.bind_of_ok (skipKey_append quoted blank blankBefore _),
            ← List.append_assoc behind, Reader.bind_of_ok (reads _ _ blankBehind closed), List.append_assoc,
            List.singleton_append, Reader.bind_of_ok (Reader.peekToken_cons blankEnd (by decide) _)]
          rfl
  | @member _ gap _ _ _ _ bytes key members parted quotedNext blankBeforeNext blankBehindNext more ih =>
      subst isFirst
      obtain ⟨readsNext, each⟩ := List.forall_mem_cons.mp each
      cases rounds with
      | nil => cases parted with | comma => simp at enough
      | cons round rounds =>
          rw [skipMembers, Reader.bind_of_ok (skipKey_append quoted blank blankBefore _),
            ← List.append_assoc behind, Reader.bind_of_ok (reads _ _ blankBehind closed)]
          cases parted with
          | @comma beforeComma behindComma blankBeforeComma blankBehindComma =>
              simp only [List.append_assoc, List.cons_append]
              rw [Reader.bind_of_ok (Reader.peekToken_cons blankBeforeComma (by decide) _)]
              refine (Reader.bind_of_ok (Reader.advance_cons 0x2C _)).trans ?_
              refine ih each readsNext quotedNext blankBehindComma blankBeforeNext blankBehindNext rounds ?_
                (more.closed rest) rfl
              simp only [List.length_append, List.length_cons] at enough
              omega

section Within

variable {bytes : List UInt8} {round : UInt8} {rounds : List UInt8}

theorem reads_skipWithin_word {letters : String} (known : letters ∈ ["null", "true", "false"]) :
    Reads (skipWithin (round :: rounds)) (Utf8.encode letters) () := by
  simp only [List.mem_cons, List.not_mem_nil, or_false] at known
  rcases known with rfl | rfl | rfl
  · rw [show Utf8.encode "null" = 0x6E :: Utf8.encode "ull" by decide +kernel]
    exact .of_peekValue (by decide) fun rest _ => Reader.word_append "ull" rest
  · rw [show Utf8.encode "true" = 0x74 :: Utf8.encode "rue" by decide +kernel]
    exact .of_peekValue (by decide) fun rest _ => Reader.word_append "rue" rest
  · rw [show Utf8.encode "false" = 0x66 :: Utf8.encode "alse" by decide +kernel]
    exact .of_peekValue (by decide) fun rest _ => Reader.word_append "alse" rest

theorem reads_skipWithin_number {sign whole fraction exponent : List UInt8}
    (is : Number.Numeral sign whole fraction exponent) :
    Reads (skipWithin (round :: rounds)) (sign ++ (whole ++ (fraction ++ exponent))) () := by
  have skipped : ∀ rest, Closed rest →
      Number.skip (whole ++ (fraction ++ exponent) ++ rest) = .ok ((), rest) := by
    intro rest closed
    rw [List.append_assoc, List.append_assoc]
    exact Number.skip_numeral is closed
  rcases is.signed with rfl | rfl
  · obtain ⟨first, more, rfl, digit⟩ := is.whole.exists_eq_cons
    refine .of_peekValue (isBlank_of_isDigit digit) fun rest closed => ?_
    -- A digit is none of the bytes that other values begin with.
    split
    · cases digit
    · cases digit
    · cases digit
    · cases digit
    · cases digit
    · cases digit
    · cases digit
    · rw [if_pos digit]
      exact skipped rest closed
  · exact .of_peekValue (by decide) fun rest closed => skipped rest closed

theorem reads_skipWithin_list {elements : List (List UInt8)} (is : Elements true elements bytes)
    (each : ∀ element ∈ elements, Wellformed element)
    (reads : ∀ element ∈ elements, Reads (skipWithin rounds) element ())
    (enough : bytes.length ≤ rounds.length) :
    Reads (skipWithin (round :: rounds)) (0x5B :: bytes) () := by
  refine .of_peekValue (by decide) fun rest _ => ?_
  refine (Reader.bind_of_ok (Reader.advance_cons 0x5B _)).trans ?_
  cases is with
  | done blank =>
      rw [List.append_assoc, List.singleton_append,
        Reader.bind_of_ok (Reader.peekToken_cons blank (by decide) _)]
      rfl
  | @element _ gap element bytes elements parted more =>
      obtain ⟨readsFirst, readsOthers⟩ := List.forall_mem_cons.mp reads
      obtain ⟨first, tail, rfl, shown, noEnd⟩ := (each element List.mem_cons_self).exists_eq_cons
      have room : bytes.length ≤ (round :: rounds).length := by
        simp only [List.length_append, List.length_cons] at enough ⊢
        omega
      have skipped := skipElements_append more readsOthers readsFirst .nil rest (round :: rounds) room
      cases parted with
      | first blank =>
          simp only [List.append_assoc, List.cons_append]
          rw [Reader.bind_of_ok (Reader.peekToken_cons blank shown _)]
          simp
          exact skipped

theorem reads_skipWithin_object {members : List (Unit × List UInt8)}
    (is : Keyed (fun token _ => Text.Quoted token) true members bytes)
    (reads : ∀ member ∈ members, Reads (skipWithin rounds) member.2 ())
    (enough : bytes.length ≤ rounds.length) : Reads (skipWithin (round :: rounds)) (0x7B :: bytes) () := by
  refine .of_peekValue (by decide) fun rest _ => ?_
  refine (Reader.bind_of_ok (Reader.advance_cons 0x7B _)).trans ?_
  cases is with
  | done blank =>
      rw [List.append_assoc, List.singleton_append,
        Reader.bind_of_ok (Reader.peekToken_cons blank (by decide) _)]
      rfl
  | @member _ gap token before behind value bytes key members parted quoted blankBefore blankBehind more =>
      obtain ⟨readsFirst, reads⟩ := List.forall_mem_cons.mp reads
      have room : bytes.length ≤ (round :: rounds).length := by
        simp only [List.length_append, List.length_cons] at enough ⊢
        omega
      have skipped := skipMembers_append more reads readsFirst quoted .nil blankBefore blankBehind rest
        (round :: rounds) room
      cases parted with
      | first blank =>
          simp only [List.append_assoc, List.cons_append]
          rw [Reader.bind_of_ok (Reader.peekToken_cons blank (by decide) _)]
          exact skipped

theorem Wellformed.exists_rounds (wellformed : Wellformed bytes) (enough : bytes.length ≤ rounds.length) :
    ∃ round more, rounds = round :: more := by
  obtain ⟨first, more, rfl, -⟩ := wellformed.exists_eq_cons
  cases rounds with
  | nil => nomatch enough
  | cons round rounds => exact ⟨round, rounds, rfl⟩

/-- A value is looked over in no more rounds than it has bytes, however deep it is nested. -/
theorem reads_skipWithin (wellformed : Wellformed bytes) (enough : bytes.length ≤ rounds.length) :
    Reads (skipWithin rounds) bytes () := by
  -- What is nested in a value is shorter than the value, so one round less is enough for it.
  induction wellformed generalizing rounds with
  | word known =>
      obtain ⟨round, rounds, rfl⟩ := (Wellformed.word known).exists_rounds enough
      exact reads_skipWithin_word known
  | number is =>
      obtain ⟨round, rounds, rfl⟩ := (Wellformed.number is).exists_rounds enough
      exact reads_skipWithin_number is
  | string quoted =>
      obtain ⟨round, rounds, rfl⟩ := (Wellformed.string quoted).exists_rounds enough
      exact .of_peekValue (by decide) fun rest _ => Text.skip_quoted quoted rest
  | @list elements bytes is each ih =>
      obtain ⟨round, rounds, rfl⟩ := (Wellformed.list is each).exists_rounds enough
      have room : bytes.length ≤ rounds.length := Nat.le_of_succ_le_succ enough
      exact reads_skipWithin_list is each
        (fun element among => ih element among (Nat.le_trans (is.length_le among) room)) room
  | @object members bytes is each ih =>
      obtain ⟨round, rounds, rfl⟩ := (Wellformed.object is each).exists_rounds enough
      have room : bytes.length ≤ rounds.length := Nat.le_of_succ_le_succ enough
      exact reads_skipWithin_object is
        (fun member among => ih member among (Nat.le_trans (is.length_le among) room)) room

end Within

/-- Every value is looked over. -/
theorem reads_skip {bytes : List UInt8} (wellformed : Wellformed bytes) : Reads skip bytes () := by
  intro blanks rest blank closed
  refine reads_skipWithin wellformed ?_ blanks rest blank closed
  simp only [List.length_cons, List.length_append]
  omega

end RootObject.Json
