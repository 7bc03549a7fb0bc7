import RootObject.Json.Cursor

/-!
What readers of JSON do, told apart from how. `Reads read bytes value` says that the reader takes these
bytes as this value, whatever blanks stand before them and whatever follows; it is proved of a reader
from its parts. `Yields good read` says that every value the reader comes back with is good, whatever
text it reads.
-/

namespace RootObject.Json

namespace Reader

variable {α β : Type} {read : Reader α} {next : α → Reader β} {bytes rest : List UInt8}

theorem bind_of_ok {value : α} (ok : read bytes = .ok (value, rest)) :
    (read >>= next) bytes = next value rest := by
  change (read bytes >>= fun result => next result.1 result.2) = _
  rw [ok]
  rfl

theorem exists_of_bind_ok {value : β} (ok : (read >>= next) bytes = .ok (value, rest)) :
    ∃ middle left, read bytes = .ok (middle, left) ∧ next middle left = .ok (value, rest) := by
  change (read bytes >>= fun result => next result.1 result.2) = _ at ok
  cases first : read bytes with
  | error refusal =>
      rw [first] at ok
      cases ok
  | ok result =>
      rw [first] at ok
      exact ⟨result.1, result.2, rfl, ok⟩

theorem advance_cons (byte : UInt8) (rest : List UInt8) : advance (byte :: rest) = .ok ((), rest) :=
  rfl

theorem exactly_append (bytes rest : List UInt8) : exactly bytes (bytes ++ rest) = .ok ((), rest) := by
  induction bytes with
  | nil => rfl
  | cons byte bytes ih =>
      rw [exactly]
      change (if byte = byte then exactly bytes else refuse .identExpected) (bytes ++ rest) = _
      rw [if_pos rfl, ih]

theorem word_append (letters : String) (rest : List UInt8) :
    word letters (Utf8.encode letters ++ rest) = .ok ((), rest) :=
  exactly_append _ rest

end Reader

/-! ### Blanks before a token -/

def Blanks (bytes : List UInt8) : Prop :=
  ∀ byte ∈ bytes, Reader.isBlank byte = true

theorem Reader.eq_of_isBlank {byte : UInt8} (blank : isBlank byte = true) :
    byte = 0x20 ∨ byte = 0x0A ∨ byte = 0x0D ∨ byte = 0x09 := by
  simpa [isBlank, or_assoc] using blank

theorem Blanks.nil : Blanks [] :=
  fun _ mem => nomatch mem

namespace Reader

variable {blanks : List UInt8} {byte : UInt8}

theorem peekToken_cons (blank : Blanks blanks) (shown : isBlank byte = false) (rest : List UInt8) :
    peekToken (blanks ++ byte :: rest) = .ok (some byte, byte :: rest) := by
  have skipped : skipBlanks (blanks ++ byte :: rest) = .ok ((), byte :: rest) := by
    rw [skipBlanks, List.dropWhile_append_of_pos blank, List.dropWhile_cons_of_neg (by simp [shown])]
  rw [peekToken, bind_of_ok skipped]
  rfl

theorem peekValue_cons (blank : Blanks blanks) (shown : isBlank byte = false) (rest : List UInt8) :
    peekValue (blanks ++ byte :: rest) = .ok (byte, byte :: rest) := by
  rw [peekValue, bind_of_ok (peekToken_cons blank shown rest)]
  rfl

theorem colon_cons (blank : Blanks blanks) (rest : List UInt8) :
    colon (blanks ++ 0x3A :: rest) = .ok ((), rest) := by
  rw [colon, bind_of_ok (peekToken_cons blank (by decide) rest)]
  rfl

end Reader

/-! ### Bytes that are read as a value -/

/-- What follows is no digit. -/
def NoDigit (rest : List UInt8) : Prop :=
  ∀ byte, rest.head? = some byte → isDigit byte = false

/-- What follows is nothing that a number goes on with. -/
def Closed (rest : List UInt8) : Prop :=
  ∀ byte, rest.head? = some byte → isDigit byte = false ∧ byte ∉ [0x2E, 0x65, 0x45]

theorem Closed.nil : Closed [] :=
  fun _ head => nomatch head

theorem Closed.noDigit {rest : List UInt8} (closed : Closed rest) : NoDigit rest :=
  fun byte head => (closed byte head).1

theorem closed_cons {byte : UInt8} (rest : List UInt8)
    (ends : isDigit byte = false ∧ byte ∉ [0x2E, 0x65, 0x45]) : Closed (byte :: rest) := by
  intro first head
  cases head
  exact ends

theorem Blanks.append {first second : List UInt8} (blank : Blanks first) (blankSecond : Blanks second) :
    Blanks (first ++ second) := by
  intro byte among
  rcases List.mem_append.mp among with before | behind
  · exact blank byte before
  · exact blankSecond byte behind

/-- Blanks end a number. -/
theorem Blanks.closed {blanks rest : List UInt8} (blank : Blanks blanks) (closed : Closed rest) :
    Closed (blanks ++ rest) := by
  cases blanks with
  | nil => exact closed
  | cons byte blanks =>
      apply closed_cons
      obtain rfl | rfl | rfl | rfl := Reader.eq_of_isBlank (blank byte (by simp)) <;> decide

/-- Behind blanks, and before anything that no number goes on with, the reader takes the bytes as the
value. -/
def Reads {α : Type} (read : Reader α) (bytes : List UInt8) (value : α) : Prop :=
  ∀ blanks rest, Blanks blanks → Closed rest → read (blanks ++ bytes ++ rest) = .ok (value, rest)

namespace Reads

variable {α β : Type} {read : Reader α} {bytes : List UInt8} {value : α}

/-- A reader that looks at the first byte of a value need only be followed from there. -/
theorem of_peekValue {next : UInt8 → Reader α} {first : UInt8} {more : List UInt8}
    (shown : Reader.isBlank first = false)
    (reads : ∀ rest, Closed rest → next first (first :: (more ++ rest)) = .ok (value, rest)) :
    Reads (Reader.peekValue >>= next) (first :: more) value := by
  intro blanks rest blank closed
  rw [List.append_assoc, List.cons_append, Reader.bind_of_ok (Reader.peekValue_cons blank shown _)]
  exact reads rest closed

/-- Such is a word that is known by its first letter. -/
theorem word {next : UInt8 → Reader α} {first : UInt8} {letters : String}
    (shown : Reader.isBlank first = false)
    (takes : next first = do
      Reader.advance
      Reader.word letters
      return value) :
    Reads (Reader.peekValue >>= next) (first :: Utf8.encode letters) value := by
  refine of_peekValue shown fun rest _ => ?_
  rw [takes, Reader.bind_of_ok (Reader.advance_cons _ _), Reader.bind_of_ok (Reader.word_append letters rest)]
  rfl

/-- Blanks may be counted with the value. -/
theorem behind_blanks {blanks : List UInt8} (blank : Blanks blanks) (reads : Reads read bytes value) :
    Reads read (blanks ++ bytes) value := by
  intro before rest blankBefore closed
  rw [← List.append_assoc before]
  exact reads _ rest (blankBefore.append blank) closed

theorem map (f : α → β) (reads : Reads read bytes value) :
    Reads (do return f (← read)) bytes (f value) := by
  intro blanks rest blank closed
  rw [Reader.bind_of_ok (reads blanks rest blank closed)]
  rfl

end Reads

/-- Behind blanks, and before anything that no number goes on with, the reader takes the bytes for nothing. -/
def Refuses {α : Type} (read : Reader α) (bytes : List UInt8) : Prop :=
  ∀ blanks rest, Blanks blanks → Closed rest → ∀ result, read (blanks ++ bytes ++ rest) ≠ .ok result

/-- A reader takes no bytes for two values. -/
theorem Reads.unique {α : Type} {read : Reader α} {bytes : List UInt8} {value other : α}
    (reads : Reads read bytes value) (readsOther : Reads read bytes other) : value = other := by
  have same := (reads [] [] .nil .nil).symm.trans (readsOther [] [] .nil .nil)
  cases same
  rfl

theorem Refuses.map {α β : Type} {read : Reader α} {bytes : List UInt8} (f : α → β)
    (refuses : Refuses read bytes) : Refuses (do return f (← read)) bytes := by
  rintro blanks rest blank closed ⟨value, left⟩ ok
  obtain ⟨middle, behind, before, -⟩ := Reader.exists_of_bind_ok ok
  exact refuses blanks rest blank closed _ before

/-! ### Values that a reader can come back with -/

/-- Every value that the reader comes back with is good. -/
def Yields {α : Type} (good : α → Prop) (read : Reader α) : Prop :=
  ∀ bytes value rest, read bytes = .ok (value, rest) → good value

namespace Yields

variable {α β : Type} {good : α → Prop} {better : β → Prop}

protected theorem pure {value : α} (is : good value) : Yields good (pure value : Reader α) := by
  intro bytes result rest ok
  cases ok
  exact is

protected theorem bind {read : Reader α} {next : α → Reader β} (first : Yields good read)
    (second : ∀ value, good value → Yields better (next value)) : Yields better (read >>= next) := by
  intro bytes value rest ok
  obtain ⟨middle, left, before, behind⟩ := Reader.exists_of_bind_ok ok
  exact second middle (first bytes middle left before) left value rest behind

/-- Nothing need be known of what is read on the way. -/
theorem bind_any {read : Reader α} {next : α → Reader β} (second : ∀ value, Yields better (next value)) :
    Yields better (read >>= next) :=
  .bind (fun _ _ _ _ => trivial : Yields (fun _ => True) read) fun value _ => second value

/-- Something may be taken first, or not. -/
theorem after_when {taken : Prop} [Decidable taken] {read : Reader PUnit} {next : PUnit → Reader β}
    (second : Yields better (next ⟨⟩)) : Yields better (if taken then read >>= next else next ⟨⟩) := by
  split
  · exact .bind_any fun _ => second
  · exact second

theorem refuse (cause : Cause) : Yields good (Reader.refuse cause) :=
  fun _ _ _ ok => nomatch ok

theorem refuseNext (cause : Cause) : Yields good (Reader.refuseNext cause) :=
  fun _ _ _ ok => nomatch ok

end Yields
end RootObject.Json
