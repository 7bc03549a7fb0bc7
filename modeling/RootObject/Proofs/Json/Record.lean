import RootObject.Json.Record
import RootObject.Proofs.Json.Skip

/-!
Records in JSON. `Members` says, beside the reader, which bytes are the members of an object and what
they make of a record: fields that are known, each at most once, and others that are looked over, in any
order, with blanks wherever they may stand. The reader follows it (`reads_readRecord`). Whatever a document
holds, a record that is read has all that every field keeps (`yields_readRecord`).
-/

namespace RootObject.Json

variable {α : Type}

/-! ### Plain values -/

theorem reads_readBool (value : Bool) :
    Reads readBool (Utf8.encode (if value then "true" else "false")) value := by
  cases value with
  | true =>
      rw [if_pos rfl, show Utf8.encode "true" = 0x74 :: Utf8.encode "rue" by decide +kernel]
      exact .word (by decide) rfl
  | false =>
      rw [if_neg (by decide), show Utf8.encode "false" = 0x66 :: Utf8.encode "alse" by decide +kernel]
      exact .word (by decide) rfl

/-- A variant is read from its name. -/
theorem reads_readVariant {variants : List (String × α)} {name : String} {value : α} {token : List UInt8}
    (spells : Text.Spells token name) (known : variants.lookup name = some value) :
    Reads (readVariant variants) (0x22 :: token) value := by
  refine .of_peekValue (by decide) fun rest _ => ?_
  change (Text.read >>= variantNamed variants) (token ++ rest) = _
  rw [Reader.bind_of_ok (spells rest), variantNamed, known]
  rfl

theorem reads_readOptional_none (read : Reader α) : Reads (readOptional read) (Utf8.encode "null") none := by
  rw [show Utf8.encode "null" = 0x6E :: Utf8.encode "ull" by decide +kernel]
  exact .word (by decide) rfl

/-- A value that does not begin like `null` is there. -/
theorem reads_readOptional_some {read : Reader α} {first : UInt8} {more : List UInt8} {value : α}
    (reads : Reads read (first :: more) value) (shown : Reader.isBlank first = false)
    (other : first ≠ 0x6E) : Reads (readOptional read) (first :: more) (some value) := by
  refine .of_peekValue shown fun rest closed => ?_
  have read : read (first :: (more ++ rest)) = .ok (value, rest) := reads [] rest .nil closed
  split
  · exact absurd rfl other
  · exact Reader.bind_of_ok read

/-! ### Members of an object -/

theorem nextKey?_of_parted {first : Bool} {gap token : List UInt8} {key : String}
    (parted : Parted first gap) (spells : Text.Spells token key) (rest : List UInt8) :
    nextKey? first (gap ++ 0x22 :: (token ++ rest)) = .ok (some key, rest) := by
  cases parted with
  | first blank =>
      rw [nextKey?, Reader.bind_of_ok (Reader.peekToken_cons blank (by decide) _)]
      change (Text.read >>= fun key => pure (some key)) (token ++ rest) = _
      exact Reader.bind_of_ok (spells rest)
  | comma blankBefore blankBehind =>
      rw [nextKey?, List.append_assoc, List.cons_append,
        Reader.bind_of_ok (Reader.peekToken_cons blankBefore (by decide) _)]
      change (Reader.advance >>= _) _ = _
      rw [Reader.bind_of_ok (Reader.advance_cons _ _)]
      rw [Reader.bind_of_ok (Reader.peekToken_cons blankBehind (by decide) _)]
      change (Text.read >>= fun key => pure (some key)) (token ++ rest) = _
      exact Reader.bind_of_ok (spells rest)

theorem nextKey?_end (first : Bool) {blanks : List UInt8} (blank : Blanks blanks) (rest : List UInt8) :
    nextKey? first (blanks ++ 0x7D :: rest) = .ok (none, 0x7D :: rest) := by
  rw [nextKey?, Reader.bind_of_ok (Reader.peekToken_cons blank (by decide) _)]
  rfl

theorem yields_refuseDuplicate {good : α → Prop} (name : String) : Yields good (refuseDuplicate name) :=
  .bind_any fun _ => .bind_any fun _ => .after_when (.refuse _)

section Step

variable {fields : List (Field α)} {seen : List String} {gap token blanks : List UInt8} {key : String}
  {field : Field α} (parted : Parted seen.isEmpty gap) (spells : Text.Spells token key)
include parted spells

/-- The value of a field that is known and new goes into the record. -/
theorem readMembers_field (known : fields.find? (fun field => field.name = key) = some field)
    (new : key ∉ seen) (blank : Blanks blanks) (value : α) (round : UInt8) (rounds rest : List UInt8) :
    readMembers fields seen value (round :: rounds) (gap ++ 0x22 :: (token ++ (blanks ++ 0x3A :: rest))) =
      (field.read value >>= fun next => readMembers fields (key :: seen) next rounds) rest := by
  rw [readMembers, Reader.bind_of_ok (nextKey?_of_parted parted spells _)]
  simp only [known, List.contains_eq_mem, new, decide_false, Bool.false_eq_true, if_false]
  rw [Reader.bind_of_ok (Reader.colon_cons blank rest)]

/-- The value of an unknown key is looked over. -/
theorem readMembers_unknown (unknown : fields.find? (fun field => field.name = key) = none)
    (blank : Blanks blanks) (value : α) (round : UInt8) (rounds rest : List UInt8) :
    readMembers fields seen value (round :: rounds) (gap ++ 0x22 :: (token ++ (blanks ++ 0x3A :: rest))) =
      (skip >>= fun _ => readMembers fields (key :: seen) value rounds) rest := by
  rw [readMembers, Reader.bind_of_ok (nextKey?_of_parted parted spells _)]
  simp only [unknown]
  rw [Reader.bind_of_ok (Reader.colon_cons blank rest)]

/-- A field that was there before is refused. -/
theorem readMembers_again (known : fields.find? (fun field => field.name = key) = some field)
    (again : key ∈ seen) (value : α) (round : UInt8) (rounds rest : List UInt8) (result : α × List UInt8) :
    readMembers fields seen value (round :: rounds) (gap ++ 0x22 :: (token ++ rest)) ≠ .ok result := by
  intro ok
  rw [readMembers, Reader.bind_of_ok (nextKey?_of_parted parted spells _)] at ok
  simp only [known, List.contains_eq_mem, again, decide_true, if_true] at ok
  have never : Yields (fun _ : α => False) (refuseDuplicate key) := yields_refuseDuplicate key
  exact never _ _ _ ok

end Step

/-- The bytes are the members of an object to its end, behind members of which the names are known, and
they turn one record into another. -/
inductive Members (fields : List (Field α)) : List String → α → List UInt8 → α → Prop where
  | done {seen : List String} {value : α} {blanks : List UInt8} (blank : Blanks blanks) :
      Members fields seen value (blanks ++ [0x7D]) value
  | field {seen : List String} {value next final : α} {gap token blanks bytes rest : List UInt8}
      {key : String} {field : Field α} (parted : Parted seen.isEmpty gap) (spells : Text.Spells token key)
      (known : fields.find? (fun field => field.name = key) = some field) (new : key ∉ seen)
      (blank : Blanks blanks) (reads : Reads (field.read value) bytes next)
      (members : Members fields (key :: seen) next rest final) :
      Members fields seen value (gap ++ 0x22 :: (token ++ (blanks ++ 0x3A :: (bytes ++ rest)))) final
  | unknown {seen : List String} {value final : α} {gap token blanks bytes rest : List UInt8}
      {key : String} (parted : Parted seen.isEmpty gap) (spells : Text.Spells token key)
      (unknown : fields.find? (fun field => field.name = key) = none)
      (blank : Blanks blanks) (reads : Reads skip bytes ())
      (members : Members fields (key :: seen) value rest final) :
      Members fields seen value (gap ++ 0x22 :: (token ++ (blanks ++ 0x3A :: (bytes ++ rest)))) final

namespace Members

variable {fields : List (Field α)} {seen : List String} {value final : α} {bytes : List UInt8}

theorem closed (members : Members fields seen value bytes final) (rest : List UInt8) :
    Closed (bytes ++ rest) := by
  cases members with
  | done blank =>
      rw [List.append_assoc]
      exact blank.closed (closed_cons _ (by decide))
  | field parted | unknown parted =>
      rw [List.append_assoc]
      exact parted.closed (closed_cons _ (by decide))

theorem readMembers (members : Members fields seen value bytes final) (rest rounds : List UInt8)
    (enough : bytes.length ≤ rounds.length) :
    readMembers fields seen value rounds (bytes ++ rest) = .ok (final, rest) := by
  induction members generalizing rounds with
  | done blank =>
      cases rounds with
      | nil => simp at enough
      | cons round rounds =>
          rw [Json.readMembers, List.append_assoc, List.singleton_append,
            Reader.bind_of_ok (nextKey?_end _ blank _)]
          rfl
  | @field seen value next final gap token blanks bytes left key field parted spells known new blank reads
      members ih =>
      cases rounds with
      | nil => simp at enough
      | cons round rounds =>
          have taken := reads [] (left ++ rest) .nil (members.closed rest)
          rw [List.nil_append] at taken
          simp only [List.append_assoc, List.cons_append]
          rw [readMembers_field parted spells known new blank, Reader.bind_of_ok taken]
          apply ih
          simp at enough
          omega
  | @unknown seen value final gap token blanks bytes left key parted spells unknown blank reads members ih =>
      cases rounds with
      | nil => simp at enough
      | cons round rounds =>
          have taken := reads [] (left ++ rest) .nil (members.closed rest)
          rw [List.nil_append] at taken
          simp only [List.append_assoc, List.cons_append]
          rw [readMembers_unknown parted spells unknown blank, Reader.bind_of_ok taken]
          apply ih
          simp at enough
          omega

end Members

/-- A record is read from an object that fills it, whatever follows. -/
theorem readRecord_append {fields : List (Field α)} {value final : α} {blanks bytes : List UInt8}
    (typeName : String) (members : Members fields [] value bytes final) (blank : Blanks blanks)
    (rest : List UInt8) :
    readRecord typeName fields value (blanks ++ 0x7B :: (bytes ++ rest)) = .ok (final, rest) := by
  rw [readRecord, Reader.bind_of_ok (Reader.peekValue_cons blank (by decide) _)]
  refine members.readMembers rest (0 :: (bytes ++ rest)) ?_
  rw [List.length_cons, List.length_append]
  omega

theorem reads_readRecord {fields : List (Field α)} {value final : α} {bytes : List UInt8}
    (typeName : String) (members : Members fields [] value bytes final) :
    Reads (readRecord typeName fields value) (0x7B :: bytes) final := by
  intro blanks rest blank _
  rw [List.append_assoc, List.cons_append, readRecord_append typeName members blank]

/-! ### Records that any text may hold -/

section Yields

variable {fields : List (Field α)} {good : α → Prop}

theorem yields_readElements (each : ∀ field ∈ fields, ∀ value, good value → Yields good (field.read value))
    (first : Bool) {value : α} (is : good value) : Yields good (readElements first value fields) := by
  induction fields generalizing first value with
  | nil => exact .pure is
  | cons field fields ih =>
      obtain ⟨head, tail⟩ := List.forall_mem_cons.mp each
      refine .bind_any fun another => ?_
      split
      · exact (head value is).bind fun value is => ih tail false is
      · exact .pure is

theorem yields_readMembers (each : ∀ field ∈ fields, ∀ value, good value → Yields good (field.read value))
    (seen : List String) {value : α} (is : good value) (rounds : List UInt8) :
    Yields good (readMembers fields seen value rounds) := by
  induction rounds generalizing seen value with
  | nil => exact .refuse _
  | cons round rounds ih =>
      refine .bind_any fun key? => ?_
      split
      · exact .bind_any fun _ => .pure is
      · split
        · exact .bind_any fun _ => .bind_any fun _ => ih _ is
        · next field known =>
            split
            · exact yields_refuseDuplicate _
            · have fieldOf := List.mem_of_find?_eq_some known
              exact .bind_any fun _ => (each field fieldOf value is).bind fun value is => ih _ is

/-- What every field keeps true of a record is true of every record that is read. -/
theorem yields_readRecord (each : ∀ field ∈ fields, ∀ value, good value → Yields good (field.read value))
    (typeName : String) {value : α} (is : good value) :
    Yields good (readRecord typeName fields value) := by
  refine .bind_any fun byte => ?_
  split
  · refine .bind_any fun _ => (yields_readElements each true is).bind fun value is => ?_
    exact .bind_any fun _ => .pure is
  · refine .bind_any fun _ => fun bytes => ?_
    exact yields_readMembers each [] is (0 :: bytes) bytes
  · exact yields_refuseType _

end Yields
end RootObject.Json
