import Mathlib.Data.List.Forall2
import Mathlib.Data.List.Nodup
import RootObject.Proofs.Json.Record

/-!
Objects that give some fields of a record. An `Entry` says, beside the readers, how a field stands in
documents: which bytes give it which value, and which spoil it. The fields that an object gives replace those
of the default record, and all others stay as they are (`Merges`); an object that gives a field twice or spoils
one gives no record (`Spoilt`). A reader of records whose fields follow their entries follows them on whole
objects, with keys in any order and in any spelling, and with any values for unknown keys
(`ReadsRecord.exists_of_proper`, `ReadsRecord.not_ok_of_spoilt`).
-/

namespace RootObject.Json

variable {α β : Type}

/-! ### Entries -/

/-- A field of a record as it stands in documents. -/
structure Entry (α : Type) where
  name : String
  Value : Type
  get : α → Value
  /-- The bytes give the field this value. -/
  Gives : List UInt8 → Value → Prop
  /-- The bytes are of a kind that no value of the field is given by. -/
  Spoils : List UInt8 → Prop

/-- The token spells the text, which is a key or a name. -/
def Spelt (token : List UInt8) (key : String) : Prop :=
  Text.Spelling token key.toList

/-- How often a field is given. -/
def timesGiven (name : String) (members : List (String × List UInt8)) : Nat :=
  (members.map Prod.fst).count name

theorem timesGiven_cons (name key : String) (bytes : List UInt8) (members : List (String × List UInt8)) :
    timesGiven name ((key, bytes) :: members) = timesGiven name members + if key = name then 1 else 0 := by
  simp [timesGiven, List.count_cons]

/-- The members give a record: each field at most once, by bytes that give it a value, and every unknown key
any value at all. -/
structure Proper (entries : List (Entry α)) (members : List (String × List UInt8)) : Prop where
  once : ∀ entry ∈ entries, timesGiven entry.name members ≤ 1
  gives : ∀ entry ∈ entries, ∀ bytes, (entry.name, bytes) ∈ members → ∃ value, entry.Gives bytes value
  unknown : ∀ key bytes, (key, bytes) ∈ members → (∀ entry ∈ entries, entry.name ≠ key) → Wellformed bytes

/-- The record is the default one with just the fields replaced that the members give. -/
structure Merges (entries : List (Entry α)) (members : List (String × List UInt8)) (default record : α) :
    Prop where
  gives : ∀ entry ∈ entries, ∀ bytes, (entry.name, bytes) ∈ members → entry.Gives bytes (entry.get record)
  missing : ∀ entry ∈ entries, timesGiven entry.name members = 0 → entry.get record = entry.get default

/-- The fields that are given are given values or spoilt, and every unknown key has any value at all. -/
structure Tidy (entries : List (Entry α)) (members : List (String × List UInt8)) : Prop where
  gives : ∀ entry ∈ entries, ∀ bytes, (entry.name, bytes) ∈ members →
    (∃ value, entry.Gives bytes value) ∨ entry.Spoils bytes
  unknown : ∀ key bytes, (key, bytes) ∈ members → (∀ entry ∈ entries, entry.name ≠ key) → Wellformed bytes

/-- The members would give a record, did they not give a field twice or spoil one. -/
structure Spoilt (entries : List (Entry α)) (members : List (String × List UInt8)) : Prop
    extends Tidy entries members where
  fault : (∃ entry ∈ entries, 2 ≤ timesGiven entry.name members) ∨
    ∃ entry ∈ entries, ∃ bytes, (entry.name, bytes) ∈ members ∧ entry.Spoils bytes

/-- A field that is a record itself, given by an object of its own. -/
def Entry.record (name : String) (get : α → β) (entries : List (Entry β)) (default : β) : Entry α where
  name := name
  Value := β
  get := get
  Gives bytes value := ∃ members inner, bytes = 0x7B :: inner ∧ Keyed Spelt true members inner ∧
    Proper entries members ∧ Merges entries members default value
  Spoils bytes := ∃ members inner, bytes = 0x7B :: inner ∧ Keyed Spelt true members inner ∧
    Spoilt entries members

section Cons

variable {entries : List (Entry α)} {key : String} {bytes : List UInt8} {members : List (String × List UInt8)}
  {default record : α}

/-- No members give the default record. -/
theorem proper_nil : Proper entries [] :=
  ⟨by simp [timesGiven], by simp, by simp⟩

theorem merges_nil : Merges entries [] default default :=
  ⟨by simp, fun _ _ _ => rfl⟩

theorem Proper.tail (proper : Proper entries ((key, bytes) :: members)) : Proper entries members where
  once entry among := by
    have once := proper.once entry among
    rw [timesGiven_cons] at once
    omega
  gives entry among bytes amongMembers := proper.gives entry among bytes (List.mem_cons_of_mem _ amongMembers)
  unknown key bytes amongMembers := proper.unknown key bytes (List.mem_cons_of_mem _ amongMembers)

theorem Tidy.tail (tidy : Tidy entries ((key, bytes) :: members)) : Tidy entries members where
  gives entry among bytes amongMembers := tidy.gives entry among bytes (List.mem_cons_of_mem _ amongMembers)
  unknown key bytes amongMembers := tidy.unknown key bytes (List.mem_cons_of_mem _ amongMembers)

/-- Behind the keys that were there before, a field is given again, or twice, or is spoilt. -/
def Faulty (entries : List (Entry α)) (seen : List String) (members : List (String × List UInt8)) : Prop :=
  (∃ entry ∈ entries, 2 ≤ seen.count entry.name + timesGiven entry.name members) ∨
    ∃ entry ∈ entries, ∃ bytes, (entry.name, bytes) ∈ members ∧ entry.Spoils bytes

theorem not_faulty_nil {seen : List String} (once : ∀ entry ∈ entries, seen.count entry.name ≤ 1) :
    ¬ Faulty entries seen [] := by
  rintro (⟨entry, among, twice⟩ | ⟨entry, among, bytes, ⟨⟩, -⟩)
  have atMost := once entry among
  have none : timesGiven entry.name [] = 0 := rfl
  omega

/-- Behind a member that does not spoil its field the fault is still to come. -/
theorem Faulty.tail {seen : List String} (fault : Faulty entries seen ((key, bytes) :: members))
    (unspoilt : ∀ entry ∈ entries, entry.name = key → ¬ entry.Spoils bytes) : Faulty entries (key :: seen) members := by
  rcases fault with ⟨entry, among, twice⟩ | ⟨entry, among, spoiling, amongMembers, spoils⟩
  · refine .inl ⟨entry, among, ?_⟩
    rw [timesGiven_cons] at twice
    simp only [List.count_cons, beq_iff_eq]
    omega
  · rcases List.mem_cons.mp amongMembers with same | later
    · obtain ⟨sameKey, rfl⟩ := Prod.mk.inj same
      exact absurd spoils (unspoilt entry among sameKey)
    · exact .inr ⟨entry, among, spoiling, later, spoils⟩

/-- An unknown key changes nothing. -/
theorem Merges.cons_unknown (merges : Merges entries members default record)
    (unknown : ∀ entry ∈ entries, entry.name ≠ key) : Merges entries ((key, bytes) :: members) default record where
  gives entry among bytes amongMembers := by
    rcases List.mem_cons.mp amongMembers with same | later
    · exact absurd (congrArg Prod.fst same) (unknown entry among)
    · exact merges.gives entry among bytes later
  missing entry among none := by
    rw [timesGiven_cons] at none
    exact merges.missing entry among (by omega)

end Cons

/-! ### Readers that follow entries -/

/-- The reader of a field takes what gives it a value, by its entry, puts that into the record and leaves all
other fields as they are. It takes nothing that spoils the field. -/
structure FollowsEntry (entries : List (Entry α)) (entry : Entry α) (field : Json.Field α) : Prop where
  name_eq : field.name = entry.name
  reads : ∀ {bytes : List UInt8} {value : entry.Value}, entry.Gives bytes value → ∀ record, ∃ next,
    Reads (field.read record) bytes next ∧ entry.get next = value ∧
      ∀ other ∈ entries, other.name ≠ entry.name → other.get next = other.get record
  refuses : ∀ {bytes : List UInt8}, entry.Spoils bytes → ∀ record, Refuses (field.read record) bytes

/-- The readers of all fields follow their entries. These have different names, and their fields make up the
record. -/
structure Follows (entries : List (Entry α)) (fields : List (Json.Field α)) : Prop where
  each : List.Forall₂ (FollowsEntry entries) entries fields
  distinct : (entries.map Entry.name).Nodup
  ext : ∀ first second : α, (∀ entry ∈ entries, entry.get first = entry.get second) → first = second

/-- A reader follows an entry where it reads a value and puts it into the record. -/
theorem FollowsEntry.of_reads {entries : List (Entry α)} {entry : Entry α} {field : Json.Field α}
    {read : Reader entry.Value} (put : α → entry.Value → α)
    (is : field = ⟨entry.name, fun record => do return put record (← read)⟩)
    (get_put : ∀ record value, entry.get (put record value) = value)
    (others : ∀ other ∈ entries, other.name = entry.name ∨
      ∀ record value, other.get (put record value) = other.get record)
    (reads : ∀ bytes value, entry.Gives bytes value → Reads read bytes value)
    (refuses : ∀ bytes, entry.Spoils bytes → Refuses read bytes) : FollowsEntry entries entry field where
  name_eq := by rw [is]
  reads {bytes value} gives record := by
    rw [is]
    refine ⟨put record value, (reads bytes value gives).map (put record), get_put record value, ?_⟩
    intro other among different
    exact (others other among).resolve_left different record value
  refuses {bytes} spoils record := by
    rw [is]
    exact (refuses bytes spoils).map (put record)

/-- Each of some things has its like among others where these are like them one by one. -/
theorem exists_of_forall₂ {γ δ : Type _} {Like : γ → δ → Prop} {these : List γ} {others : List δ}
    (alike : List.Forall₂ Like these others) {a : γ} (among : a ∈ these) : ∃ b ∈ others, Like a b := by
  induction alike with
  | nil => cases among
  | cons first _ ih =>
      rcases List.mem_cons.mp among with rfl | later
      · exact ⟨_, List.mem_cons_self, first⟩
      · obtain ⟨b, amongOthers, like⟩ := ih later
        exact ⟨b, List.mem_cons_of_mem _ amongOthers, like⟩

namespace Follows

variable {entries : List (Entry α)} {fields : List (Json.Field α)} (follows : Follows entries fields)
include follows

/-- A name belongs to one entry only. -/
theorem eq_of_name_eq {entry other : Entry α} (among : entry ∈ entries) (amongOther : other ∈ entries)
    (same : entry.name = other.name) : entry = other :=
  List.inj_on_of_nodup_map follows.distinct among amongOther same

/-- The keys that have a field are the names of the entries, and the field follows the entry. -/
theorem find?_cases (key : String) :
    (fields.find? (fun field => field.name = key) = none ∧ ∀ entry ∈ entries, entry.name ≠ key) ∨
      ∃ field entry, fields.find? (fun field => field.name = key) = some field ∧ entry ∈ entries ∧
        entry.name = key ∧ FollowsEntry entries entry field := by
  cases found : fields.find? (fun field => field.name = key) with
  | none =>
      refine .inl ⟨rfl, fun entry among same => ?_⟩
      obtain ⟨field, amongFields, followsEntry⟩ := exists_of_forall₂ follows.each among
      have is : field.name = key := followsEntry.name_eq.trans same
      exact absurd (decide_eq_true is) (List.find?_eq_none.mp found field amongFields)
  | some field =>
      have is : field.name = key := by simpa using List.find?_some found
      obtain ⟨entry, among, followsEntry⟩ :=
        exists_of_forall₂ follows.each.flip (List.mem_of_find?_eq_some found)
      exact .inr ⟨field, entry, rfl, among, followsEntry.name_eq.symm.trans is, followsEntry⟩

/-- No bytes give a field two values. -/
theorem value_unique {entry : Entry α} (among : entry ∈ entries) (record : α) {bytes : List UInt8}
    {first second : entry.Value} (gives : entry.Gives bytes first) (givesSecond : entry.Gives bytes second) :
    first = second := by
  rcases follows.find?_cases entry.name with ⟨-, none⟩ | ⟨field, other, -, amongOther, same, followsEntry⟩
  · exact absurd rfl (none entry among)
  · obtain rfl := follows.eq_of_name_eq amongOther among same
    obtain ⟨next, reads, rfl, -⟩ := followsEntry.reads gives record
    obtain ⟨other, readsOther, rfl, -⟩ := followsEntry.reads givesSecond record
    rw [reads.unique readsOther]

/-- There is no more than one record that the members give. -/
theorem merges_unique {members : List (String × List UInt8)} {default first second : α}
    (merges : Merges entries members default first) (mergesSecond : Merges entries members default second) :
    first = second := by
  apply follows.ext
  intro entry among
  by_cases none : timesGiven entry.name members = 0
  · rw [merges.missing entry among none, mergesSecond.missing entry among none]
  · have named : entry.name ∈ members.map Prod.fst := List.count_pos_iff.mp (Nat.pos_of_ne_zero none)
    obtain ⟨⟨key, bytes⟩, amongMembers, rfl⟩ := List.mem_map.mp named
    exact follows.value_unique among default (merges.gives entry among bytes amongMembers)
      (mergesSecond.gives entry among bytes amongMembers)

/-! ### Objects that give a record -/

/-- A field that is given once is replaced, and then nothing is done to it. -/
theorem merges_cons {entry : Entry α} (among : entry ∈ entries) {bytes : List UInt8}
    {members : List (String × List UInt8)} {default next record : α}
    (once : timesGiven entry.name members = 0) (gives : entry.Gives bytes (entry.get next))
    (others : ∀ other ∈ entries, other.name ≠ entry.name → other.get next = other.get default)
    (merges : Merges entries members next record) :
    Merges entries ((entry.name, bytes) :: members) default record where
  gives other amongOther bytesOther amongMembers := by
    rcases List.mem_cons.mp amongMembers with same | later
    · obtain ⟨sameName, rfl⟩ := Prod.mk.inj same
      obtain rfl := follows.eq_of_name_eq amongOther among sameName
      rw [merges.missing other among once]
      exact gives
    · exact merges.gives other amongOther bytesOther later
  missing other amongOther none := by
    rw [timesGiven_cons] at none
    have different : other.name ≠ entry.name := by
      intro same
      rw [if_pos same.symm] at none
      omega
    rw [merges.missing other amongOther (by omega), others other amongOther different]

/-- Behind keys that are not given again, the members of an object are read as what they give. -/
theorem members_of_proper {first : Bool} {members : List (String × List UInt8)} {bytes : List UInt8}
    (object : Keyed Spelt first members bytes) (seen : List String) (record : α)
    (isFirst : first = seen.isEmpty)
    (new : ∀ entry ∈ entries, entry.name ∈ seen → timesGiven entry.name members = 0)
    (proper : Proper entries members) :
    ∃ final, Members fields seen record bytes final ∧ Merges entries members record final := by
  -- Induction on the members: the record has got what stands in front of them, and none of its keys comes
  -- again.
  induction object generalizing seen record with
  | done blank =>
      exact ⟨record, .done blank, merges_nil⟩
  | @member first gap token before behind value bytes key members parted names blankBefore blankBehind more
      ih =>
      subst isFirst
      have spells := Text.spells_of_spelling names
      have tail := proper.tail
      rcases follows.find?_cases key with ⟨none, unknown⟩ | ⟨field, entry, found, among, rfl, followsEntry⟩
      · have skips := reads_skip (proper.unknown key value List.mem_cons_self unknown)
        have newBehind : ∀ entry ∈ entries, entry.name ∈ key :: seen → timesGiven entry.name members = 0 := by
          intro entry among already
          have before := (List.mem_cons.mp already).resolve_left (unknown entry among)
          have none := new entry among before
          rw [timesGiven_cons] at none
          omega
        obtain ⟨final, read, merges⟩ := ih (key :: seen) record rfl newBehind tail
        refine ⟨final, ?_, merges.cons_unknown unknown⟩
        have written := Members.unknown parted spells none blankBefore (skips.behind_blanks blankBehind) read
        simpa only [List.append_assoc] using written
      · obtain ⟨given, gives⟩ := proper.gives entry among value List.mem_cons_self
        obtain ⟨next, reads, rfl, others⟩ := followsEntry.reads gives record
        have once := proper.once entry among
        rw [timesGiven_cons, if_pos rfl] at once
        have notSeen : entry.name ∉ seen := by
          intro already
          have none := new entry among already
          rw [timesGiven_cons, if_pos rfl] at none
          omega
        have newBehind : ∀ other ∈ entries, other.name ∈ entry.name :: seen →
            timesGiven other.name members = 0 := by
          intro other amongOther already
          rcases List.mem_cons.mp already with same | before
          · rw [same]
            omega
          · have none := new other amongOther before
            rw [timesGiven_cons] at none
            omega
        obtain ⟨final, read, merges⟩ := ih (entry.name :: seen) next rfl newBehind tail
        refine ⟨final, ?_, follows.merges_cons among (by omega) gives others merges⟩
        have written := Members.field parted spells found notSeen blankBefore
          (reads.behind_blanks blankBehind) read
        simpa only [List.append_assoc] using written

/-! ### Objects that give none -/

/-- Behind keys of which each was given at most once, members that give one of them again, give another twice
or spoil one are refused. -/
theorem not_ok_of_fault {first : Bool} {members : List (String × List UInt8)} {bytes : List UInt8}
    (object : Keyed Spelt first members bytes) (seen : List String) (record : α) (rounds : List UInt8)
    (isFirst : first = seen.isEmpty) (once : ∀ entry ∈ entries, seen.count entry.name ≤ 1)
    (tidy : Tidy entries members) (fault : Faulty entries seen members) (rest : List UInt8)
    (result : α × List UInt8) : readMembers fields seen record rounds (bytes ++ rest) ≠ .ok result := by
  -- A member that can be read leaves the fault to those behind it, until none is left.
  induction object generalizing seen record rounds with
  | done blank => exact absurd fault (not_faulty_nil once)
  | @member first gap token before behind value bytes key members parted names blankBefore blankBehind more
      ih =>
      subst isFirst
      have spells := Text.spells_of_spelling names
      have closed := more.closed rest
      cases rounds with
      | nil => exact nofun
      | cons round rounds =>
      simp only [List.append_assoc, List.cons_append]
      rcases follows.find?_cases key with ⟨none, unknown⟩ | ⟨field, entry, found, among, rfl, followsEntry⟩
      · have skips := reads_skip (tidy.unknown key value List.mem_cons_self unknown)
        rw [readMembers_unknown parted spells none blankBefore, ← List.append_assoc behind,
          Reader.bind_of_ok (skips _ _ blankBehind closed)]
        have onceBehind : ∀ entry ∈ entries, (key :: seen).count entry.name ≤ 1 := by
          intro entry among
          rw [List.count_cons_of_ne (unknown entry among).symm]
          exact once entry among
        exact ih (key :: seen) record rounds rfl onceBehind tidy.tail
          (fault.tail fun entry among same => absurd same (unknown entry among))
      · by_cases again : entry.name ∈ seen
        · exact readMembers_again parted spells found again record round rounds _ result
        rw [readMembers_field parted spells found again blankBefore, ← List.append_assoc behind]
        by_cases spoils : entry.Spoils value
        · intro ok
          obtain ⟨next, left, read, -⟩ := Reader.exists_of_bind_ok ok
          exact followsEntry.refuses spoils record behind _ blankBehind closed _ read
        · obtain ⟨given, gives⟩ := (tidy.gives entry among value List.mem_cons_self).resolve_right spoils
          obtain ⟨next, reads, -⟩ := followsEntry.reads gives record
          rw [Reader.bind_of_ok (reads _ _ blankBehind closed)]
          have onceBehind : ∀ other ∈ entries, (entry.name :: seen).count other.name ≤ 1 := by
            intro other amongOther
            by_cases same : entry.name = other.name
            · have none := List.count_eq_zero.mpr again
              rw [← same, List.count_cons_self]
              omega
            · rw [List.count_cons_of_ne same]
              exact once other amongOther
          refine ih (entry.name :: seen) next rounds rfl onceBehind tidy.tail (fault.tail ?_)
          intro other amongOther same spoilsOther
          obtain rfl := follows.eq_of_name_eq amongOther among same
          exact spoils spoilsOther

end Follows

/-! ### Readers of records -/

/-- The reader is that of records on top of the default one, by readers of fields that follow the entries. -/
def ReadsRecord (entries : List (Entry α)) (default : α) (read : Reader α) : Prop :=
  ∃ typeName fields, read = readRecord typeName fields default ∧ Follows entries fields

namespace ReadsRecord

variable {entries : List (Entry α)} {default : α} {read : Reader α} (reads : ReadsRecord entries default read)
  {members : List (String × List UInt8)} {bytes : List UInt8} (object : Keyed Spelt true members bytes)
include reads object

/-- Proper members give one record, and their object is taken as that one, whatever follows. -/
theorem exists_of_proper (proper : Proper entries members) :
    ∃ record, (∀ other, Merges entries members default other ↔ other = record) ∧
      ∀ blanks rest, Blanks blanks → read (blanks ++ 0x7B :: (bytes ++ rest)) = .ok (record, rest) := by
  obtain ⟨typeName, fields, rfl, follows⟩ := reads
  obtain ⟨record, written, merges⟩ := follows.members_of_proper object [] default rfl nofun proper
  refine ⟨record, fun other => ⟨fun mergesOther => follows.merges_unique mergesOther merges, ?_⟩, ?_⟩
  · rintro rfl
    exact merges
  · intro blanks rest blank
    exact readRecord_append typeName written blank rest

/-- An object of spoilt members is not taken, whatever follows. -/
theorem not_ok_of_spoilt (spoilt : Spoilt entries members) {blanks : List UInt8} (blank : Blanks blanks)
    (rest : List UInt8) (result : α × List UInt8) :
    read (blanks ++ 0x7B :: (bytes ++ rest)) ≠ .ok result := by
  obtain ⟨typeName, fields, rfl, follows⟩ := reads
  rw [readRecord, Reader.bind_of_ok (Reader.peekValue_cons blank (by decide) _)]
  exact follows.not_ok_of_fault object [] default _ rfl (by simp) spoilt.toTidy
    (by simpa [Faulty] using spoilt.fault) rest result

end ReadsRecord

/-- A field that is a record itself is followed where its reader is. -/
theorem FollowsEntry.of_record {entries : List (Entry α)} {inner : List (Entry β)} {default : β} {read : Reader β}
    (readsRecord : ReadsRecord inner default read) {name : String} {get : α → β} {field : Json.Field α}
    (put : α → β → α) (is : field = ⟨name, fun record => do return put record (← read)⟩)
    (get_put : ∀ record value, get (put record value) = value)
    (others : ∀ other ∈ entries, other.name = name ∨
      ∀ record value, other.get (put record value) = other.get record) :
    FollowsEntry entries (Entry.record name get inner default) field := by
  refine .of_reads put is get_put others ?_ ?_
  · rintro _ value ⟨members, bytes, rfl, object, proper, merges⟩ blanks rest blank _
    obtain ⟨record, unique, taken⟩ := readsRecord.exists_of_proper object proper
    obtain rfl := (unique value).mp merges
    rw [List.append_assoc]
    exact taken blanks rest blank
  · rintro _ ⟨members, bytes, rfl, object, spoilt⟩ blanks rest blank _ result
    rw [List.append_assoc]
    exact readsRecord.not_ok_of_spoilt object spoilt blank rest result

end RootObject.Json
