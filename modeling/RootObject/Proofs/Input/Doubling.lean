import Mathlib.Algebra.Group.Nat.Defs
import Mathlib.Order.Bounds.Defs
import RootObject.Proofs.Input.Demand

/-!
How the buffer of one read grows, round by round. Wherever the loop of `gather` stands, the first
capacity has been doubled just as often as the bytes stored make needed, each doubling has been logged,
and no byte is out of its order (`Gathering.Doubled`).
-/

namespace RootObject

namespace Buffer

/-- What a growth reckons with in words of 64 bits stands for the numbers meant: the doubled capacity is
no more than a word can hold, the bytes stored are no more than it, and with those that are asked for
besides they come to it. -/
structure Exact (buffer : Buffer) : Prop where
  doubles : (2 * buffer.capacity.toUInt64).toNat = 2 * buffer.capacity
  fits : buffer.bytes.size.toUInt64 ≤ 2 * buffer.capacity.toUInt64
  asks : buffer.bytes.size + (2 * buffer.capacity.toUInt64 - buffer.bytes.size.toUInt64).toNat =
    2 * buffer.capacity

theorem exact_of_lt {buffer : Buffer} (held : buffer.bytes.size ≤ buffer.capacity)
    (small : buffer.capacity < limit) : buffer.Exact := by
  unfold limit at small
  have capacity : buffer.capacity.toUInt64.toNat = buffer.capacity :=
    UInt64.toNat_ofNat_of_lt' (Nat.lt_trans small (by decide))
  have size : buffer.bytes.size.toUInt64.toNat = buffer.bytes.size :=
    UInt64.toNat_ofNat_of_lt' (Nat.lt_trans (Nat.lt_of_le_of_lt held small) (by decide))
  have doubles : (2 * buffer.capacity.toUInt64).toNat = 2 * buffer.capacity := by
    rw [UInt64.toNat_mul, capacity]
    exact Nat.mod_eq_of_lt (by simp; omega)
  have fits : buffer.bytes.size.toUInt64 ≤ 2 * buffer.capacity.toUInt64 := by
    rw [UInt64.le_iff_toNat_le, size, doubles]
    omega
  refine ⟨doubles, fits, ?_⟩
  rw [UInt64.toNat_sub_of_le _ _ fits, size, doubles]
  omega

/-- So many doublings of the first capacity, in their order. -/
def growths (first times : Nat) : List Log.Event :=
  (List.range times).map fun i => .bufferGrown (first * 2 ^ i) (first * 2 ^ (i + 1))

theorem growths_succ (first times : Nat) :
    growths first (times + 1) =
      growths first times ++ [.bufferGrown (first * 2 ^ times) (first * 2 ^ (times + 1))] := by
  simp [growths, List.range_succ]

/-- The room for some bytes is the room for one more, as long as it is not full. -/
theorem isLeast_of_room {first count times : Nat}
    (least : IsLeast {k | count ≤ first * 2 ^ k} times) (room : count ≠ first * 2 ^ times) :
    IsLeast {k | count + 1 ≤ first * 2 ^ k} times := by
  obtain ⟨enough, fewest⟩ := least
  refine ⟨Nat.lt_of_le_of_ne enough room, ?_⟩
  intro k larger
  exact fewest (Nat.le_of_succ_le larger)

/-- Where it is full, one doubling more makes room for one more byte. -/
theorem isLeast_of_full {first times : Nat} (positive : 0 < first) :
    IsLeast {k | first * 2 ^ times + 1 ≤ first * 2 ^ k} (times + 1) := by
  constructor
  · change first * 2 ^ times < first * 2 ^ (times + 1)
    exact Nat.mul_lt_mul_of_pos_left (Nat.pow_lt_pow_succ (by decide)) positive
  · intro k larger
    have more : 2 ^ times < 2 ^ k := Nat.lt_of_mul_lt_mul_left larger
    exact (Nat.pow_lt_pow_iff_right (by decide)).mp more

end Buffer

namespace Stream

namespace Gathering

variable {stop : UInt8 → Bool} {held next : Gathering} {stream : Stream} {first : Nat}

/-- The first capacity has been doubled as often as the bytes stored make needed and no more often, each
doubling has been logged, and the bytes stored are those that have come, in their order. -/
structure Doubled (first : Nat) (stream : Stream) (held : Gathering) : Prop where
  capacity : ∃ times, IsLeast {k | held.buffer.bytes.size ≤ first * 2 ^ k} times ∧
    held.buffer.capacity = first * 2 ^ times ∧ held.logged = Buffer.growths first times
  order : stream.arrivals = Arrival.ofBytes held.buffer.bytes.toList ++ held.stream.arrivals
  small : held.buffer.capacity < Buffer.limit

theorem start_doubled (stream : Stream) (small : stream.capacity < Buffer.limit) :
    Doubled stream.capacity stream (start stream) where
  capacity := ⟨0, ⟨Nat.zero_le _, fun _ _ => Nat.zero_le _⟩, by simp [start], rfl⟩
  order := rfl
  small := small

/-- A round keeps all of it. -/
theorem Doubled.stores (positive : 0 < first) (doubled : Doubled first stream held)
    (stores : Stores stop held next) : Doubled first stream next := by
  obtain ⟨⟨times, least, capacity, logged⟩, order, small⟩ := doubled
  cases stores with
  | byte delivered passed stored =>
      obtain rfl := silent_of_nextByte delivered (by simp)
      have coming := arrivals_of_nextByte delivered
      cases Buffer.pushed_of_push stored with
      | within room =>
          refine ⟨⟨times, ?_, capacity, ?_⟩, ?_, small⟩
          · rw [capacity] at room
            simpa using Buffer.isLeast_of_room least room
          · simpa using logged
          · simpa [coming, Arrival.ofBytes] using order
      | grown full granted =>
          have twice : 2 * held.buffer.capacity = first * 2 ^ (times + 1) := by
            rw [capacity, Nat.pow_succ, Nat.mul_comm 2, Nat.mul_assoc]
          refine ⟨⟨times + 1, ?_, twice, ?_⟩, ?_, granted⟩
          · simpa [full, capacity] using Buffer.isLeast_of_full positive
          · rw [Buffer.growths_succ, ← logged, ← capacity, ← twice]
            simp
          · simpa [coming, Arrival.ofBytes] using order

/-- So it holds wherever the loop may stand. -/
theorem doubled_of_rounds (small : stream.capacity < Buffer.limit)
    (rounds : Relation.ReflTransGen (Stores stop) (start stream) held) :
    Doubled stream.capacity stream held := by
  induction rounds with
  | refl => exact start_doubled stream small
  | tail _ stores ih => exact ih.stores stream.capacity_pos stores

theorem Doubled.exact (doubled : Doubled first stream held) : held.buffer.Exact := by
  obtain ⟨times, least, capacity, -⟩ := doubled.capacity
  exact Buffer.exact_of_lt (capacity ▸ least.1) doubled.small

end Gathering

open Gathering in
/-- From a first capacity of `first` bytes, none counting as one, the buffer of one read doubles just
when it is full and another byte is to be stored. Wherever the loop stands, its capacity is the least
of `first`, twice `first`, four times `first` and so on that holds the bytes stored, the doublings to
there have been logged one by one, the words reckoned with are exact, and the bytes stored are those
that came first, in their order. The round that closes the read, at a byte to stop at, at the end or
at a failure, makes nothing grow. -/
theorem readUntil_doubles {first : Nat} {stop : UInt8 → Bool} {stream : Stream}
    (starts : stream.capacity = max first 1) (granted : stream.GrantsUntil stop) :
    (∀ held, Relation.ReflTransGen (Stores stop) (start stream) held →
      held.Doubled (max first 1) stream ∧ held.buffer.Exact ∧
      readUntil stop stream = (held.finish stop).map fun buffer => Utf8.decode buffer.bytes.toList) ∧
    ∃ last outcome, Relation.ReflTransGen (Stores stop) (start stream) last ∧
      last.Closes stop outcome ∧
      readUntil stop stream = outcome.map fun buffer => Utf8.decode buffer.bytes.toList := by
  have read : readUntil stop stream =
      ((start stream).finish stop).map fun buffer => Utf8.decode buffer.bytes.toList := by
    rw [readUntil, Buffer.reserve?_of_lt granted.capacity_lt]
    rfl
  constructor
  · intro held rounds
    have doubled := doubled_of_rounds granted.capacity_lt rounds
    rw [finish_of_rounds rounds] at read
    exact ⟨starts ▸ doubled, doubled.exact, read⟩
  · have onward : Buffer.Granted (start stream).buffer.capacity ((start stream).total stop) := by
      rwa [total, start, Array.size_empty, Nat.zero_add]
    obtain ⟨last, rounds, closes⟩ := exists_closes (start stream) onward
    exact ⟨last, _, rounds, closes, read⟩

/-- A byte pushed back and two more, with an interruption between them, outgrow a capacity of none
twice before a read fails. -/
theorem readUntil_doubles_failing :
    let stream := (Stream.ofSource
      [.data [0x62], .failure ⟨.interrupted, none⟩, .data [0x63], .failure ⟨.other, some "broken"⟩]
      0).withPushedBack 0x61
    (∃ last outcome, Relation.ReflTransGen (Gathering.Stores isSpace) (.start stream) last ∧
      last.Closes isSpace outcome ∧ last.Doubled 1 stream ∧ last.buffer.Exact ∧
      readUntil isSpace stream = outcome.map fun buffer => Utf8.decode buffer.bytes.toList) ∧
    (readUntil isSpace stream).ending = .failed (.io ⟨.other, some "broken"⟩) ∧
    (readUntil isSpace stream).events = [.bufferGrown 1 2, .bufferGrown 2 4] := by
  intro stream
  have granted : stream.GrantsUntil isSpace :=
    Buffer.granted_of_lt (by decide +kernel) (by decide +kernel)
  obtain ⟨wherever, last, outcome, rounds, closes, read⟩ :=
    @readUntil_doubles 0 _ _ (by decide +kernel) granted
  obtain ⟨doubled, exact, -⟩ := wherever last rounds
  exact ⟨⟨last, outcome, rounds, closes, doubled, exact, read⟩, by decide +kernel, by decide +kernel⟩

end Stream
end RootObject
