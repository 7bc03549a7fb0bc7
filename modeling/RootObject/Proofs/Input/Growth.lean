import RootObject.Input.Buffer

/-!
What a buffer asks for while it gathers bytes. The first request is for its first capacity, and one for
twice the capacity follows whenever it is full and another byte comes. Where every request is below
the limit (`Granted`) no byte is refused (`push_of_granted`).
-/

namespace RootObject.Buffer

/-- A buffer of the given first capacity asks for `size` bytes on its way to holding `count`. -/
inductive Requested (capacity count : Nat) : Nat → Prop where
  | first : Requested capacity count capacity
  | doubled {size : Nat} : Requested capacity count size → size < count →
      Requested capacity count (2 * size)

/-- No request on the way to holding `count` bytes reaches the limit. -/
def Granted (capacity count : Nat) : Prop :=
  ∀ size, Requested capacity count size → size < limit

theorem Requested.trans {capacity count size final : Nat}
    (requested : Requested capacity count size) (onward : Requested size count final) :
    Requested capacity count final := by
  induction onward with
  | first => exact requested
  | doubled _ less ih => exact .doubled ih less

/-- No request is for more than the first capacity and twice the bytes held. -/
theorem Requested.le_max {capacity count size : Nat} (requested : Requested capacity count size) :
    size ≤ max capacity (2 * count) := by
  induction requested with
  | first => exact Nat.le_max_left ..
  | doubled _ less _ => omega

theorem Granted.capacity_lt {capacity count : Nat} (granted : Granted capacity count) :
    capacity < limit :=
  granted capacity .first

theorem Granted.double {capacity count : Nat} (granted : Granted capacity count)
    (less : capacity < count) : Granted (2 * capacity) count :=
  fun size requested => granted size (Requested.trans (.doubled .first less) requested)

/-- A first capacity below the limit is enough for as many bytes as half the limit. -/
theorem granted_of_lt {capacity count : Nat} (small : capacity < limit) (few : 2 * count < limit) :
    Granted capacity count :=
  fun _ requested => Nat.lt_of_le_of_lt requested.le_max (Nat.max_lt.mpr ⟨small, few⟩)

theorem reserve?_of_lt {capacity : Nat} (small : capacity < limit) :
    reserve? capacity = some ⟨#[], capacity⟩ := by
  rw [reserve?, if_pos small]

/-- How a byte is stored. It goes behind the others, and the capacity doubles for it where the buffer is
full; each growth is logged. -/
inductive Pushed (buffer : Buffer) (byte : UInt8) : Buffer → List Log.Event → Prop where
  | within (room : buffer.bytes.size ≠ buffer.capacity) :
      Pushed buffer byte ⟨buffer.bytes.push byte, buffer.capacity⟩ []
  | grown (full : buffer.bytes.size = buffer.capacity) (small : 2 * buffer.capacity < limit) :
      Pushed buffer byte ⟨buffer.bytes.push byte, 2 * buffer.capacity⟩
        [.bufferGrown buffer.capacity (2 * buffer.capacity)]

theorem pushed_of_push {buffer larger : Buffer} {byte : UInt8} {events : List Log.Event}
    (stored : buffer.push byte = .ok (larger, events)) : Pushed buffer byte larger events := by
  unfold push at stored
  by_cases full : buffer.bytes.size = buffer.capacity
  · rw [if_pos full] at stored
    unfold grow at stored
    by_cases possible : 2 * buffer.capacity > maxRequest
    · simp only [possible, if_true, Except.map] at stored
      cases stored
    · by_cases small : 2 * buffer.capacity < limit
      · simp only [possible, if_false, small, if_true, Except.map] at stored
        cases stored
        exact .grown full small
      · simp only [possible, if_false, small, Except.map] at stored
        cases stored
  · rw [if_neg full] at stored
    cases stored
    exact .within full

theorem bytes_of_push {buffer larger : Buffer} {byte : UInt8} {events : List Log.Event}
    (stored : buffer.push byte = .ok (larger, events)) : larger.bytes = buffer.bytes.push byte := by
  cases pushed_of_push stored <;> rfl

/-- Only for want of memory a byte is refused. -/
theorem exhausted_of_push {buffer : Buffer} {b : UInt8} {error : ReadError}
    (refused : buffer.push b = .error error) : ∃ requested, error = .exhausted requested := by
  unfold push at refused
  split at refused
  · unfold grow at refused
    simp only at refused
    split at refused
    · cases refused
      exact ⟨_, rfl⟩
    · split at refused
      · cases refused
      · cases refused
        exact ⟨_, rfl⟩
  · cases refused

/-- A byte more is stored, and what may be asked for later is granted as before. -/
theorem push_of_granted {buffer : Buffer} {count : Nat} (granted : Granted buffer.capacity count)
    (less : buffer.bytes.size < count) (byte : UInt8) :
    ∃ pushed events, buffer.push byte = .ok (pushed, events) ∧
      pushed.bytes = buffer.bytes.push byte ∧ Granted pushed.capacity count := by
  unfold push
  by_cases full : buffer.bytes.size = buffer.capacity
  · have doubled := granted.double (by omega)
    have small := doubled.capacity_lt
    have possible : ¬ 2 * buffer.capacity > maxRequest := by
      unfold limit at small
      unfold maxRequest
      omega
    simp only [full, if_true, grow, possible, if_false, small, Except.map]
    exact ⟨_, _, rfl, rfl, doubled⟩
  · rw [if_neg full]
    exact ⟨_, _, rfl, rfl, granted⟩

end RootObject.Buffer
