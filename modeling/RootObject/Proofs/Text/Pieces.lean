import RootObject.Proofs.Text.Utf8

/-!
Bytes and the text they spell, cut at the same places. The separators are bytes below 0x80, and no
character of the text is such a byte unless the byte stands there (`mem_of_ascii`), so the pieces of
the text are the texts of the pieces (`chars_splitOnP`), whatever bad sequences stand before the cuts.
-/

namespace RootObject

/-! ### Pieces of a list -/

namespace Pieces

variable {α : Type} (cut : α → Bool)

/-- The first piece of a list ends where its first cut is, and the others follow the cut. -/
theorem splitOnP_eq (xs : List α) :
    xs.splitOnP cut = xs.takeWhile (!cut ·) ::
      match xs.dropWhile (!cut ·) with
      | [] => []
      | _ :: rest => rest.splitOnP cut := by
  have front : ∀ x ∈ xs.takeWhile (!cut ·), cut x = false := by
    intro x mem
    have := List.all_eq_true.mp (List.all_takeWhile (l := xs) (p := (!cut ·))) x mem
    simpa using this
  have whole := List.takeWhile_append_dropWhile (l := xs) (p := (!cut ·))
  cases behind : xs.dropWhile (!cut ·) with
  | nil =>
      rw [behind, List.append_nil] at whole
      rw [whole] at front ⊢
      exact List.splitOnP_eq_singleton front
  | cons x rest =>
      have ends := List.head?_dropWhile_not (!cut ·) xs
      rw [behind] at ends whole
      calc xs.splitOnP cut = (xs.takeWhile (!cut ·) ++ x :: rest).splitOnP cut := by rw [whole]
        _ = _ := List.splitOnP_append_cons_of_forall_mem front x (by simpa using ends) rest

/-- The pieces that are not empty. -/
def words (xs : List α) : List (List α) :=
  (xs.splitOnP cut).filter (!·.isEmpty)

theorem words_cons {x : α} (isCut : cut x = true) (xs : List α) :
    words cut (x :: xs) = words cut xs := by
  rw [words, List.splitOnP_cons_eq_if_modifyHead, if_pos isCut]
  rfl

theorem words_dropWhile (xs : List α) : words cut (xs.dropWhile cut) = words cut xs := by
  induction xs with
  | nil => rfl
  | cons x xs ih =>
      by_cases isCut : cut x = true
      · rw [List.dropWhile_cons_of_pos isCut, ih, words_cons cut isCut]
      · rw [List.dropWhile_cons_of_neg isCut]

/-- A list that begins with no cut begins with its first word. -/
theorem words_of_not_cut {x : α} (isWord : cut x = false) (xs : List α) :
    words cut (x :: xs) =
      (x :: xs).takeWhile (!cut ·) :: words cut ((x :: xs).dropWhile (!cut ·)) := by
  rw [words, splitOnP_eq, List.filter_cons_of_pos (by simp [isWord])]
  cases behind : (x :: xs).dropWhile (!cut ·) with
  | nil => rfl
  | cons y rest =>
      have ends := List.head?_dropWhile_not (!cut ·) (x :: xs)
      rw [behind] at ends
      rw [words_cons cut (by simpa using ends)]
      rfl

/-- The first of them, and empty ones where there are no more. -/
theorem rightpad_take (n : Nat) (a : α) (xs : List α) :
    (xs.take n).rightpad n a = (List.range n).map (xs.getD · a) := by
  induction n generalizing xs with
  | zero => rfl
  | succ n ih =>
      rw [List.range_succ_eq_map, List.map_cons, List.map_map]
      cases xs with
      | nil =>
          have none := ih []
          rw [List.take_nil] at none
          exact congrArg (a :: ·) none
      | cons x xs =>
          rw [List.take_succ_cons, List.rightpad, List.length_cons, Nat.add_sub_add_right,
            List.cons_append]
          exact congrArg (x :: ·) (ih xs)

/-- The piece that stands for none may stand behind the last. -/
theorem getD_append_singleton (xs : List α) (a : α) (k : Nat) :
    (xs ++ [a]).getD k a = xs.getD k a := by
  induction xs generalizing k with
  | nil => cases k <;> rfl
  | cons x xs ih =>
      cases k with
      | zero => rfl
      | succ k => exact ih k

/-- The pieces come one after another, each where the one before it left off; behind the last one
there are empty ones. -/
structure Unfold (pieces : List α → List (List α)) (first after : List α → List α) : Prop where
  zero : ∀ xs, (pieces xs).getD 0 [] = first xs
  succ : ∀ xs k, (pieces xs).getD (k + 1) [] = (pieces (after xs)).getD k []

theorem unfold_splitOnP :
    Unfold (List.splitOnP cut) (List.takeWhile (!cut ·)) fun xs => (xs.dropWhile (!cut ·)).tail where
  zero xs := by rw [splitOnP_eq, List.getD_cons_zero]
  succ xs k := by
    rw [splitOnP_eq, List.getD_cons_succ]
    cases behind : xs.dropWhile (!cut ·) with
    | nil => cases k <;> rfl
    | cons x rest => rfl

/-- Behind the cuts at the front there is the first word with the others behind it, or nothing. -/
theorem words_cases (xs : List α) :
    (words cut xs = [] ∧ xs.dropWhile cut = []) ∨
      words cut xs = (xs.dropWhile cut).takeWhile (!cut ·) ::
        words cut ((xs.dropWhile cut).dropWhile (!cut ·)) := by
  rw [← words_dropWhile]
  cases behind : xs.dropWhile cut with
  | nil => exact .inl ⟨rfl, rfl⟩
  | cons x rest =>
      have begins := List.head?_dropWhile_not cut xs
      rw [behind] at begins
      exact .inr (words_of_not_cut cut (by simpa using begins) rest)

theorem unfold_words :
    Unfold (words cut) (fun xs => (xs.dropWhile cut).takeWhile (!cut ·))
      fun xs => (xs.dropWhile cut).dropWhile (!cut ·) where
  zero xs := by
    rcases words_cases cut xs with ⟨none, nothing⟩ | some
    · rw [none, nothing]
      rfl
    · rw [some, List.getD_cons_zero]
  succ xs k := by
    rcases words_cases cut xs with ⟨none, nothing⟩ | some
    · rw [none, nothing]
      rfl
    · rw [some, List.getD_cons_succ]

end Pieces

/-! ### Cutting bytes and cutting their text -/

namespace Utf8

/-- A character below 0x80 stands in a text only where its byte stands. -/
theorem Lossy.mem_of_ascii {bytes : List UInt8} {text : List Char} (lossy : Lossy bytes text)
    {c : Char} (mem : c ∈ text) (ascii : c.toNat < 0x80) :
    ∃ byte ∈ bytes, byte.toNat < 0x80 ∧ c = Char.ofNat byte.toNat := by
  induction lossy with
  | nil => cases mem
  | char d _ ih =>
      rcases List.mem_cons.mp mem with rfl | mem
      · rcases encodeChar_cases c with ⟨a, eq, _, same⟩ | ⟨a, b, eq, large, _⟩ |
          ⟨a, b, d, eq, large, _⟩ | ⟨a, b, d, e, eq, large, _⟩
        · exact ⟨a, by simp [eq], by omega, by rw [same, Char.ofNat_toNat]⟩
        all_goals omega
      · obtain ⟨byte, among, is⟩ := ih mem
        exact ⟨byte, List.mem_append_right _ among, is⟩
  | refused _ _ ih =>
      rcases List.mem_cons.mp mem with rfl | mem
      · exact absurd ascii (by decide)
      · obtain ⟨byte, among, is⟩ := ih mem
        exact ⟨byte, List.mem_append_right _ among, is⟩

theorem mem_of_ascii {bytes : List UInt8} {c : Char} (mem : c ∈ chars .between bytes)
    (ascii : c.toNat < 0x80) : ∃ byte ∈ bytes, byte.toNat < 0x80 ∧ c = Char.ofNat byte.toNat :=
  (lossy_chars bytes).mem_of_ascii mem ascii

/-- Bytes may be cut before and behind a byte below 0x80 and then read. -/
theorem chars_append_cons {byte : UInt8} (ascii : byte.toNat < 0x80) (bytes rest : List UInt8)
    (state : State) :
    chars state (bytes ++ byte :: rest) =
      chars state bytes ++ Char.ofNat byte.toNat :: chars .between rest := by
  induction bytes generalizing state with
  | nil => simp [chars, step_ascii state byte ascii]
  | cons b bytes ih => simp [chars, ih]

/-- The bytes to cut at are below 0x80, and the characters to cut at are theirs. -/
structure Separators (cut : UInt8 → Bool) (mark : Char → Bool) : Prop where
  ascii : ∀ byte, cut byte = true → byte.toNat < 0x80
  mark_iff : ∀ byte : UInt8, byte.toNat < 0x80 → mark (Char.ofNat byte.toNat) = cut byte
  ascii_mark : ∀ c, mark c = true → c.toNat < 0x80

variable {cut : UInt8 → Bool} {mark : Char → Bool}

theorem Separators.forall_chars (separators : Separators cut mark) {bytes : List UInt8}
    (uncut : ∀ byte ∈ bytes, cut byte = false) : ∀ c ∈ chars .between bytes, mark c = false := by
  intro c mem
  rw [← Bool.not_eq_true]
  intro marked
  obtain ⟨byte, among, ascii, rfl⟩ := mem_of_ascii mem (separators.ascii_mark c marked)
  rw [separators.mark_iff byte ascii, uncut byte among] at marked
  cases marked

/-- A character is to be cut at if one of its bytes is. -/
theorem Separators.cut_of_mem (separators : Separators cut mark) {c : Char} {byte : UInt8}
    (mem : byte ∈ encodeChar c) : cut byte = mark c := by
  have beyond : 0x80 ≤ byte.toNat → 0x80 ≤ c.toNat → cut byte = mark c := by
    intro large largeChar
    have uncut : cut byte = false := by
      rw [← Bool.not_eq_true]
      intro isCut
      have := separators.ascii byte isCut
      omega
    have unmarked : mark c = false := by
      rw [← Bool.not_eq_true]
      intro marked
      have := separators.ascii_mark c marked
      omega
    rw [uncut, unmarked]
  rcases encodeChar_cases c with ⟨a, eq, ascii, ha⟩ | ⟨a, b, eq, large, -, ha, hb⟩ |
    ⟨a, b, d, eq, large, -, -, ha, hb, hd⟩ | ⟨a, b, d, e, eq, large, -, ha, hb, hd, he⟩
  · rw [eq, List.mem_singleton] at mem
    subst mem
    rw [← separators.mark_iff byte (by omega), ha, Char.ofNat_toNat]
  all_goals
    simp only [eq, List.mem_cons, List.not_mem_nil, or_false] at mem
    rcases mem with rfl | rfl | rfl | rfl <;> exact beyond (by omega) (by omega)

theorem Separators.forall_encode (separators : Separators cut mark) {text : String} {kind : Bool}
    (all : ∀ c ∈ text.toList, mark c = kind) : ∀ byte ∈ encode text, cut byte = kind := by
  intro byte among
  obtain ⟨c, mem, within⟩ := List.mem_flatMap.mp among
  rw [separators.cut_of_mem within, all c mem]

/-- The pieces of the text are the texts of the pieces. -/
theorem chars_splitOnP (separators : Separators cut mark) (bytes : List UInt8) :
    (chars .between bytes).splitOnP mark = (bytes.splitOnP cut).map (chars .between) := by
  cases found : bytes.find? cut with
  | none =>
      have uncut : ∀ byte ∈ bytes, cut byte = false := by simpa using found
      rw [List.splitOnP_eq_singleton uncut,
        List.splitOnP_eq_singleton (separators.forall_chars uncut)]
      rfl
  | some byte =>
      obtain ⟨isCut, front, rest, rfl, before⟩ := List.find?_eq_some_iff_append.mp found
      have uncut : ∀ b ∈ front, cut b = false := by simpa using before
      have ascii := separators.ascii byte isCut
      have marked := (separators.mark_iff byte ascii).trans isCut
      rw [chars_append_cons ascii, List.splitOnP_append_cons_of_forall_mem uncut byte isCut,
        List.splitOnP_append_cons_of_forall_mem (separators.forall_chars uncut) _ marked,
        chars_splitOnP separators rest, List.map_cons]
  termination_by bytes.length

/-- The words of the text are the texts of the words. -/
theorem chars_words (separators : Separators cut mark) (bytes : List UInt8) :
    Pieces.words mark (chars .between bytes) = (Pieces.words cut bytes).map (chars .between) := by
  have kept : (fun piece => !(chars .between piece).isEmpty) = (!·.isEmpty) := by
    funext piece
    rw [Bool.eq_iff_iff]
    simp [chars_eq_nil_iff]
  rw [Pieces.words, chars_splitOnP separators, List.filter_map, Function.comp_def, kept]
  rfl

end Utf8

end RootObject
