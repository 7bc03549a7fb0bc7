import RootObject.Text.Utf8

/-!
Reading UTF-8 against writing it. `Lossy` says, without the reader, what text some bytes spell: whole
characters as they are written, and U+FFFD for every longest run that begins a character and cannot be
continued, or for a single byte that begins none. `lossy_iff` holds the reader to it: it finds that
text and no other. What was written is read back (`decode_encode`).
-/

namespace RootObject.Utf8

/-! ### What characters are written as -/

theorem toNat_ofNat {n : Nat} (valid : n.isValidChar) : (Char.ofNat n).toNat = n := by
  rw [Char.ofNat, dif_pos valid]
  rfl

/-- The four ways to write a character, with the numbers of their bytes. -/
theorem encodeChar_cases (c : Char) :
    (∃ a, encodeChar c = [a] ∧ c.toNat < 0x80 ∧ a.toNat = c.toNat) ∨
    (∃ a b, encodeChar c = [a, b] ∧ 0x80 ≤ c.toNat ∧ c.toNat < 0x800 ∧
      a.toNat = 0xC0 + c.toNat / 0x40 ∧ b.toNat = 0x80 + c.toNat % 0x40) ∨
    (∃ a b d, encodeChar c = [a, b, d] ∧ 0x800 ≤ c.toNat ∧ c.toNat < 0x10000 ∧
      ¬ (0xD800 ≤ c.toNat ∧ c.toNat < 0xE000) ∧ a.toNat = 0xE0 + c.toNat / 0x1000 ∧
      b.toNat = 0x80 + c.toNat / 0x40 % 0x40 ∧ d.toNat = 0x80 + c.toNat % 0x40) ∨
    (∃ a b d e, encodeChar c = [a, b, d, e] ∧ 0x10000 ≤ c.toNat ∧ c.toNat < 0x110000 ∧
      a.toNat = 0xF0 + c.toNat / 0x40000 ∧ b.toNat = 0x80 + c.toNat / 0x1000 % 0x40 ∧
      d.toNat = 0x80 + c.toNat / 0x40 % 0x40 ∧ e.toNat = 0x80 + c.toNat % 0x40) := by
  have valid : c.toNat < 0xD800 ∨ (0xDFFF < c.toNat ∧ c.toNat < 0x110000) := c.valid
  have small (n : Nat) (lt : n < 0x100) : n.toUInt8.toNat = n := by
    simp [Nat.mod_eq_of_lt lt]
  by_cases one : c.toNat < 0x80
  · exact .inl ⟨_, by simp [encodeChar, one], one, small _ (by omega)⟩
  by_cases two : c.toNat < 0x800
  · exact .inr (.inl ⟨_, _, by simp only [encodeChar, one, two, if_false, if_true], by omega, two,
      small _ (by omega), small _ (by omega)⟩)
  by_cases three : c.toNat < 0x10000
  · exact .inr (.inr (.inl ⟨_, _, _, by simp only [encodeChar, one, two, three, if_false, if_true],
      by omega, three, by omega, small _ (by omega), small _ (by omega), small _ (by omega)⟩))
  · exact .inr (.inr (.inr ⟨_, _, _, _, by simp only [encodeChar, one, two, three, if_false],
      by omega, by omega, small _ (by omega), small _ (by omega), small _ (by omega),
      small _ (by omega)⟩))

/-! ### Where the reader stands -/

/-- The byte is one of those that may follow. -/
def Follow.Admits (follow : Follow) (byte : UInt8) : Prop :=
  follow.low ≤ byte.toNat ∧ byte.toNat ≤ follow.high

instance (follow : Follow) (byte : UInt8) : Decidable (follow.Admits byte) := by
  unfold Follow.Admits; infer_instance

/-- What the open character is worth once a byte is taken in. -/
def extended (value : Nat) (byte : UInt8) : Nat :=
  value * 0x40 + (byte.toNat - 0x80)

/-- `tail` takes a reader that stands in `within value more follow` to the end of `c`. -/
def Completes (c : Char) : Nat → Nat → Follow → List UInt8 → Prop
  | value, 0, follow, tail => ∃ byte, tail = [byte] ∧ follow.Admits byte ∧ c.toNat = extended value byte
  | value, more + 1, follow, tail =>
      ∃ byte rest, tail = byte :: rest ∧ follow.Admits byte ∧
        Completes c (extended value byte) more .any rest

/-- Whatever completes the open character, it is one, and not one of the first 128. -/
def Promising : Nat → Nat → Follow → Prop
  | value, 0, follow =>
      ∀ byte, follow.Admits byte → (extended value byte).isValidChar ∧ 0x80 ≤ extended value byte
  | value, more + 1, follow =>
      ∀ byte, follow.Admits byte → Promising (extended value byte) more .any

theorem encodeChar_eq_cons_one {byte : UInt8} (ascii : byte.toNat < 0x80) (c : Char)
    (tail : List UInt8) :
    encodeChar c = byte :: tail ↔ c = Char.ofNat byte.toNat ∧ tail = [] := by
  constructor
  · intro written
    rcases encodeChar_cases c with ⟨a, eq, _, ha⟩ | ⟨a, b, eq, _, _, ha, _⟩ |
      ⟨a, b, d, eq, _, _, _, ha, _⟩ | ⟨a, b, d, e, eq, _, _, ha, _⟩ <;>
      obtain ⟨rfl, rfl⟩ := List.cons.inj (eq.symm.trans written) <;> try omega
    exact ⟨by rw [ha, Char.ofNat_toNat], rfl⟩
  · rintro ⟨rfl, rfl⟩
    have same := toNat_ofNat (n := byte.toNat) (.inl (by omega))
    rcases encodeChar_cases (Char.ofNat byte.toNat) with ⟨a, eq, _, ha⟩ | ⟨_, _, _, le, _⟩ |
      ⟨_, _, _, _, le, _⟩ | ⟨_, _, _, _, _, le, _⟩ <;> try omega
    rw [eq, UInt8.toNat_inj.mp (ha.trans same)]

theorem encodeChar_eq_cons_two {byte : UInt8} (low : 0xC2 ≤ byte.toNat) (high : byte.toNat < 0xE0)
    (c : Char) (tail : List UInt8) :
    encodeChar c = byte :: tail ↔ Completes c (byte.toNat - 0xC0) 0 .any tail := by
  rw [Completes]
  constructor
  · intro written
    rcases encodeChar_cases c with ⟨a, eq, _, ha⟩ | ⟨a, b, eq, _, _, ha, hb⟩ |
      ⟨a, b, d, eq, _, _, _, ha, _⟩ | ⟨a, b, d, e, eq, _, _, ha, _⟩ <;>
      obtain ⟨rfl, rfl⟩ := List.cons.inj (eq.symm.trans written) <;> try omega
    refine ⟨b, rfl, ?_, ?_⟩
    · simp only [Follow.Admits, Follow.low, Follow.high]
      omega
    · unfold extended
      omega
  · rintro ⟨b, rfl, admitted, worth⟩
    simp only [Follow.Admits, Follow.low, Follow.high] at admitted
    unfold extended at worth
    rcases encodeChar_cases c with ⟨_, _, _, _⟩ | ⟨x, y, eq, _, _, hx, hy⟩ |
      ⟨_, _, _, _, _, _, _⟩ | ⟨_, _, _, _, _, _, _⟩ <;> try omega
    rw [eq, UInt8.toNat_inj.mp (show x.toNat = byte.toNat by omega),
      UInt8.toNat_inj.mp (show y.toNat = b.toNat by omega)]

theorem encodeChar_eq_cons_three {byte : UInt8} {follow : Follow} (low : 0xE0 ≤ byte.toNat)
    (high : byte.toNat < 0xF0)
    (admits : ∀ b, follow.Admits b ↔ Follow.any.Admits b ∧ (byte.toNat = 0xE0 → 0xA0 ≤ b.toNat) ∧
      (byte.toNat = 0xED → b.toNat ≤ 0x9F))
    (c : Char) (tail : List UInt8) :
    encodeChar c = byte :: tail ↔ Completes c (byte.toNat - 0xE0) 1 follow tail := by
  simp only [Completes, admits]
  simp only [Follow.Admits, Follow.low, Follow.high]
  constructor
  · intro written
    rcases encodeChar_cases c with ⟨a, eq, _, ha⟩ | ⟨a, b, eq, _, _, ha, _⟩ |
      ⟨a, b, d, eq, _, _, _, ha, hb, hd⟩ | ⟨a, b, d, e, eq, _, _, ha, _⟩ <;>
      obtain ⟨rfl, rfl⟩ := List.cons.inj (eq.symm.trans written) <;> try omega
    refine ⟨b, _, rfl, by omega, d, rfl, by omega, ?_⟩
    unfold extended
    omega
  · rintro ⟨b, rest, rfl, hb, d, rfl, hd, worth⟩
    unfold extended at worth
    rcases encodeChar_cases c with ⟨_, _, _, _⟩ | ⟨_, _, _, _, _, _, _⟩ |
      ⟨x, y, z, eq, _, _, _, hx, hy, hz⟩ | ⟨_, _, _, _, _, _, _, _⟩ <;> try omega
    rw [eq, UInt8.toNat_inj.mp (show x.toNat = byte.toNat by omega),
      UInt8.toNat_inj.mp (show y.toNat = b.toNat by omega),
      UInt8.toNat_inj.mp (show z.toNat = d.toNat by omega)]

theorem encodeChar_eq_cons_four {byte : UInt8} {follow : Follow} (low : 0xF0 ≤ byte.toNat)
    (high : byte.toNat ≤ 0xF4)
    (admits : ∀ b, follow.Admits b ↔ Follow.any.Admits b ∧ (byte.toNat = 0xF0 → 0x90 ≤ b.toNat) ∧
      (byte.toNat = 0xF4 → b.toNat ≤ 0x8F))
    (c : Char) (tail : List UInt8) :
    encodeChar c = byte :: tail ↔ Completes c (byte.toNat - 0xF0) 2 follow tail := by
  simp only [Completes, admits]
  simp only [Follow.Admits, Follow.low, Follow.high]
  constructor
  · intro written
    rcases encodeChar_cases c with ⟨a, eq, _, ha⟩ | ⟨a, b, eq, _, _, ha, _⟩ |
      ⟨a, b, d, eq, _, _, _, ha, _⟩ | ⟨a, b, d, e, eq, _, _, ha, hb, hd, he⟩ <;>
      obtain ⟨rfl, rfl⟩ := List.cons.inj (eq.symm.trans written) <;> try omega
    refine ⟨b, _, rfl, by omega, d, _, rfl, by omega, e, rfl, by omega, ?_⟩
    unfold extended
    omega
  · rintro ⟨b, rest, rfl, hb, d, rest, rfl, hd, e, rfl, he, worth⟩
    unfold extended at worth
    rcases encodeChar_cases c with ⟨_, _, _, _⟩ | ⟨_, _, _, _, _, _, _⟩ |
      ⟨_, _, _, _, _, _, _⟩ | ⟨x, y, z, w, eq, _, _, hx, hy, hz, hw⟩ <;> try omega
    rw [eq, UInt8.toNat_inj.mp (show x.toNat = byte.toNat by omega),
      UInt8.toNat_inj.mp (show y.toNat = b.toNat by omega),
      UInt8.toNat_inj.mp (show z.toNat = d.toNat by omega),
      UInt8.toNat_inj.mp (show w.toNat = e.toNat by omega)]

/-- Where the reader stands after it has taken in the beginning of a character. -/
structure Reached (taken : List UInt8) (value more : Nat) (follow : Follow) : Prop where
  completes : ∀ c tail, encodeChar c = taken ++ tail ↔ Completes c value more follow tail
  promising : Promising value more follow

theorem lead_three {byte : UInt8} (low : 0xE0 ≤ byte.toNat) (high : byte.toNat < 0xF0) :
    ∃ follow, lead byte = ([], .within (byte.toNat - 0xE0) 1 follow) ∧
      ∀ b, follow.Admits b ↔ Follow.any.Admits b ∧ (byte.toNat = 0xE0 → 0xA0 ≤ b.toNat) ∧
        (byte.toNat = 0xED → b.toNat ≤ 0x9F) := by
  simp only [lead]
  rw [if_neg (by omega), if_neg (by omega), if_neg (by omega)]
  by_cases first : byte.toNat = 0xE0
  · refine ⟨.fromA0, by simp [first], fun b => ?_⟩
    simp only [Follow.Admits, Follow.low, Follow.high]
    omega
  rw [if_neg first]
  by_cases surrogates : byte.toNat = 0xED
  · refine ⟨.to9F, by simp [surrogates], fun b => ?_⟩
    simp only [Follow.Admits, Follow.low, Follow.high]
    omega
  · refine ⟨.any, by rw [if_neg surrogates, if_pos high], fun b => ?_⟩
    simp only [Follow.Admits, Follow.low, Follow.high]
    omega

theorem lead_four {byte : UInt8} (low : 0xF0 ≤ byte.toNat) (high : byte.toNat ≤ 0xF4) :
    ∃ follow, lead byte = ([], .within (byte.toNat - 0xF0) 2 follow) ∧
      ∀ b, follow.Admits b ↔ Follow.any.Admits b ∧ (byte.toNat = 0xF0 → 0x90 ≤ b.toNat) ∧
        (byte.toNat = 0xF4 → b.toNat ≤ 0x8F) := by
  simp only [lead]
  rw [if_neg (by omega), if_neg (by omega), if_neg (by omega), if_neg (by omega),
    if_neg (by omega), if_neg (by omega)]
  by_cases first : byte.toNat = 0xF0
  · refine ⟨.from90, by simp [first], fun b => ?_⟩
    simp only [Follow.Admits, Follow.low, Follow.high]
    omega
  rw [if_neg first]
  by_cases last : byte.toNat = 0xF4
  · refine ⟨.to8F, by simp [last], fun b => ?_⟩
    simp only [Follow.Admits, Follow.low, Follow.high]
    omega
  · refine ⟨.any, by rw [if_pos (by omega)], fun b => ?_⟩
    simp only [Follow.Admits, Follow.low, Follow.high]
    omega

/-- What a byte at the beginning is: a character of its own, no beginning at all, or the beginning of
longer characters. -/
theorem lead_cases (byte : UInt8) :
    (∃ c, lead byte = ([c], .between) ∧
      ∀ d tail, encodeChar d = byte :: tail ↔ d = c ∧ tail = []) ∨
    (lead byte = ([replacement], .between) ∧ ∀ c tail, encodeChar c ≠ byte :: tail) ∨
    (∃ value more follow, lead byte = ([], .within value more follow) ∧
      Reached [byte] value more follow) := by
  by_cases ascii : byte.toNat < 0x80
  · exact .inl ⟨_, by simp [lead, ascii], encodeChar_eq_cons_one ascii⟩
  by_cases refused : byte.toNat < 0xC2 ∨ 0xF4 < byte.toNat
  · refine .inr (.inl ⟨?_, fun c tail written => ?_⟩)
    · simp only [lead, ascii, if_false]
      split
      · rfl
      repeat rw [if_neg (by omega)]
    · rcases encodeChar_cases c with ⟨a, eq, _, ha⟩ | ⟨a, b, eq, _, _, ha, _⟩ |
        ⟨a, b, d, eq, _, _, _, ha, _⟩ | ⟨a, b, d, e, eq, _, _, ha, _⟩ <;>
        obtain ⟨rfl, rfl⟩ := List.cons.inj (eq.symm.trans written) <;> omega
  refine .inr (.inr ?_)
  by_cases two : byte.toNat < 0xE0
  · refine ⟨byte.toNat - 0xC0, 0, .any, ?_, encodeChar_eq_cons_two (by omega) two, ?_⟩
    · simp only [lead]
      rw [if_neg ascii, if_neg (by omega), if_pos two]
    · intro b hb
      simp only [Follow.Admits, Follow.low, Follow.high] at hb
      unfold extended Nat.isValidChar
      omega
  by_cases three : byte.toNat < 0xF0
  · obtain ⟨follow, led, admits⟩ := lead_three (by omega) three
    refine ⟨_, _, follow, led, encodeChar_eq_cons_three (by omega) three admits, ?_⟩
    intro b hb d hd
    rw [admits] at hb
    simp only [Follow.Admits, Follow.low, Follow.high] at hb hd
    unfold extended Nat.isValidChar
    omega
  · obtain ⟨follow, led, admits⟩ := lead_four (show 0xF0 ≤ byte.toNat by omega) (by omega)
    refine ⟨_, _, follow, led, encodeChar_eq_cons_four (by omega) (by omega) admits, ?_⟩
    intro b hb d hd e he
    rw [admits] at hb
    simp only [Follow.Admits, Follow.low, Follow.high] at hb hd he
    unfold extended Nat.isValidChar
    omega

theorem encodeChar_ne_nil (c : Char) : encodeChar c ≠ [] := by
  intro empty
  rcases encodeChar_cases c with ⟨_, eq, _⟩ | ⟨_, _, eq, _⟩ | ⟨_, _, _, eq, _⟩ |
    ⟨_, _, _, _, eq, _⟩ <;> rw [eq] at empty <;> cases empty

theorem encode_append (first second : String) :
    encode (first ++ second) = encode first ++ encode second := by
  rw [encode, String.toList_append, List.flatMap_append]
  rfl

theorem length_encode_le (text : String) : (encode text).length ≤ 4 * text.toList.length := by
  unfold encode
  induction text.toList with
  | nil => exact Nat.le_refl _
  | cons c cs ih =>
      have few : (encodeChar c).length ≤ 4 := by
        rcases encodeChar_cases c with ⟨_, eq, _⟩ | ⟨_, _, eq, _⟩ | ⟨_, _, _, eq, _⟩ |
          ⟨_, _, _, _, eq, _⟩ <;> rw [eq] <;> simp
      rw [List.flatMap_cons, List.length_append, List.length_cons]
      omega

/-- A text whose first byte is below 0x80 may be cut behind it. -/
theorem toList_of_encode {text : String} {byte : UInt8} {rest : List UInt8}
    (ascii : byte.toNat < 0x80) (written : encode text = byte :: rest) :
    ∃ cs, text.toList = Char.ofNat byte.toNat :: cs ∧ cs.flatMap encodeChar = rest := by
  unfold encode at written
  cases characters : text.toList with
  | nil =>
      rw [characters] at written
      cases written
  | cons c cs =>
      rw [characters, List.flatMap_cons] at written
      cases first : encodeChar c with
      | nil => exact absurd first (encodeChar_ne_nil c)
      | cons b tail =>
          rw [first] at written
          obtain ⟨rfl, behind⟩ := List.cons.inj written
          obtain ⟨rfl, rfl⟩ := (encodeChar_eq_cons_one ascii c tail).mp first
          exact ⟨cs, rfl, behind⟩

/-! ### What was written is read back -/

@[simp]
theorem step_between (byte : UInt8) : step .between byte = lead byte := rfl

theorem step_admitted {follow : Follow} {byte : UInt8} (admitted : follow.Admits byte)
    (value more : Nat) :
    step (.within value more follow) byte =
      match more with
      | 0 => ([Char.ofNat (extended value byte)], .between)
      | more + 1 => ([], .within (extended value byte) more .any) := by
  unfold Follow.Admits at admitted
  simp only [step, admitted, and_self, if_true]
  cases more <;> rfl

theorem step_refused {follow : Follow} {byte : UInt8} (refused : ¬ follow.Admits byte)
    (value more : Nat) :
    step (.within value more follow) byte = (replacement :: (lead byte).1, (lead byte).2) := by
  unfold Follow.Admits at refused
  simp only [step, refused, if_false]

theorem chars_completes {c : Char} {value more : Nat} {follow : Follow} {tail : List UInt8}
    (completes : Completes c value more follow tail) (rest : List UInt8) :
    chars (.within value more follow) (tail ++ rest) = c :: chars .between rest := by
  induction more generalizing value follow tail with
  | zero =>
      obtain ⟨byte, rfl, admitted, worth⟩ := completes
      simp [chars, step_admitted admitted, ← worth]
  | succ more ih =>
      obtain ⟨byte, tail, rfl, admitted, completes⟩ := completes
      simp [chars, step_admitted admitted, ih completes]

theorem chars_encodeChar_append (c : Char) (rest : List UInt8) :
    chars .between (encodeChar c ++ rest) = c :: chars .between rest := by
  cases written : encodeChar c with
  | nil => exact absurd written (encodeChar_ne_nil c)
  | cons byte tail =>
      rcases lead_cases byte with ⟨d, led, only⟩ | ⟨_, none⟩ | ⟨value, more, follow, led, reached⟩
      · obtain ⟨rfl, rfl⟩ := (only c tail).mp written
        simp [chars, led]
      · exact absurd written (none c tail)
      · have completes := (reached.completes c tail).mp written
        simp [chars, led, chars_completes completes]

theorem chars_flatMap_encodeChar (text : List Char) :
    chars .between (text.flatMap encodeChar) = text := by
  induction text with
  | nil => rfl
  | cons c text ih => rw [List.flatMap_cons, chars_encodeChar_append, ih]

theorem decode_encode (text : String) : decode (encode text) = text := by
  rw [← String.toList_inj, toList_decode, encode, chars_flatMap_encodeChar]

theorem encode_ne_nil {text : String} (nonempty : text ≠ "") : encode text ≠ [] := by
  intro empty
  have read := decode_encode text
  rw [empty] at read
  exact nonempty read.symm

theorem chars_ne_nil (value more : Nat) (follow : Follow) (bytes : List UInt8) :
    chars (.within value more follow) bytes ≠ [] := by
  induction bytes generalizing value more follow with
  | nil => simp [chars, finish]
  | cons byte rest ih =>
      by_cases admitted : follow.Admits byte
      · cases more with
        | zero => simp [chars, step_admitted admitted]
        | succ more => simpa [chars, step_admitted admitted] using ih _ _ _
      · simp [chars, step_refused admitted]

/-- Only no bytes spell no text. -/
theorem chars_eq_nil_iff (bytes : List UInt8) : chars .between bytes = [] ↔ bytes = [] := by
  refine ⟨fun empty => ?_, fun empty => empty ▸ rfl⟩
  cases bytes with
  | nil => rfl
  | cons byte rest =>
      rcases lead_cases byte with ⟨d, led, _⟩ | ⟨led, _⟩ | ⟨value, more, follow, led, _⟩
      · simp [chars, led] at empty
      · simp [chars, led] at empty
      · simp [chars, led] at empty
        exact absurd empty (chars_ne_nil _ _ _ _)

/-- No character is written as the beginning of another one. -/
theorem eq_of_encodeChar_append {c d : Char} {tail : List UInt8}
    (longer : encodeChar d = encodeChar c ++ tail) : c = d ∧ tail = [] := by
  have read := chars_encodeChar_append d []
  rw [longer, List.append_assoc, List.append_nil, chars_encodeChar_append] at read
  obtain ⟨same, empty⟩ := List.cons.inj read
  exact ⟨same, (chars_eq_nil_iff tail).mp empty⟩

/-! ### What bytes spell -/

/-- At the front of `bad ++ rest` no character is written, and `bad` is the longest run there that
begins one, or a single byte. -/
structure Refused (bad rest : List UInt8) : Prop where
  nonempty : bad ≠ []
  unwritten : ∀ c, ¬ encodeChar c <+: bad ++ rest
  begins : bad.length = 1 ∨ ∃ c, bad <+: encodeChar c
  longest : ∀ longer c, longer <+: bad ++ rest → longer <+: encodeChar c →
    longer.length ≤ bad.length

/-- The text that bytes spell: characters as they are written, and U+FFFD for every refused run. -/
inductive Lossy : List UInt8 → List Char → Prop where
  | nil : Lossy [] []
  | char (c : Char) {rest : List UInt8} {text : List Char} :
      Lossy rest text → Lossy (encodeChar c ++ rest) (c :: text)
  | refused {bad rest : List UInt8} {text : List Char} :
      Refused bad rest → Lossy rest text → Lossy (bad ++ rest) (replacement :: text)

/-- A refused run is determined by the bytes. -/
theorem Refused.unique {bad bad' rest rest' : List UInt8} (refused : Refused bad rest)
    (refused' : Refused bad' rest') (same : bad ++ rest = bad' ++ rest') :
    bad = bad' ∧ rest = rest' := by
  have le {bad bad' rest rest' : List UInt8} (refused : Refused bad rest)
      (refused' : Refused bad' rest') (same : bad ++ rest = bad' ++ rest') :
      bad'.length ≤ bad.length := by
    rcases refused'.begins with single | ⟨c, begins⟩
    · rw [single]
      exact List.length_pos_iff.mpr refused.nonempty
    · exact refused.longest bad' c (same ▸ List.prefix_append bad' rest') begins
  exact List.append_inj same
    (Nat.le_antisymm (le refused' refused same.symm) (le refused refused' same))

theorem Promising.completes {value more : Nat} {follow : Follow}
    (promising : Promising value more follow) : ∃ c tail, Completes c value more follow tail := by
  have admitted : follow.Admits follow.low.toUInt8 := by
    cases follow <;> decide
  induction more generalizing value follow with
  | zero =>
      obtain ⟨valid, _⟩ := promising _ admitted
      exact ⟨Char.ofNat (extended value follow.low.toUInt8), _, _, rfl, admitted, toNat_ofNat valid⟩
  | succ more ih =>
      obtain ⟨c, tail, completes⟩ := ih (promising _ admitted) (by decide)
      exact ⟨c, _, _, _, rfl, admitted, completes⟩

theorem Reached.extend {taken : List UInt8} {value more : Nat} {follow : Follow}
    (reached : Reached taken value (more + 1) follow) {byte : UInt8}
    (admitted : follow.Admits byte) :
    Reached (taken ++ [byte]) (extended value byte) more .any where
  completes c tail := by
    rw [List.append_assoc, reached.completes, List.singleton_append]
    constructor
    · rintro ⟨_, _, eq, _, completes⟩
      cases eq
      exact completes
    · exact fun completes => ⟨byte, tail, rfl, admitted, completes⟩
  promising := reached.promising byte admitted

theorem not_completes_nil {c : Char} {value more : Nat} {follow : Follow} :
    ¬ Completes c value more follow [] := by
  cases more with
  | zero =>
      rintro ⟨_, eq, _⟩
      cases eq
  | succ more =>
      rintro ⟨_, _, eq, _⟩
      cases eq

theorem Completes.admits {c : Char} {value more : Nat} {follow : Follow} {byte : UInt8}
    {tail : List UInt8} (completes : Completes c value more follow (byte :: tail)) :
    follow.Admits byte := by
  cases more with
  | zero =>
      obtain ⟨_, eq, admitted, _⟩ := completes
      exact (List.cons.inj eq).1 ▸ admitted
  | succ more =>
      obtain ⟨_, _, eq, admitted, _⟩ := completes
      exact (List.cons.inj eq).1 ▸ admitted

/-- Where nothing follows that may, no character goes on from the bytes taken. -/
theorem Reached.eq_nil_of_written {taken rest tail more : List UInt8} {c : Char} {value left : Nat}
    {follow : Follow} (reached : Reached taken value left follow)
    (stuck : ∀ byte ∈ rest.head?, ¬ follow.Admits byte)
    (written : encodeChar c = taken ++ tail ++ more) (ahead : tail <+: rest) : tail = [] := by
  rw [List.append_assoc, reached.completes] at written
  cases tail with
  | nil => rfl
  | cons byte tail =>
      obtain ⟨last, rfl⟩ := ahead
      exact absurd written.admits (stuck byte rfl)

/-- The bytes taken are refused where nothing follows that may. -/
theorem Reached.refused {taken rest : List UInt8} {value more : Nat} {follow : Follow}
    (reached : Reached taken value more follow) (nonempty : taken ≠ [])
    (stuck : ∀ byte ∈ rest.head?, ¬ follow.Admits byte) : Refused taken rest where
  nonempty := nonempty
  begins := by
    obtain ⟨d, tail, completes⟩ := reached.promising.completes
    exact .inr ⟨d, tail, ((reached.completes d tail).mpr completes).symm⟩
  unwritten c ahead := by
    rcases List.prefix_or_prefix_of_prefix ahead (List.prefix_append taken rest) with
      ⟨t, short⟩ | ⟨tail, written⟩
    · obtain ⟨d, tail, completes⟩ := reached.promising.completes
      have begun := (reached.completes d tail).mpr completes
      rw [← short, List.append_assoc] at begun
      obtain ⟨_, empty⟩ := eq_of_encodeChar_append begun
      rw [(List.append_eq_nil_iff.mp empty).2] at completes
      exact not_completes_nil completes
    · rw [← written, List.prefix_append_right_inj] at ahead
      have empty := reached.eq_nil_of_written stuck
        (show encodeChar c = taken ++ tail ++ [] by simp [written]) ahead
      subst empty
      exact not_completes_nil ((reached.completes c []).mp written.symm)
  longest longer c ahead written := by
    rcases List.prefix_or_prefix_of_prefix ahead (List.prefix_append taken rest) with
      short | ⟨tail, rfl⟩
    · exact short.length_le
    · rw [List.prefix_append_right_inj] at ahead
      obtain ⟨more, written⟩ := written
      have empty := reached.eq_nil_of_written stuck written.symm ahead
      simp [empty]

/-- What the reader makes of the front of some bytes, once a character has begun. -/
theorem Reached.chars_cases {taken : List UInt8} {value more : Nat} {follow : Follow}
    (reached : Reached taken value more follow) (nonempty : taken ≠ []) (bytes : List UInt8) :
    (∃ c rest, taken ++ bytes = encodeChar c ++ rest ∧
      chars (.within value more follow) bytes = c :: chars .between rest) ∨
    (∃ bad rest, taken ++ bytes = bad ++ rest ∧ Refused bad rest ∧
      chars (.within value more follow) bytes = replacement :: chars .between rest) := by
  induction bytes generalizing taken value more follow with
  | nil => exact .inr ⟨taken, [], rfl, reached.refused nonempty (by simp), rfl⟩
  | cons byte bytes ih =>
      by_cases admitted : follow.Admits byte
      · cases more with
        | zero =>
            have valid := (reached.promising byte admitted).1
            have written := (reached.completes (Char.ofNat (extended value byte)) [byte]).mpr
              ⟨byte, rfl, admitted, toNat_ofNat valid⟩
            refine .inl ⟨_, bytes, by rw [written]; simp, ?_⟩
            simp [chars, step_admitted admitted]
        | succ more =>
            have := ih (reached.extend admitted) (by simp)
            simpa [chars, step_admitted admitted] using this
      · refine .inr ⟨taken, byte :: bytes, rfl, reached.refused nonempty ?_, ?_⟩
        · rintro _ ⟨⟩
          exact admitted
        · simp [chars, step_refused admitted]

/-- What the reader makes of the front of some bytes. -/
theorem chars_between_cases (bytes : List UInt8) (nonempty : bytes ≠ []) :
    (∃ c rest, bytes = encodeChar c ++ rest ∧ chars .between bytes = c :: chars .between rest) ∨
    (∃ bad rest, bytes = bad ++ rest ∧ Refused bad rest ∧
      chars .between bytes = replacement :: chars .between rest) := by
  obtain ⟨byte, rest, rfl⟩ := List.exists_cons_of_ne_nil nonempty
  rcases lead_cases byte with ⟨c, led, only⟩ | ⟨led, none⟩ | ⟨value, more, follow, led, reached⟩
  · refine .inl ⟨c, rest, ?_, by simp [chars, led]⟩
    rw [(only c []).mpr ⟨rfl, rfl⟩]
    rfl
  · have empty {longer : List UInt8} {c : Char} (ahead : longer <+: byte :: rest)
        (written : longer <+: encodeChar c) : longer = [] := by
      cases longer with
      | nil => rfl
      | cons first longer =>
          obtain ⟨_, written⟩ := written
          obtain ⟨rfl, _⟩ := List.cons_prefix_cons.mp ahead
          exact absurd written.symm (none c _)
    refine .inr ⟨[byte], rest, rfl, ?_, by simp [chars, led]⟩
    exact {
      nonempty := by simp
      unwritten := fun c ahead => encodeChar_ne_nil c (empty ahead (List.prefix_refl _))
      begins := .inl rfl
      longest := fun longer c ahead written => by simp [empty ahead written] }
  · simpa [chars, led] using reached.chars_cases (by simp) rest

theorem lossy_chars (bytes : List UInt8) : Lossy bytes (chars .between bytes) := by
  by_cases nonempty : bytes = []
  · subst nonempty
    exact .nil
  rcases chars_between_cases bytes nonempty with ⟨c, rest, front, read⟩ |
    ⟨bad, rest, front, refused, read⟩
  · have shorter : rest.length < bytes.length := by
      have := List.length_pos_iff.mpr (encodeChar_ne_nil c)
      rw [front, List.length_append]
      omega
    rw [read, front]
    exact .char c (lossy_chars rest)
  · have shorter : rest.length < bytes.length := by
      have := List.length_pos_iff.mpr refused.nonempty
      rw [front, List.length_append]
      omega
    rw [read, front]
    exact .refused refused (lossy_chars rest)
  termination_by bytes.length

theorem Lossy.eq_chars {bytes : List UInt8} {text : List Char} (lossy : Lossy bytes text) :
    text = chars .between bytes := by
  induction lossy with
  | nil => rfl
  | char c _ ih => rw [chars_encodeChar_append, ih]
  | @refused bad rest text refused _ ih =>
      have nonempty : bad ++ rest ≠ [] := by simp [refused.nonempty]
      rcases chars_between_cases (bad ++ rest) nonempty with ⟨c, rest', same, _⟩ |
        ⟨bad', rest', same, refused', read⟩
      · exact absurd ⟨rest', same.symm⟩ (refused.unwritten c)
      · obtain ⟨-, rfl⟩ := refused.unique refused' same
        rw [read, ih]

/-- The reader finds the text that the bytes spell, and there is no other. -/
theorem lossy_iff (bytes : List UInt8) (text : List Char) :
    Lossy bytes text ↔ text = (decode bytes).toList := by
  rw [toList_decode]
  exact ⟨Lossy.eq_chars, fun read => read ▸ lossy_chars bytes⟩

/-! ### Bytes that are no text -/

/-- Where nothing was refused the text writes the bytes. -/
theorem Lossy.flatMap_encodeChar {bytes : List UInt8} {text : List Char} (lossy : Lossy bytes text)
    (clean : replacement ∉ text) : text.flatMap encodeChar = bytes := by
  induction lossy with
  | nil => rfl
  | char c _ ih =>
      rw [List.flatMap_cons, ih fun mem => clean (List.mem_cons_of_mem c mem)]
  | refused _ _ _ => exact absurd List.mem_cons_self clean

theorem replacement_mem_decode {bytes : List UInt8} (invalid : ¬ Valid bytes) :
    replacement ∈ (decode bytes).toList := by
  refine Decidable.byContradiction fun clean => invalid ?_
  exact ((lossy_iff bytes _).mpr rfl).flatMap_encodeChar clean

/-- A text without U+FFFD is read from the bytes that write it and from no others. -/
theorem decode_eq_iff {bytes : List UInt8} {text : String} (clean : replacement ∉ text.toList) :
    decode bytes = text ↔ bytes = encode text := by
  constructor
  · rintro rfl
    exact (((lossy_iff bytes _).mpr rfl).flatMap_encodeChar clean).symm
  · rintro rfl
    exact decode_encode text

end RootObject.Utf8
