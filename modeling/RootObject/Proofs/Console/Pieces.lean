import RootObject.Proofs.Console.Reading
import RootObject.Proofs.Text.Pieces

/-!
Consoles that read one line or one token after another. They cut the bytes and decode each piece for
itself, and what they return are the pieces of the whole text, cut at line ends or at blanks: they
take piece after piece of the bytes (`endings_of_unfold`), and bytes may be cut before they are read.
-/

namespace RootObject.Console

open RootObject.Action

variable {settings : Settings} {capacity : Nat} {bytes : List UInt8} {console : Console}

/-- An action that reads the first piece each time reads one piece after another. -/
theorem endings_of_unfold {ε : Type} {pieces : List UInt8 → List (List UInt8)}
    {first after : List UInt8 → List UInt8} {read : Action Console ε String}
    (unfolds : Pieces.Unfold pieces first after)
    (ends : ∀ console bytes, Holds settings capacity bytes console →
      Buffer.Granted capacity (first bytes).length →
      Ends read console (.returned (Utf8.decode (first bytes)))
        (Holds settings capacity (after bytes)))
    (n : Nat) (holds : console.Holds settings capacity bytes)
    (granted : ∀ k < n, Buffer.Granted capacity ((pieces bytes).getD k []).length) :
    endings read n console =
      (List.range n).map fun k => .returned (Utf8.decode ((pieces bytes).getD k [])) := by
  induction n generalizing console bytes with
  | zero => rfl
  | succ n ih =>
      have now := granted 0 (by omega)
      rw [unfolds.zero] at now
      obtain ⟨ending, left⟩ := ends console bytes holds now
      have later : ∀ k < n, Buffer.Granted capacity ((pieces (after bytes)).getD k []).length := by
        intro k less
        rw [← unfolds.succ]
        exact granted (k + 1) (by omega)
      rw [endings, ending, ih left later, List.range_succ_eq_map, List.map_cons, List.map_map,
        unfolds.zero]
      congr 1
      refine List.map_congr_left fun k _ => ?_
      rw [Function.comp_apply, unfolds.succ]

/-- The texts of the first pieces, and empty ones where there are no more. -/
theorem map_range_decode {ε : Type} (n : Nat) (pieces : List (List UInt8)) :
    ((List.range n).map fun k => (.returned (Utf8.decode (pieces.getD k [])) : Ending ε String)) =
      (((pieces.map Utf8.decode).take n).rightpad n "").map .returned := by
  rw [Pieces.rightpad_take, List.map_map]
  refine List.map_congr_left fun k _ => ?_
  rw [Function.comp_apply, List.getD_eq_getElem?_getD, List.getD_eq_getElem?_getD, List.getElem?_map]
  cases pieces[k]? <;> rfl

/-- Below 0x80 bytes and characters are compared number by number. -/
theorem separators_of_ascii {cut : UInt8 → Bool} {mark : Char → Bool}
    (ascii : ∀ byte, cut byte = true → byte.toNat < 0x80)
    (ascii_mark : ∀ c, mark c = true → c.toNat < 0x80)
    (same : ∀ n < 0x80, mark (Char.ofNat n) = cut (UInt8.ofNat n)) : Utf8.Separators cut mark where
  ascii := ascii
  mark_iff byte small := by rw [same byte.toNat small, UInt8.ofNat_toNat]
  ascii_mark := ascii_mark

theorem separators_isLineEnd : Utf8.Separators isLineEnd (· == '\n') := by
  refine separators_of_ascii (fun byte ends => ?_) (fun c ends => ?_) (by decide)
  · rw [of_decide_eq_true ends]
    decide
  · rw [eq_of_beq ends]
    decide

/-- The characters that tokens end at. -/
def blanks : List Char :=
  [' ', '\t', '\n', '\x0B', '\x0C', '\r']

theorem separators_isSpace : Utf8.Separators isSpace blanks.contains := by
  refine separators_of_ascii (fun byte ends => ?_) (fun c ends => ?_) (by decide)
  · simp only [isSpace, Bool.or_eq_true, Bool.and_eq_true, decide_eq_true_eq,
      UInt8.le_iff_toNat_le] at ends
    rcases ends with rfl | ⟨-, upper⟩
    · decide
    · exact Nat.lt_of_le_of_lt upper (by decide)
  · have among := List.contains_iff_mem.mp ends
    simp only [blanks, List.mem_cons, List.not_mem_nil, or_false] at among
    rcases among with rfl | rfl | rfl | rfl | rfl | rfl <;> decide

/-- Whatever the source holds, well-formed or not: lines that are read with their line ends are the
pieces of its text, cut at every line end, and tokens are those pieces of it, cut at every blank, that
are not empty. Behind the last piece there are empty ones for ever. -/
theorem endings_ofSource (source : Source) (capacity n : Nat) (settings : Settings) (sink : Sink)
    (text : List Char) (steady : source.Steady) (healthy : sink.Healthy)
    (spelt : Utf8.Lossy source.data text) :
    (settings.lineTerminator = .consume →
      (∀ k < n, Buffer.Granted (max capacity 1)
        ((source.data.splitOnP isLineEnd).getD k []).length) →
      endings readLine n ⟨settings, Stream.ofSource source capacity, sink⟩ =
        ((((text.splitOn '\n').map String.ofList).take n).rightpad n "").map .returned) ∧
    ((∀ k < n, Buffer.Granted (max capacity 1)
        (((source.data.splitOnP isSpace).filter (!·.isEmpty)).getD k []).length) →
      endings readToken n ⟨settings, Stream.ofSource source capacity, sink⟩ =
        (((((text.splitOnP blanks.contains).filter (!·.isEmpty)).map String.ofList).take n).rightpad n
          "").map .returned) := by
  have holds : Console.Holds settings (max capacity 1) source.data
      ⟨settings, Stream.ofSource source capacity, sink⟩ :=
    ⟨rfl, Stream.holds_ofSource steady capacity, healthy⟩
  have decoded : Utf8.decode = fun bytes => String.ofList (Utf8.chars .between bytes) := by
    funext bytes
    rw [← Utf8.toList_decode, String.ofList_toList]
  obtain rfl := spelt.eq_chars
  constructor
  · intro consume granted
    have read := endings_of_unfold (Pieces.unfold_splitOnP isLineEnd)
      (fun console bytes holds granted => consume ▸ readLine_ends holds granted) n holds granted
    rw [read, map_range_decode, decoded, List.splitOn, Utf8.chars_splitOnP separators_isLineEnd,
      List.map_map]
    rfl
  · intro granted
    have read := endings_of_unfold (Pieces.unfold_words isSpace)
      (fun console bytes holds granted => readToken_ends holds granted) n holds granted
    have same := Utf8.chars_words separators_isSpace source.data
    unfold Pieces.words at same
    rw [read, map_range_decode, decoded, same, List.map_map]
    rfl

/-- Sequences broken off before a line end, before a blank and at the end of the data. -/
theorem endings_ofSource_broken :
    let console : Console :=
      ⟨{}, Stream.ofSource [.data [0xE2, 0x82], .failure ⟨.interrupted, none⟩,
        .data [0x0A, 0x0A, 0xF0, 0x9F, 0x20, 0xC3, 0xA9, 0xED, 0xA0], .nothing, .data [0x41]] 1,
        .scripted [.accept, .acceptAtMost 0]⟩
    endings readLine 4 console =
        [.returned "\uFFFD", .returned "", .returned "\uFFFD é\uFFFD\uFFFD", .returned ""] ∧
      endings readToken 4 console =
        [.returned "\uFFFD", .returned "\uFFFD", .returned "é\uFFFD\uFFFD", .returned ""] := by
  intro console
  obtain ⟨lines, tokens⟩ := endings_ofSource
    [.data [0xE2, 0x82], .failure ⟨.interrupted, none⟩,
      .data [0x0A, 0x0A, 0xF0, 0x9F, 0x20, 0xC3, 0xA9, 0xED, 0xA0], .nothing, .data [0x41]] 1 4 {}
    (.scripted [.accept, .acceptAtMost 0]) ['\uFFFD', '\n', '\n', '\uFFFD', ' ', 'é', '\uFFFD', '\uFFFD']
    ⟨rfl, trivial⟩ (by intro error; simp [Sink.scripted]) ((Utf8.lossy_iff _ _).mpr (by decide +kernel))
  have granted : ∀ pieces : List (List UInt8), (∀ k < 4, (pieces.getD k []).length < 100) →
      ∀ k < 4, Buffer.Granted (max 1 1) (pieces.getD k []).length := by
    intro pieces short k less
    have few := short k less
    exact Buffer.granted_of_lt (by decide) (by unfold Buffer.limit; omega)
  refine ⟨(lines rfl (granted _ ?_)).trans ?_, (tokens (granted _ ?_)).trans ?_⟩
  all_goals decide +kernel

end RootObject.Console
