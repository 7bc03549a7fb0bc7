import Mathlib.Data.List.GetD
import RootObject.Proofs.Console.Pieces
import RootObject.Proofs.Console.Writing

/-!
Texts printed on lines of their own, and read again line by line. A text without a line end is written
as bytes without one, so the bytes are cut where a text was ended and nowhere else
(`splitOnP_ofLines`), and every piece is read as the text that it was written for.
-/

namespace RootObject

namespace Utf8

/-- The bytes of texts, each with a line end behind it. -/
def ofLines (texts : List String) : List UInt8 :=
  texts.flatMap fun text => encode (text ++ "\n")

theorem ofLines_cons (text : String) (texts : List String) :
    ofLines (text :: texts) = encode text ++ 0x0A :: ofLines texts := by
  simp [ofLines, encode_append, show encode "\n" = [0x0A] from rfl]

theorem not_isLineEnd_of_mem {text : String} (single : '\n' ∉ text.toList) :
    ∀ byte ∈ encode text, isLineEnd byte = false := by
  apply Console.separators_isLineEnd.forall_encode
  intro c among
  simp only [beq_eq_false_iff_ne]
  rintro rfl
  exact single among

theorem splitOnP_ofLines {texts : List String} (single : ∀ text ∈ texts, '\n' ∉ text.toList) :
    (ofLines texts).splitOnP isLineEnd = texts.map encode ++ [[]] := by
  induction texts with
  | nil => rfl
  | cons text texts ih =>
      have uncut := not_isLineEnd_of_mem (single text List.mem_cons_self)
      have later := ih fun text among => single text (List.mem_cons_of_mem _ among)
      rw [ofLines_cons, List.splitOnP_append_cons_of_forall_mem uncut 0x0A rfl, later]
      rfl

/-- Each text has its piece, and behind the last there are empty ones. -/
theorem getD_splitOnP_ofLines {texts : List String} (single : ∀ text ∈ texts, '\n' ∉ text.toList)
    (k : Nat) : ((ofLines texts).splitOnP isLineEnd).getD k [] = encode (texts.getD k "") := by
  have read : (texts.map encode).getD k (encode "") = encode (texts.getD k "") :=
    List.getD_map texts "" encode
  rw [splitOnP_ofLines single, Pieces.getD_append_singleton]
  exact read

end Utf8

namespace Base

open RootObject.Action

/-- Prints each text on a line of its own. -/
def printLines (texts : List String) : Action Console Fault Unit :=
  texts.forM fun text => do
    let _ ← print text
    let _ ← print "\n"

theorem printLines_wrote (texts : List String) {written : List UInt8} {console : Console}
    (wrote : console.Wrote written) :
    Ends (printLines texts) console (.returned ())
      (Console.Wrote (written ++ Utf8.ofLines texts)) := by
  induction texts generalizing console written with
  | nil =>
      rw [Utf8.ofLines, List.flatMap_nil, List.append_nil]
      exact .pure wrote
  | cons text texts ih =>
      have line : Ends (do
          let _ ← print text
          let _ ← print "\n") console (.returned ())
          (Console.Wrote (written ++ Utf8.encode (text ++ "\n"))) := by
        rw [Utf8.encode_append, ← List.append_assoc]
        refine (write_wrote wrote .print text).bind fun console wrote => ?_
        refine (write_wrote wrote .print "\n").bind fun console wrote => ?_
        exact .pure wrote
      rw [Utf8.ofLines, List.flatMap_cons, ← List.append_assoc]
      exact line.bind fun console wrote => ih wrote

/-- Texts without line ends that are printed on lines of their own are read again as they were, however
the sink takes them and however the bytes come in, and behind the last there are empty lines for
ever. -/
theorem endings_inputLine_printLines (texts : List String) (writer : Console)
    (single : ∀ text ∈ texts, '\n' ∉ text.toList) (goesOn : writer.sink.GoesOn) :
    ∃ written,
      Ends (printLines texts) writer (.returned ())
        (fun left => left.sink.accepted = writer.sink.accepted ++ written) ∧
      ∀ (source : Source) (capacity n : Nat) (settings : Console.Settings) (sink : Sink),
        source.Steady → source.data = written → sink.Healthy → settings.lineTerminator = .consume →
        (∀ k < n, Buffer.Granted (max capacity 1) (Utf8.encode (texts.getD k "")).length) →
        endings inputLine n ⟨settings, Stream.ofSource source capacity, sink⟩ =
          ((texts.take n).rightpad n "").map .returned := by
  have started : writer.Wrote writer.sink.accepted := ⟨goesOn, rfl⟩
  have printed := printLines_wrote texts started
  refine ⟨Utf8.ofLines texts, ⟨printed.ending, printed.left.accepted⟩, ?_⟩
  intro source capacity n settings sink steady data healthy consume granted
  have holds := Console.holds_ofSource settings steady capacity healthy
  rw [data] at holds
  have pieces := Utf8.getD_splitOnP_ofLines single
  have read := Console.endings_of_unfold (Pieces.unfold_splitOnP isLineEnd)
    (fun console bytes holds granted => consume ▸ inputLine_ends holds granted) n holds (by
      intro k less
      rw [pieces]
      exact granted k less)
  rw [read, Pieces.rightpad_take, List.map_map]
  refine List.map_congr_left fun k _ => ?_
  rw [pieces, Utf8.decode_encode]
  rfl

/-- A return, a text of nothing, and characters of two, three and four bytes between blanks, written in
short pieces and read in others. -/
theorem endings_inputLine_printLines_unicode :
    let texts := ["a\r", "", " é\uFFFD😀 "]
    let writer : Console := ⟨{}, Stream.ofSource [] 1,
      .scripted [.acceptAtMost 1, .refuse ⟨.interrupted, none⟩, .acceptAtMost 1, .acceptAtMost 3]⟩
    (printLines texts writer).ending = .returned () ∧
      ∃ source : Source, source.data = (printLines texts writer).state.sink.accepted ∧
        endings inputLine 5 ⟨{}, Stream.ofSource source 0, .scripted [.acceptAtMost 0]⟩ =
          [.returned "a\r", .returned "", .returned " é\uFFFD😀 ", .returned "", .returned ""] := by
  intro texts writer
  have single : ∀ text ∈ texts, '\n' ∉ text.toList := by decide
  have goesOn : writer.sink.GoesOn := by decide
  obtain ⟨written, printed, read⟩ := endings_inputLine_printLines texts writer single goesOn
  have bytes : (printLines texts writer).state.sink.accepted = Utf8.encode "a\r\n\n é\uFFFD😀 \n" := by
    decide +kernel
  have same : written = Utf8.encode "a\r\n\n é\uFFFD😀 \n" := printed.left.symm.trans bytes
  refine ⟨printed.ending, [.data [0x61], .failure ⟨.interrupted, none⟩, .data [0x0D, 0x0A, 0x0A, 0x20, 0xC3],
    .data [0xA9, 0xEF, 0xBF, 0xBD, 0xF0, 0x9F], .data [0x98, 0x80, 0x20, 0x0A]], ?_, ?_⟩
  · rw [bytes]
    decide +kernel
  · refine read _ 0 5 {} _ ⟨rfl, trivial⟩ ?_ ?_ rfl ?_
    · rw [same]
      decide +kernel
    · intro error
      simp [Sink.scripted]
    · intro k less
      have few : ∀ k < 5, (Utf8.encode (texts.getD k "")).length < 100 := by decide +kernel
      have short := few k less
      exact Buffer.granted_of_lt (by decide) (by unfold Buffer.limit; omega)

end Base
end RootObject
