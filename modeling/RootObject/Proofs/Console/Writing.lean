import RootObject.Proofs.Console.Demands
import RootObject.Proofs.Output.Sink

/-!
What consoles write to sinks that do not fail. Where no answer of the sink ends a text, a console is told
by the bytes that it has written (`Console.Wrote`), and a write adds its text to them. Where no flush
fails either, it is told by the bytes that it is going to read as well (`Console.Stands`): a flush, and a
read with the flush in front of it, add nothing to what was written.
-/

namespace RootObject
namespace Console

open RootObject.Action

/-- The console is going to read these bytes, its sink has accepted those written, and never fails. -/
structure Stands (settings : Settings) (capacity : Nat) (bytes written : List UInt8)
    (console : Console) : Prop where
  holds : console.Holds settings capacity bytes
  sink : console.sink.NeverFails
  accepted : console.sink.accepted = written

variable {settings : Settings} {capacity : Nat} {bytes written : List UInt8} {console : Console}

/-- No answer of the console's sink ends a text, and it has accepted these bytes. -/
structure Wrote (written : List UInt8) (console : Console) : Prop where
  goesOn : console.sink.GoesOn
  accepted : console.sink.accepted = written

theorem write_wrote (wrote : console.Wrote written) (text : String) :
    Ends (write text) console (.returned ()) (Wrote (written ++ Utf8.encode text)) := by
  obtain ⟨after, delivered, suffix, arrived⟩ := wrote.goesOn.writeAll (Utf8.encode text)
  constructor
  · simp [write, onSink, delivered]
  · simp only [write, onSink, delivered]
    rw [wrote.accepted] at arrived
    exact ⟨fun answer among => wrote.goesOn answer (suffix.subset among), arrived⟩

theorem prepared_neverFails (never : console.sink.NeverFails) : console.prepared.NeverFails := by
  unfold prepared
  split
  · exact never.flush
  · exact never

theorem accepted_prepared (console : Console) : console.prepared.accepted = console.sink.accepted := by
  unfold prepared
  split
  · exact console.sink.accepted_flush
  · rfl

theorem write_ends (stands : console.Stands settings capacity bytes written) (text : String) :
    Ends (write text) console (.returned ())
      (Stands settings capacity bytes (written ++ Utf8.encode text)) := by
  obtain ⟨after, delivered, never, arrived⟩ :=
    Sink.writeAll_of_neverFails stands.sink (Utf8.encode text)
  constructor
  · simp [write, onSink, delivered]
  · simp only [write, onSink, delivered]
    rw [stands.accepted] at arrived
    exact ⟨⟨stands.holds.settings, stands.holds.stream, never.healthy⟩, never, arrived⟩

theorem flush_stands (stands : console.Stands settings capacity bytes written) :
    Ends flush console (.returned ()) (Stands settings capacity bytes written) where
  ending := (flush_ends stands.holds).ending
  left := {
    holds := (flush_ends stands.holds).left
    sink := stands.sink.flush
    accepted := (Sink.accepted_flush console.sink).trans stands.accepted }

/-- A read leaves what was written as it is. -/
theorem Stands.of_readsBy {left : List UInt8} {outcome : Outcome Stream ReadError String}
    {whole : Outcome Console ReadError String} (stands : console.Stands settings capacity bytes written)
    (reads : console.ReadsBy outcome whole) (holds : whole.state.Holds settings capacity left) :
    whole.state.Stands settings capacity left written := by
  have sink := congrArg Console.sink reads.state
  refine ⟨holds, ?_, ?_⟩
  · rw [sink]
    exact prepared_neverFails stands.sink
  · rw [sink]
    exact console.accepted_prepared.trans stands.accepted

/-- A line is read as the sequential reader reads it, and what was written stays. -/
theorem readLine_stands (stands : console.Stands settings capacity bytes written)
    (granted : Buffer.Granted capacity (Reader.line bytes).length) :
    Ends readLine console (.returned (Utf8.decode (Reader.line bytes)))
      (Stands settings capacity (Reader.afterLine settings.lineTerminator bytes) written) := by
  obtain ⟨ending, holds⟩ := readLine_ends stands.holds granted
  exact ⟨ending, stands.of_readsBy (readLine_readsBy stands.sink.healthy) holds⟩

/-- A token is read as the sequential reader reads it, and what was written stays. -/
theorem readToken_stands (stands : console.Stands settings capacity bytes written)
    (granted : Buffer.Granted capacity (Reader.token bytes).length) :
    Ends readToken console (.returned (Utf8.decode (Reader.token bytes)))
      (Stands settings capacity (Reader.afterToken bytes) written) := by
  obtain ⟨ending, holds⟩ := readToken_ends stands.holds granted
  exact ⟨ending, stands.of_readsBy (readToken_readsBy stands.sink.healthy) holds⟩

end Console

namespace Base

open RootObject.Action

variable {settings : Console.Settings} {capacity : Nat} {bytes written : List UInt8} {console : Console}

/-- A method that writes a text leaves what writing it leaves, and returns its receiver. -/
theorem write_of_write {text : String} {left : Console → Prop}
    (ends : Ends (Console.write text) console (.returned ()) left) (method : Method) :
    Ends (write method text) console (.returned .self) left :=
  (ends.mapError (Fault.io method)).bind fun _ now => .pure now

theorem write_wrote (wrote : console.Wrote written) (method : Method) (text : String) :
    Ends (write method text) console (.returned .self)
      (Console.Wrote (written ++ Utf8.encode text)) :=
  write_of_write (Console.write_wrote wrote text) method

theorem write_ends (stands : console.Stands settings capacity bytes written) (method : Method)
    (text : String) :
    Ends (write method text) console (.returned .self)
      (Console.Stands settings capacity bytes (written ++ Utf8.encode text)) :=
  write_of_write (Console.write_ends stands text) method

end Base
end RootObject
