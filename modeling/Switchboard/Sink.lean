import Switchboard.Event
import Switchboard.Text.Utf8

/-!
# Sinks

Where lines are written to. A sink may be limited: it takes so many lines and refuses all that come
after them. Writing never fails for the writer, a refused line is lost.
-/

namespace Switchboard

/-- What has been written, and for how many more lines there is room; without a limit for any. -/
structure Sink where
  bytes : List UInt8
  room : Option Nat
  deriving DecidableEq, Repr

namespace Sink

/-- A sink that takes every line. -/
def unlimited : Sink := ⟨[], none⟩

/-- A sink that takes `n` lines. -/
def limited (n : Nat) : Sink := ⟨[], some n⟩

/-- Puts bytes behind what has been written, whatever the limit. -/
def append (bytes : List UInt8) (sink : Sink) : Sink :=
  { sink with bytes := sink.bytes ++ bytes }

/-- Writes a line and the line feed after it. -/
def line (text : String) (sink : Sink) : Sink :=
  let bytes := (text ++ "\n").toUTF8.toList
  match sink.room with
  | none => sink.append bytes
  | some 0 => sink
  | some (n + 1) => { sink.append bytes with room := some n }

/-- Writes the lines among events. -/
def write (events : List Event) (sink : Sink) : Sink :=
  (Event.lines events).foldl (fun sink text => sink.line text) sink

/-- What has been written, as text. -/
def contents (sink : Sink) : String := Text.Utf8.decodeLenient sink.bytes

end Sink

end Switchboard
