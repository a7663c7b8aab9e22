/-!
# Events

What becomes visible while a command runs, in order. A line is for whoever reads the output. A note
is for whoever watches the call, and is never printed.
-/

namespace Switchboard

/-- Something that becomes visible during a call. -/
inductive Event where
  | line (text : String)
  | note (text : String)
  deriving DecidableEq, Repr

namespace Event

/-- The text of a line. -/
def line? : Event → Option String
  | line text => some text
  | note _ => none

/-- The text of a note. -/
def note? : Event → Option String
  | line _ => none
  | note text => some text

/-- The lines among events, in order. -/
def lines (events : List Event) : List String := events.filterMap line?

/-- The notes among events, in order. -/
def notes (events : List Event) : List String := events.filterMap note?

/-- All lines as they are printed, each ended by a line feed. -/
def printed (events : List Event) : String :=
  (lines events).foldr (fun line rest => line ++ "\n" ++ rest) ""

end Event

end Switchboard
