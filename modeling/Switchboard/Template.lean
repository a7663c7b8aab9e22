import Switchboard.Error
import Switchboard.Text.Blank

/-!
# Templates

Texts with places to fill in. A place is `{name}`; what stands in the braces after the name, from
the first `:` or `!` on, is ignored, and so are blanks around the name. `{{` and `}}` stand for the
braces themselves.

A template is scanned into its segments, up to the fault that ends it if it has one. Filling it in
goes through the segments from left to right, so the error that is reported is always the leftmost
one. What a place is filled with is not scanned again.
-/

namespace Switchboard.Template

/-- A piece of a template. -/
inductive Segment where
  /-- A character that stands for itself. -/
  | char (c : Char)
  /-- A place, by all that stands in its braces. -/
  | place (inside : List Char)
  deriving DecidableEq, Repr

/-- What can be wrong with a template. -/
inductive Fault where
  | unclosed
  | strayClose
  deriving DecidableEq, Repr

/-- Why a template is malformed, in words. -/
def Fault.reason : Fault → String
  | .unclosed => "unclosed '\x7b'"
  | .strayClose => "single '\x7d' encountered"

/-- Where the scanner stands. -/
inductive State where
  /-- Outside of places. -/
  | outside
  /-- After an opening brace. -/
  | opened
  /-- After a closing brace outside of places. -/
  | closed
  /-- Inside a place, with what it holds so far in reverse. -/
  | inside (text : List Char)
  deriving DecidableEq, Repr

/-- Puts a segment in front of a scanned rest. -/
def consSegment (segment : Segment) (scanned : List Segment × Option Fault) :
    List Segment × Option Fault :=
  (segment :: scanned.1, scanned.2)

/-- Scans a text from a state: the segments up to the first fault, and that fault. -/
def scanFrom : State → List Char → List Segment × Option Fault
  | .outside, [] => ([], none)
  | .outside, c :: rest =>
    if c = '{' then scanFrom .opened rest
    else if c = '}' then scanFrom .closed rest
    else consSegment (.char c) (scanFrom .outside rest)
  | .opened, [] => ([], some .unclosed)
  | .opened, c :: rest =>
    if c = '{' then consSegment (.char '{') (scanFrom .outside rest)
    else if c = '}' then consSegment (.place []) (scanFrom .outside rest)
    else scanFrom (.inside [c]) rest
  | .closed, [] => ([], some .strayClose)
  | .closed, c :: rest =>
    if c = '}' then consSegment (.char '}') (scanFrom .outside rest)
    else ([], some .strayClose)
  | .inside _, [] => ([], some .unclosed)
  | .inside text, c :: rest =>
    if c = '}' then consSegment (.place text.reverse) (scanFrom .outside rest)
    else scanFrom (.inside (c :: text)) rest

/-- The segments of a template up to its first fault, and that fault. -/
def scan (template : List Char) : List Segment × Option Fault := scanFrom .outside template

/-- The name in a place. -/
def placeName (inside : List Char) : List Char :=
  Text.trim (inside.takeWhile fun c => c != ':' && c != '!')

/-- Fills in segments; the first place without a value is the error. -/
def fill (lookup : String → Option String) : List Segment → Except UsageError (List Char)
  | [] => .ok []
  | .char c :: rest => (fill lookup rest).map (c :: ·)
  | .place inside :: rest =>
    let name := String.ofList (placeName inside)
    match lookup name with
    | some value => (fill lookup rest).map (value.toList ++ ·)
    | none => .error (.missingTemplateField name)

/-- Fills in a template, by a value for each name. -/
def render (template : String) (lookup : String → Option String) : Except UsageError String := do
  let (segments, fault) := scan template.toList
  let text ← fill lookup segments
  match fault with
  | none => .ok (String.ofList text)
  | some fault => .error (.malformedTemplate template fault.reason)

end Switchboard.Template
