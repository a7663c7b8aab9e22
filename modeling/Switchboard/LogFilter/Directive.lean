import Switchboard.LogFilter.Field
import Switchboard.LogFilter.Level
import Switchboard.Text.Bytes
import Switchboard.Text.Letter

/-!
# Directives of log filters

A directive is a level; or a target with a level after `=`; or a span in square brackets, with a
target before it, a field in braces inside it, or a level after it. Without a level it means all
messages.

The parts of a directive are found in its text without the blanks at its two ends. They are then cut
out of the text with those blanks, at the same distances in bytes from its start; so blanks in front
shift what a part is, and blanks at the end belong to the last part.
-/

namespace Switchboard

/-- What a filter says of some messages. -/
structure LogDirective where
  level : LogLevel
  target : Option (List Char)
  span : Option (List Char)
  fields : List LogField
  deriving DecidableEq, Repr

namespace LogDirective

/-! ## Reading -/

/-- Whether a directive that is no span may begin with a character. -/
def mayStart (c : Char) : Bool := c == '-' || c == ':' || c == '_' || Text.isAlphanumeric c

/-- The part of a text that begins after `before` bytes and is as long as `found`. -/
def part? (text : List Char) (before : Nat) (found : List Char) : Option (List Char) :=
  (Text.dropBytes? before text).bind (Text.takeBytes? (Text.byteCount found))

/-- The level that is written after the first `before` bytes of a text. -/
def levelAfter? (text : List Char) (before : Nat) : Option LogLevel :=
  (Text.dropBytes? before text).bind LogLevel.ofEnd?

/-- Reads what follows a span, which ends after `before` bytes. -/
def afterSpan? (text : List Char) (before : Nat) (target span : Option (List Char))
    (fields : List LogField) : List Char → Option LogDirective
  | [] => some ⟨.trace, target, span, fields⟩
  | '=' :: _ => (levelAfter? text (before + 1)).map fun level => ⟨level, target, span, fields⟩
  | _ => none

/-- Reads a field after its opening brace, which ends after `before` bytes. -/
def field? (text : List Char) (before : Nat) (target span : Option (List Char)) (s : List Char) :
    Option LogDirective :=
  let found := s.takeWhile (· != '}')
  match found, s.dropWhile (· != '}') with
  | _ :: _, '}' :: ']' :: rest =>
    ((part? text before found).bind LogField.ofText?).bind fun field =>
      afterSpan? text (before + Text.byteCount found + 2) target span [field] rest
  | _, _ => none

/-- Reads a span after its opening bracket, which ends after `before` bytes. A span without a name
before its field may be any. -/
def span? (text : List Char) (before : Nat) (target : Option (List Char)) (s : List Char) :
    Option LogDirective :=
  let found := s.takeWhile fun c => c != ']' && c != '{'
  let after := before + Text.byteCount found + 1
  (part? text before found).bind fun name =>
    match s.dropWhile fun c => c != ']' && c != '{' with
    | ']' :: rest => afterSpan? text after target (some name) [] rest
    | '{' :: rest => field? text after target (if name.isEmpty then none else some name) rest
    | _ => none

/-- What a word alone means: a level, or else all messages of a target. -/
def ofWord (word : List Char) : LogDirective :=
  match LogLevel.ofText? word with
  | some level => ⟨level, none, none, []⟩
  | none => ⟨.trace, some word, none, []⟩

/-- Reads a directive. -/
def ofText? (text : List Char) : Option LogDirective :=
  match Text.trim text with
  | [] => none
  | '[' :: rest => span? text 1 none rest
  | c :: rest =>
    if mayStart c then
      let found := (c :: rest).takeWhile fun c => c != '=' && c != '['
      let after := Text.byteCount found + 1
      match (c :: rest).dropWhile fun c => c != '=' && c != '[' with
      | [] => some (ofWord text)
      | mark :: rest =>
        (part? text 0 found).bind fun target =>
          if mark = '=' then
            (levelAfter? text after).map fun level => ⟨level, some target, none, []⟩
          else span? text after (some target) rest
    else none

/-! ## Writing -/

/-- The part of a directive in square brackets, if it has one. -/
def bracketText (d : LogDirective) : List Char :=
  if d.span.isNone && d.fields.isEmpty then []
  else
    let fields := Text.joinWith [','] (d.fields.map LogField.text)
    let braces := if d.fields.isEmpty then [] else '{' :: fields ++ ['}']
    '[' :: d.span.getD [] ++ braces ++ [']']

/-- The text of a directive. -/
def text (d : LogDirective) : List Char :=
  let start := d.target.getD [] ++ d.bracketText
  let isPlain := d.target.isNone && d.bracketText.isEmpty
  start ++ (if isPlain then [] else ['=']) ++ d.level.name.toList

/-! ## Order -/

/-- Whether a span or a field must be seen to decide on a message. -/
def isDynamic (d : LogDirective) : Bool := d.span.isSome || !d.fields.isEmpty

/-- Whether a message can be decided on by its target and the names of its fields. -/
def isStatic (d : LogDirective) : Bool := d.span.isNone && d.fields.all (·.value.isNone)

/-- Compares directives by how specific they are. -/
def compareSpecific (a b : LogDirective) : Ordering :=
  (compare (a.target.map Text.byteCount) (b.target.map Text.byteCount)).then <|
    (compare a.span.isSome b.span.isSome).then <|
    (compare a.fields.length b.fields.length).then <|
    (compare a.target b.target).then <|
    (compare a.span b.span).then (compare a.fields b.fields)

/-- Puts a directive in its place; one that covers the same messages is replaced. -/
def insert (d : LogDirective) : List LogDirective → List LogDirective
  | [] => [d]
  | other :: rest =>
    match compareSpecific d other with
    | .gt => d :: other :: rest
    | .eq => d :: rest
    | .lt => other :: insert d rest

/-- Directives in order. -/
def sort (ds : List LogDirective) : List LogDirective :=
  ds.foldl (fun sorted d => insert d sorted) []

end LogDirective

end Switchboard
