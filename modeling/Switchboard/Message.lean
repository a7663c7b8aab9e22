import Switchboard.Arguments
import Switchboard.Outcome
import Switchboard.Template
import Switchboard.Text.Quoted

/-!
# Messages

What a command says before and after its call: nothing, a template, or a text that a function
composes. The fields of a message are the arguments of the call, and after it also `result`, which
means the outcome even where an argument has that name.
-/

namespace Switchboard

/-- What a message is made from. -/
structure MessageSource where
  arguments : Arguments
  /-- The outcome, once there is one. -/
  outcome : Option Outcome

namespace MessageSource

/-- The name of the outcome in messages. -/
def resultField : String := "result"

/-- The text of a field. -/
def field? (source : MessageSource) (name : String) : Option String :=
  let argument := (Entries.get? name source.arguments).map Json.plainText
  if name = resultField then (source.outcome.map Outcome.render).or argument else argument

end MessageSource

/-- How a message is made. -/
inductive Message where
  | empty
  | template (text : String)
  | composed (compose : MessageSource → String)

namespace Message

/-- The message of a template; an empty one is no message. -/
def ofTemplate (text : String) : Message := if text.isEmpty then .empty else .template text

/-- A message that lists fields with their texts, and a question mark for those without one. -/
def listing (fields : List String) : Message :=
  .composed fun source =>
    Text.joinStrings "; " <| fields.map fun field =>
      match source.field? field with
      | some text => field ++ "=" ++ text
      | none => field ++ "?"

/-- Whether a message never has a text. -/
def isEmpty : Message → Bool
  | empty => true
  | template text => text.isEmpty
  | composed _ => false

/-- Whether a function composes the message. -/
def isComposed : Message → Bool
  | composed _ => true
  | _ => false

/-- The text of a message. -/
def render (source : MessageSource) : Message → Except UsageError String
  | empty => .ok ""
  | template text => Template.render text source.field?
  | composed compose => .ok (compose source)

/-- A message shown for inspection. -/
def inspect : Message → List Char
  | empty => "Empty".toList
  | template text => "Template(".toList ++ Text.quoted text ++ [')']
  | composed _ => "Render(..)".toList

end Message

end Switchboard
