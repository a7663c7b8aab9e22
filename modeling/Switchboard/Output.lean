import Switchboard.Layer
import Switchboard.Message

/-!
# Output strategies

How a command shows what it does: as text for humans, with a message before the call and one after
it, or as JSON. Both are layers right around the method.

Text output never fails for its own sake before the call has begun, except when the first message
cannot be made. JSON output recovers from errors that a device sends with a payload: it shows the
payload and the call ends with it.
-/

namespace Switchboard

/-- How the result of a command is shown. -/
inductive Output where
  | text (pre post : Message)
  | json (pretty : Bool)

namespace Output

/-- JSON for output: one item a line, or one blank after commas and colons. -/
def encode (pretty : Bool) (v : Json) : String :=
  String.ofList (if pretty then v.pretty else v.spaced)

/-- Emits a message without the blanks around it, unless nothing is left of it. -/
def say (message : String) (rest : Course) : Course :=
  let text := Text.trimString message
  if text.isEmpty then rest else .emit (.line text) rest

/-- What text output does with an outcome. A display that the outcome brings along is shown in the
place of a message that is not composed by a function. -/
def showText (post : Message) (arguments : Arguments) (outcome : Outcome) : Course :=
  let done := Course.finish arguments (.ok outcome)
  match outcome.display?.filter fun _ => !post.isComposed with
  | some display => .emit (.line display) done
  | none =>
    match post.render ⟨arguments, some outcome⟩ with
    | .ok message => say message done
    | .error error => .finish arguments (.error (.usage error))

/-- The course of text output. -/
def textCourse (pre post : Message) (arguments : Arguments) : Course :=
  match pre.render ⟨arguments, none⟩ with
  | .error error => .finish arguments (.error (.usage error))
  | .ok message =>
    say message <| .proceed arguments fun arguments result =>
      match result with
      | .ok outcome => showText post arguments outcome
      | .error error => .finish arguments (.error error)

/-- What JSON output does with the end of a call. -/
def showJson (pretty : Bool) (arguments : Arguments) : Result → Course
  | .ok outcome =>
    .emit (.line (encode pretty (outcome.structured?.getD outcome.toJson))) <|
      .finish arguments (.ok outcome)
  | .error error =>
    match error.payload? with
    | some payload =>
      .emit (.line (encode pretty payload)) <| .finish arguments (.ok (.value payload))
    | none => .finish arguments (.error error)

/-- The layer of a strategy. -/
def layer : Output → Layer
  | text pre post => ⟨"text-output", textCourse pre post⟩
  | json pretty => ⟨"json-output", fun arguments => .proceed arguments (showJson pretty)⟩

/-- What a command without a strategy of its own does: it tells its name, then the result. -/
def announce (command : String) : Output :=
  .text (.ofTemplate ("Running command " ++ command)) (.ofTemplate "\x7bresult\x7d")

/-- A strategy shown for inspection. -/
def inspect : Output → List Char
  | text pre post =>
    "Text(".toList ++
      Text.inspectRecord "TextOutput" [("pre", pre.inspect), ("post", post.inspect)] ++ [')']
  | json pretty =>
    "Json(".toList ++
      Text.inspectRecord "JsonOutput" [("pretty", Text.inspectBool pretty)] ++ [')']

end Output

end Switchboard
