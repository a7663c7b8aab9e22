import Switchboard.Layer

/-!
# Decorations

Small decorators of many kinds. Between them they do everything that a layer can do: look on, change
arguments, keep the call from proceeding, let it proceed twice, and change how it ended.
-/

namespace Switchboard.Rehearsal

/-- What a decorator does. -/
inductive Decoration where
  /-- Notes when the call comes in and how it goes out. -/
  | trace
  /-- Sets an argument. -/
  | set (key : String) (value : Json)
  /-- Removes an argument. -/
  | remove (key : String)
  /-- Sets one argument to the value of another, which must be given. -/
  | copy (source target : String)
  /-- Puts a text behind an argument, which must be a text. -/
  | append (key text : String)
  /-- Ends the call with an error. -/
  | deny (error : DispatchError)
  /-- Puts an outcome in the place of an error. -/
  | swallow (outcome : Outcome)
  /-- Puts an outcome in the place of another. -/
  | replace (outcome : Outcome)
  /-- Lets the call proceed a second time if the first succeeds. -/
  | twice
  /-- Emits a line when the call comes in and another when it goes out. -/
  | echo

namespace Decoration

/-- Lets the call proceed and passes its end through a function. -/
def proceedThen (change : Result → Result) (arguments : Arguments) : Course :=
  .proceed arguments fun arguments result => .finish arguments (change result)

/-- An error of what the user typed, as an error of the call. -/
def asDispatch {α : Type} : Except UsageError α → Except DispatchError α
  | .ok a => .ok a
  | .error error => .error (.usage error)

/-- A change that is done as a whole or fails before anything has changed. -/
def allOrNothing (change : Arguments → Except UsageError Arguments) : Change := fun arguments =>
  (change arguments).mapError fun error => ⟨arguments, .usage error⟩

/-- How a call went, in a word. -/
def word : Result → String
  | .ok _ => "ok"
  | .error _ => "err"

/-- The course of `trace`. -/
def traceCourse (name : String) (arguments : Arguments) : Course :=
  .emit (.note ("enter " ++ name)) <| .proceed arguments fun arguments result =>
    .emit (.note ("leave " ++ name ++ " " ++ word result)) <| .finish arguments result

/-- The course of `twice`. -/
def twiceCourse (arguments : Arguments) : Course :=
  .proceed arguments fun arguments result =>
    match result with
    | .ok _ => .proceed arguments .finish
    | .error error => .finish arguments (.error error)

/-- The course of `echo`. -/
def echoCourse (name : String) (arguments : Arguments) : Course :=
  .emit (.line ("<" ++ name ++ ">")) <| .proceed arguments fun arguments result =>
    .emit (.line ("</" ++ name ++ ">")) <| .finish arguments result

/-- The decorator of a name that does it. -/
def layer (name : String) : Decoration → Layer
  | trace => ⟨name, traceCourse name⟩
  | set key value => .mapArguments name fun arguments => .ok (Entries.insert key value arguments)
  | remove key => .mapArguments name fun arguments => .ok (Entries.erase key arguments)
  | copy source target =>
    .mapArguments name <| allOrNothing fun arguments =>
      (Arguments.require source arguments).map fun value => Entries.insert target value arguments
  | append key text =>
    .mapArguments name <| allOrNothing fun arguments =>
      (Arguments.requireText key arguments).map fun value =>
        Entries.insert key (.string (value ++ text)) arguments
  | deny error => ⟨name, fun arguments => .finish arguments (.error error)⟩
  | swallow outcome =>
    ⟨name, proceedThen fun result => match result with
      | .ok outcome => .ok outcome
      | .error _ => .ok outcome⟩
  | replace outcome =>
    ⟨name, proceedThen fun result => match result with
      | .ok _ => .ok outcome
      | .error error => .error error⟩
  | twice => ⟨name, twiceCourse⟩
  | echo => ⟨name, echoCourse name⟩

end Decoration

end Switchboard.Rehearsal
