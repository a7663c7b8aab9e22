import Switchboard.DeviceType
import Switchboard.Rehearsal.Decoration

/-!
# Devices that follow a script

Three device types, each embedding the one before, whose commands follow scripts and whose
information is fetched by a plan. They do what a device could do and tell what was asked of them, so
that the dispatch of commands can be rehearsed without one.
-/

namespace Switchboard.Rehearsal

/-- The innermost device type, which holds everything. -/
structure Root where
  connection : Connection
  model : Option String
  info : Option String
  /-- How often the information was fetched. -/
  fetches : Nat
  /-- How often a method was called. -/
  calls : Nat
  deriving DecidableEq, Repr

/-- A device type that embeds `Root`. -/
structure Mid where
  root : Root

/-- A device type that embeds `Mid`. -/
structure Leaf where
  mid : Mid

/-- The part `Root` of `Mid`. -/
def Mid.toRoot : Embedding Mid Root where
  view m := m.root
  put root _ := ⟨root⟩
  view_put _ _ := rfl
  put_view _ := rfl
  put_put _ _ _ := rfl

/-- The part `Mid` of `Leaf`. -/
def Leaf.toMid : Embedding Leaf Mid where
  view l := l.mid
  put mid _ := ⟨mid⟩
  view_put _ _ := rfl
  put_view _ := rfl
  put_put _ _ _ := rfl

/-- What fetching the information on a device does. -/
inductive FetchPlan where
  | fail (error : DeviceError)
  /-- It stores the model and the information, where they are given. -/
  | store (model info : Option String)

/-- What a method does. -/
inductive Script where
  /-- Returns an argument that must be given. -/
  | argument (name : String)
  /-- Returns an argument that must be given and be a text. -/
  | argumentText (name : String)
  /-- Returns an argument, or the text `unset`. -/
  | argumentOrUnset (name : String)
  | fail (error : DispatchError)
  | give (outcome : Outcome)
  /-- Returns how often a method was called. -/
  | calls
  /-- Returns the model. -/
  | model
  /-- Sets an argument, then goes on. -/
  | setArgument (name : String) (value : Json) (next : Script)
  /-- Emits a line, then goes on. -/
  | say (line : String) (next : Script)
  /-- Forgets the model and the information, then goes on. -/
  | forget (next : Script)

instance : Inhabited Script := ⟨.give .unit⟩

namespace Root

/-- Connects to a device. -/
def connect (connection : Connection) : Root := ⟨connection, connection.model, none, 0, 0⟩

/-- The device without its model and information. -/
def forget (r : Root) : Root := { r with model := none, info := none }

/-- Fetches the information by a plan. -/
def fetchInfo (plan : FetchPlan) (r : Root) : Fetch Root :=
  let r := { r with fetches := r.fetches + 1 }
  match plan with
  | .fail error => ⟨r, [.note "fetch"], .error error⟩
  | .store model info =>
    ⟨{ r with model := model.or r.model, info := info.or r.info }, [.note "fetch"], .ok ()⟩

end Root

namespace Script

/-- Follows a script. -/
def run : Script → Rest Root
  | argument name, arguments, r =>
    .ended r arguments (Decoration.asDispatch ((Arguments.require name arguments).map .value))
  | argumentText name, arguments, r =>
    .ended r arguments (Decoration.asDispatch ((Arguments.requireText name arguments).map .text))
  | argumentOrUnset name, arguments, r =>
    .ended r arguments (.ok (.value ((Arguments.given? name arguments).getD (.string "unset"))))
  | fail error, arguments, r => .ended r arguments (.error error)
  | give outcome, arguments, r => .ended r arguments (.ok outcome)
  | calls, arguments, r => .ended r arguments (.ok (.int r.calls))
  | model, arguments, r =>
    .ended r arguments (.ok (.value ((r.model.map Json.string).getD .null)))
  | setArgument name value next, arguments, r =>
    next.run (Entries.insert name value arguments) r
  | say line next, arguments, r => (next.run arguments r).after [.line line]
  | forget next, arguments, r => next.run arguments r.forget

/-- A method that follows a script. It notes on which type its command was declared. -/
def method (level : String) (script : Script) : Rest Root := fun arguments r =>
  (script.run arguments { r with calls := r.calls + 1 }).after [.note ("method " ++ level)]

end Script

end Switchboard.Rehearsal
