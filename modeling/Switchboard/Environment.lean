import Switchboard.Entries
import Switchboard.Text.Utf8

/-!
# The environment

The variables that are set, and what they are set to: rows of bytes, which need not be texts. Where
a text is looked up, a variable that is set to anything else counts as one that is not set.
-/

namespace Switchboard

namespace Environment

/-- What a variable is set to: a text, or bytes that are none. -/
inductive Value where
  | text (word : String)
  | bytes (bytes : List UInt8) (notText : Text.Utf8.decodeStrict? bytes = none)
  deriving DecidableEq

namespace Value

/-- The value that a row of bytes is. -/
def ofBytes (bytes : List UInt8) : Value :=
  match h : Text.Utf8.decodeStrict? bytes with
  | some word => .text word
  | none => .bytes bytes h

/-- The text that a value is, if it is one. -/
def text? : Value → Option String
  | .text word => some word
  | .bytes .. => none

end Value

end Environment

/-- The variables of the environment that are set. -/
abbrev Environment := Entries Environment.Value

/-- Variables that are all set to texts. -/
instance : Coe (Entries String) Environment where
  coe texts := texts.map fun (name, word) => (name, .text word)

namespace Environment

/-- The text that a variable is set to, if it is set to one. -/
def text? (env : Environment) (name : String) : Option String :=
  (Entries.get? name env).bind Value.text?

/-! ## As the system hands it over -/

/-- The variable that a row of bytes sets: its name, an equals sign, and its value. -/
def entry? (row : List UInt8) : Option (String × Value) :=
  let (name, rest) := row.span (· != '='.toUInt8)
  match rest with
  | [] => none
  | _ :: value => (Text.Utf8.decodeStrict? name).map fun name => (name, .ofBytes value)

/-- The rows of a block of bytes; each ends in a zero byte. -/
def rows (block : List UInt8) : List (List UInt8) :=
  block.foldr (fun b rows => if b = 0 then [] :: rows else rows.modifyHead (b :: ·)) [[]]

/-- The environment in a block of bytes. Of two variables of one name the first counts. -/
def ofBlock (block : List UInt8) : Environment :=
  Entries.ofList ((rows block).filterMap entry?).reverse

example :
    let env := ofBlock [0x41, 0x3D, 0x62, 0, 0x41, 0x3D, 0x63, 0, 0x42, 0x3D, 0xFF, 0]
    env.text? "A" = some "b" ∧ env.text? "B" = none ∧ (Entries.get? "B" env).isSome = true := by
  refine ⟨rfl, rfl, rfl⟩

end Environment

end Switchboard
