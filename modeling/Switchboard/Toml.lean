import Switchboard.Binary64

/-!
# TOML values and tables

The values of TOML documents, and how the statements of a document build its table. A document never
says a thing twice: a key has one value, a table has one header, and a table that was begun one way
cannot be added to in another. To tell, a table remembers how it came to be.
-/

namespace Switchboard

/-- How a table came to be. -/
inductive Toml.Origin where
  /-- By its header; the table of the document counts as such. -/
  | header
  /-- By the header of a table inside it. -/
  | implied
  /-- By a key with dots. -/
  | dotted
  /-- Written in braces, which is all there is to it. -/
  | closed
  deriving DecidableEq, Repr

/-- A value of a TOML document. -/
inductive Toml where
  | string (s : String)
  | integer (n : Int)
  | float (x : Binary64)
  | bool (b : Bool)
  /-- A date, a time or both, as written. -/
  | datetime (text : String)
  | array (items : List Toml)
  | table (origin : Toml.Origin) (members : List (String × Toml))
  /-- Tables that share one header in double brackets. -/
  | tables (items : List (List (String × Toml)))
  deriving Repr, Inhabited

namespace Toml

/-- The members of a table. -/
abbrev Members := List (String × Toml)

/-- The value under a key. -/
def find? (key : String) : Members → Option Toml
  | [] => none
  | (other, value) :: members => if other = key then some value else find? key members

/-- Replaces the value under a key, or adds it at the end. -/
def set (key : String) (value : Toml) : Members → Members
  | [] => [(key, value)]
  | (other, old) :: members =>
    if other = key then (key, value) :: members else (other, old) :: set key value members

/-- How a table is changed: by how it came to be and by what it holds. -/
abbrev Change := Origin → Members → Option Members

/-- Replaces the last of several tables. -/
def changeLast (change : Change) : List Members → Option (List Members)
  | [] => none
  | [members] => (change .header members).map fun members => [members]
  | members :: rest => (changeLast change rest).map (members :: ·)

/-- Changes the table at the end of a path, making the tables on the way that are not there. A path
of dots does not go through tables that have a header of their own. -/
def descend (dots : Bool) (change : Change) : List String → Change
  | [] => change
  | key :: path => fun _ members =>
    let next := descend dots change path
    match find? key members with
    | none =>
      let origin := if dots then Origin.dotted else .implied
      (next origin []).map fun inner => set key (.table origin inner) members
    | some (.table .closed _) => none
    | some (.table origin inner) =>
      if dots && origin == .header then none
      else (next origin inner).map fun inner => set key (.table origin inner) members
    | some (.tables items) =>
      (changeLast next items).map fun items => set key (.tables items) members
    | some _ => none

/-- Adds a key with a value. Behind a path of dots, the table must have been made by dots too. -/
def addLast (behindDots : Bool) (key : String) (value : Toml) : Change := fun origin members =>
  if (origin == .dotted) != behindDots || (find? key members).isSome then none
  else some (members ++ [(key, value)])

/-- Adds a value under a key with dots, which is given by its parts. -/
def assign (key : List String) (value : Toml) : Change :=
  let path := key.dropLast
  descend true (addLast (!path.isEmpty) (key.getLastD "") value) path

/-- Begins the table of a header. A table that was only implied so far is there already. -/
def beginTable (header : List String) : Change :=
  let key := header.getLastD ""
  descend false
    (fun _ members =>
      match find? key members with
      | none => some (members ++ [(key, .table .header [])])
      | some (.table .implied inner) => some (set key (.table .header inner) members)
      | some _ => none)
    header.dropLast

/-- Begins one more of the tables that share a header. -/
def beginNextTable (header : List String) : Change :=
  let key := header.getLastD ""
  descend false
    (fun _ members =>
      match find? key members with
      | none => some (members ++ [(key, .tables [[]])])
      | some (.tables items) => some (set key (.tables (items ++ [[]])) members)
      | some _ => none)
    header.dropLast

/-- A table in braces, out of its keys and values. -/
def ofPairs? (pairs : List (List String × Toml)) : Option Toml :=
  (pairs.foldlM (fun members (key, value) => assign key value .closed members) []).map
    (.table .closed)

end Toml

end Switchboard
