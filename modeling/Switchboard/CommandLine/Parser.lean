import Switchboard.CommandLine.Command

/-!
# Reading a command line

The words of a command line are read from left to right, and the first fault ends the reading. A
subcommand takes over all words after its name. What a command must have been given is checked only
when there are no more words, for the innermost command first.

An option without a value attached waits for the next word. A value is read when the next argument
begins or the words end, so a fault in a value may be overtaken by a word that has no place at all.
-/

namespace Switchboard.CommandLine

/-- The argument that was begun last and is not read yet. -/
inductive Pending where
  | nothing
  /-- An option waits for its word. -/
  | awaiting (arg : Arg) (reader : Reader)
  /-- An argument has its word. -/
  | gathered (arg : Arg) (reader : Reader) (word : String)

/-- One command while its words are read. -/
structure Frame where
  command : Command
  /-- The values of the arguments given so far. -/
  values : Entries Value
  pending : Pending
  /-- How many positional arguments have been begun. -/
  begun : Nat
  /-- Whether a `--` has been read, after which all words are positional. -/
  trailing : Bool

/-- Where the reading stands. -/
inductive State where
  /-- In a command; the commands around it, the innermost first. -/
  | reading (frame : Frame) (outer : List Frame)
  /-- After a word that any-word subcommands have been chosen with. -/
  | skipping (name : String) (frame : Frame) (outer : List Frame)
  /-- After the word `help`, about some command. -/
  | helping (command : Command)

/-- What a command line was found to say: the values of the root command, and each chosen
subcommand with its values, from the outside in. -/
structure Matches where
  values : Entries Value
  path : List (String × Entries Value)

/-- The chosen subcommand and what was found for it. -/
def Matches.subcommand? (found : Matches) : Option (String × Matches) :=
  match found.path with
  | [] => none
  | (name, values) :: path => some (name, ⟨values, path⟩)

/-- The text of an argument, if it has one. -/
def Matches.text? (id : String) (found : Matches) : Option String :=
  match Entries.get? id found.values with
  | some (.text s) => some s
  | _ => none

/-- The count of an argument. -/
def Matches.count (id : String) (found : Matches) : Nat :=
  match Entries.get? id found.values with
  | some (.count n) => n
  | _ => 0

namespace Frame

/-- A command before its first word. -/
def start (command : Command) : Frame := ⟨command, [], .nothing, 0, false⟩

/-- Whether an argument has been given. -/
def has (frame : Frame) (arg : Arg) : Bool := (Entries.get? arg.id frame.values).isSome

/-- Records the value of an argument. -/
def put (frame : Frame) (arg : Arg) (value : Value) : Frame :=
  { frame with values := Entries.insert arg.id value frame.values }

/-- Reads the word of an argument, which must not have been given before. -/
def give (frame : Frame) (arg : Arg) (reader : Reader) (word : String) : Except Fault Frame :=
  if frame.has arg then .error .argumentConflict else (reader.read word).map (frame.put arg)

/-- Reads the argument that was begun last. -/
def resolve (frame : Frame) : Except Fault Frame :=
  match frame.pending with
  | .nothing => .ok frame
  | .awaiting .. => .error .invalidValue
  | .gathered arg reader word => { frame with pending := .nothing }.give arg reader word

/-- Ends the reading with a request, unless the argument begun last has a fault. -/
def request (frame : Frame) (fault : Fault) : Except Fault Frame :=
  frame.resolve.bind fun _ => .error fault

/-- The greatest count. -/
def greatestCount : Nat := 255

/-- Counts an argument once more. -/
def count (frame : Frame) (arg : Arg) : Frame :=
  frame.put arg (.count (min (Matches.count arg.id ⟨frame.values, []⟩ + 1) greatestCount))

/-- Reads an argument that was given by its name, maybe with a value attached. -/
def begin (frame : Frame) (arg : Arg) (attached : Option String) : Except Fault Frame :=
  match arg.shape, attached with
  | .positional _, _ => .error .unknownArgument
  | .option _ reader, some word => frame.resolve.bind (·.give arg reader word)
  | .option _ reader, none =>
    frame.resolve.map fun frame => { frame with pending := .awaiting arg reader }
  | .flag _, none =>
    frame.resolve.bind fun frame =>
      if frame.has arg then .error .argumentConflict else .ok (frame.put arg (.bool true))
  | .count .., none => frame.resolve.map (·.count arg)
  | _, some _ => .error .tooManyValues

/-- Reads a word with two dashes in front, without them. -/
def long (frame : Frame) (name : String) (attached : Option String) : Except Fault Frame :=
  match frame.command.args.find? (·.shape.long? = some name) with
  | some arg => frame.begin arg attached
  | none =>
    if name = "help" then
      if attached.isSome then .error .tooManyValues else frame.request .displayHelp
    else if name = "version" ∧ frame.command.hasVersion then
      if attached.isSome then .error .tooManyValues else frame.request .displayVersion
    else .error .unknownArgument

/-- Reads one letter of a word with one dash in front. -/
def letter (frame : Frame) (c : Char) : Except Fault Frame :=
  match frame.command.args.find? (·.shape.letter? = some c) with
  | some arg => frame.begin arg none
  | none =>
    if c = 'h' then frame.request .displayHelp
    else if c = 'V' ∧ frame.command.hasVersion then frame.request .displayVersion
    else .error .unknownArgument

/-- What is wrong with a word that has no place. -/
def surplus (frame : Frame) (word : String) : Fault :=
  let command := frame.command
  let isSubcommand := (command.find? word).isSome || command.isHelpWord word
  if frame.trailing && isSubcommand then .unknownArgument
  else if !command.subcommands.isEmpty && command.positionals.isEmpty then .invalidSubcommand
  else .unknownArgument

/-- Reads a positional word. -/
def positional (frame : Frame) (outer : List Frame) (word : String) : Except Fault State :=
  match frame.command.positionals[frame.begun]? with
  | some (arg, reader) =>
    frame.resolve.map fun frame =>
      .reading { frame with pending := .gathered arg reader word, begun := frame.begun + 1 } outer
  | none =>
    if frame.command.takesAnySubcommand then .ok (.skipping word frame outer)
    else .error (frame.surplus word)

/-- Reads a word that cannot be the name of a subcommand. -/
def word (frame : Frame) (outer : List Frame) (text : String) : Except Fault State :=
  match text.toList with
  | ['-', '-'] => .ok (.reading { frame with trailing := true } outer)
  | '-' :: '-' :: rest =>
    let name := String.ofList (rest.takeWhile (· != '='))
    let attached :=
      match rest.dropWhile (· != '=') with
      | _ :: value => some (String.ofList value)
      | [] => none
    (frame.long name attached).map (.reading · outer)
  | '-' :: c :: rest => ((c :: rest).foldlM letter frame).map (.reading · outer)
  | _ =>
    match frame.pending with
    | .awaiting arg reader =>
      .ok (.reading { frame with pending := .gathered arg reader text } outer)
    | _ => frame.positional outer text

/-- Whether an option waits for its word. -/
def isAwaiting (frame : Frame) : Bool :=
  match frame.pending with
  | .awaiting .. => true
  | _ => false

/-- Reads a word. -/
def step (frame : Frame) (outer : List Frame) (text : String) : Except Fault State :=
  if frame.trailing then frame.positional outer text
  else if frame.isAwaiting then frame.word outer text
  else
    match frame.command.find? text with
    | some command => .ok (.reading (start command) (frame :: outer))
    | none =>
      if frame.command.isHelpWord text then .ok (.helping frame.command)
      else frame.word outer text

/-! ## The end of the words -/

/-- Gives an argument its default, if it has one and was not given. -/
def addDefault (values : Entries Value) (arg : Arg) : Except Fault (Entries Value) :=
  if (Entries.get? arg.id values).isSome then .ok values
  else
    let value :=
      match arg.shape, arg.default with
      | .positional reader, some word => (reader.read word).map some
      | .option _ reader, some word => (reader.read word).map some
      | .flag _, word => (readBool (word.getD "false")).map some
      | .count .., _ => .ok (some (.count 0))
      | _, none => .ok none
    value.map fun value =>
      match value with
      | some value => Entries.insert arg.id value values
      | none => values

/-- Checks that a command was given what it needs. -/
def check (frame : Frame) (hasSubcommand : Bool) : Except Fault Unit :=
  let needs := frame.command.needsSubcommand && !hasSubcommand
  if needs && frame.values.isEmpty then .error .nothingGiven
  else if needs then .error .missingSubcommand
  else if frame.command.args.any fun arg => arg.required && !frame.has arg then
    .error .missingRequiredArgument
  else .ok ()

/-- The values of a command at the end of the words. -/
def close (frame : Frame) (hasSubcommand : Bool) : Except Fault (Entries Value) := do
  let frame ← frame.resolve
  let values ← frame.command.args.foldlM addDefault frame.values
  frame.check hasSubcommand
  return values

/-- Closes a command and those around it; `path` is what was found below it. -/
def closeAll (frame : Frame) (path : List (String × Entries Value)) :
    List Frame → Except Fault Matches
  | [] => (frame.close !path.isEmpty).map fun values => ⟨values, path⟩
  | parent :: outer =>
    (frame.close !path.isEmpty).bind fun values =>
      parent.closeAll ((frame.command.name, values) :: path) outer

end Frame

namespace State

/-- Reads a word. -/
def step (word : String) : State → Except Fault State
  | reading frame outer => frame.step outer word
  | skipping name frame outer => .ok (skipping name frame outer)
  | helping command =>
    match command.find? word with
    | some below => .ok (helping below)
    | none =>
      if command.isHelpWord word then .ok (helping (.simple word []))
      else .error .invalidSubcommand

/-- What was found when the words end. -/
def finish : State → Except Fault Matches
  | reading frame outer => frame.closeAll [] outer
  | skipping name frame outer => frame.closeAll [(name, [])] outer
  | helping _ => .error .displayHelp

end State

/-- Reads a command line, which does not hold the program's name. -/
def Command.parse (command : Command) (words : List String) : Except Fault Matches :=
  (words.foldlM (fun state word => State.step word state) (.reading (.start command) [])).bind
    State.finish

end Switchboard.CommandLine
