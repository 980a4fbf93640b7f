import EntityWire.Text.Control

namespace EntityWire.Inspect

inductive Command
  | list
  | load (scene : String)
  | dump (scene : String) (output : Option String)
  deriving DecidableEq, Repr

/-- Why there is no command to run: a fault of the arguments, or a request for help. -/
inductive Rejection
  | unknownCommand (argument : String)
  | unexpected (argument : String)
  | unexpectedValue (value : String)
  | repeatedOutput
  | outputWithoutValue
  | sceneWithoutValue
  | sceneMissing
  | noCommand
  | help (text : String)
  deriving DecidableEq, Repr

def about : String := "Inspect registered ECS components and scenes"

namespace Rejection

def report : Rejection → String
  | .unknownCommand argument => "error: unrecognized subcommand '" ++ shownText argument ++ "'"
  | .unexpected argument => "error: unexpected argument '" ++ shownText argument ++ "' found"
  | .unexpectedValue value =>
    "error: unexpected value '" ++ shownText value ++
      "' for '--help' found; no more were expected"
  | .repeatedOutput => "error: the argument '--output <OUTPUT>' cannot be used multiple times"
  | .outputWithoutValue =>
    "error: a value is required for '--output <OUTPUT>' but none was supplied"
  | .sceneWithoutValue => "error: a value is required for '<SCENE>' but none was supplied"
  | .sceneMissing => "error: the following required arguments were not provided:"
  | .noCommand => about
  | .help text => text

def message (r : Rejection) : String := firstLine r.report

end Rejection

inductive CommandName
  | list
  | load
  | dump
  deriving DecidableEq, Repr

namespace CommandName

def ofString? : String → Option CommandName
  | "list" => some .list
  | "load" => some .load
  | "dump" => some .dump
  | _ => none

def takesScene (c : CommandName) : Bool := c ≠ .list

def takesOutput (c : CommandName) : Bool := c = .dump

def help : CommandName → String
  | .list => "List every registered component with its wire id and Rust type\n\n" ++
      "Usage: engine_inspect list\n\nOptions:\n  -h, --help  Print help\n"
  | .load => "Decode a scene file and print its components\n\n" ++
      "Usage: engine_inspect load <SCENE>\n\n" ++
      "Arguments:\n  <SCENE>  Path to a JSON scene file\n\nOptions:\n  -h, --help  Print help\n"
  | .dump => "Decode a scene file and print each component's serialized bytes\n\n" ++
      "Usage: engine_inspect dump [OPTIONS] <SCENE>\n\n" ++
      "Arguments:\n  <SCENE>  Path to a JSON scene file\n\nOptions:\n" ++
      "  -o, --output <OUTPUT>  Also write the records, MessagePack-encoded, to this file\n" ++
      "  -h, --help             Print help\n"

end CommandName

def overview : String := about ++ "\n\nUsage: engine_inspect <COMMAND>\n\nCommands:\n" ++
  "  list  List every registered component with its wire id and Rust type\n" ++
  "  load  Decode a scene file and print its components\n" ++
  "  dump  Decode a scene file and print each component's serialized bytes\n" ++
  "  help  Print this message or the help of the given subcommand(s)\n\n" ++
  "Options:\n  -h, --help  Print help\n"

def helpOnHelp : String := "Print this message or the help of the given subcommand(s)\n\n" ++
  "Usage: engine_inspect help [COMMAND]...\n\n" ++
  "Arguments:\n  [COMMAND]...  Print help for the subcommand(s)\n"

inductive Shape
  | dashes
  | long (name : String) (value : Option String)
  | short (flag : Char) (rest : List Char)
  | plain

def Shape.of (argument : String) : Shape :=
  match argument.toList with
  | ['-', '-'] => .dashes
  | '-' :: '-' :: s =>
    match s.span (· ≠ '=') with
    | (name, []) => .long (String.ofList name) none
    | (name, _ :: value) => .long (String.ofList name) (some (String.ofList value))
  | '-' :: flag :: rest => .short flag rest
  | _ => .plain

inductive Pending
  | scene (value : String)
  | output (value : Option String)

structure Taken where
  scene : Option String := none
  output : Option String := none
  pending : Option Pending := none
  sceneSeen : Bool := false
  afterDashes : Bool := false

namespace Taken

variable (t : Taken)

def awaitsValue : Bool := t.pending matches some (.output none)

def takeOutput (value : String) : Except Rejection Taken :=
  if t.output.isSome then .error .repeatedOutput
  else if value = "" then .error .outputWithoutValue
  else .ok { t with output := some value }

def settle : Except Rejection Taken :=
  let rest := { t with pending := none }
  match t.pending with
  | none => .ok rest
  | some (.scene value) =>
    if value = "" then .error .sceneWithoutValue else .ok { rest with scene := some value }
  | some (.output none) => .error .outputWithoutValue
  | some (.output (some value)) => rest.takeOutput value

def takePlain (c : CommandName) (argument : String) : Except Rejection Taken :=
  if c.takesScene && !t.sceneSeen then do
    let t ← t.settle
    return { t with pending := some (.scene argument), sceneSeen := true }
  else .error (.unexpected argument)

def takeMark (value : Option String) : Except Rejection Taken := do
  let t ← t.settle
  match value with
  | some value => t.takeOutput value
  | none => return { t with pending := some (.output none) }

def takeHelp (c : CommandName) : Except Rejection Taken := do
  let _ ← t.settle
  .error (.help c.help)

def take (c : CommandName) (argument : String) : Except Rejection Taken :=
  if t.afterDashes then t.takePlain c argument
  else
    match Shape.of argument with
    | .dashes => .ok { t with afterDashes := true }
    | .long name value =>
      if name = "output" && c.takesOutput then t.takeMark value
      else if name = "help" then
        match value with
        | none => t.takeHelp c
        | some value => .error (.unexpectedValue value)
      else .error (.unexpected ("--" ++ name))
    | .short flag rest =>
      if flag = 'o' && c.takesOutput then
        match rest with
        | [] => t.takeMark none
        | '=' :: value => t.takeMark (some (String.ofList value))
        | value => t.takeMark (some (String.ofList value))
      else if flag = 'h' then t.takeHelp c
      else .error (.unexpected (String.ofList ['-', flag]))
    | .plain =>
      if t.awaitsValue then .ok { t with pending := some (.output (some argument)) }
      else t.takePlain c argument

def finish (c : CommandName) : Except Rejection Command := do
  let t ← t.settle
  match c, t.scene with
  | .list, _ => return .list
  | _, none => .error .sceneMissing
  | .load, some scene => return .load scene
  | .dump, some scene => return .dump scene t.output

end Taken

def helpOn : List String → Rejection
  | [] => .help overview
  | argument :: rest =>
    let text? :=
      if argument = "help" then some helpOnHelp
      else (CommandName.ofString? argument).map CommandName.help
    match text?, rest with
    | none, _ => .unknownCommand argument
    | some text, [] => .help text
    | some _, argument :: _ => .unknownCommand argument

def Command.parse : List String → Except Rejection Command
  | [] => .error .noCommand
  | argument :: rest =>
    match CommandName.ofString? argument with
    | some c => do (← rest.foldlM (fun t a ↦ Taken.take t c a) {}).finish c
    | none =>
      if argument = "help" then .error (helpOn rest)
      else
        match Shape.of argument with
        | .dashes =>
          match rest with
          | [] => .error .noCommand
          | a :: _ =>
            if a = "help" || (CommandName.ofString? a).isSome then .error (.unexpected a)
            else .error (.unknownCommand a)
        | .long name value =>
          match name, value with
          | "help", none => .error (.help overview)
          | "help", some value => .error (.unexpectedValue value)
          | name, _ => .error (.unexpected ("--" ++ name))
        | .short flag _ =>
          if flag = 'h' then .error (.help overview)
          else .error (.unexpected (String.ofList ['-', flag]))
        | .plain => .error (.unknownCommand argument)

end EntityWire.Inspect
