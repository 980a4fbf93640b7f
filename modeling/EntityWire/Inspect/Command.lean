import EntityWire.Inspect.Arguments
import EntityWire.Inspect.Directory
import EntityWire.Inspect.Report

namespace EntityWire.Inspect

variable {K : Type} [Kinds K] (r : Registry K)

def column (name : String) : String :=
  name ++ String.ofList (List.replicate (24 - name.length) ' ')

def listKinds : Report where
  lines := r.descriptors.map fun d ↦ column d.name ++ " " ++ d.id.text ++ "  " ++ d.typeName
  log := []
  outcome := .ok ()

def readScene (path : String) (content : Except FileError String) :
    List String × Except (List String) (Scene K) :=
  let started := "loading scene file=" ++ path
  match content with
  | .error e => ([started], .error ["cannot read scene file " ++ path, e.message])
  | .ok text =>
    match Scene.load r text with
    | .error e => ([started], .error (("cannot load scene file " ++ path) :: e.chain))
    | .ok scene =>
      ([started, "scene loaded entities=" ++ toString scene.members.length ++ " components=" ++
        toString scene.componentCount], .ok scene)

def sceneLine : Entity ⊕ Handle K → Except (List String) String
  | .inl entity => .ok entity.text
  | .inr h =>
    match r.nameOfHandle h with
    | .ok name => .ok ("  " ++ name ++ ": " ++ display h)
    | .error e => .error e.chain

def loadScene (path : String) (content : Except FileError String) : Report :=
  match readScene r path content with
  | (log, .error chain) => ⟨[], log, .error chain⟩
  | (log, .ok scene) =>
    let (lines, outcome) := printed (sceneLine r)
      (scene.members.flatMap fun m ↦ .inl m.entity :: m.components.map .inr)
    ⟨lines, log, outcome⟩

def recordLine (record : Message.Record) : Except (List String) String :=
  match r.nameOfId record.component with
  | .ok name => .ok (record.entity.text ++ " " ++ name ++ " " ++ Hex.write record.data)
  | .error e => .error e.chain

/-- The report of a dump, and what it writes to which file if all went well. -/
structure Dump where
  report : Report
  write : Option (String × Octets)

def dumpScene (path : String) (content : Except FileError String) (output : Option String) : Dump :=
  match readScene r path content with
  | (log, .error chain) => ⟨⟨[], log, .error chain⟩, none⟩
  | (log, .ok scene) =>
    match scene.records r with
    | .error e => ⟨⟨[], log, .error e.chain⟩, none⟩
    | .ok records =>
      match printed (recordLine r) records with
      | (lines, .error chain) => ⟨⟨lines, log, .error chain⟩, none⟩
      | (lines, .ok ()) =>
        ⟨⟨lines, log, .ok ()⟩, output.map fun file ↦ (file, Wire.encode records)⟩

def Dump.settle (d : Dump) (written : Except FileError Unit) : Report :=
  match d.write, written with
  | none, _ => d.report
  | some (file, _), .error e =>
    { d.report with outcome := .error ["cannot write " ++ file, e.message] }
  | some (file, octets), .ok () =>
    { d.report with log := d.report.log ++
        ["records written file=" ++ file ++ " bytes=" ++ toString octets.length] }

def Command.run (d : Directory) : Command → Report × Directory
  | .list => (listKinds r, d)
  | .load scene => (loadScene r scene (d.readText scene), d)
  | .dump scene output =>
    let dumped := dumpScene r scene (d.readText scene) output
    match dumped.write with
    | none => (dumped.report, d)
    | some (file, octets) =>
      match d.write file octets with
      | .ok d => (dumped.settle (.ok ()), d)
      | .error e => (dumped.settle (.error e), d)

def readyLine : String :=
  "component registry ready components=" ++ toString r.size ++ " builtins=" ++
    toString Builtin.all.length

structure Run where
  exitCode : Nat
  output : String
  errorOutput : String
  log : List String
  directory : Directory

def Rejection.run (d : Directory) : Rejection → Run
  | .help text => ⟨0, text, "", [], d⟩
  | rejection => ⟨2, "", rejection.message, [], d⟩

def run (d : Directory) (arguments : List String) : Run :=
  match Command.parse arguments with
  | .error rejection => rejection.run d
  | .ok command =>
    let (report, d) := command.run .builtin d
    ⟨report.exitCode, report.output, report.errorOutput, readyLine .builtin :: report.log, d⟩

end EntityWire.Inspect
