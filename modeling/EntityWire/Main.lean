import EntityWire.Inspect.Command

namespace EntityWire.Inspect

def FileError.ofSystem : IO.Error → FileError
  | .noFileOrDirectory .. => .absent
  | .inappropriateType _ code _ => if code = 21 then .isDirectory else .notDirectory
  | .invalidArgument .. => .nameTooLong
  | .permissionDenied .. => .failed "Permission denied (os error 13)"
  | e => .failed e.toString

def readFile (path : String) : IO (Except FileError String) := do
  try
    let octets ← IO.FS.readBinFile path
    return (Utf8.decode octets.data.toList).mapError fun _ ↦ .notText
  catch e => return .error (.ofSystem e)

def writeFile (path : String) (octets : Octets) : IO (Except FileError Unit) := do
  try
    IO.FS.writeBinFile path ⟨octets.toArray⟩
    return .ok ()
  catch e => return .error (.ofSystem e)

def Report.print (r : Report) : IO UInt32 := do
  for line in r.log do
    IO.println (" INFO " ++ line)
  IO.print r.output
  IO.eprint r.errorOutput
  return UInt32.ofNat r.exitCode

def Command.perform {K : Type} [Kinds K] (r : Registry K) : Command → IO Report
  | .list => return listKinds r
  | .load scene => return loadScene r scene (← readFile scene)
  | .dump scene output => do
    let dump := dumpScene r scene (← readFile scene) output
    match dump.write with
    | none => return dump.report
    | some (file, octets) => return dump.settle (← writeFile file octets)

end EntityWire.Inspect

open EntityWire EntityWire.Inspect in
def main (arguments : List String) : IO UInt32 := do
  match Command.parse arguments with
  | .error (.help text) =>
    IO.print text
    return 0
  | .error rejection =>
    IO.eprintln rejection.message
    return 2
  | .ok command =>
    IO.println (" INFO " ++ readyLine .builtin)
    (← command.perform .builtin).print
