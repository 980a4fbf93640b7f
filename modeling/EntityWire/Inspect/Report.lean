import EntityWire.Scene.Basic

namespace EntityWire

def RegistryError.chain (e : RegistryError) : List String :=
  e.message ::
    match e with
    | .content e => e.causes
    | _ => []

def Scene.LoadError.chain (e : Scene.LoadError) : List String :=
  e.message ::
    match e with
    | .parse fault => [fault.message]
    | .encode _ _ source => source.message :: source.causes
    | .component _ _ source => source.chain

namespace Inspect

structure Report where
  lines : List String
  log : List String
  outcome : Except (List String) Unit

/-- Lines one after the other, up to the first that cannot be made. -/
def printed {α : Type} (line : α → Except (List String) String) :
    List α → List String × Except (List String) Unit
  | [] => ([], .ok ())
  | a :: rest =>
    match line a with
    | .error chain => ([], .error chain)
    | .ok text =>
      let (lines, outcome) := printed line rest
      (text :: lines, outcome)

def indented (spaces s : String) : String := ("\n" ++ spaces).intercalate (s.splitOn "\n")

def causes : List String → String
  | [] => ""
  | [cause] => "\n\nCaused by:\n    " ++ indented "    " cause
  | all => "\n\nCaused by:" ++ String.join (all.zipIdx.map fun (cause, i) ↦
      let number := toString i
      "\n" ++ String.ofList (List.replicate (5 - number.length) ' ') ++ number ++ ": " ++
        indented "       " cause)

def failureText : List String → String
  | [] => ""
  | attempted :: rest => "Error: " ++ attempted ++ causes rest ++ "\n"

namespace Report

def output (r : Report) : String := String.join (r.lines.map (· ++ "\n"))

def errorOutput (r : Report) : String :=
  match r.outcome with
  | .ok () => ""
  | .error chain => failureText chain

def exitCode (r : Report) : Nat :=
  match r.outcome with
  | .ok () => 0
  | .error _ => 1

end Report

end Inspect

end EntityWire
