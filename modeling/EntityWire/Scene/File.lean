import EntityWire.Json.Value

namespace EntityWire.Scene

open Json Json.Reader

/-- An entity and the members of its components, in the order they are written. -/
structure Entry where
  id : UInt64
  components : List (String × Json)

structure File where
  entries : List Entry

namespace Entry

def readId : Reader UInt64 := do
  let found (n : Json.Number) : Reader UInt64 :=
    match n with
    | .unsigned n => return n
    | .signed i => complain (.badValue (.signed i) "u64")
    | .float x => complain (.wrongKind (.float x) "u64")
  match ← peekSolid with
  | none => fail .valueUnfinished
  | some '-' => drop; found (← number true)
  | some c => if isDigit c then found (← number false) else wrongKind "u64"

def readComponents (depth : Nat) : Reader (List (String × Json)) := do
  match ← peekSolid with
  | none => fail .valueUnfinished
  | some '{' =>
    drop
    let members ← objectOf (fun members ↦ do return (← member (value depth)) :: members) []
    return members.reverse
  | some _ => wrongKind "a map"

structure Found where
  id : Option UInt64 := none
  components : Option (List (String × Json)) := none

def readMember (depth : Nat) (found : Found) : Reader Found := do
  drop
  let key ← text
  if key = "id" then
    if found.id.isSome then complain (.duplicateField key)
    else
      colon
      return { found with id := some (← readId) }
  else if key = "components" then
    if found.components.isSome then complain (.duplicateField key)
    else
      colon
      return { found with components := some (← readComponents depth) }
  else
    colon
    skipValue
    return found

def read (depth : Nat) : Reader Entry := do
  match ← peekSolid with
  | none => fail .valueUnfinished
  | some '[' =>
    drop
    if ← moreItems true then
      let id ← readId
      let components ← if ← moreItems false then readComponents depth else pure []
      listEnd
      return ⟨id, components⟩
    else complain (.wrongLength 0 (elementsText "struct EntityEntry" 2))
  | some '{' =>
    drop
    let found ← objectOf (readMember depth) {}
    match found.id with
    | some id => return ⟨id, found.components.getD []⟩
    | none => complain (.missingField "id")
  | some _ => wrongKind "struct EntityEntry"

end Entry

namespace File

/-- The values of components stand inside four brackets: of the file, the list of entities, the
entity and its components. -/
def valueDepth : Nat := depthLimit - 4

def readEntries : Reader (List Entry) := do
  match ← peekSolid with
  | none => fail .valueUnfinished
  | some '[' => drop; listOf (Entry.read valueDepth)
  | some _ => wrongKind "a sequence"

def readMember (found : Option (List Entry)) : Reader (Option (List Entry)) := do
  drop
  let key ← text
  if key = "entities" then
    if found.isSome then complain (.duplicateField key)
    else
      colon
      return some (← readEntries)
  else
    colon
    skipValue
    return found

def read : Reader File := do
  match ← peekSolid with
  | none => fail .valueUnfinished
  | some '[' =>
    drop
    if ← moreItems true then
      let entries ← readEntries
      listEnd
      return ⟨entries⟩
    else complain (.wrongLength 0 (elementsText "struct SceneFile" 1))
  | some '{' =>
    drop
    match ← objectOf readMember none with
    | some entries => return ⟨entries⟩
    | none => complain (.missingField "entities")
  | some _ => wrongKind "struct SceneFile"

/-- The whole text as a scene file: nothing but blanks may follow it. -/
def parse (s : String) : Except Fault File := do
  let (file, rest) ← read s.toList
  if rest.all isBlank then return file else .error .trailingCharacters

end File

end EntityWire.Scene
