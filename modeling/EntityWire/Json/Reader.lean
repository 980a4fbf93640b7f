import EntityWire.Json.Basic

namespace EntityWire.Json

abbrev Reader := StateT (List Char) (Except Fault)

namespace Reader

variable {α σ : Type}

def fail (f : Fault) : Reader α := fun _ ↦ .error f

def complain (c : Complaint) : Reader α := fail (.content c)

def peek : Reader (Option Char) := fun s ↦ .ok (s.head?, s)

def drop : Reader Unit := fun s ↦ .ok ((), s.tail)

def next : Reader (Option Char) := fun s ↦ .ok (s.head?, s.tail)

def isBlank (c : Char) : Bool := c = ' ' || c = '\t' || c = '\r' || c = '\n'

def peekSolid : Reader (Option Char) := fun s ↦
  let rest := s.dropWhile isBlank
  .ok (rest.head?, rest)

def remaining : Reader (List Char) := fun s ↦ .ok (s, s)

def moreItems (first : Bool) : Reader Bool := do
  match ← peekSolid with
  | none => fail .listUnfinished
  | some ']' => return false
  | some c =>
    if first then return true
    else if c = ',' then
      drop
      match ← peekSolid with
      | some ']' => fail .trailingComma
      | some _ => return true
      | none => fail .valueUnfinished
    else fail .expectedListEnd

def moreKeys (first : Bool) : Reader Bool := do
  match ← peekSolid with
  | none => fail .objectUnfinished
  | some '}' => return false
  | some c =>
    if first then
      if c = '"' then return true else fail .keyNotText
    else if c = ',' then
      drop
      match ← peekSolid with
      | some '"' => return true
      | some '}' => fail .trailingComma
      | some _ => fail .keyNotText
      | none => fail .valueUnfinished
    else fail .expectedObjectEnd

def colon : Reader Unit := do
  match ← peekSolid with
  | some ':' => drop
  | some _ => fail .expectedColon
  | none => fail .objectUnfinished

def listEnd : Reader Unit := do
  match ← peekSolid with
  | some ']' => drop
  | some ',' =>
    drop
    match ← peekSolid with
    | some ']' => fail .trailingComma
    | _ => fail .trailingCharacters
  | some _ => fail .trailingCharacters
  | none => fail .listUnfinished

def items (item : Reader α) (first : Bool) : List Char → Reader (List α)
  | [] => fail .listUnfinished
  | _ :: bound => do
    if ← moreItems first then
      let a ← item
      let rest ← items item false bound
      return a :: rest
    else return []

def entries (entry : σ → Reader σ) (first : Bool) (state : σ) : List Char → Reader σ
  | [] => fail .objectUnfinished
  | _ :: bound => do
    if ← moreKeys first then
      let state ← entry state
      entries entry false state bound
    else return state

def listOf (item : Reader α) : Reader (List α) := do
  let as ← items item true (← remaining)
  drop
  return as

def objectOf (entry : σ → Reader σ) (start : σ) : Reader σ := do
  let state ← entries entry true start (← remaining)
  drop
  return state

end Reader

end EntityWire.Json
