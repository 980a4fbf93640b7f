import EntityWire.Json.Number
import EntityWire.Json.Text

namespace EntityWire.Json

def ofMembers (members : List (String × Json)) : Json := .object (OrderedMap.ofList members).entries

namespace Reader

def depthLimit : Nat := 127

def literal : List Char → Reader Unit
  | [] => pure ()
  | c :: cs => do
    match ← next with
    | none => fail .valueUnfinished
    | some d => if d = c then literal cs else fail .expectedLiteral

def member (inner : Reader Json) : Reader (String × Json) := do
  drop
  let key ← text
  colon
  return (key, ← inner)

/-- A value by its first character; what stands in brackets is read by `inner`, if brackets may be
opened at all. -/
def valueAround (inner : Option (Reader Json)) : Reader Json := do
  match ← peekSolid with
  | none => fail .valueUnfinished
  | some 'n' => drop; literal ['u', 'l', 'l']; return .null
  | some 't' => drop; literal ['r', 'u', 'e']; return .bool true
  | some 'f' => drop; literal ['a', 'l', 's', 'e']; return .bool false
  | some '-' => drop; return (← number true).value
  | some '"' => drop; return .text (← text)
  | some '[' =>
    match inner with
    | none => fail .tooDeep
    | some inner => drop; return .array (← listOf inner)
  | some '{' =>
    match inner with
    | none => fail .tooDeep
    | some inner =>
      drop
      let members ← objectOf (fun members ↦ do return (← member inner) :: members) []
      return ofMembers members.reverse
  | some c => if isDigit c then return (← number false).value else fail .expectedValue

def value : Nat → Reader Json
  | 0 => valueAround none
  | depth + 1 => valueAround (some (value depth))

/-- Complains of a value of another kind than expected. A literal, a number or a text is read
first, so that its own faults go before. -/
def wrongKind {α : Type} (expected : String) : Reader α := do
  let unexpected (found : Found) : Reader α := complain (.wrongKind found expected)
  match ← peek with
  | some 'n' => drop; literal ['u', 'l', 'l']; unexpected .unit
  | some 't' => drop; literal ['r', 'u', 'e']; unexpected (.bool true)
  | some 'f' => drop; literal ['a', 'l', 's', 'e']; unexpected (.bool false)
  | some '-' => drop; unexpected (← number true).found
  | some '"' => drop; unexpected (.text (← text))
  | some '[' => unexpected .sequence
  | some '{' => unexpected .mapping
  | some c => if isDigit c then unexpected (← number false).found else fail .expectedValue
  | none => fail .expectedValue

inductive Bracket
  | list
  | object
  deriving DecidableEq

namespace Bracket

def closing : Bracket → Char
  | .list => ']'
  | .object => '}'

def unfinished : Bracket → Fault
  | .list => .listUnfinished
  | .object => .objectUnfinished

def expectedEnd : Bracket → Fault
  | .list => .expectedListEnd
  | .object => .expectedObjectEnd

end Bracket

def skipKey : Bracket → Reader Unit
  | .list => pure ()
  | .object => do
    match ← peekSolid with
    | some '"' => drop; skipText
    | some _ => fail .keyNotText
    | none => fail .objectUnfinished
    colon

def valueOpens (bracket : Bracket) : Reader Bool := do
  match ← peekSolid with
  | none => fail bracket.unfinished
  | some c =>
    if c = bracket.closing then
      drop
      return false
    else
      skipKey bracket
      return true

def valueFollows (bracket : Bracket) : Reader Bool := do
  match ← peekSolid with
  | none => fail bracket.unfinished
  | some c =>
    if c = bracket.closing then
      drop
      return false
    else if c = ',' then
      drop
      skipKey bracket
      return true
    else fail bracket.expectedEnd

/-- Where a walk over a value stands: before a value, or behind one. -/
inductive Stage
  | before
  | behind

/-- Walks to the end of a value with brackets open, innermost first. -/
def skipLoop : Stage → List Bracket → List Char → Reader Unit
  | .behind, [], _ => pure ()
  | .behind, bracket :: _, [] => fail bracket.unfinished
  | .before, _, [] => fail .valueUnfinished
  | .behind, bracket :: stack, _ :: bound => do
    if ← valueFollows bracket then skipLoop .before (bracket :: stack) bound
    else skipLoop .behind stack bound
  | .before, stack, _ :: bound => do
    let enter (bracket : Bracket) : Reader Unit := do
      drop
      if ← valueOpens bracket then skipLoop .before (bracket :: stack) bound
      else skipLoop .behind stack bound
    match ← peekSolid with
    | none => fail .valueUnfinished
    | some 'n' => drop; literal ['u', 'l', 'l']; skipLoop .behind stack bound
    | some 't' => drop; literal ['r', 'u', 'e']; skipLoop .behind stack bound
    | some 'f' => drop; literal ['a', 'l', 's', 'e']; skipLoop .behind stack bound
    | some '-' => drop; skipNumber; skipLoop .behind stack bound
    | some '"' => drop; skipText; skipLoop .behind stack bound
    | some '[' => enter .list
    | some '{' => enter .object
    | some c =>
      if isDigit c then
        skipNumber
        skipLoop .behind stack bound
      else fail .expectedValue

def skipValue : Reader Unit := do skipLoop .before [] (← remaining)

end Reader

end EntityWire.Json
