import EntityWire.Json.Reader
import EntityWire.Text.Hex

namespace EntityWire.Json.Reader

/-- Four hexadecimal digits. The text is too short if fewer than four octets are left of it. -/
def hexEscape : Reader Nat := fun s ↦
  if (String.ofList (s.take 4)).utf8ByteSize < 4 then .error .textUnfinished
  else
    match (s.take 4).mapM Hex.value? with
    | some digits => .ok (digits.foldl (fun n d ↦ 16 * n + d) 0, s.drop 4)
    | none => .error .badEscape

def isHighSurrogate (n : Nat) : Bool := 0xd800 ≤ n && n < 0xdc00

def isLowSurrogate (n : Nat) : Bool := 0xdc00 ≤ n && n < 0xe000

def surrogateMark (expected : Char) : Reader Unit := do
  match ← peek with
  | none => fail .textUnfinished
  | some c => if c = expected then drop else fail .surrogateUnfinished

def numberEscape : Reader Char := do
  let n ← hexEscape
  if isLowSurrogate n then fail .loneSurrogate
  else if !isHighSurrogate n then return Char.ofNat n
  else
    surrogateMark '\\'
    surrogateMark 'u'
    let m ← hexEscape
    if isLowSurrogate m then return Char.ofNat (0x10000 + (n - 0xd800) * 0x400 + (m - 0xdc00))
    else fail .loneSurrogate

def letterEscape? : Char → Option Char
  | '"' => some '"'
  | '\\' => some '\\'
  | '/' => some '/'
  | 'b' => some '\x08'
  | 'f' => some '\x0c'
  | 'n' => some '\n'
  | 'r' => some '\r'
  | 't' => some '\t'
  | _ => none

def textLoop (number : Reader Char) : List Char → Reader (List Char)
  | [] => fail .textUnfinished
  | _ :: bound => do
    match ← next with
    | none => fail .textUnfinished
    | some '"' => return []
    | some '\\' =>
      match ← next with
      | none => fail .textUnfinished
      | some 'u' =>
        let c ← number
        return c :: (← textLoop number bound)
      | some c =>
        match letterEscape? c with
        | some c => return c :: (← textLoop number bound)
        | none => fail .badEscape
    | some c =>
      if c < ' ' then fail .controlCharacter
      else return c :: (← textLoop number bound)

def text : Reader String := do return String.ofList (← textLoop numberEscape (← remaining))

def skipText : Reader Unit := do
  let _ ← textLoop (do let _ ← hexEscape; return ' ') (← remaining)

end EntityWire.Json.Reader
