import EntityWire.Number.Layout
import EntityWire.Text.Quoted

namespace EntityWire

inductive Found
  | unit
  | bool (b : Bool)
  | unsigned (n : UInt64)
  | signed (n : Int64)
  | float (x : Binary64)
  | text (s : String)
  | octets
  | sequence
  | mapping
  | extension
  | bareVariant
  deriving DecidableEq

inductive Complaint
  | wrongKind (found : Found) (expected : String)
  | badValue (found : Found) (expected : String)
  | wrongLength (length : Nat) (expected : String)
  | unknownVariant (name : String) (known : List String)
  | missingField (name : String)
  | duplicateField (name : String)
  | rejected (reason : String)
  deriving DecidableEq

structure Wording where
  unit : String
  number : Layout

def ticked (s : String) : String := "`" ++ s ++ "`"

def Found.describe (w : Wording) : Found → String
  | .unit => w.unit
  | .bool b => "boolean " ++ ticked (if b then "true" else "false")
  | .unsigned n => "integer " ++ ticked (toString n.toNat)
  | .signed n => "integer " ++ ticked (toString n.toInt)
  | .float x => "floating point " ++ ticked (x.write w.number)
  | .text s => "string " ++ quote s
  | .octets => "byte array"
  | .sequence => "sequence"
  | .mapping => "map"
  | .extension => "newtype struct"
  | .bareVariant => "unit variant"

def expectedNames : List String → String
  | [] => "there are no variants"
  | [a] => "expected " ++ ticked a
  | [a, b] => "expected " ++ ticked a ++ " or " ++ ticked b
  | names => "expected one of " ++ ", ".intercalate (names.map ticked)

def Complaint.message (w : Wording) : Complaint → String
  | .wrongKind found expected => "invalid type: " ++ found.describe w ++ ", expected " ++ expected
  | .badValue found expected => "invalid value: " ++ found.describe w ++ ", expected " ++ expected
  | .wrongLength length expected =>
    "invalid length " ++ toString length ++ ", expected " ++ expected
  | .unknownVariant name known => "unknown variant " ++ ticked name ++ ", " ++ expectedNames known
  | .missingField name => "missing field " ++ ticked name
  | .duplicateField name => "duplicate field " ++ ticked name
  | .rejected reason => reason

def elementsText (name : String) (n : Nat) : String :=
  name ++ " with " ++ toString n ++ (if n = 1 then " element" else " elements")

end EntityWire
