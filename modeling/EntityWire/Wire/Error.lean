import EntityWire.Complaint
import EntityWire.Wire.Marker

namespace EntityWire.Wire

/-- Where the input ended: before a value, inside a number or a length, or inside the content
that a length announced. -/
inductive Shortage
  | marker
  | number
  | content
  deriving DecidableEq, Repr

inductive Refusal
  | marker (m : Marker)
  | length (n : Nat)
  | text (fault : Utf8.Fault)
  | depth
  | content (c : Complaint)
  deriving DecidableEq

inductive DecodeError
  | short (s : Shortage)
  | refused (r : Refusal)
  deriving DecidableEq

/-- Why a value has no octets: what its serializer says, and what the errors beneath it say. -/
structure EncodeError where
  message : String
  causes : List String
  deriving DecidableEq

/-- A unit is a value like any other, and a whole number keeps its point. -/
def wording : Wording := ⟨"unit value", .pointed⟩

def Shortage.message : Shortage → String
  | .marker => "IO error while reading marker: failed to fill whole buffer"
  | .number => "IO error while reading data: failed to fill whole buffer"
  | .content => "IO error while reading data: unexpected end of file"

def Refusal.message : Refusal → String
  | .marker m => "wrong msgpack marker " ++ m.name
  | .length n => "array had incorrect length, expected " ++ toString n
  | .text fault => "string found to be invalid utf8: " ++ fault.message
  | .depth => "depth limit exceeded"
  | .content c => c.message wording

def DecodeError.message : DecodeError → String
  | .short s => s.message
  | .refused r => r.message

/-- The error beneath a decoding error, if it passes one on. -/
def DecodeError.cause : DecodeError → Option String
  | .short .content => some "unexpected end of file"
  | .short _ => some "failed to fill whole buffer"
  | .refused (.text fault) => some fault.message
  | .refused _ => none

end EntityWire.Wire
