import EntityWire.Wire.Token
import EntityWire.Wire.Write

namespace EntityWire.Wire

structure Form (α : Type) where
  read : Nat → Marker → Scan α
  ofOctet : UInt8 → Except Complaint α
  write : α → Octets

namespace Form

variable {α β : Type}

def value (f : Form α) (levels : Nat) : Scan α := Scan.marker.bind (f.read levels)

/-- Reads one value off the front of the octets; what follows is not looked at. -/
def decode (f : Form α) (s : Octets) : Except DecodeError α :=
  ((f.value levelLimit).run s).map Prod.fst

def octetIsNot (expected : String) (b : UInt8) : Except Complaint α :=
  .error (.wrongKind (.unsigned (UInt64.ofNat b.toNat)) expected)

def via (f : Form β) (make : β → α) (back : α → β) : Form α where
  read levels m := (f.read levels m).bind fun b ↦ .done (make b)
  ofOctet b := (f.ofOctet b).map make
  write a := f.write (back a)

/-- A form for a type that accepts some values of another only. -/
def checked (f : Form β) (accept : β → Except Complaint α) (back : α → β) : Form α where
  read levels m := (f.read levels m).bind fun b ↦ .ofExcept (accept b)
  ofOctet b := (f.ofOctet b).bind accept
  write a := f.write (back a)

/-- A single value under a name of its own; it is written bare. -/
def wrapped (name : String) (f : Form β) (make : β → α) (back : α → β) : Form α where
  read := (f.via make back).read
  ofOctet := octetIsNot ("tuple struct " ++ name)
  write := (f.via make back).write

/-- A type that takes scalars: those that `accept` refuses are of the wrong kind or out of range. -/
def ofScalar (accept : Scalar → Except Complaint α) (write : α → Octets) : Form α where
  read _ m := m.scalar.bind fun s ↦ .ofExcept (accept s)
  ofOctet b := accept (.unsigned (UInt64.ofNat b.toNat))
  write := write

def bool : Form Bool :=
  ofScalar (fun
    | .bool b => .ok b
    | s => .error (.wrongKind s.found "a boolean")) writeBool

def unsigned (expected : String) (bound : Nat) (ofNat : Nat → α) (toNat : α → Nat) : Form α :=
  ofScalar (fun
    | .unsigned n =>
      if n.toNat < bound then .ok (ofNat n.toNat) else .error (.badValue (.unsigned n) expected)
    | .signed i =>
      if 0 ≤ i.toInt ∧ i.toInt < bound then .ok (ofNat i.toInt.toNat)
      else .error (.badValue (.signed i) expected)
    | s => .error (.wrongKind s.found expected)) fun a ↦ writeUnsigned (toNat a)

def octet : Form UInt8 := unsigned "u8" UInt8.size UInt8.ofNat UInt8.toNat

def word : Form UInt64 := unsigned "u64" UInt64.size UInt64.ofNat UInt64.toNat

def double : Form Binary64 :=
  ofScalar (fun
    | .unsigned n => .ok (.ofUnsigned n)
    | .signed i => .ok (.ofSigned i)
    | .single x => .ok x.widen
    | .double x => .ok x
    | s => .error (.wrongKind s.found "f64")) writeDouble

def single : Form Binary32 :=
  ofScalar (fun
    | .unsigned n => .ok (.ofUnsigned n)
    | .signed i => .ok (.ofSigned i)
    | .single x => .ok x
    | .double x => .ok x.narrow
    | s => .error (.wrongKind s.found "f32")) writeSingle

/-- Texts, also where they come as plain octets; either way they must be UTF-8. -/
def text : Form String where
  read levels m := (m.token levels).bind fun
    | .text s => .done s
    | .octets s =>
      match Utf8.decode s with
      | .ok chars => .done chars
      | .error _ => .complain (.badValue .octets "a string")
    | t => t.unfit "a string"
  ofOctet := octetIsNot "a string"
  write := writeText

def option (f : Form α) : Form (Option α) where
  read levels m :=
    if m = .null then .done none else (f.read levels m).bind fun a ↦ .done (some a)
  ofOctet := octetIsNot "option"
  write
    | none => writeNull
    | some a => f.write a

end Form

class Codec (α : Type) where
  form : Form α

variable {α : Type} [Codec α]

/-- Every value of a type that travels has octets: there is nothing that its encoder refuses. -/
def encode (a : α) : Octets := Codec.form.write a

def decode (α : Type) [Codec α] (s : Octets) : Except DecodeError α :=
  (Codec.form (α := α)).decode s

instance : Codec String := ⟨.text⟩
instance : Codec Bool := ⟨.bool⟩
instance : Codec Binary64 := ⟨.double⟩
instance : Codec Binary32 := ⟨.single⟩

end EntityWire.Wire
