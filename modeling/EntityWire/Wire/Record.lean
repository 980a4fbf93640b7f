import EntityWire.Wire.Form
import EntityWire.Wire.Skip

namespace EntityWire.Wire

structure Field (α : Type) where
  name : String
  form : Form α
  /-- The value of the field when it is absent, unless it is required. -/
  standing : Option α
  omitted : α → Bool

namespace Field

variable {α : Type}

def required (name : String) (form : Form α) : Field α := ⟨name, form, none, fun _ ↦ false⟩

def defaulted (name : String) (form : Form α) (value : α) : Field α :=
  ⟨name, form, some value, fun _ ↦ false⟩

def optional (name : String) (form : Form α) : Field (Option α) :=
  ⟨name, form.option, some none, Option.isNone⟩

/-- Reads the value of a field whose slot must be empty. -/
def fill (field : Field α) (levels : Nat) : Option α → Scan α
  | some _ => .complain (.duplicateField field.name)
  | none => field.form.value levels

end Field

inductive Fields : List Type → Type 1
  | nil : Fields []
  | cons {α : Type} {Γ : List Type} (field : Field α) (rest : Fields Γ) : Fields (α :: Γ)

def Row : List Type → Type
  | [] => Unit
  | α :: Γ => α × Row Γ

def Slots : List Type → Type
  | [] => Unit
  | α :: Γ => Option α × Slots Γ

inductive Key
  | index (n : Nat)
  | name (s : Octets)

def Key.scan (levels : Nat) : Scan Key :=
  Scan.marker.bind fun m ↦ (m.token levels).bind fun
    | .scalar (.unsigned n) => .done (.index n.toNat)
    | .text s => .done (.name (Utf8.encode s))
    | .badText s _ | .octets s => .done (.name s)
    | t => t.unfit "field identifier"

namespace Fields

def length {Γ : List Type} : Fields Γ → Nat
  | .nil => 0
  | .cons _ rest => rest.length + 1

def names {Γ : List Type} : Fields Γ → List String
  | .nil => []
  | .cons field rest => field.name :: rest.names

def noSlots {Γ : List Type} : Fields Γ → Slots Γ
  | .nil => ()
  | .cons _ rest => (none, rest.noSlots)

def assign {Γ : List Type} (levels : Nat) : Fields Γ → Key → Slots Γ → Option (Scan (Slots Γ))
  | .nil, _, _ => none
  | .cons field rest, key, (slot, slots) =>
    let inRest (key : Key) : Option (Scan (Option _ × Slots _)) :=
      (rest.assign levels key slots).map fun scan ↦ scan.bind fun slots ↦ .done (slot, slots)
    match key with
    | .index 0 => some ((field.fill levels slot).bind fun a ↦ .done (some a, slots))
    | .index (n + 1) => inRest (.index n)
    | .name s =>
      if s = Utf8.encode field.name then
        some ((field.fill levels slot).bind fun a ↦ .done (some a, slots))
      else inRest key

def entry {Γ : List Type} (fields : Fields Γ) (levels : Nat) (slots : Slots Γ) : Scan (Slots Γ) :=
  (Key.scan levels).bind fun key ↦
    match fields.assign levels key slots with
    | some scan => scan
    | none => (skip levels).bind fun _ ↦ .done slots

def complete {Γ : List Type} : Fields Γ → Slots Γ → Except Complaint (Row Γ)
  | .nil, _ => .ok ()
  | .cons field rest, (slot, slots) =>
    match slot.or field.standing with
    | some a => (rest.complete slots).map fun row ↦ (a, row)
    | none => .error (.missingField field.name)

def items {Γ : List Type} (expected : String) (levels : Nat) :
    Fields Γ → (left taken : Nat) → Scan (Row Γ × Nat)
  | .nil, left, _ => .done ((), left)
  | .cons field rest, 0, taken =>
    match field.standing with
    | some a => (rest.items expected levels 0 (taken + 1)).bind fun p ↦ .done ((a, p.1), p.2)
    | none => .complain (.wrongLength taken expected)
  | .cons field rest, left + 1, taken =>
    (field.form.value levels).bind fun a ↦
      (rest.items expected levels left (taken + 1)).bind fun p ↦ .done ((a, p.1), p.2)

def sequence {Γ : List Type} (fields : Fields Γ) (expected : String) (levels n : Nat) :
    Scan (Row Γ) :=
  (fields.items expected levels n 0).bind fun p ↦
    if p.2 = 0 then .done p.1 else .refuse (.length (n - p.2))

/-- The values that octets stand for, one each; further octets are left. -/
def ofOctets {Γ : List Type} (expected : String) :
    Fields Γ → Octets → (taken : Nat) → Except Complaint (Row Γ)
  | .nil, _, _ => .ok ()
  | .cons field rest, [], taken =>
    match field.standing with
    | some a => (rest.ofOctets expected [] (taken + 1)).map fun row ↦ (a, row)
    | none => .error (.wrongLength taken expected)
  | .cons field rest, b :: s, taken =>
    (field.form.ofOctet b).bind fun a ↦
      (rest.ofOctets expected s (taken + 1)).map fun row ↦ (a, row)

def entries {Γ : List Type} : Fields Γ → Row Γ → List (Octets × Octets)
  | .nil, _ => []
  | .cons field rest, (a, row) =>
    if field.omitted a then rest.entries row
    else (writeText field.name, field.form.write a) :: rest.entries row

def values {Γ : List Type} : Fields Γ → Row Γ → List Octets
  | .nil, _ => []
  | .cons field rest, (a, row) => field.form.write a :: rest.values row

end Fields

namespace Form

variable {Γ : List Type}

def record (name : String) (fields : Fields Γ) : Form (Row Γ) :=
  let expected := "struct " ++ name
  let items := elementsText expected fields.length
  { read := fun levels m ↦ (m.token levels).bind fun
      | .mapping n =>
        (Scan.iterate (fields.entry (levels - 1)) n fields.noSlots).bind fun slots ↦
          .ofExcept (fields.complete slots)
      | .sequence n => fields.sequence items (levels - 1) n
      | .octets s => .ofExcept (fields.ofOctets items s 0)
      | t => t.unfit expected
    ofOctet := octetIsNot expected
    write := fun row ↦ writeMapping (fields.entries row) }

/-- Values without names, always a sequence. -/
def tuple (expected : String) (fields : Fields Γ) : Form (Row Γ) where
  read levels m := (m.token levels).bind fun
    | .sequence n => fields.sequence expected (levels - 1) n
    | .octets s => .ofExcept (fields.ofOctets expected s 0)
    | t => t.unfit expected
  ofOctet := octetIsNot expected
  write row := writeSequence (fields.values row)

end Form

end EntityWire.Wire
