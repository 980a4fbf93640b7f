import EntityWire.Wire.Form

namespace EntityWire.Wire

structure Variant (α : Type) where
  name : String
  /-- The value of the variant alone, if it holds nothing. -/
  alone : Option α
  content : Nat → Scan α

namespace Variant

variable {α β : Type}

def bare (name : String) (a : α) : Variant α where
  name := name
  alone := some a
  content _ := Scan.marker.bind fun m ↦ if m = .null then .done a else .refuse (.marker m)

def holding (name : String) (form : Form β) (make : β → α) : Variant α where
  name := name
  alone := none
  content levels := (form.value levels).bind fun b ↦ .done (make b)

def named (variants : List (Variant α)) : Token → Scan (Variant α)
  | .scalar (.unsigned n) =>
    match variants[n.toNat]? with
    | some v => .done v
    | none => .complain (.badValue (.unsigned n)
        ("variant index 0 <= i < " ++ toString variants.length))
  | .text s =>
    match variants.find? (·.name = s) with
    | some v => .done v
    | none => .complain (.unknownVariant s (variants.map Variant.name))
  | .octets s =>
    match variants.find? (Utf8.encode ·.name = s) with
    | some v => .done v
    | none => .complain (.unknownVariant (Utf8.decodeLossy s) (variants.map Variant.name))
  | t => t.unfit "variant identifier"

end Variant

namespace Form

variable {α : Type}

def choice (name : String) (variants : List (Variant α)) (write : α → Octets) : Form α :=
  let beside (levels n : Nat) : Scan α :=
    if n = 1 then
      Scan.marker.bind fun m ↦ (m.token levels).bind fun t ↦
        (Variant.named variants t).bind fun v ↦ v.content levels
    else .refuse (.length n)
  { read := fun levels m ↦
      match m with
      | .fixMap n => beside levels n
      | .map width => (Scan.number width).bind (beside levels)
      | m => (m.token levels).bind fun t ↦ (Variant.named variants t).bind fun v ↦
          match v.alone with
          | some a => .done a
          | none => .complain (.wrongKind .bareVariant "newtype variant")
    ofOctet := octetIsNot ("enum " ++ name)
    write := write }

def names (name : String) (all : List α) (nameOf : α → String) : Form α :=
  choice name (all.map fun a ↦ .bare (nameOf a) a) fun a ↦ writeText (nameOf a)

end Form

end EntityWire.Wire
