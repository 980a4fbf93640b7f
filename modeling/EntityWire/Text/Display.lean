import EntityWire.Number.Layout
import EntityWire.Text.Quoted

namespace EntityWire

class Display (α : Type) where
  display : α → String

export Display (display)

namespace Display

def commas (parts : List String) : String := ", ".intercalate parts

def braced (inside : String) : String := "\x7b" ++ inside ++ "\x7d"

def record (name : String) (fields : List (String × String)) : String :=
  name ++ " " ++ braced (" " ++ commas (fields.map fun f ↦ f.1 ++ ": " ++ f.2) ++ " ")

def applied (name : String) (parts : List String) : String :=
  name ++ "(" ++ commas parts ++ ")"

def set (parts : List String) : String := braced (commas parts)

def map (entries : List (String × String)) : String :=
  braced (commas (entries.map fun e ↦ e.1 ++ ": " ++ e.2))

variable {α : Type} [Display α]

instance : Display Bool := ⟨fun b ↦ if b then "true" else "false"⟩
instance : Display String := ⟨quote⟩
instance : Display Binary64 := ⟨fun x ↦ x.write .diagnostic⟩
instance : Display Binary32 := ⟨fun x ↦ x.write .diagnostic⟩

instance : Display (Option α) where
  display
    | none => "None"
    | some a => applied "Some" [display a]

instance : Display (List α) := ⟨fun as ↦ "[" ++ commas (as.map display) ++ "]"⟩

end Display

end EntityWire
