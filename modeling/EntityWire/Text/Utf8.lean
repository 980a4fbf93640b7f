namespace EntityWire

abbrev Octets := List UInt8

namespace Utf8

def encode (s : String) : Octets := s.toList.flatMap String.utf8EncodeChar

inductive Piece
  | scalar (c : Char) (width : Nat)
  | invalid (width : Nat)
  | cut
  deriving DecidableEq, Repr

/-- Why octets are no text: a run of `width` octets that starts no scalar value, or an end of
input inside one. -/
inductive Fault
  | invalid (start width : Nat)
  | cut (start : Nat)
  deriving DecidableEq, Repr

def Fault.message : Fault → String
  | .invalid start width =>
    "invalid utf-8 sequence of " ++ toString width ++ " bytes from index " ++ toString start
  | .cut start => "incomplete utf-8 byte sequence from index " ++ toString start

/-- The least and the greatest octet that may follow the leading octet `b`: all continuations but
those that would spell a shorter form, a surrogate or a value above the last scalar. -/
def second (b : Nat) : Nat × Nat :=
  if b = 0xe0 then (0xa0, 0xbf) else if b = 0xed then (0x80, 0x9f)
  else if b = 0xf0 then (0x90, 0xbf) else if b = 0xf4 then (0x80, 0x8f) else (0x80, 0xbf)

def follows (b c : UInt8) : Bool := (second b.toNat).1 ≤ c.toNat && c.toNat ≤ (second b.toNat).2

def continues (c : UInt8) : Bool := 0x80 ≤ c.toNat && c.toNat ≤ 0xbf

def low (c : UInt8) : Nat := c.toNat % 64

def pieces : Octets → List Piece
  | [] => []
  | b :: s =>
    if b < 0x80 then .scalar (Char.ofNat b.toNat) 1 :: pieces s
    else if b < 0xc2 then .invalid 1 :: pieces s
    else if b < 0xe0 then
      match s with
      | [] => [.cut]
      | c :: s' =>
        if continues c then .scalar (Char.ofNat (b.toNat % 32 * 64 + low c)) 2 :: pieces s'
        else .invalid 1 :: pieces (c :: s')
    else if b < 0xf0 then
      match s with
      | [] => [.cut]
      | c :: s' =>
        if !follows b c then .invalid 1 :: pieces (c :: s')
        else match s' with
        | [] => [.cut]
        | d :: s'' =>
          if continues d then
            .scalar (Char.ofNat ((b.toNat % 16 * 64 + low c) * 64 + low d)) 3 :: pieces s''
          else .invalid 2 :: pieces (d :: s'')
    else if b < 0xf5 then
      match s with
      | [] => [.cut]
      | c :: s' =>
        if !follows b c then .invalid 1 :: pieces (c :: s')
        else match s' with
        | [] => [.cut]
        | d :: s'' =>
          if !continues d then .invalid 2 :: pieces (d :: s'')
          else match s'' with
          | [] => [.cut]
          | e :: s''' =>
            if continues e then
              .scalar (Char.ofNat (((b.toNat % 8 * 64 + low c) * 64 + low d) * 64 + low e)) 4 ::
                pieces s'''
            else .invalid 3 :: pieces (e :: s''')
    else .invalid 1 :: pieces s
termination_by structural s => s

def scalars (start : Nat) : List Piece → Except Fault (List Char)
  | [] => .ok []
  | .scalar c width :: ps => (scalars (start + width) ps).map (c :: ·)
  | .invalid width :: _ => .error (.invalid start width)
  | .cut :: _ => .error (.cut start)

def decode (s : Octets) : Except Fault String := (scalars 0 (pieces s)).map String.ofList

/-- Any octets as a text, each piece that is no scalar value replaced by U+FFFD. -/
def decodeLossy (s : Octets) : String :=
  String.ofList ((pieces s).map fun
    | .scalar c _ => c
    | _ => '\ufffd')

end Utf8

end EntityWire
