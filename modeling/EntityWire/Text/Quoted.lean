import EntityWire.Text.Unprintable

namespace EntityWire

/-- A code point by its hexadecimal number, without leading zeros. -/
def escapeNumber (c : Char) : String :=
  "\\u\x7b" ++ String.ofList (Nat.toDigits 16 c.toNat) ++ "\x7d"

def escapeChar (c : Char) : String :=
  if c = '\x00' then "\\0" else if c = '\t' then "\\t" else if c = '\r' then "\\r"
  else if c = '\n' then "\\n" else if c = '\\' then "\\\\" else if c = '"' then "\\\""
  else if isUnprintable c then escapeNumber c else String.singleton c

def quote (s : String) : String :=
  "\"" ++ String.join (s.toList.map escapeChar) ++ "\""

end EntityWire
