import EntityWire.Complaint
import EntityWire.Ordered.Map

namespace EntityWire

/-- A JSON value; the members of an object ascend by key. -/
inductive Json
  | null
  | bool (b : Bool)
  | unsigned (n : UInt64)
  | signed (n : Int64)
  | float (x : Binary64)
  | text (s : String)
  | array (items : List Json)
  | object (members : List (String × Json))

namespace Json

inductive Fault
  | listUnfinished
  | objectUnfinished
  | textUnfinished
  | valueUnfinished
  | expectedColon
  | expectedListEnd
  | expectedObjectEnd
  | expectedLiteral
  | expectedValue
  | keyNotText
  | badEscape
  | badNumber
  | outOfRange
  | loneSurrogate
  | surrogateUnfinished
  | controlCharacter
  | trailingComma
  | trailingCharacters
  | tooDeep
  | content (c : Complaint)
  deriving DecidableEq

/-- A text that ends too early, one that is no JSON, or one of other content than expected. -/
inductive Category
  | unfinished
  | malformed
  | content
  deriving DecidableEq, Repr

/-- The unit is written `null`, and great and small numbers with a signed exponent. -/
def wording : Wording := ⟨"null", .signed⟩

namespace Fault

def category : Fault → Category
  | .listUnfinished | .objectUnfinished | .textUnfinished | .valueUnfinished => .unfinished
  | .content _ => .content
  | _ => .malformed

def message : Fault → String
  | .listUnfinished => "EOF while parsing a list"
  | .objectUnfinished => "EOF while parsing an object"
  | .textUnfinished => "EOF while parsing a string"
  | .valueUnfinished => "EOF while parsing a value"
  | .expectedColon => "expected `:`"
  | .expectedListEnd => "expected `,` or `]`"
  | .expectedObjectEnd => "expected `,` or `\x7d`"
  | .expectedLiteral => "expected ident"
  | .expectedValue => "expected value"
  | .keyNotText => "key must be a string"
  | .badEscape => "invalid escape"
  | .badNumber => "invalid number"
  | .outOfRange => "number out of range"
  | .loneSurrogate => "lone leading surrogate in hex escape"
  | .surrogateUnfinished => "unexpected end of hex escape"
  | .controlCharacter => "control character (\\u0000-\\u001F) found while parsing a string"
  | .trailingComma => "trailing comma"
  | .trailingCharacters => "trailing characters"
  | .tooDeep => "recursion limit exceeded"
  | .content c => c.message wording

end Fault

end Json

end EntityWire
