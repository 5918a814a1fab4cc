import Grounding.Decimal.Literal
import Grounding.Json.Writer
import Grounding.Text.Quoted

/-! Reading the parts of a typed value out of a JSON value, and what is reported when a part has
another type, is missing, or is one of too few or too many. -/

namespace Grounding

/-- What a value should have been. -/
inductive Expectation
  | string
  | number
  | list
  | pair
  | record (name : String)
  | tag
  | taggedRecord (name : String)
  deriving DecidableEq

/-- How many elements a list should have had. -/
inductive Extent
  | record (name : String) (size : Nat)
  | pair
  /-- No element after the last attribute of a tagged record. -/
  | sequence (size : Nat)
  /-- No element after the last attribute. -/
  | fewer
  deriving DecidableEq

inductive DecodeFault
  | wrongType (found : Json) (expected : Expectation)
  | wrongLength (length : Nat) (expected : Extent)
  | missing (name : String)
  | unknownTag (tag : String) (known : List String)
  | unknownIndex (index : WideInteger) (size : Nat)

def Expectation.description : Expectation → String
  | string => "a string"
  | number => "f64"
  | list => "a sequence"
  | pair => "an array of length 2"
  | record name => s!"struct {name}"
  | tag => "variant identifier"
  | taggedRecord name => s!"internally tagged enum {name}"

def elements (n : Nat) : String :=
  if n = 1 then "1 element" else s!"{n} elements"

def Extent.description : Extent → String
  | record name size => s!"struct {name} with {elements size}"
  | pair => Expectation.pair.description
  | sequence size => s!"{elements size} in sequence"
  | fewer => "fewer elements in array"

/-- A text between the marks that set off values in messages. -/
def marked (text : String) : String :=
  s!"`{text}`"

namespace Json

def foundInteger (n : WideInteger) : String :=
  "integer " ++ marked (String.ofList (intText n.value))

/-- A value as messages name it. -/
def found : Json → String
  | null => "null"
  | bool true => "boolean " ++ marked "true"
  | bool false => "boolean " ++ marked "false"
  | int n => foundInteger n
  | float x => "floating point " ++ marked (String.ofList (numberLayout.text x))
  | string s => "string " ++ Text.quoted s
  | array _ => "sequence"
  | object _ => "map"

def asString : Json → Except DecodeFault String
  | string s => .ok s
  | v => .error (.wrongType v .string)

def asNumber : Json → Except DecodeFault Number
  | int n => .ok (.ofInt n.value)
  | float x => .ok (.finite x)
  | v => .error (.wrongType v .number)

/-- Reads each item of a list with the same reader. -/
def asList {α : Type} (item : Json → Except DecodeFault α) : Json → Except DecodeFault (List α)
  | array items => items.mapM item
  | v => .error (.wrongType v .list)

end Json

def DecodeFault.message : DecodeFault → String
  | wrongType found expected =>
    s!"invalid type: {found.found}, expected {expected.description}"
  | wrongLength length expected =>
    s!"invalid length {length}, expected {expected.description}"
  | missing name => "missing field " ++ marked name
  | unknownTag tag known =>
    "unknown variant " ++ marked tag ++ ", expected one of " ++
      ", ".intercalate (known.map marked)
  | unknownIndex index size =>
    s!"invalid value: {Json.foundInteger index}, expected variant index 0 <= i < {size}"

end Grounding
