import Grounding.Entries
import Grounding.Number.Rounding

/-! JSON values. A numeral without fraction and exponent that fits 64 bits is an integer, every
other one is a finite number; members of an object keep their order and their names are distinct
in what is read. -/

namespace Grounding

/-- An integer that fits 64 bits, with or without a sign. -/
structure WideInteger where
  value : Int
  fits : -0x8000000000000000 ≤ value ∧ value < 0x10000000000000000
  deriving DecidableEq

inductive Json
  | null
  | bool (value : Bool)
  | int (value : WideInteger)
  | float (value : FiniteNumber)
  | string (value : String)
  | array (items : List Json)
  | object (members : List (String × Json))

namespace Json

inductive Kind
  | null
  | boolean
  | number
  | string
  | array
  | object
  deriving DecidableEq

def kind : Json → Kind
  | null => .null
  | bool _ => .boolean
  | int _ => .number
  | float _ => .number
  | string _ => .string
  | array _ => .array
  | object _ => .object

/-- The member of an object with a name. -/
def member? (name : String) : Json → Option Json
  | object members => Entries.find? name members
  | _ => none

/-- A number as a value: what is not finite has no numeral and becomes null. -/
def ofNumber : Number → Json
  | .finite x => float x
  | _ => null

/-- An integer as a value; past 64 bits it is the number nearest to it. -/
def ofInt (n : Int) : Json :=
  if h : -0x8000000000000000 ≤ n ∧ n < 0x10000000000000000 then int ⟨n, h⟩
  else ofNumber (.ofInt n)

end Json

end Grounding
