/-! What is wrong with a text that is no JSON document. -/

namespace Grounding.Json

inductive Fault
  | endOfText
  | unexpected (c : Char)
  | misplaced
  | badEscape
  | loneSurrogate
  | controlCharacter
  | badNumeral
  | numberOutOfRange
  | tooDeep
  | other (text : String)
  deriving DecidableEq

def Fault.message : Fault → String
  | endOfText => "the text ends too early"
  | unexpected c => s!"unexpected character '{c}'"
  | misplaced => "a value or a mark stands where it does not belong"
  | badEscape => "invalid escape"
  | loneSurrogate => "lone surrogate in an escape"
  | controlCharacter => "control character in a string"
  | badNumeral => "invalid number"
  | numberOutOfRange => "number out of range"
  | tooDeep => "nested too deeply"
  | other text => text

end Grounding.Json
