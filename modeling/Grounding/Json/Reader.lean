import Grounding.Json.Token

/-! Reading a JSON document: the tokens are taken one by one, and the arrays and objects that are
still open are kept on a stack, whose height is bounded. -/

namespace Grounding.Json

/-- An array or object that is still open. -/
inductive Frame
  /-- The items so far, the last one first. -/
  | array (items : List Json)
  /-- The members so far, and the name whose value comes next. -/
  | object (members : List (String × Json)) (name : String)

/-- What may come next, inside the open containers. -/
inductive Reader
  | value (frames : List Frame)
  /-- An array has just been opened. -/
  | firstItem (frames : List Frame)
  /-- An object has just been opened. -/
  | firstName (frames : List Frame)
  /-- A comma has just been read in an object. -/
  | nextName (members : List (String × Json)) (frames : List Frame)
  | colon (members : List (String × Json)) (name : String) (frames : List Frame)
  /-- A value is complete. -/
  | complete (value : Json) (frames : List Frame)

namespace Reader

/-- A token at the place of a value. -/
def start (limit : Nat) (frames : List Frame) : Token → Except Fault Reader
  | .scalar v => .ok (complete v frames)
  | .string s => .ok (complete (.string s) frames)
  | .openArray => if frames.length < limit then .ok (firstItem frames) else .error .tooDeep
  | .openObject => if frames.length < limit then .ok (firstName frames) else .error .tooDeep
  | _ => .error .misplaced

/-- A token after a complete value. -/
def proceed (v : Json) : List Frame → Token → Except Fault Reader
  | .array items :: frames, .comma => .ok (value (.array (v :: items) :: frames))
  | .array items :: frames, .closeArray => .ok (complete (.array (v :: items).reverse) frames)
  | .object members name :: frames, .comma =>
    .ok (nextName (Entries.assign name v members) frames)
  | .object members name :: frames, .closeObject =>
    .ok (complete (.object (Entries.assign name v members)) frames)
  | _, _ => .error .misplaced

def step (limit : Nat) : Reader → Token → Except Fault Reader
  | value frames, t => start limit frames t
  | firstItem frames, .closeArray => .ok (complete (.array []) frames)
  | firstItem frames, t => start limit (.array [] :: frames) t
  | firstName frames, .closeObject => .ok (complete (.object []) frames)
  | firstName frames, .string name => .ok (colon [] name frames)
  | nextName members frames, .string name => .ok (colon members name frames)
  | colon members name frames, .colon => .ok (value (.object members name :: frames))
  | complete v frames, t => proceed v frames t
  | _, _ => .error .misplaced

def run (limit : Nat) : Reader → List Token → Except Fault Reader
  | r, [] => .ok r
  | r, t :: ts =>
    match r.step limit t with
    | .ok r => run limit r ts
    | .error e => .error e

end Reader

/-- The value a list of tokens spells, with at most `limit` containers around any part of it. -/
def ofTokens (limit : Nat) (tokens : List Token) : Except Fault Json :=
  match Reader.run limit (.value []) tokens with
  | .ok (.complete v []) => .ok v
  | .ok _ => .error .endOfText
  | .error e => .error e

/-- The deepest nesting of arrays and objects in a document. -/
def deepestNesting : Nat := 127

/-- The value of a document whose nesting is at most `limit`. -/
def read (limit : Nat) (text : String) : Except Fault Json :=
  match Token.all text.toList with
  | .ok ts => ofTokens limit ts
  | .error e => .error e

end Grounding.Json
