import Grounding.Evaluation.Error

/-! Set operations on concepts. An intersection is computed where both operands are intervals or
sets of labels on one field; a union and a difference are recorded for whoever queries the data. -/

namespace Grounding

namespace Concept

/-- Whether a concept is intersected through the intervals it covers. -/
def isUnrolled : Concept → Bool
  | cyclic .. => true
  | multi .. => true
  | _ => false

/-- The numbers in both intervals; nothing when the bounds are out of order. -/
def interScalar (field : String) (s t : Segment) (unit : Option String) : Concept :=
  if (s.meet t).max < (s.meet t).min then empty field else scalar field (s.meet t) unit

def interLabels (field : String) (s t : LabelSet) : Concept :=
  if (s.inter t).isEmpty then empty field else categorical field (s.inter t)

/-- The numbers of some intervals, nothing when there are none. -/
def ofSegments (field : String) (segments : List Segment) : Concept :=
  if segments = [] then empty field else multi field segments

/-- The intersection of what two concepts cover on the line. -/
def interUnrolled (left right : Concept) : Except EvaluationError Concept :=
  match left.unroll?, right.unroll? with
  | some s, some t => .ok (ofSegments (left.field?.getD "") (interSegments s t))
  | _, _ => .error (.unsupportedKinds .intersect left.kind right.kind)

/-- The intersection of concepts that are known to have one field. -/
def interSameField (left right : Concept) : Except EvaluationError Concept :=
  match left, right with
  | empty field, _ => .ok (empty field)
  | _, empty field => .ok (empty field)
  | scalar field s unit, scalar _ t _ => .ok (interScalar field s t unit)
  | categorical field s, categorical _ t => .ok (interLabels field s t)
  | left, right =>
    if left.isUnrolled || right.isUnrolled then interUnrolled left right
    else .error (.unsupportedKinds .intersect left.kind right.kind)

/-- Only concepts on the same field can be intersected. -/
def inter (left right : Concept) : Except EvaluationError Concept :=
  if left.field? = right.field? then interSameField left right
  else .error (.fieldMismatch left.fieldLabel right.fieldLabel)

/-- The difference on one field; what selects on another field removes nothing. -/
def minus (base removed : Concept) : Concept :=
  if base.field? = removed.field? then difference base removed else base

end Concept

def Operator.apply (op : Operator) (left right : Concept) : Except EvaluationError Concept :=
  match op with
  | intersect => left.inter right
  | union => .ok (.union left right)
  | difference => .ok (left.minus right)

end Grounding
