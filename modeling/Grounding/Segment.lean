import Grounding.Decimal.Layout

/-! Closed intervals of a line. The bounds are kept as they are given, so that an interval can be
inverted and hold no point. -/

namespace Grounding

structure Segment where
  min : Number
  max : Number
  deriving DecidableEq

namespace Segment

/-- Whether the interval holds a point. -/
abbrev IsProper (s : Segment) : Prop :=
  s.min ≤ s.max

/-- The larger lower bound and the smaller upper bound. -/
def meet (s t : Segment) : Segment :=
  ⟨Max.max s.min t.min, Min.min s.max t.max⟩

/-- The part two intervals share, when there is one. -/
def inter? (s t : Segment) : Option Segment :=
  if (s.meet t).IsProper then some (s.meet t) else none

def display (s : Segment) : String :=
  s!"[{s.min.display}, {s.max.display}]"

end Segment

/-- The shared parts of two lists of intervals, those of the first interval of the left list
first. -/
def interSegments (left right : List Segment) : List Segment :=
  left.flatMap fun s => right.filterMap s.inter?

end Grounding
