import Grounding.Proofs.NumberOrder
import Grounding.Segment

/-! The points of intervals. The meet of two intervals has the points of both, and it is proper
exactly when there is such a point. -/

namespace Grounding

namespace Segment

/-- Both bounds are numbers, which may be infinite or out of order. -/
def IsNumeric (s : Segment) : Prop :=
  s.min ≠ .nan ∧ s.max ≠ .nan

instance : Membership Number Segment where
  mem s x := s.min ≤ x ∧ x ≤ s.max

theorem mem_iff {s : Segment} {x : Number} : x ∈ s ↔ s.min ≤ x ∧ x ≤ s.max :=
  Iff.rfl

variable {s t u : Segment} {x : Number}

theorem isProper_of_mem (h : x ∈ s) : s.IsProper :=
  Number.le_trans h.1 h.2

theorem min_mem (h : s.IsProper) : s.min ∈ s :=
  ⟨Number.le_refl (Number.le_iff.mp h).1, h⟩

theorem isNumeric_of_isProper (h : s.IsProper) : s.IsNumeric :=
  ⟨(Number.le_iff.mp h).1, (Number.le_iff.mp h).2.1⟩

theorem IsNumeric.meet (hs : s.IsNumeric) (ht : t.IsNumeric) : (s.meet t).IsNumeric :=
  ⟨Number.max_ne_nan hs.1 ht.1, Number.min_ne_nan hs.2 ht.2⟩

theorem isNumeric_meet_iff :
    (s.meet t).IsNumeric ↔ (s.min ≠ .nan ∨ t.min ≠ .nan) ∧ (s.max ≠ .nan ∨ t.max ≠ .nan) := by
  simp only [IsNumeric, meet, ne_eq, Number.max_eq_nan_iff, Number.min_eq_nan_iff,
    Decidable.not_and_iff_not_or_not]

theorem meet_self (s : Segment) : s.meet s = s := by
  simp [meet]

theorem mem_meet_iff (hs : s.IsNumeric) (ht : t.IsNumeric) :
    x ∈ s.meet t ↔ x ∈ s ∧ x ∈ t := by
  simp only [mem_iff, Segment.meet, Number.max_le_iff hs.1 ht.1, Number.le_min_iff hs.2 ht.2]
  grind

theorem isProper_left_of_meet (hs : s.IsNumeric) (ht : t.IsNumeric)
    (h : (s.meet t).IsProper) : s.IsProper :=
  isProper_of_mem ((mem_meet_iff hs ht).mp (min_mem h)).1

theorem isProper_right_of_meet (hs : s.IsNumeric) (ht : t.IsNumeric)
    (h : (s.meet t).IsProper) : t.IsProper :=
  isProper_of_mem ((mem_meet_iff hs ht).mp (min_mem h)).2

theorem meet_assoc (s t u : Segment) : (s.meet t).meet u = s.meet (t.meet u) := by
  simp only [Segment.meet, Number.max_assoc, Number.min_assoc]

theorem not_max_lt_min_iff (hs : s.IsNumeric) : ¬ s.max < s.min ↔ s.IsProper :=
  Number.not_lt_iff_le hs.2 hs.1

theorem isNumeric_of_max_lt_min (h : s.max < s.min) : s.IsNumeric :=
  ⟨(Number.lt_iff.mp h).2.1, (Number.lt_iff.mp h).1⟩

theorem inter?_eq_some : s.inter? t = some u ↔ u = s.meet t ∧ (s.meet t).IsProper := by
  unfold inter?
  by_cases h : (s.meet t).IsProper
  · rw [if_pos h]
    simp [h, eq_comm]
  · simp [h]

end Segment

open Segment

theorem mem_interSegments {left right : List Segment} {u : Segment} :
    u ∈ interSegments left right ↔
      ∃ s ∈ left, ∃ t ∈ right, u = s.meet t ∧ (s.meet t).IsProper := by
  simp only [interSegments, List.mem_flatMap, List.mem_filterMap, inter?_eq_some]

def Covers (segments : List Segment) (x : Number) : Prop :=
  ∃ s ∈ segments, x ∈ s

theorem covers_interSegments {left right : List Segment} {x : Number}
    (hl : ∀ s ∈ left, s.IsNumeric) (hr : ∀ t ∈ right, t.IsNumeric) :
    Covers (interSegments left right) x ↔ Covers left x ∧ Covers right x := by
  constructor
  · rintro ⟨u, hu, hx⟩
    obtain ⟨s, hs, t, ht, rfl, _⟩ := mem_interSegments.mp hu
    have hmem := (mem_meet_iff (hl s hs) (hr t ht)).mp hx
    exact ⟨⟨s, hs, hmem.1⟩, ⟨t, ht, hmem.2⟩⟩
  · rintro ⟨⟨s, hs, hxs⟩, ⟨t, ht, hxt⟩⟩
    have hx := (mem_meet_iff (hl s hs) (hr t ht)).mpr ⟨hxs, hxt⟩
    exact ⟨s.meet t, mem_interSegments.mpr ⟨s, hs, t, ht, rfl, isProper_of_mem hx⟩, hx⟩

end Grounding
