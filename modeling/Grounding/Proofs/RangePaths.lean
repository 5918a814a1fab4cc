import Grounding.Proofs.IntersectionChain

/-! Two ranges on one field, intersected as they are and with one of them given as a list of one
interval. The first way leaves out bounds that are out of order and the second one keeps bounds that
are in order, so that they part where a bound of the meet is no number. -/

namespace Grounding

namespace Concept

/-- Nothing both times, or one interval, as a range and as the only one of a list. -/
inductive SameInterval : Concept → Concept → Prop
  | nothing (field : String) : SameInterval (empty field) (empty field)
  | interval (field : String) (bounds : Segment) (unit : Option String) :
    SameInterval (scalar field bounds unit) (multi field [bounds])

/-- Both ways to intersect two ranges give the same interval, and a range has bounds in order. -/
def WaysAgree (field : String) (s t : Segment) (unit other : Option String) : Prop :=
  ∃ c d, (scalar field s unit).inter (scalar field t other) = .ok c ∧
    (scalar field s unit).inter (multi field [t]) = .ok d ∧ SameInterval c d ∧
    ∀ bounds unit', c = scalar field bounds unit' → bounds.IsProper

variable {field : String} {s t : Segment} {unit other : Option String}

theorem inter_scalar : (scalar field s unit).inter (scalar field t other) =
    .ok (interScalar field s t unit) :=
  if_pos rfl

theorem inter_multi_singleton : (scalar field s unit).inter (multi field [t]) =
    .ok (ofSegments field (Segment.properOnes [s.meet t])) := by
  have hinter := inter_of_unroll? (a := scalar field s unit) (b := multi field [t]) rfl rfl rfl rfl
    rfl
  rw [hinter, Segment.interSegments_eq]
  simp

theorem waysAgree_of_isProper (h : (s.meet t).IsProper) : WaysAgree field s t unit other := by
  have hnumeric := Segment.isNumeric_of_isProper h
  refine ⟨scalar field (s.meet t) unit, multi field [s.meet t], ?_, ?_, .interval _ _ _, ?_⟩
  · rw [inter_scalar, interScalar, if_neg ((Segment.not_max_lt_min_iff hnumeric).mpr h)]
  · simp [inter_multi_singleton, Segment.properOnes, h, ofSegments]
  · rintro bounds unit' heq
    cases heq
    exact h

theorem waysAgree_of_inverted (hnumeric : (s.meet t).IsNumeric) (h : ¬ (s.meet t).IsProper) :
    WaysAgree field s t unit other := by
  have hlt : (s.meet t).max < (s.meet t).min := by
    by_contra hnot
    exact h ((Segment.not_max_lt_min_iff hnumeric).mp hnot)
  refine ⟨empty field, empty field, ?_, ?_, .nothing field, fun _ _ heq => by cases heq⟩
  · rw [inter_scalar, interScalar, if_pos hlt]
  · simp [inter_multi_singleton, Segment.properOnes, h, ofSegments]

/-- Where a bound of the meet is no number, the range is kept and is not in order. -/
theorem not_waysAgree (h : ¬ (s.meet t).IsNumeric) : ¬ WaysAgree field s t unit other := by
  rintro ⟨c, d, hc, _, _, hproper⟩
  rw [inter_scalar, interScalar, if_neg fun hlt => h (Segment.isNumeric_of_max_lt_min hlt)] at hc
  obtain rfl := Except.ok.inj hc
  exact h (Segment.isNumeric_of_isProper (hproper _ _ rfl))

/-- The two ways agree exactly when each bound of the meet comes from a number. -/
theorem waysAgree_iff (field : String) (s t : Segment) (unit other : Option String) :
    WaysAgree field s t unit other ↔
      (s.min ≠ .nan ∨ t.min ≠ .nan) ∧ (s.max ≠ .nan ∨ t.max ≠ .nan) := by
  rw [← Segment.isNumeric_meet_iff]
  constructor
  · intro hagree
    by_contra h
    exact not_waysAgree h hagree
  · intro hnumeric
    by_cases hproper : (s.meet t).IsProper
    · exact waysAgree_of_isProper hproper
    · exact waysAgree_of_inverted hnumeric hproper

theorem waysAgree_fails_without_minimum :
    let low := Segment.mk .nan (.ofUnits 6 (by decide))
    let high := Segment.mk .nan (.ofUnits 9 (by decide))
    (scalar "time" low none).inter (scalar "time" high none) = .ok (scalar "time" low none) ∧
      (scalar "time" low none).inter (multi "time" [high]) = .ok (empty "time") ∧
      ¬ low.IsProper ∧ ¬ ∀ field s t unit other, WaysAgree field s t unit other := by
  intro low high
  have hbounds : ¬ (low.meet high).IsNumeric := fun h => h.1 rfl
  exact ⟨rfl, rfl, by decide, fun h => not_waysAgree hbounds (h "time" low high none none)⟩

end Concept

end Grounding
