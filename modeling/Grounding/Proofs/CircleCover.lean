import Grounding.Proofs.IntersectionChain
import Grounding.Proofs.Selection

/-! What a range of a circle covers on the line. Its two parts run from the lower bound to the period
and from zero to the upper bound, and so leave out only the gap above the upper and below the lower
bound. Where the bounds are in order there is no gap, and an intersection with the range is no
restriction. -/

namespace Grounding

namespace Segment

/-- The line from zero once around a circle. -/
def around (period : Number) : Segment :=
  ⟨.zero, period⟩

/-- The two parts of a range of a circle. -/
def circleParts (min max period : Number) : List Segment :=
  [⟨min, period⟩, ⟨.zero, max⟩]

def Disjoint (s t : Segment) : Prop :=
  ∀ x, ¬ (x ∈ s ∧ x ∈ t)

variable {min max period x : Number}

theorem covers_circleParts : Covers (circleParts min max period) x ↔
    min ≤ x ∧ x ≤ period ∨ .zero ≤ x ∧ x ≤ max := by
  simp [Covers, circleParts, mem_iff]

theorem covers_of_not_gap (hmin : Number.IsWithin period min) (hmax : Number.IsWithin period max)
    (hx : x ∈ around period) (hgap : ¬ (max < x ∧ x < min)) :
    Covers (circleParts min max period) x := by
  have hnan : x ≠ .nan := (Number.le_iff.mp hx.1).2.1
  have hmin_nan := Number.ne_nan_of_isFinite hmin.1
  have hmax_nan := Number.ne_nan_of_isFinite hmax.1
  rw [covers_circleParts]
  by_cases hbelow : x ≤ max
  · exact Or.inr ⟨hx.1, hbelow⟩
  · have habove : max < x := (Number.lt_iff_not_le hmax_nan hnan).mpr hbelow
    have hmin_le : min ≤ x := (Number.not_lt_iff_le hnan hmin_nan).mp fun h => hgap ⟨habove, h⟩
    exact Or.inl ⟨hmin_le, hx.2⟩

/-- The parts cover the circle except for the gap, which is empty if the bounds are in order. -/
theorem covers_circleParts_iff (hmin : Number.IsWithin period min)
    (hmax : Number.IsWithin period max) :
    Covers (circleParts min max period) x ↔ x ∈ around period ∧ ¬ (max < x ∧ x < min) := by
  constructor
  · intro h
    rcases covers_circleParts.mp h with ⟨hx, hp⟩ | ⟨hz, hx⟩
    · exact ⟨⟨Number.le_trans hmin.2.1 hx, hp⟩, fun hgap => Number.not_le_of_lt hgap.2 hx⟩
    · exact ⟨⟨hz, Number.le_trans hx hmax.2.2⟩, fun hgap => Number.not_le_of_lt hgap.1 hx⟩
  · rintro ⟨hx, hgap⟩
    exact covers_of_not_gap hmin hmax hx hgap

theorem not_gap (h : min ≤ max) : ¬ (max < x ∧ x < min) := by
  rintro ⟨hmax, hmin⟩
  have hlt := (Number.lt_iff.mp hmax).2.2
  have hlt' := (Number.lt_iff.mp hmin).2.2
  have hle := (Number.le_iff.mp h).2.2
  omega

theorem disjoint_of_lt (h : max < min) : Disjoint ⟨min, period⟩ ⟨.zero, max⟩ := by
  rintro x ⟨hlow, hhigh⟩
  exact Number.not_le_of_lt h (Number.le_trans hlow.1 hhigh.2)

theorem pairwise_disjoint_circleParts (h : max < min) :
    (circleParts min max period).Pairwise Disjoint := by
  simp [circleParts, disjoint_of_lt h]

theorem isNumeric_circleParts (hmin : Number.IsWithin period min)
    (hmax : Number.IsWithin period max) : ∀ s ∈ circleParts min max period, s.IsNumeric := by
  have hperiod : period ≠ .nan := (Number.le_iff.mp hmin.2.2).2.1
  simp [circleParts, IsNumeric, hperiod, Number.ne_nan_of_isFinite hmin.1,
    Number.ne_nan_of_isFinite hmax.1, Number.zero_ne_nan]

theorem eq_nil_iff_not_covers {segments : List Segment} (h : ∀ s ∈ segments, s.IsProper) :
    segments = [] ↔ ∀ x, ¬ Covers segments x := by
  constructor
  · rintro rfl x ⟨s, hs, _⟩
    cases hs
  · intro hnone
    refine List.eq_nil_iff_forall_not_mem.mpr fun s hs => ?_
    exact hnone s.min ⟨s, hs, min_mem (h s hs)⟩

/-- Intervals with a point that cover what two lists of intervals both cover. -/
def AreShared (left right shared : List Segment) : Prop :=
  (∀ s ∈ shared, s.IsProper) ∧ ∀ x, Covers shared x ↔ Covers left x ∧ Covers right x

variable {left right segments shared : List Segment}

theorem AreShared.swap (h : AreShared left right shared) : AreShared right left shared :=
  ⟨h.1, fun x => (h.2 x).trans and_comm⟩

theorem areShared_interSegments (hl : ∀ s ∈ left, s.IsNumeric) (hr : ∀ t ∈ right, t.IsNumeric) :
    AreShared left right (interSegments left right) := by
  refine ⟨fun u hu => ?_, fun x => covers_interSegments hl hr⟩
  obtain ⟨s, _, t, _, rfl, hproper⟩ := mem_interSegments.mp hu
  exact hproper

/-- What a range of a circle leaves of intervals on the line around it. -/
theorem AreShared.covers_iff (hmin : Number.IsWithin period min)
    (hmax : Number.IsWithin period max) (hwithin : ∀ s ∈ segments, .zero ≤ s.min ∧ s.max ≤ period)
    (h : AreShared (circleParts min max period) segments shared) :
    Covers shared x ↔ Covers segments x ∧ ¬ (max < x ∧ x < min) := by
  have haround : Covers segments x → x ∈ around period := by
    rintro ⟨s, hs, hx⟩
    exact ⟨Number.le_trans (hwithin s hs).1 hx.1, Number.le_trans hx.2 (hwithin s hs).2⟩
  rw [h.2, covers_circleParts_iff hmin hmax]
  constructor
  · rintro ⟨⟨_, hgap⟩, hx⟩
    exact ⟨hx, hgap⟩
  · rintro ⟨hx, hgap⟩
    exact ⟨⟨haround hx, hgap⟩, hx⟩

end Segment

open Segment

namespace Concept

variable {d : Concept} {field : String} {min max period : Number}
  {segments shared : List Segment}

theorem isEmpty_ofSegments : (ofSegments field segments).isEmpty = true ↔ segments = [] := by
  by_cases hnil : segments = []
  · simp [ofSegments, isEmpty, hnil]
  · simp [ofSegments, isEmpty, hnil]

/-- What an intersection with a range of a circle does to the concept it is intersected with, which
covers some intervals. Only a range with a gap restricts it. -/
structure RestrictsTo (field : String) (min max : Number) (segments : List Segment)
    (d c : Concept) : Prop where
  selects_of_order : min ≤ max → ∀ r : Record, c.Selects r ↔ d.Selects r
  isEmpty_of_order : min ≤ max → (c.isEmpty = true ↔ segments = [])
  selects_of_gap : max < min → ∀ r : Record,
    c.Selects r ↔ d.Selects r ∧ ¬ r.Measures field fun x => max < x ∧ x < min

section

variable (hmin : Number.IsWithin period min) (hmax : Number.IsWithin period max)
  (hwithin : ∀ s ∈ segments, .zero ≤ s.min ∧ s.max ≤ period)
  (h : AreShared (circleParts min max period) segments shared)

include hmin hmax hwithin h

theorem selects_of_areShared (hfield : d.field? = some field) (hd : d.unroll? = some segments)
    (r : Record) : (ofSegments field shared).Selects r ↔
      d.Selects r ∧ ¬ r.Measures field fun x => max < x ∧ x < min := by
  rw [selects_ofSegments, selects_of_unroll? hfield hd]
  constructor
  · rintro ⟨x, hx, hc⟩
    obtain ⟨hcx, hgap⟩ := (h.covers_iff hmin hmax hwithin).mp hc
    refine ⟨⟨x, hx, hcx⟩, ?_⟩
    rintro ⟨y, hy, hgapy⟩
    rw [hx] at hy
    cases hy
    exact hgap hgapy
  · rintro ⟨⟨x, hx, hc⟩, hgap⟩
    exact ⟨x, hx, (h.covers_iff hmin hmax hwithin).mpr ⟨hc, fun hgapx => hgap ⟨x, hx, hgapx⟩⟩⟩

theorem isEmpty_of_areShared (hproper : ∀ s ∈ segments, s.IsProper) (horder : min ≤ max) :
    (ofSegments field shared).isEmpty = true ↔ segments = [] := by
  rw [isEmpty_ofSegments, eq_nil_iff_not_covers h.1, eq_nil_iff_not_covers hproper]
  refine forall_congr' fun x => not_congr ?_
  rw [h.covers_iff hmin hmax hwithin, and_iff_left (not_gap horder)]

theorem restrictsTo_ofSegments (hproper : ∀ s ∈ segments, s.IsProper)
    (hfield : d.field? = some field) (hd : d.unroll? = some segments) :
    RestrictsTo field min max segments d (ofSegments field shared) := by
  have hselects := selects_of_areShared hmin hmax hwithin h hfield hd
  refine ⟨fun horder r => ?_, isEmpty_of_areShared hmin hmax hwithin h hproper, fun _ => hselects⟩
  have hnone : ¬ r.Measures field fun x => max < x ∧ x < min := by
    rintro ⟨x, _, hgap⟩
    exact not_gap horder hgap
  rw [hselects r, and_iff_left hnone]

end

theorem exists_inter_cyclic (hmin : Number.IsWithin period min)
    (hmax : Number.IsWithin period max) (hfield : d.field? = some field)
    (hd : d.unroll? = some segments)
    (hsegments : ∀ s ∈ segments, s.IsProper ∧ .zero ≤ s.min ∧ s.max ≤ period) :
    ∃ left right, (cyclic field min max period).inter d = .ok left ∧
      d.inter (cyclic field min max period) = .ok right ∧
      RestrictsTo field min max segments d left ∧ RestrictsTo field min max segments d right := by
  have hproper : ∀ s ∈ segments, s.IsProper := fun s hs => (hsegments s hs).1
  have hwithin : ∀ s ∈ segments, .zero ≤ s.min ∧ s.max ≤ period := fun s hs => (hsegments s hs).2
  have hparts := isNumeric_circleParts hmin hmax
  have hnumeric : ∀ s ∈ segments, s.IsNumeric := fun s hs => isNumeric_of_isProper (hproper s hs)
  have hleft := areShared_interSegments hparts hnumeric
  have hright := (areShared_interSegments hnumeric hparts).swap
  exact ⟨_, _, inter_of_unroll? rfl hfield rfl hd rfl,
    inter_of_unroll? hfield rfl hd rfl (Bool.or_true _),
    restrictsTo_ofSegments hmin hmax hwithin hleft hproper hfield hd,
    restrictsTo_ofSegments hmin hmax hwithin hright hproper hfield hd⟩

end Concept

/-- A range of a circle that may be stored covers the circle but for the gap between its upper and
its lower bound, and it restricts other intervals on the circle by the gap and by nothing else. -/
theorem cyclic_covers {name field : String} {min max period : Number}
    (h : (Concept.cyclic field min max period).validate name = .ok ()) :
    (∃ parts, (Concept.cyclic field min max period).unroll? = some parts ∧
      (∀ x, Covers parts x → x ∈ around period) ∧
      (max < min → parts.Pairwise Disjoint ∧
        ∀ x, Covers parts x ↔ x ∈ around period ∧ ¬ (max < x ∧ x < min)) ∧
      (min ≤ max → ∀ x, x ∈ around period → Covers parts x)) ∧
    ∀ (d : Concept) (segments : List Segment), d.field? = some field →
      d.unroll? = some segments →
      (∀ s ∈ segments, s.IsProper ∧ .zero ≤ s.min ∧ s.max ≤ period) →
      ∃ left right, (Concept.cyclic field min max period).inter d = .ok left ∧
        d.inter (Concept.cyclic field min max period) = .ok right ∧
        Concept.RestrictsTo field min max segments d left ∧
        Concept.RestrictsTo field min max segments d right := by
  obtain ⟨_, _, _, hmin, hmax⟩ := Concept.validate_eq_ok_iff.mp h
  have hcovers := fun x => covers_circleParts_iff (x := x) hmin hmax
  refine ⟨⟨circleParts min max period, rfl, fun x hx => ((hcovers x).mp hx).1, fun hgap => ?_,
    fun horder x hx => ?_⟩, fun d segments hfield hd hsegments => ?_⟩
  · exact ⟨pairwise_disjoint_circleParts hgap, hcovers⟩
  · exact (hcovers x).mpr ⟨hx, not_gap horder⟩
  · exact Concept.exists_inter_cyclic hmin hmax hfield hd hsegments

/-- An afternoon does not even exclude the morning. -/
theorem cyclic_covers_morning :
    let afternoon := Concept.cyclic "time" (.ofUnits 13 (by decide)) (.ofUnits 17 (by decide))
      (.ofUnits 24 (by decide))
    let hours := Segment.mk (.ofUnits 6 (by decide)) (.ofUnits 9 (by decide))
    let morning := Concept.scalar "time" hours none
    afternoon.validate "Afternoon" = .ok () ∧ morning.field? = some "time" ∧
      morning.unroll? = some [hours] ∧
      ∃ c, afternoon.inter morning = .ok c ∧ c.isEmpty = false ∧
        ∀ r : Record, c.Selects r ↔ morning.Selects r := by
  intro afternoon hours morning
  have hvalid : afternoon.validate "Afternoon" = .ok () := rfl
  have hhours : ∀ s ∈ [hours], s.IsProper ∧ .zero ≤ s.min ∧
      s.max ≤ .ofUnits 24 (by decide) := by
    simp only [List.forall_mem_singleton]
    decide
  obtain ⟨c, _, hc, _, hrestricts, _⟩ := (cyclic_covers hvalid).2 morning [hours] rfl rfl hhours
  have horder : Number.ofUnits 13 (by decide) ≤ .ofUnits 17 (by decide) := by decide
  refine ⟨hvalid, rfl, rfl, c, hc, ?_, hrestricts.selects_of_order horder⟩
  simp [Bool.eq_false_iff, hrestricts.isEmpty_of_order horder]

end Grounding
