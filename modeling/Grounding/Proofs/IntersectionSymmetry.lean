import Grounding.Proofs.IntersectionChain
import Grounding.Proofs.Selection
import Mathlib.Data.List.Sort
import Mathlib.Data.Multiset.Bind

/-! Intersections with their operands exchanged. The larger of two numbers does not depend on
their order, except for the sign of zero, and so the same intervals are shared in either order.
Their list is transposed: what the first interval of the left list shares comes first. -/

namespace Grounding

namespace Number

/-- The same place in the order. The two zeros have it, and what is no number has it with
itself. -/
def Same (a b : Number) : Prop :=
  a ≤ b ∧ b ≤ a ∨ a = nan ∧ b = nan

variable {a b c d : Number}

theorem same_iff_rank (ha : a ≠ nan) (hb : b ≠ nan) : a.Same b ↔ a.rank = b.rank := by
  simp only [Same, le_iff, ha, hb, ne_eq, not_false_eq_true, true_and, and_false, or_false]
  omega

theorem Same.refl (a : Number) : a.Same a := by
  by_cases ha : a = nan
  · exact Or.inr ⟨ha, ha⟩
  · exact Or.inl ⟨le_refl ha, le_refl ha⟩

theorem Same.symm (h : a.Same b) : b.Same a := by
  rcases h with ⟨hab, hba⟩ | ⟨ha, hb⟩
  · exact Or.inl ⟨hba, hab⟩
  · exact Or.inr ⟨hb, ha⟩

theorem Same.le_of_le (hac : a.Same c) (hbd : b.Same d) (h : a ≤ b) : c ≤ d := by
  obtain ⟨ha, hb, _⟩ := le_iff.mp h
  rcases hac with ⟨_, hca⟩ | ⟨hnan, _⟩
  · rcases hbd with ⟨hbd, _⟩ | ⟨hnan, _⟩
    · exact le_trans (le_trans hca h) hbd
    · exact absurd hnan hb
  · exact absurd hnan ha

theorem Same.le_iff (hac : a.Same c) (hbd : b.Same d) : a ≤ b ↔ c ≤ d :=
  ⟨hac.le_of_le hbd, hac.symm.le_of_le hbd.symm⟩

theorem lt_iff_le_and_not_le : a < b ↔ a ≤ b ∧ ¬ b ≤ a := by
  simp only [Number.lt_iff, Number.le_iff]
  grind

theorem Same.lt_iff (hac : a.Same c) (hbd : b.Same d) : a < b ↔ c < d := by
  rw [lt_iff_le_and_not_le, lt_iff_le_and_not_le, hac.le_iff hbd, hbd.le_iff hac]

theorem max_same (a b : Number) : (max a b).Same (max b a) := by
  by_cases ha : a = nan
  · have hmax : max a b = max b a := by simp [ha]
    exact hmax ▸ .refl _
  by_cases hb : b = nan
  · have hmax : max a b = max b a := by simp [hb]
    exact hmax ▸ .refl _
  rw [same_iff_rank (max_ne_nan ha hb) (max_ne_nan hb ha), max_eq_ite ha hb, max_eq_ite hb ha]
  split <;> split <;> omega

theorem min_same (a b : Number) : (min a b).Same (min b a) := by
  by_cases ha : a = nan
  · have hmin : min a b = min b a := by simp [ha]
    exact hmin ▸ .refl _
  by_cases hb : b = nan
  · have hmin : min a b = min b a := by simp [hb]
    exact hmin ▸ .refl _
  rw [same_iff_rank (min_ne_nan ha hb) (min_ne_nan hb ha), min_eq_ite ha hb, min_eq_ite hb ha]
  split <;> split <;> omega

end Number

namespace Segment

def Same (s t : Segment) : Prop :=
  s.min.Same t.min ∧ s.max.Same t.max

/-- The same intervals, each as often, in any order. -/
def SameInAnyOrder (left right : List Segment) : Prop :=
  ∃ between, left.Perm between ∧ List.Forall₂ Same between right

variable {s t : Segment} {left right : List Segment}

theorem meet_same (s t : Segment) : (s.meet t).Same (t.meet s) :=
  ⟨Number.max_same s.min t.min, Number.min_same s.max t.max⟩

theorem Same.isProper_iff (h : s.Same t) : s.IsProper ↔ t.IsProper :=
  h.1.le_iff h.2

theorem inter?_same (s t : Segment) : Option.Rel Same (s.inter? t) (t.inter? s) := by
  have hmeet := meet_same s t
  by_cases hproper : (s.meet t).IsProper
  · have hswapped := hmeet.isProper_iff.mp hproper
    rw [inter?, inter?, if_pos hproper, if_pos hswapped]
    exact .some hmeet
  · have hswapped := fun h => hproper (hmeet.isProper_iff.mpr h)
    rw [inter?_eq_none hproper, inter?_eq_none hswapped]
    exact .none

theorem SameInAnyOrder.eq_nil_iff (h : SameInAnyOrder left right) : left = [] ↔ right = [] := by
  obtain ⟨between, hperm, hsame⟩ := h
  have hlength : left.length = right.length := hperm.length_eq.trans hsame.length_eq
  rw [← List.length_eq_zero_iff, ← List.length_eq_zero_iff, hlength]

end Segment

theorem interSegments_same (left right : List Segment) :
    Segment.SameInAnyOrder (interSegments left right) (interSegments right left) := by
  refine ⟨right.flatMap fun t => left.filterMap (·.inter? t), ?_, ?_⟩
  · have htransposed := Multiset.bind_bind (left : Multiset Segment) (right : Multiset Segment)
      (f := fun s t => ((s.inter? t).toList : Multiset Segment))
    simp only [Multiset.coe_bind, Multiset.coe_eq_coe] at htransposed
    simpa only [interSegments, List.filterMap_eq_flatMap_toList] using htransposed
  · have hcolumn : ∀ t : Segment,
        List.Forall₂ Segment.Same (left.filterMap (·.inter? t)) (left.filterMap t.inter?) :=
      fun t => List.rel_filterMap (R := Eq) (fun s _ heq => heq ▸ Segment.inter?_same s t)
        (List.forall₂_refl left)
    exact List.rel_flatMap (R := Eq) (List.forall₂_refl right) fun t _ heq => heq ▸ hcolumn t

theorem LabelSet.inter_comm (s t : LabelSet) : s.inter t = t.inter s := by
  refine LabelSet.eq_of_labels ?_
  refine List.Pairwise.eq_of_mem_iff (s.inter t).ascending (t.inter s).ascending fun label => ?_
  have hmem : label ∈ s.inter t ↔ label ∈ t.inter s := by
    rw [LabelSet.mem_inter, LabelSet.mem_inter, and_comm]
  exact hmem

namespace Concept

/-- What the intersection of two concepts can be, and what it is then with the operands exchanged.
A range has the unit of the left operand, and only shapes without an intersection are
unsupported. -/
inductive Exchanged (a b : Concept) :
    Except EvaluationError Concept → Except EvaluationError Concept → Prop
  | scalar {field : String} {s t : Segment} (h : s.Same t) :
    Exchanged a b (.ok (scalar field s a.unit?)) (.ok (scalar field t b.unit?))
  | categorical (field : String) (labels : LabelSet) :
    Exchanged a b (.ok (categorical field labels)) (.ok (categorical field labels))
  | multi {field : String} {left right : List Segment} (h : Segment.SameInAnyOrder left right) :
    Exchanged a b (.ok (multi field left)) (.ok (multi field right))
  | empty (field : String) : Exchanged a b (.ok (empty field)) (.ok (empty field))
  | mismatch (h : a.field? ≠ b.field?) :
    Exchanged a b (.error (.fieldMismatch a.fieldLabel b.fieldLabel))
      (.error (.fieldMismatch b.fieldLabel a.fieldLabel))
  | unsupported (h : a.field? = b.field?) (hnone : ∀ c, ¬ MeetsIn a b c) :
    Exchanged a b (.error (.unsupportedKinds .intersect a.kind b.kind))
      (.error (.unsupportedKinds .intersect b.kind a.kind))

variable {a b : Concept} {field : String}

theorem interScalar_exchanged (field : String) (s t : Segment) (unit other : Option String) :
    Exchanged (scalar field s unit) (scalar field t other)
      (.ok (interScalar field s t unit)) (.ok (interScalar field t s other)) := by
  have hmeet := Segment.meet_same s t
  have hinverted := hmeet.2.lt_iff hmeet.1
  by_cases hlt : (s.meet t).max < (s.meet t).min
  · rw [interScalar, interScalar, if_pos hlt, if_pos (hinverted.mp hlt)]
    exact .empty field
  · rw [interScalar, interScalar, if_neg hlt, if_neg fun h => hlt (hinverted.mpr h)]
    exact .scalar hmeet

theorem interLabels_exchanged (field : String) (s t : LabelSet) :
    Exchanged (categorical field s) (categorical field t)
      (.ok (interLabels field s t)) (.ok (interLabels field t s)) := by
  rw [interLabels, interLabels, LabelSet.inter_comm t s]
  by_cases hempty : (s.inter t).isEmpty = true
  · rw [if_pos hempty]
    exact .empty field
  · rw [if_neg hempty]
    exact .categorical field _

theorem ofSegments_exchanged {left right : List Segment}
    (h : Segment.SameInAnyOrder left right) :
    Exchanged a b (.ok (ofSegments field left)) (.ok (ofSegments field right)) := by
  by_cases hnil : left = []
  · rw [ofSegments, ofSegments, if_pos hnil, if_pos (h.eq_nil_iff.mp hnil)]
    exact .empty field
  · rw [ofSegments, ofSegments, if_neg hnil, if_neg fun hright => hnil (h.eq_nil_iff.mpr hright)]
    exact .multi h

theorem exchanged_of_unroll? {s t : List Segment} (hfield : a.field? = b.field?)
    (hs : a.unroll? = some s) (ht : b.unroll? = some t) (h : a.isUnrolled || b.isUnrolled) :
    Exchanged a b (interSameField a b) (interSameField b a) := by
  obtain ⟨field, ha⟩ := exists_field_of_unroll? hs
  have hb : b.field? = some field := hfield.symm.trans ha
  rw [interSameField_of_unroll? ha hs ht h,
    interSameField_of_unroll? hb ht hs (by rwa [Bool.or_comm])]
  exact ofSegments_exchanged (interSegments_same s t)

theorem exchanged_of_empty_left (h : b.field? = some field) :
    Exchanged (empty field) b (interSameField (empty field) b)
      (interSameField b (empty field)) := by
  rw [interSameField_empty h]
  exact .empty field

theorem exchanged_of_empty_right (h : a.field? = some field) :
    Exchanged a (empty field) (interSameField a (empty field))
      (interSameField (empty field) a) := by
  rw [interSameField_empty h]
  exact .empty field

theorem not_meetsIn (ha : a.isEmpty = false) (hb : b.isEmpty = false)
    (hlabels : a.kind ≠ .categorical ∨ b.kind ≠ .categorical)
    (hunroll : a.unroll? = none ∨ b.unroll? = none) (c : Concept) : ¬ MeetsIn a b c := by
  intro h
  cases h with
  | emptyLeft => cases ha
  | emptyRight => cases hb
  | scalar => simp [unroll?] at hunroll
  | categorical => simp [kind] at hlabels
  | unrolled _ hs ht => simp [hs, ht] at hunroll

/-- Which of the ways to intersect is taken depends on both shapes alike. -/
theorem interSameField_exchanged (h : a.field? = b.field?) :
    Exchanged a b (interSameField a b) (interSameField b a) := by
  cases a with
  | empty => exact exchanged_of_empty_left h.symm
  | scalar field s unit =>
    cases b with
    | empty => exact exchanged_of_empty_right h
    | scalar =>
      obtain rfl := Option.some.inj h
      exact interScalar_exchanged field s _ unit _
    | cyclic | multi => exact exchanged_of_unroll? h rfl rfl rfl
    | categorical | difference | union =>
      exact .unsupported h (not_meetsIn rfl rfl (Or.inl nofun) (Or.inr rfl))
  | categorical field s =>
    cases b with
    | empty => exact exchanged_of_empty_right h
    | categorical =>
      obtain rfl := Option.some.inj h
      exact interLabels_exchanged field s _
    | scalar | cyclic | multi | difference | union =>
      exact .unsupported h (not_meetsIn rfl rfl (Or.inr nofun) (Or.inl rfl))
  | cyclic | multi =>
    cases b with
    | empty => exact exchanged_of_empty_right h
    | scalar | cyclic | multi => exact exchanged_of_unroll? h rfl rfl rfl
    | categorical | difference | union =>
      exact .unsupported h (not_meetsIn rfl rfl (Or.inl nofun) (Or.inr rfl))
  | difference | union =>
    cases b with
    | empty => exact exchanged_of_empty_right h
    | scalar | categorical | cyclic | multi | difference | union =>
      exact .unsupported h (not_meetsIn rfl rfl (Or.inl nofun) (Or.inl rfl))

/-- Exchanging the operands of an intersection changes the order of intervals, the unit of a range
and the order in which an error names the operands, and nothing else. -/
theorem inter_exchanged (a b : Concept) : Exchanged a b (a.inter b) (b.inter a) := by
  by_cases h : a.field? = b.field?
  · rw [inter, inter, if_pos h, if_pos h.symm]
    exact interSameField_exchanged h
  · rw [inter, inter, if_neg h, if_neg (Ne.symm h)]
    exact .mismatch h

end Concept

end Grounding
