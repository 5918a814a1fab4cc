import Grounding.Proofs.GroundedShape
import Mathlib.Logic.Basic

/-! What concepts and plans select. A record has a number or a label in some of its fields; a
concept selects records by one field, and a plan by the concepts of its leaves. Grounding keeps
this meaning, and an intersection without any record is the empty concept. -/

namespace Grounding

inductive Datum
  | number (x : Number)
  | label (text : String)

abbrev Record := String → Option Datum

namespace Record

def Measures (r : Record) (field : String) (p : Number → Prop) : Prop :=
  ∃ x, r field = some (.number x) ∧ p x

theorem measures_congr {r : Record} {field : String} {p q : Number → Prop}
    (h : ∀ x, p x ↔ q x) : r.Measures field p ↔ r.Measures field q := by
  simp only [Measures, h]

theorem measures_and {r : Record} {field : String} {p q : Number → Prop} :
    (r.Measures field fun x => p x ∧ q x) ↔ r.Measures field p ∧ r.Measures field q := by
  constructor
  · rintro ⟨x, hx, hp, hq⟩
    exact ⟨⟨x, hx, hp⟩, ⟨x, hx, hq⟩⟩
  · rintro ⟨⟨x, hx, hp⟩, ⟨y, hy, hq⟩⟩
    rw [hx] at hy
    cases hy
    exact ⟨x, hx, hp, hq⟩

end Record

/-- The records of a concept. A range of a circle goes from `min` to the period and from zero to
`max`, whichever of its bounds is larger. -/
def Concept.Selects : Concept → Record → Prop
  | scalar field bounds _, r => r.Measures field fun x => bounds.min ≤ x ∧ x ≤ bounds.max
  | categorical field labels, r => ∃ label ∈ labels, r field = some (.label label)
  | cyclic field min max period, r =>
    r.Measures field fun x => min ≤ x ∧ x ≤ period ∨ .zero ≤ x ∧ x ≤ max
  | multi field segments, r => r.Measures field fun x => ∃ s ∈ segments, s.min ≤ x ∧ x ≤ s.max
  | difference base removed, r => base.Selects r ∧ ¬ removed.Selects r
  | union left right, r => left.Selects r ∨ right.Selects r
  | empty _, _ => False

namespace Plan

def SameField (source : Source) (left right : Plan) : Prop :=
  ∃ a b, left.Yields source a ∧ right.Yields source b ∧ a.field? = b.field?

/-- The records of a plan, by the algebra of sets over the concepts of its leaves. A difference
removes what its right operand selects when both operands are on the same field. -/
def Selects (source : Source) : Plan → Record → Prop
  | concept name, r => ∃ c, source.lookup name = .ok c ∧ c.Selects r
  | apply .intersect left right, r => left.Selects source r ∧ right.Selects source r
  | apply .union left right, r => left.Selects source r ∨ right.Selects source r
  | apply .difference left right, r =>
    left.Selects source r ∧ ¬ (SameField source left right ∧ right.Selects source r)

end Plan

namespace LabelSet

theorem mem_inter {s t : LabelSet} {label : String} :
    label ∈ s.inter t ↔ label ∈ s ∧ label ∈ t := by
  have hfilter : label ∈ s.labels.filter (· ∈ t) ↔ label ∈ s.labels ∧ label ∈ t := by
    simp [List.mem_filter]
  exact hfilter

theorem isEmpty_iff {s : LabelSet} : s.isEmpty = true ↔ ∀ label, label ∉ s := by
  have hnil : s.labels = [] ↔ ∀ label, label ∉ s.labels := List.eq_nil_iff_forall_not_mem
  rw [isEmpty, List.isEmpty_iff, hnil]
  rfl

end LabelSet

namespace Concept

variable {a b c : Concept} {r : Record} {source : Source} {names : List String}

theorem selects_of_unroll? {field : String} {segments : List Segment}
    (hfield : a.field? = some field) (h : a.unroll? = some segments) :
    a.Selects r ↔ r.Measures field (Covers segments) := by
  cases a with
  | scalar | cyclic | multi =>
    obtain rfl := Option.some.inj hfield
    obtain rfl := Option.some.inj h
    exact Record.measures_congr fun x => by simp [Covers, Segment.mem_iff]
  | categorical | difference | union | empty => cases h

theorem selects_ofSegments {field : String} {segments : List Segment} :
    (ofSegments field segments).Selects r ↔ r.Measures field (Covers segments) := by
  unfold ofSegments
  split
  · rename_i hnil
    simp [hnil, Selects, Record.Measures, Covers]
  · exact selects_of_unroll? rfl rfl

theorem selects_interScalar {field : String} {s t : Segment} {unit : Option String}
    (hs : s.IsNumeric) (ht : t.IsNumeric) :
    (interScalar field s t unit).Selects r ↔
      r.Measures field (· ∈ s) ∧ r.Measures field (· ∈ t) := by
  rw [← Record.measures_and]
  unfold interScalar
  split
  · rename_i hlt
    have hnot : ¬ (s.meet t).IsProper := fun hp =>
      (Segment.not_max_lt_min_iff (hs.meet ht)).mpr hp hlt
    constructor
    · exact False.elim
    · rintro ⟨x, _, hx⟩
      exact hnot (Segment.isProper_of_mem ((Segment.mem_meet_iff hs ht).mpr hx))
  · exact Record.measures_congr fun x => Segment.mem_meet_iff hs ht

theorem selects_interLabels {field : String} {s t : LabelSet} :
    (interLabels field s t).Selects r ↔
      (categorical field s).Selects r ∧ (categorical field t).Selects r := by
  have hinter : (categorical field (s.inter t)).Selects r ↔
      (categorical field s).Selects r ∧ (categorical field t).Selects r := by
    constructor
    · rintro ⟨label, hl, hr⟩
      obtain ⟨hs, ht⟩ := LabelSet.mem_inter.mp hl
      exact ⟨⟨label, hs, hr⟩, ⟨label, ht, hr⟩⟩
    · rintro ⟨⟨label, hs, hr⟩, ⟨other, ht, hr'⟩⟩
      rw [hr] at hr'
      cases hr'
      exact ⟨label, LabelSet.mem_inter.mpr ⟨hs, ht⟩, hr⟩
  unfold interLabels
  split
  · rename_i hempty
    rw [← hinter]
    constructor
    · exact False.elim
    · rintro ⟨label, hl, _⟩
      exact LabelSet.isEmpty_iff.mp hempty label hl
  · exact hinter

theorem isNumeric_of_unroll? (hvalid : source.IsValid) (ha : a.IsGroundedPart source names)
    {segments : List Segment} (h : a.unroll? = some segments) : ∀ s ∈ segments, s.IsNumeric :=
  fun s hs => (isGrounded_of_unroll? hvalid ha h s hs).isNumeric

theorem selects_of_meetsIn (hvalid : source.IsValid) (ha : a.IsGroundedPart source names)
    (hb : b.IsGroundedPart source names) (hfield : a.field? = b.field?) (h : MeetsIn a b c) :
    c.Selects r ↔ a.Selects r ∧ b.Selects r := by
  cases h with
  | emptyLeft => simp [Selects]
  | emptyRight => simp [Selects]
  | scalar => exact selects_interScalar ha.2.isNumeric hb.2.isNumeric
  | categorical => exact selects_interLabels
  | @unrolled _ _ field s t hf hs ht =>
    rw [selects_ofSegments, selects_of_unroll? hf hs, selects_of_unroll? (hfield ▸ hf) ht,
      ← Record.measures_and]
    exact Record.measures_congr fun x =>
      covers_interSegments (isNumeric_of_unroll? hvalid ha hs) (isNumeric_of_unroll? hvalid hb ht)

/-- A difference removes records when both operands are on one field, and else none. -/
theorem selects_minus :
    (a.minus b).Selects r ↔ a.Selects r ∧ ¬ (a.field? = b.field? ∧ b.Selects r) := by
  unfold minus
  split
  · rename_i hfield
    simp [Selects, hfield]
  · rename_i hfield
    simp [hfield]

theorem exists_selects_interScalar {field : String} {s t : Segment} {unit : Option String}
    (hs : s.IsNumeric) (ht : t.IsNumeric) (hne : interScalar field s t unit ≠ empty field) :
    ∃ r, (interScalar field s t unit).Selects r := by
  by_cases hlt : (s.meet t).max < (s.meet t).min
  · exact absurd (if_pos hlt) hne
  · have hproper := (Segment.not_max_lt_min_iff (hs.meet ht)).mp hlt
    rw [interScalar, if_neg hlt]
    exact ⟨fun _ => some (.number (s.meet t).min), _, rfl, Segment.min_mem hproper⟩

theorem exists_selects_interLabels {field : String} {s t : LabelSet}
    (hne : interLabels field s t ≠ empty field) : ∃ r, (interLabels field s t).Selects r := by
  by_cases hempty : (s.inter t).isEmpty = true
  · exact absurd (if_pos hempty) hne
  · rw [interLabels, if_neg hempty]
    rw [LabelSet.isEmpty_iff, not_forall] at hempty
    obtain ⟨label, hl⟩ := hempty
    exact ⟨fun _ => some (.label label), label, not_not.mp hl, rfl⟩

theorem exists_selects_ofSegments {field : String} {segments : List Segment}
    (hproper : ∀ s ∈ segments, s.IsProper) (hne : ofSegments field segments ≠ empty field) :
    ∃ r, (ofSegments field segments).Selects r := by
  by_cases hnil : segments = []
  · exact absurd (if_pos hnil) hne
  · obtain ⟨s, hs⟩ := List.exists_mem_of_ne_nil segments hnil
    exact ⟨fun _ => some (.number s.min),
      selects_ofSegments.mpr ⟨s.min, rfl, s, hs, Segment.min_mem (hproper s hs)⟩⟩

/-- An intersection that is not the empty concept has a record, since every interval in it has a
point and every set of labels a label. -/
theorem exists_selects_of_meetsIn (ha : a.IsGroundedPart source names)
    (hb : b.IsGroundedPart source names) (h : MeetsIn a b c) (hne : ∀ field, c ≠ .empty field) :
    ∃ r, c.Selects r := by
  cases h with
  | emptyLeft field => exact absurd rfl (hne field)
  | emptyRight _ field => exact absurd rfl (hne field)
  | scalar field =>
    exact exists_selects_interScalar ha.2.isNumeric hb.2.isNumeric (hne field)
  | categorical field => exact exists_selects_interLabels (hne field)
  | @unrolled _ _ field =>
    refine exists_selects_ofSegments (fun u hu => ?_) (hne field)
    obtain ⟨s, _, t, _, rfl, hproper⟩ := mem_interSegments.mp hu
    exact hproper

end Concept

namespace Plan

variable {source : Source} {plan : Plan} {c : Concept}

theorem sameField_iff {left right : Plan} {a b : Concept} (ha : left.Yields source a)
    (hb : right.Yields source b) : SameField source left right ↔ a.field? = b.field? := by
  constructor
  · rintro ⟨a', b', ha', hb', h⟩
    rwa [ha.unique ha', hb.unique hb']
  · exact fun h => ⟨a, b, ha, hb, h⟩

/-- A plan selects what its value selects. -/
theorem Yields.selects_iff (hvalid : source.IsValid) (h : plan.Yields source c) (r : Record) :
    c.Selects r ↔ plan.Selects source r := by
  induction h with
  | concept hlookup => simp [Selects, hlookup]
  | @apply op left right a b c hl hr happly ihl ihr =>
    cases op with
    | intersect =>
      obtain ⟨hfield, hmeet⟩ := Concept.inter_eq_ok happly
      have ha := hl.isGroundedPart_self hvalid
      have hb := hr.isGroundedPart_self hvalid
      rw [Selects, ← ihl, ← ihr]
      exact Concept.selects_of_meetsIn hvalid (ha.mono (List.subset_append_left _ _))
        (hb.mono (List.subset_append_right _ _)) hfield hmeet
    | union =>
      obtain rfl := Except.ok.inj happly
      rw [Selects, ← ihl, ← ihr, Concept.Selects]
    | difference =>
      obtain rfl := Except.ok.inj happly
      rw [Selects, ← ihl, ← ihr, sameField_iff hl hr]
      exact Concept.selects_minus

theorem Yields.exists_selects {left right : Plan} (hvalid : source.IsValid)
    (h : Yields source (Plan.apply .intersect left right) c) (hne : ∀ field, c ≠ .empty field) :
    ∃ r, c.Selects r := by
  cases h with
  | apply hl hr happly =>
    have ha := hl.isGroundedPart_self hvalid
    have hb := hr.isGroundedPart_self hvalid
    exact Concept.exists_selects_of_meetsIn (ha.mono (List.subset_append_left _ _))
      (hb.mono (List.subset_append_right _ _)) (Concept.inter_eq_ok happly).2 hne

end Plan

/-- Grounding keeps the meaning of a plan, and an intersection is grounded to the empty concept
exactly when no record satisfies the plan. -/
theorem ground_selects {o : Ontology} (ho : o.IsBuilt) {limit : Nat} {plan : Plan} {c : Concept}
    (h : plan.ground limit o.toSource = .ok c) :
    (∀ r : Record, c.Selects r ↔ plan.Selects o.toSource r) ∧
      ∀ left right, plan = .apply .intersect left right →
        ((∃ field, c = .empty field) ↔ ∀ r : Record, ¬ plan.Selects o.toSource r) := by
  have hyields := Plan.Yields.of_ground h
  have hselects := hyields.selects_iff ho.isValid
  refine ⟨hselects, ?_⟩
  rintro left right rfl
  constructor
  · rintro ⟨field, rfl⟩ r
    rw [← hselects r]
    exact id
  · intro hnone
    refine Classical.byContradiction fun hne => ?_
    obtain ⟨r, hr⟩ := hyields.exists_selects ho.isValid (not_exists.mp hne)
    exact hnone r ((hselects r).mp hr)

theorem ground_selects_day :
    let plan := Plan.apply .intersect (.concept "Midnight")
      (.apply .intersect (.concept "Night") (.concept "Early"))
    Ontology.day.IsBuilt ∧ plan.ground 64 Ontology.day.toSource = .ok (.empty "time") ∧
      ∀ r : Record, ¬ plan.Selects Ontology.day.toSource r := by
  intro plan
  have h : plan.ground 64 Ontology.day.toSource = .ok (.empty "time") := rfl
  have hroot := (ground_selects Ontology.isBuilt_day h).2 _ _ rfl
  exact ⟨Ontology.isBuilt_day, h, hroot.mp ⟨"time", rfl⟩⟩

end Grounding
