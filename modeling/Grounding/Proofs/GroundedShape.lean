import Grounding.Proofs.ByteOrder
import Grounding.Proofs.ConceptMeet
import Grounding.Proofs.PlanEvaluation
import Grounding.Proofs.SegmentMeet
import Grounding.Proofs.StoredConcept

/-! The shape of grounded concepts. Whatever a plan makes of the concepts of an ontology, each part
of the result is in order, and its numbers and labels come from the leaves of the plan. -/

namespace Grounding

/-- Whether the source has a concept under one of some names. -/
def Source.Supplies (source : Source) (names : List String) (c : Concept) : Prop :=
  ∃ name ∈ names, source.lookup name = .ok c

def Concept.numbers : Concept → List Number
  | scalar _ bounds _ => [bounds.min, bounds.max]
  | cyclic _ min max period => [min, max, period]
  | multi _ segments => segments.flatMap fun s => [s.min, s.max]
  | _ => []

/-- A number of a leaf, or zero, where every circle begins. -/
def Source.SuppliesNumber (source : Source) (names : List String) (x : Number) : Prop :=
  x = .zero ∨ ∃ c, source.Supplies names c ∧ x ∈ c.numbers

def Source.SuppliesLabel (source : Source) (names : List String) (label : String) : Prop :=
  ∃ field labels, source.Supplies names (.categorical field labels) ∧ label ∈ labels

/-- An interval with finite bounds in order that are numbers of the leaves. -/
structure Segment.IsGrounded (source : Source) (names : List String) (s : Segment) : Prop where
  min_finite : s.min.isFinite = true
  max_finite : s.max.isFinite = true
  proper : s.IsProper
  min_supplied : source.SuppliesNumber names s.min
  max_supplied : source.SuppliesNumber names s.max

namespace Concept

/-- What holds of each part of a grounded concept. Only a range of a circle and an empty set of
labels have to be leaves as they are. -/
def IsGroundedPart (source : Source) (names : List String) : Concept → Prop
  | scalar field bounds _ => field ≠ "" ∧ bounds.IsGrounded source names
  | categorical field labels =>
    field ≠ "" ∧ labels.labels.Pairwise BytesBefore ∧
      (labels.labels = [] → source.Supplies names (categorical field labels)) ∧
      ∀ label ∈ labels.labels, source.SuppliesLabel names label
  | cyclic field min max period =>
    field ≠ "" ∧ source.Supplies names (cyclic field min max period)
  | multi field segments =>
    field ≠ "" ∧ segments ≠ [] ∧ ∀ s ∈ segments, s.IsGrounded source names
  | difference base removed => base.field? = removed.field?
  | union _ _ => True
  | empty field => field ≠ ""

def parts : Concept → List Concept
  | difference base removed => difference base removed :: (base.parts ++ removed.parts)
  | union left right => union left right :: (left.parts ++ right.parts)
  | c => [c]

end Concept

namespace Plan

def subplans : Plan → List Plan
  | concept name => [concept name]
  | apply op left right => apply op left right :: (left.subplans ++ right.subplans)

end Plan

section

variable {source : Source} {names more : List String}

theorem Source.Supplies.mono (hsub : names ⊆ more) {c : Concept} (h : source.Supplies names c) :
    source.Supplies more c := by
  obtain ⟨name, hname, hc⟩ := h
  exact ⟨name, hsub hname, hc⟩

theorem Source.SuppliesNumber.mono (hsub : names ⊆ more) {x : Number}
    (h : source.SuppliesNumber names x) : source.SuppliesNumber more x := by
  rcases h with h | ⟨c, hc, hx⟩
  · exact Or.inl h
  · exact Or.inr ⟨c, hc.mono hsub, hx⟩

theorem Source.SuppliesLabel.mono (hsub : names ⊆ more) {label : String}
    (h : source.SuppliesLabel names label) : source.SuppliesLabel more label := by
  obtain ⟨field, labels, hc, hl⟩ := h
  exact ⟨field, labels, hc.mono hsub, hl⟩

namespace Segment.IsGrounded

variable {s t : Segment}

theorem mono (hsub : names ⊆ more) (h : s.IsGrounded source names) : s.IsGrounded source more where
  min_finite := h.min_finite
  max_finite := h.max_finite
  proper := h.proper
  min_supplied := h.min_supplied.mono hsub
  max_supplied := h.max_supplied.mono hsub

theorem isNumeric (h : s.IsGrounded source names) : s.IsNumeric :=
  isNumeric_of_isProper h.proper

theorem meet (hs : s.IsGrounded source names) (ht : t.IsGrounded source names)
    (h : (s.meet t).IsProper) : (s.meet t).IsGrounded source names := by
  have hmin : (s.meet t).min = s.min ∨ (s.meet t).min = t.min := Number.max_eq_or s.min t.min
  have hmax : (s.meet t).max = s.max ∨ (s.meet t).max = t.max := Number.min_eq_or s.max t.max
  constructor
  · rcases hmin with hm | hm
    · exact hm ▸ hs.min_finite
    · exact hm ▸ ht.min_finite
  · rcases hmax with hm | hm
    · exact hm ▸ hs.max_finite
    · exact hm ▸ ht.max_finite
  · exact h
  · rcases hmin with hm | hm
    · exact hm ▸ hs.min_supplied
    · exact hm ▸ ht.min_supplied
  · rcases hmax with hm | hm
    · exact hm ▸ hs.max_supplied
    · exact hm ▸ ht.max_supplied

end Segment.IsGrounded

theorem isGrounded_of_mem_interSegments {left right : List Segment} {u : Segment}
    (hl : ∀ s ∈ left, s.IsGrounded source names) (hr : ∀ t ∈ right, t.IsGrounded source names)
    (hu : u ∈ interSegments left right) : u.IsGrounded source names := by
  obtain ⟨s, hs, t, ht, rfl, hproper⟩ := mem_interSegments.mp hu
  exact (hl s hs).meet (hr t ht) hproper

namespace Concept

theorem IsGroundedPart.mono (hsub : names ⊆ more) {c : Concept}
    (h : c.IsGroundedPart source names) : c.IsGroundedPart source more := by
  cases c with
  | scalar => exact ⟨h.1, h.2.mono hsub⟩
  | categorical =>
    exact ⟨h.1, h.2.1, fun he => (h.2.2.1 he).mono hsub, fun l hl => (h.2.2.2 l hl).mono hsub⟩
  | cyclic => exact ⟨h.1, h.2.mono hsub⟩
  | multi => exact ⟨h.1, h.2.1, fun s hs => (h.2.2 s hs).mono hsub⟩
  | difference => exact h
  | union => trivial
  | empty => exact h

theorem mem_parts_self (c : Concept) : c ∈ c.parts := by
  cases c <;> simp [parts]

variable {a b c : Concept}

theorem isGroundedPart_of_supplies (hstorable : c.IsStorable) (h : source.Supplies names c) :
    c.IsGroundedPart source names := by
  have hnumber : ∀ x ∈ c.numbers, source.SuppliesNumber names x := fun x hx => Or.inr ⟨c, h, hx⟩
  cases c with
  | scalar field bounds unit =>
    obtain ⟨hf, hmin, hmax, hproper⟩ := hstorable
    exact ⟨hf, hmin, hmax, hproper, hnumber _ (by simp [numbers]), hnumber _ (by simp [numbers])⟩
  | categorical field labels =>
    exact ⟨hstorable, labels.bytes_ascending, fun _ => h, fun label hl => ⟨field, labels, h, hl⟩⟩
  | cyclic => exact ⟨hstorable.1, h⟩
  | multi | difference | union | empty => exact hstorable.elim

theorem parts_of_isStorable (hstorable : c.IsStorable) : c.parts = [c] := by
  cases c with
  | scalar | categorical | cyclic | multi | empty => rfl
  | difference | union => exact hstorable.elim

theorem isGrounded_of_unroll? (hvalid : source.IsValid) (ha : a.IsGroundedPart source names)
    {segments : List Segment} (h : a.unroll? = some segments) :
    ∀ s ∈ segments, s.IsGrounded source names := by
  cases a with
  | scalar field bounds unit =>
    obtain rfl := Option.some.inj h
    simpa using ha.2
  | cyclic field min max period =>
    obtain rfl := Option.some.inj h
    obtain ⟨name, _, hlookup⟩ := ha.2
    obtain ⟨_, hperiod, _, hmin, hmax⟩ := hvalid name _ hlookup
    have hnumber : ∀ x ∈ [min, max, period], source.SuppliesNumber names x :=
      fun x hx => Or.inr ⟨_, ha.2, hx⟩
    rw [List.forall_mem_cons, List.forall_mem_singleton]
    exact ⟨⟨hmin.1, hperiod, hmin.2.2, hnumber _ (by simp), hnumber _ (by simp)⟩,
      ⟨Number.isFinite_zero, hmax.1, hmax.2.1, Or.inl rfl, hnumber _ (by simp)⟩⟩
  | multi field segments =>
    obtain rfl := Option.some.inj h
    exact ha.2.2
  | categorical | difference | union | empty => cases h

theorem ne_empty_of_unroll? {field : String} (ha : a.IsGroundedPart source names)
    (hfield : a.field? = some field) {segments : List Segment} (h : a.unroll? = some segments) :
    field ≠ "" := by
  cases a with
  | scalar | cyclic | multi =>
    obtain rfl := Option.some.inj hfield
    exact ha.1
  | categorical | difference | union | empty => cases h

theorem isGroundedPart_interScalar {field : String} {s t : Segment} {unit : Option String}
    (hfield : field ≠ "") (hs : s.IsGrounded source names) (ht : t.IsGrounded source names) :
    (interScalar field s t unit).IsGroundedPart source names := by
  unfold interScalar
  split
  · exact hfield
  · rename_i hlt
    have hproper := (Segment.not_max_lt_min_iff (hs.isNumeric.meet ht.isNumeric)).mp hlt
    exact ⟨hfield, hs.meet ht hproper⟩

theorem isGroundedPart_interLabels {field : String} {s t : LabelSet} (hfield : field ≠ "")
    (hs : ∀ label ∈ s.labels, source.SuppliesLabel names label) :
    (interLabels field s t).IsGroundedPart source names := by
  unfold interLabels
  split
  · exact hfield
  · rename_i hne
    refine ⟨hfield, (s.inter t).bytes_ascending, fun he => ?_, fun label hl => ?_⟩
    · exact absurd (by simp [LabelSet.isEmpty, he]) hne
    · exact hs label (List.mem_filter.mp hl).1

theorem isGroundedPart_ofSegments {field : String} {segments : List Segment} (hfield : field ≠ "")
    (h : ∀ s ∈ segments, s.IsGrounded source names) :
    (ofSegments field segments).IsGroundedPart source names := by
  unfold ofSegments
  split
  · exact hfield
  · rename_i hne
    exact ⟨hfield, hne, h⟩

theorem isGroundedPart_of_meetsIn (hvalid : source.IsValid) (ha : a.IsGroundedPart source names)
    (hb : b.IsGroundedPart source names) (h : MeetsIn a b c) :
    c.IsGroundedPart source names := by
  cases h with
  | emptyLeft => exact ha
  | emptyRight => exact hb
  | scalar => exact isGroundedPart_interScalar ha.1 ha.2 hb.2
  | categorical => exact isGroundedPart_interLabels ha.1 ha.2.2.2
  | unrolled hfield hs ht =>
    exact isGroundedPart_ofSegments (ne_empty_of_unroll? ha hfield hs) fun u hu =>
      isGrounded_of_mem_interSegments (isGrounded_of_unroll? hvalid ha hs)
        (isGrounded_of_unroll? hvalid hb ht) hu

/-- An intersection is computed, so that there is nothing inside its result. -/
theorem parts_of_meetsIn (h : MeetsIn a b c) : c.parts = [c] := by
  cases h with
  | emptyLeft | emptyRight => rfl
  | scalar => unfold interScalar; split <;> rfl
  | categorical => unfold interLabels; split <;> rfl
  | unrolled => unfold ofSegments; split <;> rfl

/-- An operator adds at most one part to those of its operands. -/
theorem mem_parts_of_apply {op : Operator} {part : Concept} (h : op.apply a b = .ok c)
    (hpart : part ∈ c.parts) : part = c ∨ part ∈ a.parts ∨ part ∈ b.parts := by
  cases op with
  | intersect =>
    rw [parts_of_meetsIn (inter_eq_ok h).2] at hpart
    exact Or.inl (List.mem_singleton.mp hpart)
  | union =>
    obtain rfl := Except.ok.inj h
    rw [parts, List.mem_cons, List.mem_append] at hpart
    exact hpart
  | difference =>
    obtain rfl := Except.ok.inj h
    unfold minus at hpart ⊢
    split at hpart
    · rename_i hfield
      rw [if_pos hfield]
      rw [parts, List.mem_cons, List.mem_append] at hpart
      exact hpart
    · exact Or.inr (Or.inl hpart)

theorem isGroundedPart_of_apply (hvalid : source.IsValid) {op : Operator}
    (ha : a.IsGroundedPart source names) (hb : b.IsGroundedPart source names)
    (h : op.apply a b = .ok c) : c.IsGroundedPart source names := by
  cases op with
  | intersect => exact isGroundedPart_of_meetsIn hvalid ha hb (inter_eq_ok h).2
  | union =>
    obtain rfl := Except.ok.inj h
    trivial
  | difference =>
    obtain rfl := Except.ok.inj h
    unfold minus
    split
    · rename_i hfield
      exact hfield
    · exact ha

end Concept

end

namespace Plan

variable {source : Source} {plan : Plan} {c : Concept}

theorem Yields.isGroundedPart (hvalid : source.IsValid) (h : plan.Yields source c) :
    ∀ part ∈ c.parts, part.IsGroundedPart source plan.leaves := by
  induction h with
  | @concept name c hlookup =>
    have hstorable := hvalid name c hlookup
    rw [Concept.parts_of_isStorable hstorable, List.forall_mem_singleton]
    exact Concept.isGroundedPart_of_supplies hstorable ⟨name, by simp [leaves], hlookup⟩
  | @apply op left right a b c _ _ happly ihl ihr =>
    have ha : ∀ part ∈ a.parts, part.IsGroundedPart source (Plan.apply op left right).leaves :=
      fun part hp => (ihl part hp).mono (List.subset_append_left _ _)
    have hb : ∀ part ∈ b.parts, part.IsGroundedPart source (Plan.apply op left right).leaves :=
      fun part hp => (ihr part hp).mono (List.subset_append_right _ _)
    intro part hpart
    rcases Concept.mem_parts_of_apply happly hpart with rfl | hpart | hpart
    · exact Concept.isGroundedPart_of_apply hvalid (ha a (Concept.mem_parts_self a))
        (hb b (Concept.mem_parts_self b)) happly
    · exact ha part hpart
    · exact hb part hpart

theorem Yields.isGroundedPart_self (hvalid : source.IsValid) (h : plan.Yields source c) :
    c.IsGroundedPart source plan.leaves :=
  h.isGroundedPart hvalid c (Concept.mem_parts_self c)

theorem head?_leaves_apply {op : Operator} {left right : Plan} :
    (apply op left right).leaves.head? = left.leaves.head? := by
  obtain ⟨name, rest, hleft⟩ := List.exists_cons_of_ne_nil (leaves_ne_nil left)
  simp [leaves, hleft]

theorem eq_scalar_of_meetsIn {a b : Concept} {field : String} {bounds : Segment}
    {unit : Option String} (h : Concept.MeetsIn a b (.scalar field bounds unit)) :
    ∃ stored, a = .scalar field stored unit := by
  generalize hc : Concept.scalar field bounds unit = c at h
  cases h with
  | emptyLeft | emptyRight => cases hc
  | scalar _ s =>
    unfold Concept.interScalar at hc
    split at hc
    · cases hc
    · cases hc
      exact ⟨s, rfl⟩
  | categorical =>
    unfold Concept.interLabels at hc
    split at hc <;> cases hc
  | unrolled =>
    unfold Concept.ofSegments at hc
    split at hc <;> cases hc

/-- A range keeps the field and the unit of the leftmost leaf, through intersections and through
differences that remove nothing. -/
theorem Yields.leftmost_of_scalar {field : String} {bounds : Segment} {unit : Option String}
    (h : plan.Yields source (.scalar field bounds unit)) :
    ∃ name stored, plan.leaves.head? = some name ∧
      source.lookup name = .ok (.scalar field stored unit) := by
  generalize hc : Concept.scalar field bounds unit = c at h
  induction h generalizing bounds with
  | concept hlookup => exact ⟨_, bounds, rfl, hc ▸ hlookup⟩
  | @apply op left right a b c hl hr happly ihl ihr =>
    subst hc
    rw [head?_leaves_apply]
    cases op with
    | intersect =>
      obtain ⟨stored, rfl⟩ := eq_scalar_of_meetsIn (Concept.inter_eq_ok happly).2
      exact ihl rfl
    | union => cases happly
    | difference =>
      have hminus : a.minus b = .scalar field bounds unit := Except.ok.inj happly
      unfold Concept.minus at hminus
      split at hminus
      · cases hminus
      · exact ihl hminus.symm

theorem mem_subplans_self (p : Plan) : p ∈ p.subplans := by
  cases p <;> simp [subplans]

theorem depth_le_of_mem_subplans {p : Plan} (h : p ∈ plan.subplans) : p.depth ≤ plan.depth := by
  induction plan with
  | concept => exact Nat.le_of_eq (congrArg depth (List.mem_singleton.mp h))
  | apply op left right ihl ihr =>
    have hdepth : (apply op left right).depth = max left.depth right.depth + 1 := rfl
    rcases List.mem_cons.mp h with rfl | h
    · exact Nat.le_refl _
    rcases List.mem_append.mp h with h | h
    · have := ihl h
      omega
    · have := ihr h
      omega

/-- A range in a grounded concept is a leaf or comes from an intersection in the plan. -/
theorem Yields.scalar_of_mem_parts {field : String} {bounds : Segment} {unit : Option String}
    (hvalid : source.IsValid) (h : plan.Yields source c)
    (hpart : .scalar field bounds unit ∈ c.parts) :
    source.Supplies plan.leaves (.scalar field bounds unit) ∨
      ∃ left right, Plan.apply .intersect left right ∈ plan.subplans ∧
        (Plan.apply .intersect left right).Yields source (.scalar field bounds unit) := by
  induction h with
  | @concept name c hlookup =>
    rw [Concept.parts_of_isStorable (hvalid name c hlookup), List.mem_singleton] at hpart
    subst hpart
    exact Or.inl ⟨name, List.mem_singleton_self name, hlookup⟩
  | @apply op left right a b c hl hr happly ihl ihr =>
    have hleft : .scalar field bounds unit ∈ a.parts →
        source.Supplies (Plan.apply op left right).leaves (.scalar field bounds unit) ∨
          ∃ l r, Plan.apply .intersect l r ∈ (Plan.apply op left right).subplans ∧
            (Plan.apply .intersect l r).Yields source (.scalar field bounds unit) := by
      intro hpart
      rcases ihl hpart with hleaf | ⟨l, r, hsub, hyields⟩
      · exact Or.inl (hleaf.mono (List.subset_append_left _ _))
      · exact Or.inr ⟨l, r, List.mem_cons_of_mem _ (List.mem_append_left _ hsub), hyields⟩
    rcases Concept.mem_parts_of_apply happly hpart with rfl | hpart | hpart
    · cases op with
      | intersect => exact Or.inr ⟨left, right, mem_subplans_self _, .apply hl hr happly⟩
      | union => cases happly
      | difference =>
        have hminus : a.minus b = .scalar field bounds unit := Except.ok.inj happly
        unfold Concept.minus at hminus
        split at hminus
        · cases hminus
        · exact hleft (hminus ▸ Concept.mem_parts_self a)
    · exact hleft hpart
    · rcases ihr hpart with hleaf | ⟨l, r, hsub, hyields⟩
      · exact Or.inl (hleaf.mono (List.subset_append_right _ _))
      · exact Or.inr ⟨l, r, List.mem_cons_of_mem _ (List.mem_append_right _ hsub), hyields⟩

end Plan

/-- Whatever is grounded in an ontology is in order, part by part. A range in it is a leaf or comes
from an intersection, and a range that an intersection gives carries the unit of the leftmost leaf
below it. -/
theorem ground_wellFormed {o : Ontology} (ho : o.IsBuilt) {limit : Nat} {plan : Plan} {c : Concept}
    (h : plan.ground limit o.toSource = .ok c) :
    (∀ part ∈ c.parts, part.IsGroundedPart o.toSource plan.leaves) ∧
      (∀ field bounds unit, .scalar field bounds unit ∈ c.parts →
        o.toSource.Supplies plan.leaves (.scalar field bounds unit) ∨
          ∃ left right, .apply .intersect left right ∈ plan.subplans ∧
            (Plan.apply .intersect left right).ground limit o.toSource =
              .ok (.scalar field bounds unit)) ∧
      ∀ left right, .apply .intersect left right ∈ plan.subplans →
        ∀ field bounds unit,
          (Plan.apply .intersect left right).ground limit o.toSource =
              .ok (.scalar field bounds unit) →
            ∃ name stored, (Plan.apply .intersect left right).leaves.head? = some name ∧
              o.lookup name = .ok (.scalar field stored unit) := by
  obtain ⟨hyields, hdepth⟩ := Plan.ground_eq_ok_iff.mp h
  refine ⟨hyields.isGroundedPart ho.isValid, ?_, ?_⟩
  · intro field bounds unit hpart
    rcases hyields.scalar_of_mem_parts ho.isValid hpart with hleaf | ⟨left, right, hsub, hvalue⟩
    · exact Or.inl hleaf
    · have hwithin := Nat.le_trans (Plan.depth_le_of_mem_subplans hsub) hdepth
      exact Or.inr ⟨left, right, hsub, Plan.ground_eq_ok_iff.mpr ⟨hvalue, hwithin⟩⟩
  · intro left right _ field bounds unit hsub
    exact (Plan.Yields.of_ground hsub).leftmost_of_scalar

theorem ground_wellFormed_day :
    let plan := Plan.apply .difference (.apply .intersect (.concept "Night") (.concept "Early"))
      (.apply .intersect (.concept "Midnight") (.concept "Night"))
    let early := Concept.scalar "time" ⟨.ofUnits 3 (by decide), .ofUnits 6 (by decide)⟩ (some "h")
    let late := Concept.multi "time" [⟨.zero, .ofUnits 1 (by decide)⟩]
    Ontology.day.IsBuilt ∧ plan.ground 64 Ontology.day.toSource = .ok (.difference early late) ∧
      late.IsGroundedPart Ontology.day.toSource plan.leaves := by
  intro plan early late
  have h : plan.ground 64 Ontology.day.toSource = .ok (.difference early late) := rfl
  have hlate : late ∈ (Concept.difference early late).parts := by
    simp [Concept.parts, late]
  exact ⟨Ontology.isBuilt_day, h, (ground_wellFormed Ontology.isBuilt_day h).1 late hlate⟩

end Grounding
