import Grounding.Proofs.GroundedShape

/-! The field of a plan. It is told from the fields of the leaves, whatever their bounds, labels and
units are, and every intersection whose operands differ in it fails. -/

namespace Grounding

/-- The field of the concept with a name. -/
def Source.field? (source : Source) (name : String) : Option String :=
  (source.lookup name).toOption.bind Concept.field?

namespace Concept

variable {a b c : Concept} {field : String}

theorem field?_union (a b : Concept) :
    (union a b).field? = if a.field? = b.field? then a.field? else none := by
  rw [field?]
  cases a.field? <;> cases b.field? <;> simp

theorem field?_minus (a b : Concept) : (a.minus b).field? = a.field? := by
  unfold minus
  split <;> rfl

theorem field?_interScalar {s t : Segment} {unit : Option String} :
    (interScalar field s t unit).field? = some field := by
  unfold interScalar
  split <;> rfl

theorem field?_interLabels {s t : LabelSet} : (interLabels field s t).field? = some field := by
  unfold interLabels
  split <;> rfl

theorem field?_ofSegments {segments : List Segment} :
    (ofSegments field segments).field? = some field := by
  unfold ofSegments
  split <;> rfl

/-- Concepts without a field are never intersected, though they have the same field. -/
theorem MeetsIn.exists_field (hfield : a.field? = b.field?) (h : MeetsIn a b c) :
    ∃ field, a.field? = some field ∧ c.field? = some field := by
  cases h with
  | emptyLeft field => exact ⟨field, rfl, rfl⟩
  | emptyRight _ field => exact ⟨field, hfield, rfl⟩
  | scalar field => exact ⟨field, rfl, field?_interScalar⟩
  | categorical field => exact ⟨field, rfl, field?_interLabels⟩
  | unrolled hs => exact ⟨_, hs, field?_ofSegments⟩

end Concept

namespace Plan

/-- The field of a plan from those of its leaves. -/
def fieldIn? (source : Source) : Plan → Option String
  | concept name => source.field? name
  | apply .union left right =>
    if left.fieldIn? source = right.fieldIn? source then left.fieldIn? source else none
  | apply .intersect left _ | apply .difference left _ => left.fieldIn? source

/-- Two operands of an intersection in the plan differ in their fields. -/
def Clashes (source : Source) (plan left right : Plan) : Prop :=
  .apply .intersect left right ∈ plan.subplans ∧ left.fieldIn? source ≠ right.fieldIn? source

variable {source other : Source} {limit depth : Nat} {plan p left right : Plan} {c : Concept}

theorem Yields.field?_eq (h : plan.Yields source c) : c.field? = plan.fieldIn? source := by
  induction h with
  | concept hlookup => simp [fieldIn?, Source.field?, hlookup, Except.toOption]
  | @apply op left right a b c _ _ happly ihl ihr =>
    cases op with
    | intersect =>
      obtain ⟨hfield, hmeet⟩ := Concept.inter_eq_ok happly
      obtain ⟨field, ha, hc⟩ := hmeet.exists_field hfield
      rw [fieldIn?, ← ihl, ha, hc]
    | union =>
      obtain rfl := Except.ok.inj happly
      rw [fieldIn?, ← ihl, ← ihr, Concept.field?_union]
    | difference =>
      obtain rfl := Except.ok.inj happly
      rw [fieldIn?, ← ihl, Concept.field?_minus]

theorem Yields.exists_of_mem_subplans (h : plan.Yields source c) (hp : p ∈ plan.subplans) :
    ∃ d, p.Yields source d := by
  induction h with
  | @concept name c hlookup =>
    obtain rfl := List.mem_singleton.mp hp
    exact ⟨c, .concept hlookup⟩
  | @apply op left right a b c hl hr happly ihl ihr =>
    rcases List.mem_cons.mp hp with rfl | hp
    · exact ⟨c, .apply hl hr happly⟩
    rcases List.mem_append.mp hp with hp | hp
    · exact ihl hp
    · exact ihr hp

theorem Yields.exists_field (h : plan.Yields source c)
    (hinter : .apply .intersect left right ∈ plan.subplans) :
    ∃ field, left.fieldIn? source = some field ∧ right.fieldIn? source = some field := by
  obtain ⟨d, hd⟩ := h.exists_of_mem_subplans hinter
  cases hd with
  | apply hl hr happly =>
    obtain ⟨hfield, hmeet⟩ := Concept.inter_eq_ok happly
    obtain ⟨field, ha, -⟩ := hmeet.exists_field hfield
    exact ⟨field, hl.field?_eq.symm.trans ha, hr.field?_eq.symm.trans (hfield ▸ ha)⟩

theorem ground_of_groundAt (hd : 0 < depth) (h : p.groundAt limit source depth = .ok c) :
    p.ground limit source = .ok c := by
  obtain ⟨hyields, hdepth⟩ := (groundAt_eq_ok_iff p).mp h
  exact ground_eq_ok_iff.mpr ⟨hyields, by omega⟩

theorem exists_mismatch_of_groundAt {x y : String} (hd : 0 < depth)
    (h : plan.groundAt limit source depth = .error (.fieldMismatch x y)) :
    ∃ left right a b, .apply .intersect left right ∈ plan.subplans ∧
      left.ground limit source = .ok a ∧ right.ground limit source = .ok b ∧
        a.field? ≠ b.field? ∧ x = a.fieldLabel ∧ y = b.fieldLabel := by
  induction plan generalizing depth with
  | concept name =>
    rw [groundAt] at h
    split at h
    · cases h
    · obtain ⟨e, -, he⟩ := mapError_eq_error.mp h
      cases e <;> cases he
  | apply op left right ihl ihr =>
    rw [groundAt] at h
    split at h
    · cases h
    rcases bind_eq_error.mp h with h | ⟨a, ha, h⟩
    · obtain ⟨l, r, a, b, hmem, hrest⟩ := ihl (Nat.succ_pos depth) h
      exact ⟨l, r, a, b, List.mem_cons_of_mem _ (List.mem_append_left _ hmem), hrest⟩
    rcases bind_eq_error.mp h with h | ⟨b, hb, h⟩
    · obtain ⟨l, r, a, b, hmem, hrest⟩ := ihr (Nat.succ_pos depth) h
      exact ⟨l, r, a, b, List.mem_cons_of_mem _ (List.mem_append_right _ hmem), hrest⟩
    obtain ⟨rfl, hinter⟩ := Concept.eq_intersect_of_apply_eq_error h
    have hl := ground_of_groundAt (Nat.succ_pos depth) ha
    have hr := ground_of_groundAt (Nat.succ_pos depth) hb
    rcases Concept.inter_eq_error hinter with ⟨hne, he⟩ | ⟨-, he⟩
    · obtain ⟨rfl, rfl⟩ := EvaluationError.fieldMismatch.inj he
      exact ⟨left, right, a, b, mem_subplans_self _, hl, hr, hne, rfl, rfl⟩
    · cases he

theorem fieldLabel_eq (h : p.ground limit source = .ok c) :
    c.fieldLabel = (p.fieldIn? source).getD s!"<mixed {c.kind.tag}>" := by
  rw [← (Yields.of_ground h).field?_eq, Concept.fieldLabel]
  cases c.field? <;> rfl

/-- The labels of a mismatch are the fields of the operands, or what stands for a missing field. -/
theorem exists_clash_of_ground {x y : String}
    (h : plan.ground limit source = .error (.fieldMismatch x y)) :
    ∃ left right a b, plan.Clashes source left right ∧
      left.ground limit source = .ok a ∧ right.ground limit source = .ok b ∧
        x = (left.fieldIn? source).getD s!"<mixed {a.kind.tag}>" ∧
          y = (right.fieldIn? source).getD s!"<mixed {b.kind.tag}>" := by
  obtain ⟨left, right, a, b, hmem, hl, hr, hne, rfl, rfl⟩ :=
    exists_mismatch_of_groundAt Nat.one_pos h
  refine ⟨left, right, a, b, ⟨hmem, ?_⟩, hl, hr, fieldLabel_eq hl, fieldLabel_eq hr⟩
  rwa [← (Yields.of_ground hl).field?_eq, ← (Yields.of_ground hr).field?_eq]

theorem fieldIn?_congr (h : ∀ name ∈ p.leaves, other.field? name = source.field? name) :
    p.fieldIn? other = p.fieldIn? source := by
  induction p with
  | concept name => exact h name (List.mem_singleton_self name)
  | apply op left right ihl ihr =>
    obtain ⟨hl, hr⟩ := List.forall_mem_append.mp h
    cases op with
    | intersect | difference => exact ihl hl
    | union => rw [fieldIn?, ihl hl, ihr hr, fieldIn?]

theorem leaves_subset_of_mem_subplans (h : p ∈ plan.subplans) : p.leaves ⊆ plan.leaves := by
  induction plan with
  | concept name =>
    obtain rfl := List.mem_singleton.mp h
    exact List.Subset.refl _
  | apply op left right ihl ihr =>
    rcases List.mem_cons.mp h with rfl | h
    · exact List.Subset.refl _
    rcases List.mem_append.mp h with h | h
    · exact List.subset_append_of_subset_left _ (ihl h)
    · exact List.subset_append_of_subset_right _ (ihr h)

theorem Clashes.congr (hfields : ∀ name ∈ plan.leaves, other.field? name = source.field? name)
    (h : plan.Clashes other left right) : plan.Clashes source left right := by
  obtain ⟨hmem, hne⟩ := h
  have hsub := leaves_subset_of_mem_subplans hmem
  have hleft : left.fieldIn? other = left.fieldIn? source :=
    fieldIn?_congr fun name hname => hfields name (hsub (List.mem_append_left _ hname))
  have hright : right.fieldIn? other = right.fieldIn? source :=
    fieldIn?_congr fun name hname => hfields name (hsub (List.mem_append_right _ hname))
  exact ⟨hmem, by rwa [← hleft, ← hright]⟩

end Plan

/-- The fields of the leaves decide the field of whatever a plan or a part of it is grounded to, and
which intersections end in a mismatch of fields. -/
theorem ground_fields (source : Source) (limit : Nat) (plan : Plan) :
    (∀ p ∈ plan.subplans, ∀ n depth c, p.groundAt n source depth = .ok c →
      c.field? = p.fieldIn? source) ∧
    (∀ left right, plan.Clashes source left right → ∀ c, plan.ground limit source ≠ .ok c) ∧
    (∀ x y, plan.ground limit source = .error (.fieldMismatch x y) →
      ∃ left right a b, plan.Clashes source left right ∧
        left.ground limit source = .ok a ∧ right.ground limit source = .ok b ∧
          x = (left.fieldIn? source).getD s!"<mixed {a.kind.tag}>" ∧
            y = (right.fieldIn? source).getD s!"<mixed {b.kind.tag}>") ∧
    (∀ c, plan.ground limit source = .ok c →
      ∀ left right, .apply .intersect left right ∈ plan.subplans →
        ∃ field, left.fieldIn? source = some field ∧ right.fieldIn? source = some field) ∧
    ∀ other : Source, (∀ name ∈ plan.leaves, other.field? name = source.field? name) →
      (∀ left right, ¬ plan.Clashes source left right) →
        ∀ n x y, plan.ground n other ≠ .error (.fieldMismatch x y) := by
  refine ⟨?_, ?_, fun x y h => Plan.exists_clash_of_ground h, ?_, ?_⟩
  · intro p _ n depth c h
    exact ((Plan.groundAt_eq_ok_iff p).mp h).1.field?_eq
  · rintro left right ⟨hmem, hne⟩ c h
    obtain ⟨field, hl, hr⟩ := (Plan.Yields.of_ground h).exists_field hmem
    exact hne (hl.trans hr.symm)
  · intro c h left right hmem
    exact (Plan.Yields.of_ground h).exists_field hmem
  · intro other hfields hnone n x y h
    obtain ⟨left, right, _, _, hclash, _⟩ := Plan.exists_clash_of_ground h
    exact hnone left right (hclash.congr hfields)

/-- A union on two fields cannot be intersected with either of them. The intersection of a range
without an upper bound with itself can be, and so it can under any concept on its field. -/
theorem ground_fields_night :
    let night := Concept.scalar "time" ⟨.zero, .nan⟩ (some "h")
    let source := (ConceptMap.mk [("Night", night), ("Polar", .categorical "region" .empty)]).toSource
    let other := (ConceptMap.mk [("Night", .empty "time")]).toSource
    let either := Plan.apply .union (.concept "Night") (.concept "Polar")
    let mixed := Plan.apply .difference (.concept "Polar")
      (.apply .intersect either (.concept "Night"))
    let twice := Plan.apply .intersect (.concept "Night") (.concept "Night")
    mixed.Clashes source either (.concept "Night") ∧ (∀ c, mixed.ground 64 source ≠ .ok c) ∧
      (mixed.ground 64 source = .error (.fieldMismatch "<mixed union>" "time") ∧
        ∃ l r a b, mixed.Clashes source l r ∧ l.ground 64 source = .ok a ∧
          r.ground 64 source = .ok b ∧
            "<mixed union>" = (l.fieldIn? source).getD s!"<mixed {a.kind.tag}>" ∧
              "time" = (r.fieldIn? source).getD s!"<mixed {b.kind.tag}>") ∧
      (twice.ground 64 source = .ok night ∧ night.field? = twice.fieldIn? source ∧
        ∃ field, (Plan.concept "Night").fieldIn? source = some field) ∧
      ∀ n x y, twice.ground n other ≠ .error (.fieldMismatch x y) := by
  intro night source other either mixed twice
  have hclash : mixed.Clashes source either (.concept "Night") :=
    ⟨by simp [mixed, Plan.subplans], by decide⟩
  have hmismatch : mixed.ground 64 source = .error (.fieldMismatch "<mixed union>" "time") := rfl
  have htwice : twice.ground 64 source = .ok night := rfl
  have hinter : .apply .intersect (.concept "Night") (.concept "Night") ∈ twice.subplans :=
    Plan.mem_subplans_self twice
  have hleaves : ∀ name ∈ twice.leaves, other.field? name = source.field? name := by
    simp only [twice, Plan.leaves, List.cons_append, List.nil_append, List.forall_mem_cons]
    exact ⟨rfl, rfl, by simp⟩
  have hnone : ∀ left right, ¬ twice.Clashes source left right := by
    rintro left right ⟨hmem, hne⟩
    simp only [twice, Plan.subplans, List.cons_append, List.nil_append, List.mem_cons,
      Plan.apply.injEq, reduceCtorEq, List.not_mem_nil, or_false] at hmem
    obtain ⟨-, rfl, rfl⟩ := hmem
    exact hne rfl
  obtain ⟨-, hfails, hlabels, -, -⟩ := ground_fields source 64 mixed
  obtain ⟨hfield, -, -, hsame, hkeeps⟩ := ground_fields source 64 twice
  obtain ⟨field, hnight, -⟩ := hsame night htwice _ _ hinter
  exact ⟨hclash, hfails _ _ hclash, ⟨hmismatch, hlabels _ _ hmismatch⟩,
    ⟨htwice, hfield twice hinter 64 1 night htwice, field, hnight⟩, hkeeps other hleaves hnone⟩

end Grounding
