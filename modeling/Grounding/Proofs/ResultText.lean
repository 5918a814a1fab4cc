import Grounding.Output.Format
import Grounding.Proofs.ConceptDocument
import Grounding.Proofs.ConceptNesting
import Grounding.Proofs.GroundedShape
import Grounding.Proofs.PlanText

/-! Results as texts. Of all plans within the default depth, only a union of unions down to a set of
labels at the last level gives a document that nests past the limit of the reader. -/

namespace Grounding

theorem Segment.numbersReadBack_toJson_iff {s : Segment} : s.toJson.NumbersReadBack ↔
    ∀ x, .finite x ∈ [s.min, s.max] → Json.ReadsBack x := by
  simp [toJson, or_imp, forall_and, eq_comm]

namespace Concept

variable {a b c : Concept} {source : Source} {names : List String}

theorem nesting_le_of_isStorable (h : c.IsStorable) : c.nesting ≤ 2 := by
  cases c with
  | scalar | categorical | cyclic => simp [nesting]
  | multi | difference | union | empty => exact h.elim

theorem nesting_le_of_meetsIn (h : MeetsIn a b c) : c.nesting ≤ 3 := by
  cases h with
  | emptyLeft | emptyRight => simp [nesting]
  | scalar => unfold interScalar; split <;> simp [nesting]
  | categorical => unfold interLabels; split <;> simp [nesting]
  | unrolled =>
    unfold ofSegments
    split
    · simp [nesting]
    · rename_i hne
      simp [nesting, hne]

theorem nesting_minus_le : (a.minus b).nesting ≤ max a.nesting b.nesting + 1 := by
  unfold minus
  split
  · exact Nat.le_refl _
  · omega

theorem IsGroundedPart.of_mem_numbers (hvalid : source.IsValid)
    (h : c.IsGroundedPart source names) {x : Number} (hx : x ∈ c.numbers) :
    x.isFinite = true ∧ source.SuppliesNumber names x := by
  cases c with
  | scalar field bounds unit =>
    have hbounds := h.2
    simp only [numbers, List.mem_cons, List.not_mem_nil, or_false] at hx
    rcases hx with rfl | rfl
    · exact ⟨hbounds.min_finite, hbounds.min_supplied⟩
    · exact ⟨hbounds.max_finite, hbounds.max_supplied⟩
  | cyclic field min max period =>
    refine ⟨?_, Or.inr ⟨_, h.2, hx⟩⟩
    obtain ⟨name, -, hlookup⟩ := h.2
    obtain ⟨-, hperiod, -, hmin, hmax⟩ := hvalid name _ hlookup
    simp only [numbers, List.mem_cons, List.not_mem_nil, or_false] at hx
    rcases hx with rfl | rfl | rfl
    · exact hmin.1
    · exact hmax.1
    · exact hperiod
  | multi field segments =>
    obtain ⟨s, hs, hx⟩ := List.mem_flatMap.mp hx
    have hbounds := h.2.2 s hs
    simp only [List.mem_cons, List.not_mem_nil, or_false] at hx
    rcases hx with rfl | rfl
    · exact ⟨hbounds.min_finite, hbounds.min_supplied⟩
    · exact ⟨hbounds.max_finite, hbounds.max_supplied⟩
  | categorical | difference | union | empty => cases hx

/-- The numbers in the document of a concept are those of its parts. -/
theorem numbersReadBack_toJson_iff {c : Concept} : c.toJson.NumbersReadBack ↔
    ∀ part ∈ c.parts, ∀ x, .finite x ∈ part.numbers → Json.ReadsBack x := by
  induction c with
  | scalar field bounds unit =>
    cases unit <;> simp [toJson, parts, numbers, or_imp, forall_and, eq_comm]
  | cyclic => simp [toJson, parts, numbers, or_imp, forall_and, eq_comm]
  | multi field segments =>
    have hranges : (Json.array (segments.map Segment.toJson)).NumbersReadBack ↔
        ∀ s ∈ segments, s.toJson.NumbersReadBack :=
      Json.numbersReadBack_array.trans List.forall_mem_map
    have hdocument : (multi field segments).toJson.NumbersReadBack ↔
        ∀ s ∈ segments, s.toJson.NumbersReadBack := by
      simp [toJson, hranges]
    simp only [hdocument, Segment.numbersReadBack_toJson_iff, parts, numbers, List.mem_singleton,
      forall_eq, List.mem_flatMap]
    constructor
    · rintro h x ⟨s, hs, hx⟩
      exact h s hs x hx
    · intro h s hs x hx
      exact h x ⟨s, hs, hx⟩
  | categorical | empty => simp [toJson, parts, numbers]
  | difference _ _ ihl ihr | union _ _ ihl ihr =>
    simp [toJson, parts, numbers, ihl, ihr, or_imp, forall_and]

end Concept

namespace Plan

variable {source : Source} {plan : Plan} {c : Concept} {n : Nat}

/-- The names that stand below so many unions and nothing else. -/
def united : Nat → Plan → List String
  | 0, concept name => [name]
  | n + 1, apply .union left right => left.united n ++ right.united n
  | _, _ => []

/-- Whether a set of labels stands below so many unions and nothing else. -/
def UnitesLabels (source : Source) (n : Nat) (plan : Plan) : Prop :=
  ∃ name ∈ plan.united n, ∃ field labels, source.lookup name = .ok (.categorical field labels)

theorem unitesLabels_union {left right : Plan} :
    (apply .union left right).UnitesLabels source (n + 1) ↔
      left.UnitesLabels source n ∨ right.UnitesLabels source n := by
  simp only [UnitesLabels, united, List.mem_append, or_and_right, exists_or]

theorem unitesLabels_concept {name : String} (hlookup : source.lookup name = .ok c)
    (hstorable : c.IsStorable) : (concept name).UnitesLabels source 0 ↔ 2 ≤ c.nesting := by
  simp only [UnitesLabels, united, List.mem_singleton, exists_eq_left, hlookup]
  cases c with
  | scalar | categorical | cyclic => simp [Concept.nesting]
  | multi | difference | union | empty => exact hstorable.elim

theorem Yields.isFinite (hvalid : source.IsValid) (h : plan.Yields source c) : c.IsFinite :=
  fun part hpart _ hx => ((h.isGroundedPart hvalid part hpart).of_mem_numbers hvalid hx).1

/-- No node adds more than two levels. -/
theorem Yields.nesting_le (hvalid : source.IsValid) (h : plan.Yields source c) :
    c.nesting ≤ 2 * plan.depth := by
  induction h with
  | concept hlookup => exact Concept.nesting_le_of_isStorable (hvalid _ _ hlookup)
  | @apply op left right a b c _ _ happly ihl ihr =>
    have hdepth : (Plan.apply op left right).depth = max left.depth right.depth + 1 := rfl
    have hpos := left.depth_pos
    cases op with
    | intersect =>
      have := Concept.nesting_le_of_meetsIn (Concept.inter_eq_ok happly).2
      omega
    | union =>
      obtain rfl := Except.ok.inj happly
      rw [Concept.nesting]
      omega
    | difference =>
      obtain rfl := Except.ok.inj happly
      have := Concept.nesting_minus_le (a := a) (b := b)
      omega

/-- A value reaches two levels for each level of its plan in one way only. -/
theorem Yields.le_nesting_iff (hvalid : source.IsValid) (h : plan.Yields source c)
    (hdepth : plan.depth ≤ n + 1) :
    2 * (n + 1) ≤ c.nesting ↔ plan.UnitesLabels source n := by
  induction h generalizing n with
  | concept hlookup =>
    have hstorable := hvalid _ _ hlookup
    cases n with
    | zero => exact (unitesLabels_concept hlookup hstorable).symm
    | succ n =>
      have := Concept.nesting_le_of_isStorable hstorable
      exact iff_of_false (by omega) (by simp [UnitesLabels, united])
  | @apply op left right a b c hl hr happly ihl ihr =>
    have hdepth' : (Plan.apply op left right).depth = max left.depth right.depth + 1 := rfl
    have hpos := left.depth_pos
    obtain ⟨n, rfl⟩ : ∃ k, n = k + 1 := ⟨n - 1, by omega⟩
    cases op with
    | intersect =>
      have := Concept.nesting_le_of_meetsIn (Concept.inter_eq_ok happly).2
      exact iff_of_false (by omega) (by simp [UnitesLabels, united])
    | union =>
      obtain rfl := Except.ok.inj happly
      rw [unitesLabels_union, ← ihl (by omega), ← ihr (by omega), Concept.nesting]
      omega
    | difference =>
      obtain rfl := Except.ok.inj happly
      have := Concept.nesting_minus_le (a := a) (b := b)
      have := hl.nesting_le hvalid
      have := hr.nesting_le hvalid
      exact iff_of_false (by omega) (by simp [UnitesLabels, united])

theorem unitesLabels_unions {name field : String} {labels : LabelSet}
    (hlookup : source.lookup name = .ok (.categorical field labels)) (n : Nat) :
    (unions name n).UnitesLabels source n := by
  induction n with
  | zero => exact ⟨name, List.mem_singleton_self name, field, labels, hlookup⟩
  | succ n ih => exact unitesLabels_union.mpr (Or.inl ih)

theorem exists_yields_unions {name : String} (hlookup : source.lookup name = .ok c) (n : Nat) :
    ∃ d, (unions name n).Yields source d := by
  induction n with
  | zero => exact ⟨c, .concept hlookup⟩
  | succ n ih =>
    obtain ⟨d, hd⟩ := ih
    exact ⟨.union d c, .apply hd (.concept hlookup) rfl⟩

end Plan

theorem OutputFormat.exists_render_eq {format : OutputFormat} (h : format ≠ .table) (v : Json) :
    ∃ style, format.render v = v.write style := by
  cases format with
  | json => exact ⟨.compact, rfl⟩
  | pretty => exact ⟨.pretty, rfl⟩
  | table => exact absurd rfl h

section

variable {o : Ontology} {plan : Plan} {c : Concept}

/-- At the default depth a value fits the reader unless each of its nodes takes both its levels. -/
theorem fits_ground_iff (hbuilt : o.IsBuilt) (hc : plan.ground defaultDepth o.toSource = .ok c) :
    Json.Fits Json.deepestNesting c.toJson ↔ ¬ plan.UnitesLabels o.toSource 63 := by
  obtain ⟨hyields, hdepth⟩ := Plan.ground_eq_ok_iff.mp hc
  rw [Concept.fits_toJson_iff, ← hyields.le_nesting_iff hbuilt.isValid hdepth, Nat.not_le]
  exact Nat.lt_succ_iff.symm

/-- Grounding makes no number but zero, so that what it gives is read back where the numbers of the
ontology are. -/
theorem numbersReadBack_ground {limit : Nat} (hbuilt : o.IsBuilt)
    (hc : plan.ground limit o.toSource = .ok c)
    (hback : ∀ entry ∈ o.entries, entry.2.toJson.NumbersReadBack) : c.toJson.NumbersReadBack := by
  have hyields := Plan.Yields.of_ground hc
  rw [Concept.numbersReadBack_toJson_iff]
  intro part hpart x hx
  obtain ⟨-, hzero | ⟨leaf, ⟨name, -, hlookup⟩, hmem⟩⟩ :=
    (hyields.isGroundedPart hbuilt.isValid part hpart).of_mem_numbers hbuilt.isValid hx
  · obtain rfl := Number.finite.inj hzero
    exact Json.readsBack_zero
  · have hentry := hback _ (Entries.mem_of_find? (Ontology.lookup_eq_ok_iff.mp hlookup))
    exact Concept.numbersReadBack_toJson_iff.mp hentry leaf (Concept.mem_parts_self leaf) x hmem

theorem read_render_of_unitesLabels (hbuilt : o.IsBuilt)
    (hc : plan.ground defaultDepth o.toSource = .ok c) (hback : c.toJson.NumbersReadBack)
    (hunited : plan.UnitesLabels o.toSource 63) {format : OutputFormat}
    (hformat : format ≠ .table) :
    Json.read Json.deepestNesting (format.render c.toJson) = .error .tooDeep := by
  obtain ⟨style, hrender⟩ := OutputFormat.exists_render_eq hformat c.toJson
  have hfits : Json.Fits c.nesting c.toJson := Concept.fits_toJson_iff.mpr (Nat.le_refl c.nesting)
  have hdeep : ¬ Json.Fits Json.deepestNesting c.toJson := fun h =>
    (fits_ground_iff hbuilt hc).mp h hunited
  rw [hrender]
  exact Json.read_write_of_not_fits hfits hdeep hback style

/-- What is grounded within the default depth can be read back from its text in both JSON formats if
its numbers can, except where the plan unites a set of labels at the last level with nothing but
unions above it. The text of such a value nests 128 levels deep and is refused. -/
theorem read_render_ground (hbuilt : o.IsBuilt)
    (hc : plan.ground defaultDepth o.toSource = .ok c) (hback : c.toJson.NumbersReadBack)
    {format : OutputFormat} (hformat : format ≠ .table) :
    (¬ plan.UnitesLabels o.toSource 63 → ∃ v,
      Json.read Json.deepestNesting (format.render c.toJson) = .ok v ∧ Concept.ofJson v = .ok c) ∧
    (plan.UnitesLabels o.toSource 63 →
      Json.read Json.deepestNesting (format.render c.toJson) = .error .tooDeep) := by
  refine ⟨fun hunited => ?_, fun hunited =>
    read_render_of_unitesLabels hbuilt hc hback hunited hformat⟩
  obtain ⟨style, hrender⟩ := OutputFormat.exists_render_eq hformat c.toJson
  have hfits : Json.Fits Json.deepestNesting c.toJson := (fits_ground_iff hbuilt hc).mpr hunited
  have hfinite : c.IsFinite := (Plan.Yields.of_ground hc).isFinite hbuilt.isValid
  rw [hrender]
  refine ⟨c.toJson, Json.read_write hfits hback style, ?_⟩
  rw [Concept.ofJson_toJson_eq_ite, if_pos hfinite]

end

/-- Two cameras in one set of labels. -/
def Ontology.site : Ontology :=
  ⟨[("Camera", .categorical "camera" ⟨["north", "south"], by decide⟩)], []⟩

theorem Ontology.isBuilt_site : site.IsBuilt :=
  .ofConcepts (show Ontology.ofConcepts site.entries = .ok site from rfl)

theorem Ontology.numbersReadBack_site :
    ∀ entry ∈ site.entries, entry.2.toJson.NumbersReadBack := by
  decide

/-- A difference at the root takes one level less than a union. -/
theorem read_render_ground_difference :
    let plan := Plan.apply .difference (.unions "Camera" 62) (.concept "Camera")
    ∃ c, Ontology.site.IsBuilt ∧ plan.ground defaultDepth Ontology.site.toSource = .ok c ∧
      c.toJson.NumbersReadBack ∧ OutputFormat.pretty ≠ .table ∧
        ¬ plan.UnitesLabels Ontology.site.toSource 63 ∧ ∃ v,
          Json.read Json.deepestNesting (OutputFormat.pretty.render c.toJson) = .ok v ∧
            Concept.ofJson v = .ok c := by
  intro plan
  have hlookup : Ontology.site.toSource.lookup "Camera" = .ok _ := rfl
  obtain ⟨d, hd⟩ := Plan.exists_yields_unions hlookup 62
  have hdepth : plan.depth = max (Plan.unions "Camera" 62).depth 1 + 1 := rfl
  rw [Plan.depth_unions] at hdepth
  have hc : plan.ground defaultDepth Ontology.site.toSource = .ok (d.minus _) :=
    Plan.ground_eq_ok_iff.mpr ⟨.apply hd (.concept hlookup) rfl, Nat.le_of_eq hdepth⟩
  have hback := numbersReadBack_ground Ontology.isBuilt_site hc Ontology.numbersReadBack_site
  have hformat : OutputFormat.pretty ≠ .table := by decide
  have hunited : ¬ plan.UnitesLabels Ontology.site.toSource 63 := by
    rintro ⟨name, hname, -⟩
    cases hname
  exact ⟨_, Ontology.isBuilt_site, hc, hback, hformat, hunited,
    (read_render_ground Ontology.isBuilt_site hc hback hformat).1 hunited⟩

/-- The plan is as deep as the default allows, and the reader refuses the text of its value, which
has no numbers. -/
theorem not_read_render_ground :
    let plan := Plan.unions "Camera" 63
    ∃ c, Ontology.site.IsBuilt ∧ plan.ground defaultDepth Ontology.site.toSource = .ok c ∧
      c.toJson.NumbersReadBack ∧ ∀ format, format ≠ OutputFormat.table → ¬ ∃ v,
        Json.read Json.deepestNesting (format.render c.toJson) = .ok v ∧
          Concept.ofJson v = .ok c := by
  intro plan
  have hlookup : Ontology.site.toSource.lookup "Camera" = .ok _ := rfl
  obtain ⟨c, hc⟩ := Plan.exists_yields_unions hlookup 63
  have hground : plan.ground defaultDepth Ontology.site.toSource = .ok c :=
    Plan.ground_eq_ok_iff.mpr ⟨hc, Nat.le_of_eq (Plan.depth_unions "Camera" 63)⟩
  have hback :=
    numbersReadBack_ground Ontology.isBuilt_site hground Ontology.numbersReadBack_site
  refine ⟨c, Ontology.isBuilt_site, hground, hback, fun format hformat => ?_⟩
  rintro ⟨v, hread, -⟩
  rw [read_render_of_unitesLabels Ontology.isBuilt_site hground hback
    (Plan.unitesLabels_unions hlookup 63) hformat] at hread
  cases hread

end Grounding
