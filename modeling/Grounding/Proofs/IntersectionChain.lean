import Grounding.Proofs.ConceptMeet
import Grounding.Proofs.PlanEvaluation
import Grounding.Proofs.SharedParts
import Grounding.Proofs.StoredConcept

/-! Plans of intersections only. Where their leaves cover intervals of one field, the value is
given by the leaves from left to right, however the plan is bracketed: the shared part of every
choice of one interval from each leaf. -/

namespace Grounding

namespace Concept

/-- The intervals a concept covers, none if it covers other things. -/
def segments (c : Concept) : List Segment :=
  c.unroll?.getD []

def isScalar : Concept → Bool
  | scalar .. => true
  | _ => false

def unit? : Concept → Option String
  | scalar _ _ unit => unit
  | _ => none

/-- The numbers of an interval; nothing when the bounds are out of order. -/
def ofBounds (field : String) (bounds : Segment) (unit : Option String) : Concept :=
  if bounds.max < bounds.min then empty field else scalar field bounds unit

/-- The intersection of several concepts on a field, from left to right. Ranges alone give one
range, with the unit of the first one; else every choice counts. -/
def interAll (field : String) (concepts : List Concept) : Concept :=
  if ∀ c ∈ concepts, c.isScalar then
    ofBounds field (Segment.meetAll (concepts.flatMap segments)) (concepts.head?.bind unit?)
  else ofSegments field (sharedParts (concepts.map segments))

/-- Intervals of a field whose bounds are numbers, which may be infinite or out of order. -/
def IsRangeOn (field : String) (c : Concept) : Prop :=
  c.field? = some field ∧ ∃ segments, c.unroll? = some segments ∧ ∀ s ∈ segments, s.IsNumeric

/-- What stands for the intersection of several concepts inside a plan. A single concept may keep
inverted intervals that an intersection leaves out. -/
inductive StandsFor (field : String) (concepts : List Concept) : Concept → Prop
  | nothing (h : sharedParts (concepts.map segments) = []) :
    StandsFor field concepts (empty field)
  | range (h : ∀ c ∈ concepts, c.isScalar) :
    StandsFor field concepts
      (scalar field (Segment.meetAll (concepts.flatMap segments)) (concepts.head?.bind unit?))
  | intervals {c : Concept} {parts : List Segment} (h : ¬ ∀ c ∈ concepts, c.isScalar)
    (hkind : c.isUnrolled = true) (hfield : c.field? = some field)
    (hunroll : c.unroll? = some parts) (hnumeric : ∀ s ∈ parts, s.IsNumeric)
    (hparts : Segment.properOnes parts = sharedParts (concepts.map segments)) :
    StandsFor field concepts c

end Concept

/-- Only intersections are applied. -/
def Plan.IsChain : Plan → Prop
  | concept _ => True
  | apply op left right => op = .intersect ∧ left.IsChain ∧ right.IsChain

open Segment

namespace Concept

variable {field : String} {a b c : Concept} {left right concepts : List Concept}

theorem isNumeric_of_mem_segments (h : ∀ c ∈ concepts, c.IsRangeOn field) :
    ∀ options ∈ concepts.map segments, ∀ s ∈ options, s.IsNumeric := by
  intro options hoptions s hs
  obtain ⟨c, hc, rfl⟩ := List.mem_map.mp hoptions
  obtain ⟨_, parts, hunroll, hnumeric⟩ := h c hc
  rw [segments, hunroll] at hs
  exact hnumeric s hs

theorem segments_of_isScalar (h : c.isScalar) : ∃ bounds, c.segments = [bounds] := by
  cases c with
  | scalar _ bounds => exact ⟨bounds, rfl⟩
  | categorical | cyclic | multi | difference | union | empty => cases h

theorem map_segments_of_isScalar (h : ∀ c ∈ concepts, c.isScalar) :
    concepts.map segments = (concepts.flatMap segments).map fun s => [s] := by
  induction concepts with
  | nil => rfl
  | cons c rest ih =>
    obtain ⟨hc, hrest⟩ := List.forall_mem_cons.mp h
    obtain ⟨bounds, hbounds⟩ := segments_of_isScalar hc
    rw [List.map_cons, List.flatMap_cons, hbounds, ih hrest]
    rfl

theorem sharedParts_of_isScalar (h : ∀ c ∈ concepts, c.isScalar) :
    sharedParts (concepts.map segments) = properOnes [meetAll (concepts.flatMap segments)] := by
  rw [map_segments_of_isScalar h, sharedParts_singletons]

theorem isNumeric_bounds (hne : concepts ≠ []) (h : ∀ c ∈ concepts, c.IsRangeOn field)
    (hscalar : ∀ c ∈ concepts, c.isScalar) :
    (meetAll (concepts.flatMap segments)).IsNumeric := by
  have hmem : concepts.flatMap segments ∈ choices (concepts.map segments) := by
    rw [map_segments_of_isScalar hscalar, choices_singletons]
    exact List.mem_singleton_self _
  refine isNumeric_of_mem_choices ?_ (isNumeric_of_mem_segments h) hmem
  simpa using hne

theorem ofBounds_of_isProper {bounds : Segment} {unit : Option String} (h : bounds.IsProper) :
    ofBounds field bounds unit = scalar field bounds unit :=
  if_neg ((not_max_lt_min_iff (isNumeric_of_isProper h)).mpr h)

theorem ofBounds_of_not_isProper {bounds : Segment} {unit : Option String}
    (hnumeric : bounds.IsNumeric) (h : ¬ bounds.IsProper) :
    ofBounds field bounds unit = empty field :=
  if_pos (Decidable.not_not.mp fun hlt => h ((not_max_lt_min_iff hnumeric).mp hlt))

theorem interAll_eq_empty (hne : concepts ≠ []) (h : ∀ c ∈ concepts, c.IsRangeOn field)
    (hnone : sharedParts (concepts.map segments) = []) : interAll field concepts = empty field := by
  unfold interAll
  split
  · rename_i hscalar
    rw [sharedParts_of_isScalar hscalar] at hnone
    refine ofBounds_of_not_isProper (isNumeric_bounds hne h hscalar) fun hproper => ?_
    simp [properOnes, hproper] at hnone
  · exact if_pos hnone

theorem sharedParts_map_append (hleft : ∀ c ∈ left, c.IsRangeOn field) (hl : left ≠ [])
    (hright : ∀ c ∈ right, c.IsRangeOn field) (hr : right ≠ []) :
    sharedParts ((left ++ right).map segments) =
      interSegments (sharedParts (left.map segments)) (sharedParts (right.map segments)) := by
  rw [List.map_append]
  refine sharedParts_append ?_ ?_ (isNumeric_of_mem_segments hleft)
    (isNumeric_of_mem_segments hright)
  · simpa using hl
  · simpa using hr

namespace StandsFor

theorem field?_eq (h : StandsFor field concepts c) : c.field? = some field := by
  cases h with
  | nothing => rfl
  | range => rfl
  | intervals _ _ hfield => exact hfield

/-- Up to inverted intervals, what stands for concepts covers what they share. -/
theorem unroll? (hne : concepts ≠ []) (hrange : ∀ c ∈ concepts, c.IsRangeOn field)
    (h : StandsFor field concepts c) (hc : c ≠ empty field) :
    ∃ parts, c.unroll? = some parts ∧ (∀ s ∈ parts, s.IsNumeric) ∧
      properOnes parts = sharedParts (concepts.map segments) := by
  cases h with
  | nothing => exact absurd rfl hc
  | range hscalar =>
    refine ⟨_, rfl, ?_, (sharedParts_of_isScalar hscalar).symm⟩
    exact List.forall_mem_singleton.mpr (isNumeric_bounds hne hrange hscalar)
  | intervals _ _ _ hunroll hnumeric hparts => exact ⟨_, hunroll, hnumeric, hparts⟩

theorem self (h : c.IsRangeOn field) : StandsFor field [c] c := by
  obtain ⟨hfield, parts, hunroll, hnumeric⟩ := h
  have hsegments : c.segments = parts := by
    rw [segments, hunroll]
    rfl
  have hparts : properOnes parts = sharedParts ([c].map segments) := by
    rw [List.map_singleton, sharedParts_singleton, hsegments]
  cases c with
  | scalar f bounds unit =>
    obtain rfl := Option.some.inj hfield
    have hstands : StandsFor f [scalar f bounds unit]
        (scalar f (meetAll ([scalar f bounds unit].flatMap segments)) unit) :=
      .range (by simp [isScalar])
    have hbounds : meetAll ([scalar f bounds unit].flatMap segments) = bounds :=
      meetAll_singleton bounds
    rwa [hbounds] at hstands
  | cyclic => exact .intervals (by simp [isScalar]) rfl hfield hunroll hnumeric hparts
  | multi => exact .intervals (by simp [isScalar]) rfl hfield hunroll hnumeric hparts
  | categorical | difference | union | empty => cases hunroll

theorem of_interAll (hne : concepts ≠ []) (hrange : ∀ c ∈ concepts, c.IsRangeOn field) :
    StandsFor field concepts (interAll field concepts) := by
  by_cases hnone : sharedParts (concepts.map segments) = []
  · rw [interAll_eq_empty hne hrange hnone]
    exact .nothing hnone
  unfold interAll
  split
  · rename_i hscalar
    rw [sharedParts_of_isScalar hscalar] at hnone
    have hproper : (meetAll (concepts.flatMap segments)).IsProper := by
      simpa [properOnes] using hnone
    rw [ofBounds_of_isProper hproper]
    exact .range hscalar
  · rename_i hscalar
    rw [ofSegments, if_neg hnone]
    refine .intervals hscalar rfl rfl rfl (fun s hs => ?_) (properOnes_sharedParts _)
    exact isNumeric_of_isProper (mem_properOnes.mp hs).2

end StandsFor

theorem interSameField_empty (h : a.field? = some field) :
    interSameField a (empty field) = .ok (empty field) := by
  cases a with
  | empty =>
    obtain rfl := Option.some.inj h
    rfl
  | scalar | categorical | cyclic | multi | difference | union => rfl

theorem interSameField_of_unroll? {s t : List Segment} (hfield : a.field? = some field)
    (hs : a.unroll? = some s) (ht : b.unroll? = some t) (h : a.isUnrolled || b.isUnrolled) :
    interSameField a b = .ok (ofSegments field (interSegments s t)) := by
  unfold interSameField
  split
  · cases hs
  · cases ht
  · cases h
  · cases hs
  · rw [if_pos h, interUnrolled, hs, ht, hfield]
    rfl

theorem inter_of_unroll? {s t : List Segment} (ha : a.field? = some field)
    (hb : b.field? = some field) (hs : a.unroll? = some s) (ht : b.unroll? = some t)
    (h : a.isUnrolled || b.isUnrolled) :
    a.inter b = .ok (ofSegments field (interSegments s t)) := by
  rw [inter, if_pos (ha.trans hb.symm)]
  exact interSameField_of_unroll? ha hs ht h

namespace StandsFor

theorem eq_nil (h : StandsFor field concepts (empty field)) :
    sharedParts (concepts.map segments) = [] := by
  cases h with
  | nothing hnone => exact hnone
  | intervals _ hkind => cases hkind

theorem not_isScalar (h : StandsFor field concepts c) (hc : c.isUnrolled = true) :
    ¬ ∀ c ∈ concepts, c.isScalar := by
  cases h with
  | nothing | range => cases hc
  | intervals hnot => exact hnot

theorem eq_scalar (h : StandsFor field concepts c) (hc : c ≠ empty field)
    (hkind : c.isUnrolled = false) :
    (∀ c ∈ concepts, c.isScalar) ∧
      c = scalar field (meetAll (concepts.flatMap segments)) (concepts.head?.bind unit?) := by
  cases h with
  | nothing => exact absurd rfl hc
  | range hscalar => exact ⟨hscalar, rfl⟩
  | intervals _ hunrolled =>
    rw [hunrolled] at hkind
    cases hkind

/-- The intersection of what stands for two lists of concepts is the closed form of both lists
together. -/
theorem inter_eq (hleft : ∀ c ∈ left, c.IsRangeOn field) (hl : left ≠ [])
    (hright : ∀ c ∈ right, c.IsRangeOn field) (hr : right ≠ [])
    (ha : StandsFor field left a) (hb : StandsFor field right b) :
    a.inter b = .ok (interAll field (left ++ right)) := by
  have happend := sharedParts_map_append hleft hl hright hr
  have hnothing : sharedParts ((left ++ right).map segments) = [] →
      interAll field (left ++ right) = empty field :=
    interAll_eq_empty (List.append_ne_nil_of_left_ne_nil hl right)
      (List.forall_mem_append.mpr ⟨hleft, hright⟩)
  rw [Concept.inter, if_pos (ha.field?_eq.trans hb.field?_eq.symm)]
  by_cases hemptyLeft : a = empty field
  · subst hemptyLeft
    rw [hnothing (by rw [happend, ha.eq_nil]; rfl)]
    rfl
  by_cases hemptyRight : b = empty field
  · subst hemptyRight
    rw [hnothing (by rw [happend, hb.eq_nil]; simp [interSegments])]
    exact interSameField_empty ha.field?_eq
  cases hkind : a.isUnrolled || b.isUnrolled with
  | true =>
    obtain ⟨s, hs, hns, hps⟩ := ha.unroll? hl hleft hemptyLeft
    obtain ⟨t, ht, hnt, hpt⟩ := hb.unroll? hr hright hemptyRight
    have hnot : ¬ ∀ c ∈ left ++ right, c.isScalar := by
      rw [List.forall_mem_append]
      rintro ⟨hsl, hsr⟩
      rcases Bool.or_eq_true_iff.mp hkind with h | h
      · exact ha.not_isScalar h hsl
      · exact hb.not_isScalar h hsr
    rw [interSameField_of_unroll? ha.field?_eq hs ht hkind, interAll, if_neg hnot, happend,
      ← hps, ← hpt, interSegments_properOnes hns hnt]
  | false =>
    obtain ⟨hka, hkb⟩ := Bool.or_eq_false_iff.mp hkind
    obtain ⟨hsl, rfl⟩ := ha.eq_scalar hemptyLeft hka
    obtain ⟨hsr, rfl⟩ := hb.eq_scalar hemptyRight hkb
    have hunit : (left ++ right).head?.bind unit? = left.head?.bind unit? := by
      rw [List.head?_append_of_ne_nil _ hl]
    rw [interAll, if_pos (List.forall_mem_append.mpr ⟨hsl, hsr⟩), List.flatMap_append,
      meetAll_append, hunit]
    rfl

end StandsFor

end Concept

namespace Plan

variable {source : Source} {field : String} {plan : Plan} {concepts : List Concept}

/-- A chain has a value, which stands for its leaves and is their closed form when something is
applied. -/
theorem IsChain.exists_yields (hchain : plan.IsChain)
    (hleaves : List.Forall₂ (fun c name => source.lookup name = .ok c) concepts plan.leaves)
    (hrange : ∀ c ∈ concepts, c.IsRangeOn field) :
    ∃ c, plan.Yields source c ∧ Concept.StandsFor field concepts c ∧
      (2 ≤ concepts.length → c = Concept.interAll field concepts) := by
  induction plan generalizing concepts with
  | concept name =>
    obtain ⟨c, rest, hlookup, hrest, rfl⟩ := List.forall₂_cons_right_iff.mp hleaves
    obtain rfl := List.forall₂_nil_right_iff.mp hrest
    have hc := hrange c List.mem_cons_self
    exact ⟨c, .concept hlookup, .self hc, fun hlen => by simp at hlen⟩
  | apply op left right ihl ihr =>
    obtain ⟨rfl, hcl, hcr⟩ := hchain
    obtain ⟨l, r, rfl, hl, hr⟩ : ∃ l r, concepts = l ++ r ∧
        List.Forall₂ (fun c name => source.lookup name = .ok c) l left.leaves ∧
        List.Forall₂ (fun c name => source.lookup name = .ok c) r right.leaves :=
      ⟨_, _, (List.take_append_drop left.leaves.length concepts).symm,
        List.forall₂_take_append _ _ _ hleaves, List.forall₂_drop_append _ _ _ hleaves⟩
    obtain ⟨hrl, hrr⟩ := List.forall_mem_append.mp hrange
    obtain ⟨a, hya, hsa, _⟩ := ihl hcl hl hrl
    obtain ⟨b, hyb, hsb, _⟩ := ihr hcr hr hrr
    have hnel : l ≠ [] := by
      rintro rfl
      exact leaves_ne_nil left (List.forall₂_nil_left_iff.mp hl)
    have hner : r ≠ [] := by
      rintro rfl
      exact leaves_ne_nil right (List.forall₂_nil_left_iff.mp hr)
    have hinter := hsa.inter_eq hrl hnel hrr hner hsb
    exact ⟨_, .apply hya hyb hinter,
      .of_interAll (List.append_ne_nil_of_left_ne_nil hnel r) hrange, fun _ => rfl⟩

end Plan

/-- However a chain of intersections is bracketed, it is grounded to the closed form of the
concepts of its leaves. -/
theorem ground_chain {source : Source} {limit : Nat} {plan : Plan} {field : String}
    {concepts : List Concept} (hchain : plan.IsChain) (hdepth : plan.depth ≤ limit)
    (hleaves : List.Forall₂ (fun c name => source.lookup name = .ok c) concepts plan.leaves)
    (hlength : 2 ≤ concepts.length) (hrange : ∀ c ∈ concepts, c.IsRangeOn field) :
    plan.ground limit source = .ok (Concept.interAll field concepts) ∧
      ∀ (other : Plan) (otherLimit : Nat), other.IsChain → other.depth ≤ otherLimit →
        other.leaves = plan.leaves →
          other.ground otherLimit source = plan.ground limit source := by
  have hground : ∀ (p : Plan) (n : Nat), p.IsChain → p.depth ≤ n → p.leaves = plan.leaves →
      p.ground n source = .ok (Concept.interAll field concepts) := by
    intro p n hp hn hsame
    obtain ⟨c, hyields, _, hc⟩ := hp.exists_yields (hsame ▸ hleaves) hrange
    rw [hc hlength] at hyields
    exact Plan.ground_eq_ok_iff.mpr ⟨hyields, hn⟩
  have hplan := hground plan limit hchain hdepth rfl
  refine ⟨hplan, fun other n hother hn hsame => ?_⟩
  rw [hplan]
  exact hground other n hother hn hsame

theorem ground_chain_day :
    let midnight := Plan.concept "Midnight"
    let night := Plan.concept "Night"
    let leftmost := Plan.apply .intersect (.apply .intersect midnight night) midnight
    let rightmost := Plan.apply .intersect midnight (.apply .intersect night midnight)
    let early := Segment.mk .zero (.ofUnits 1 (by decide))
    leftmost.ground 64 Ontology.day.toSource = .ok (.multi "time" [early]) ∧
      rightmost.ground 3 Ontology.day.toSource = leftmost.ground 64 Ontology.day.toSource := by
  intro midnight night leftmost rightmost early
  have hleft : leftmost.IsChain := ⟨rfl, ⟨rfl, trivial, trivial⟩, trivial⟩
  have hright : rightmost.IsChain := ⟨rfl, trivial, rfl, trivial, trivial⟩
  let around := Concept.cyclic "time" (.ofUnits 23 (by decide)) early.max (.ofUnits 24 (by decide))
  let concepts := [around, .scalar "time" ⟨.zero, .ofUnits 6 (by decide)⟩ (some "h"), around]
  have hleaves : List.Forall₂ (fun c name => Ontology.day.toSource.lookup name = .ok c)
      concepts leftmost.leaves :=
    .cons rfl (.cons rfl (.cons rfl .nil))
  have hrange : ∀ c ∈ concepts, c.IsRangeOn "time" := by
    simp [concepts, around, Concept.IsRangeOn, Concept.field?, Concept.unroll?, Segment.IsNumeric,
      early, Number.ofUnits, Number.zero]
  have hground := ground_chain hleft (show leftmost.depth ≤ 64 by decide) hleaves (by decide) hrange
  refine ⟨hground.1.trans ?_, hground.2 rightmost 3 hright (by decide) rfl⟩
  rfl

end Grounding
