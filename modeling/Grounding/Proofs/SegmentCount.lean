import Grounding.Proofs.CircleCover
import Mathlib.Algebra.BigOperators.Group.List.Basic

/-! How many intervals an intersection has. Every choice of one interval from each leaf is shared at
most once, and so the counts of the leaves are multiplied. With a range of a circle whose bounds are
in order no choice is lost, since all parts hold its bounds. -/

namespace Grounding

theorem length_choices {α : Type} (lists : List (List α)) :
    (choices lists).length = (lists.map List.length).prod := by
  induction lists with
  | nil => rfl
  | cons options rest ih => simp [choices, List.length_flatMap, ih]

theorem length_interSegments_le (left right : List Segment) :
    (interSegments left right).length ≤ left.length * right.length := by
  induction left with
  | nil => simp [interSegments]
  | cons s rest ih =>
    have hrow : (right.filterMap s.inter?).length ≤ right.length := List.length_filterMap_le _ _
    have hcons : interSegments (s :: rest) right =
        right.filterMap s.inter? ++ interSegments rest right := rfl
    rw [hcons, List.length_append, List.length_cons, Nat.succ_mul]
    omega

namespace Segment

variable {s t : Segment} {x min max period : Number} {segments : List Segment}

theorem mem_meetAll (hne : segments ≠ []) (h : ∀ s ∈ segments, x ∈ s) : x ∈ meetAll segments := by
  induction segments with
  | nil => exact absurd rfl hne
  | cons s rest ih =>
    obtain ⟨hs, hrest⟩ := List.forall_mem_cons.mp h
    by_cases hnil : rest = []
    · rw [hnil, meetAll_singleton]
      exact hs
    · have hnumeric : ∀ t ∈ rest, t.IsNumeric := fun t ht =>
        isNumeric_of_isProper (isProper_of_mem (hrest t ht))
      exact (mem_meet_iff (isNumeric_of_isProper (isProper_of_mem hs))
        (isNumeric_meetAll hnil hnumeric)).mpr ⟨hs, ih hnil hrest⟩

theorem inter?_self (h : s.IsProper) : s.inter? s = some s :=
  inter?_eq_some.mpr ⟨(meet_self s).symm, (meet_self s).symm ▸ h⟩

theorem inter?_eq_none_of_disjoint (hs : s.IsNumeric) (ht : t.IsNumeric) (h : Disjoint s t) :
    s.inter? t = none :=
  inter?_eq_none fun hproper => h _ ((mem_meet_iff hs ht).mp (min_mem hproper))

theorem Disjoint.symm (h : Disjoint s t) : Disjoint t s :=
  fun x hx => h x hx.symm

/-- Two parts without a common point are kept by an intersection with themselves. -/
theorem interSegments_self_of_disjoint (hs : s.IsProper) (ht : t.IsProper) (h : Disjoint s t) :
    interSegments [s, t] [s, t] = [s, t] := by
  have hst := inter?_eq_none_of_disjoint (isNumeric_of_isProper hs) (isNumeric_of_isProper ht) h
  have hts :=
    inter?_eq_none_of_disjoint (isNumeric_of_isProper ht) (isNumeric_of_isProper hs) h.symm
  simp [interSegments, inter?_self hs, inter?_self ht, hst, hts]

end Segment

open Segment

/-- No choice is lost where all intervals have a point in common. -/
theorem length_sharedParts_of_common {lists : List (List Segment)} {x : Number} (hne : lists ≠ [])
    (h : ∀ options ∈ lists, ∀ s ∈ options, x ∈ s) :
    (sharedParts lists).length = (lists.map List.length).prod := by
  have hproper : ∀ s ∈ (choices lists).map meetAll, s.IsProper := by
    intro s hs
    obtain ⟨choice, hchoice, rfl⟩ := List.mem_map.mp hs
    exact isProper_of_mem
      (mem_meetAll (ne_nil_of_mem_choices hne hchoice) (forall_of_mem_choices h hchoice))
  have hall : sharedParts lists = (choices lists).map meetAll :=
    List.filter_eq_self.mpr fun s hs => decide_eq_true (hproper s hs)
  rw [hall, List.length_map, length_choices]

theorem sharedParts_replicate_self {segments : List Segment}
    (hproper : ∀ s ∈ segments, s.IsProper) (hself : interSegments segments segments = segments)
    (n : Nat) : sharedParts (List.replicate (n + 1) segments) = segments := by
  have hnumeric : ∀ m, ∀ options ∈ List.replicate m segments, ∀ s ∈ options, s.IsNumeric := by
    intro m options hoptions s hs
    rw [List.eq_of_mem_replicate hoptions] at hs
    exact isNumeric_of_isProper (hproper s hs)
  have hone : sharedParts [segments] = segments := by
    rw [sharedParts_singleton]
    exact List.filter_eq_self.mpr fun s hs => decide_eq_true (hproper s hs)
  induction n with
  | zero => exact hone
  | succ n ih =>
    have hsplit : List.replicate (n + 1 + 1) segments =
        List.replicate (n + 1) segments ++ List.replicate 1 segments := by
      rw [List.replicate_append_replicate]
    rw [hsplit, sharedParts_append (by simp) (by simp) (hnumeric _) (hnumeric _), ih]
    exact (congrArg (interSegments segments) hone).trans hself

namespace Concept

variable {a b c : Concept} {field : String} {min max period : Number}

/-- Only what covers intervals has an intersection that covers intervals. -/
theorem MeetsIn.exists_unroll? {parts : List Segment} (h : MeetsIn a b c)
    (hc : c.unroll? = some parts) :
    ∃ s t, a.unroll? = some s ∧ b.unroll? = some t ∧ parts.length ≤ s.length * t.length := by
  cases h with
  | emptyLeft => cases hc
  | emptyRight => cases hc
  | scalar field s t =>
    unfold interScalar at hc
    split at hc
    · cases hc
    · obtain rfl := Option.some.inj hc
      exact ⟨[s], [t], rfl, rfl, Nat.le_refl 1⟩
  | categorical =>
    unfold interLabels at hc
    split at hc <;> cases hc
  | unrolled _ hs ht =>
    unfold ofSegments at hc
    split at hc
    · cases hc
    · obtain rfl := Option.some.inj hc
      exact ⟨_, _, hs, ht, length_interSegments_le _ _⟩

theorem interAll_replicate_cyclic (n : Nat) :
    interAll field (List.replicate (n + 1) (cyclic field min max period)) =
      ofSegments field (sharedParts (List.replicate (n + 1) (circleParts min max period))) := by
  have hnot : ¬ ∀ c ∈ List.replicate (n + 1) (cyclic field min max period), c.isScalar := by
    simp [isScalar]
  rw [interAll, if_neg hnot, List.map_replicate]
  rfl

theorem isRangeOn_cyclic (hmin : Number.IsWithin period min) (hmax : Number.IsWithin period max) :
    (cyclic field min max period).IsRangeOn field :=
  ⟨rfl, _, rfl, isNumeric_circleParts hmin hmax⟩

end Concept

namespace Segment

variable {min max period : Number}

theorem isProper_circleParts (hmin : Number.IsWithin period min)
    (hmax : Number.IsWithin period max) : ∀ s ∈ circleParts min max period, s.IsProper := by
  simp [circleParts, IsProper, hmin.2.2, hmax.2.1]

theorem min_mem_circleParts (hmin : Number.IsWithin period min) (h : min ≤ max) :
    ∀ s ∈ circleParts min max period, min ∈ s := by
  have hfirst : min ∈ Segment.mk min period :=
    ⟨Number.le_refl (Number.ne_nan_of_isFinite hmin.1), hmin.2.2⟩
  have hsecond : min ∈ Segment.mk .zero max := ⟨hmin.2.1, h⟩
  simp [circleParts, hfirst, hsecond]

theorem length_sharedParts_circleParts (hmin : Number.IsWithin period min) (h : min ≤ max)
    (n : Nat) :
    (sharedParts (List.replicate (n + 1) (circleParts min max period))).length = 2 ^ (n + 1) := by
  have hcommon : ∀ options ∈ List.replicate (n + 1) (circleParts min max period),
      ∀ s ∈ options, min ∈ s := by
    intro options hoptions
    rw [List.eq_of_mem_replicate hoptions]
    exact min_mem_circleParts hmin h
  rw [length_sharedParts_of_common (by simp) hcommon, List.map_replicate, List.prod_replicate]
  rfl

theorem sharedParts_circleParts (hmin : Number.IsWithin period min)
    (hmax : Number.IsWithin period max) (h : max < min) (n : Nat) :
    sharedParts (List.replicate (n + 1) (circleParts min max period)) =
      circleParts min max period := by
  have hproper := isProper_circleParts hmin hmax
  refine sharedParts_replicate_self hproper ?_ n
  exact interSegments_self_of_disjoint (hproper _ (by simp [circleParts]))
    (hproper _ (by simp [circleParts])) (disjoint_of_lt h)

theorem sharedParts_circleParts_ne_nil (hmin : Number.IsWithin period min)
    (hmax : Number.IsWithin period max) (n : Nat) :
    sharedParts (List.replicate (n + 1) (circleParts min max period)) ≠ [] := by
  by_cases h : min ≤ max
  · have hlength := length_sharedParts_circleParts hmin h n
    have hpos : 0 < 2 ^ (n + 1) := Nat.two_pow_pos (n + 1)
    rw [← List.length_pos_iff]
    omega
  · have hgap : max < min := (Number.lt_iff_not_le (Number.ne_nan_of_isFinite hmax.1)
      (Number.ne_nan_of_isFinite hmin.1)).mpr h
    rw [sharedParts_circleParts hmin hmax hgap]
    exact List.cons_ne_nil _ _

end Segment

namespace Plan

variable {source : Source} {plan : Plan} {c : Concept}

theorem IsChain.length_le {parts : List Segment} (hchain : plan.IsChain)
    (h : plan.Yields source c) (hc : c.unroll? = some parts) :
    ∃ lists, List.Forall₂ (fun segments name => ∃ leaf, source.lookup name = .ok leaf ∧
        leaf.unroll? = some segments) lists plan.leaves ∧
      parts.length ≤ (lists.map List.length).prod := by
  induction h generalizing parts with
  | @concept name c hlookup =>
    refine ⟨[parts], .cons ⟨c, hlookup, hc⟩ .nil, ?_⟩
    simp
  | apply _ _ happly ihl ihr =>
    obtain ⟨rfl, hcl, hcr⟩ := hchain
    obtain ⟨s, t, hs, ht, hlength⟩ := (Concept.inter_eq_ok happly).2.exists_unroll? hc
    obtain ⟨l, hl, hlen⟩ := ihl hcl hs
    obtain ⟨r, hr, hlen'⟩ := ihr hcr ht
    refine ⟨l ++ r, List.rel_append hl hr, ?_⟩
    rw [List.map_append, List.prod_append]
    exact Nat.le_trans hlength (Nat.mul_le_mul hlen hlen')

/-- A chain over one range of a circle is its intersection with itself, however often. -/
theorem IsChain.ground_cyclic {limit : Nat} {field : String} {min max period : Number}
    (hchain : plan.IsChain) (hdepth : plan.depth ≤ limit) (hmin : Number.IsWithin period min)
    (hmax : Number.IsWithin period max) {n : Nat} (hlength : plan.leaves.length = n + 2)
    (hleaves : ∀ name ∈ plan.leaves, source.lookup name = .ok (.cyclic field min max period)) :
    plan.ground limit source = .ok (.ofSegments field
      (sharedParts (List.replicate (n + 2) (circleParts min max period)))) := by
  let concepts := List.replicate (n + 2) (Concept.cyclic field min max period)
  have hconcepts : List.Forall₂ (fun c name => source.lookup name = .ok c) concepts
      plan.leaves := by
    have hmap : concepts = plan.leaves.map fun _ => .cyclic field min max period := by
      rw [List.map_const', hlength]
    rw [hmap, List.forall₂_map_left_iff, List.forall₂_same]
    exact hleaves
  have hrange : ∀ c ∈ concepts, c.IsRangeOn field := by
    intro c hc
    rw [List.eq_of_mem_replicate hc]
    exact Concept.isRangeOn_cyclic hmin hmax
  obtain ⟨c, hyields, _, hc⟩ := hchain.exists_yields hconcepts hrange
  rw [hc (by simp [concepts]), Concept.interAll_replicate_cyclic] at hyields
  exact ground_eq_ok_iff.mpr ⟨hyields, hdepth⟩

end Plan

/-- A chain of intersections has at most as many intervals as there are choices of one interval
from each leaf. Over one range of a circle with bounds in order it has all of them, and with a gap
only the two parts of the range. -/
theorem ground_chain_length {source : Source} {limit : Nat} {plan : Plan} (hchain : plan.IsChain) :
    (∀ field segments, plan.ground limit source = .ok (.multi field segments) →
      ∃ lists, List.Forall₂ (fun parts name => ∃ leaf, source.lookup name = .ok leaf ∧
          leaf.unroll? = some parts) lists plan.leaves ∧
        segments.length ≤ (lists.map List.length).prod) ∧
    ∀ (entry field : String) (min max period : Number),
      (Concept.cyclic field min max period).validate entry = .ok () →
      (∀ name ∈ plan.leaves, source.lookup name = .ok (.cyclic field min max period)) →
      2 ≤ plan.leaves.length → plan.depth ≤ limit →
      ∃ segments, plan.ground limit source = .ok (.multi field segments) ∧
        (min ≤ max → segments.length = 2 ^ plan.leaves.length) ∧
        (max < min → segments = [⟨min, period⟩, ⟨.zero, max⟩]) := by
  constructor
  · intro field segments h
    exact hchain.length_le (Plan.Yields.of_ground h) rfl
  · intro entry field min max period hvalid hleaves hlength hdepth
    obtain ⟨_, _, _, hmin, hmax⟩ := Concept.validate_eq_ok_iff.mp hvalid
    obtain ⟨n, hn⟩ := Nat.exists_eq_add_of_le' hlength
    have hground := hchain.ground_cyclic hdepth hmin hmax hn hleaves
    rw [Concept.ofSegments, if_neg (sharedParts_circleParts_ne_nil hmin hmax (n + 1))] at hground
    refine ⟨_, hground, fun horder => ?_, fun hgap => ?_⟩
    · rw [hn]
      exact length_sharedParts_circleParts hmin horder (n + 1)
    · exact sharedParts_circleParts hmin hmax hgap (n + 1)

theorem ground_chain_length_afternoon :
    let afternoon := Concept.cyclic "time" (.ofUnits 13 (by decide)) (.ofUnits 17 (by decide))
      (.ofUnits 24 (by decide))
    let source := (ConceptMap.empty.insert "Afternoon" afternoon).toSource
    let leaf := Plan.concept "Afternoon"
    let plan := Plan.apply .intersect leaf (.apply .intersect leaf leaf)
    plan.IsChain ∧ afternoon.validate "Afternoon" = .ok () ∧
      (∀ name ∈ plan.leaves, source.lookup name = .ok afternoon) ∧ plan.depth ≤ 3 ∧
      ∃ segments, plan.ground 3 source = .ok (.multi "time" segments) ∧ segments.length = 8 := by
  intro afternoon source leaf plan
  have hchain : plan.IsChain := ⟨rfl, trivial, rfl, trivial, trivial⟩
  have hvalid : afternoon.validate "Afternoon" = .ok () := rfl
  have hleaves : ∀ name ∈ plan.leaves, source.lookup name = .ok afternoon := by
    simp only [plan, leaf, Plan.leaves, List.forall_mem_append, List.forall_mem_singleton]
    exact ⟨rfl, rfl, rfl⟩
  have hdepth : plan.depth ≤ 3 := by decide
  obtain ⟨segments, hground, hcount, _⟩ :=
    (ground_chain_length hchain).2 _ _ _ _ _ hvalid hleaves (by decide) hdepth
  have horder : Number.ofUnits 13 (by decide) ≤ .ofUnits 17 (by decide) := by decide
  exact ⟨hchain, hvalid, hleaves, hdepth, segments, hground, hcount horder⟩

end Grounding
