import Grounding.Proofs.SegmentMeet
import Mathlib.Data.List.Forall2

/-! What several lists of intervals share, one interval chosen from each. The lists may be cut in
two anywhere, and what each side shares intersected, in the same order and with the same
repetitions. -/

namespace Grounding

/-- The largest number of a list, where what is no number does not count. -/
def Number.largest (xs : List Number) : Number :=
  xs.foldr max .nan

def Number.smallest (xs : List Number) : Number :=
  xs.foldr min .nan

namespace Segment

/-- From the largest lower bound to the smallest upper bound. -/
def meetAll (segments : List Segment) : Segment :=
  ⟨Number.largest (segments.map Segment.min), Number.smallest (segments.map Segment.max)⟩

def properOnes (segments : List Segment) : List Segment :=
  segments.filter fun s => s.IsProper

end Segment

/-- One element from each list, in lexicographic order, where the last list changes first. -/
def choices {α : Type} : List (List α) → List (List α)
  | [] => [[]]
  | options :: rest => options.flatMap fun x => (choices rest).map (x :: ·)

/-- What is shared in each choice of one interval from each list, where anything is. -/
def sharedParts (lists : List (List Segment)) : List Segment :=
  Segment.properOnes ((choices lists).map Segment.meetAll)

namespace Segment

theorem meetAll_cons (s : Segment) (segments : List Segment) :
    meetAll (s :: segments) = s.meet (meetAll segments) :=
  rfl

theorem meetAll_append (left right : List Segment) :
    meetAll (left ++ right) = (meetAll left).meet (meetAll right) := by
  induction left with
  | nil => simp [meetAll, Number.largest, Number.smallest, meet]
  | cons s rest ih => rw [List.cons_append, meetAll_cons, meetAll_cons, ih, meet_assoc]

theorem meetAll_singleton (s : Segment) : meetAll [s] = s := by
  simp [meetAll, Number.largest, Number.smallest]

theorem isNumeric_meetAll {segments : List Segment} (hne : segments ≠ [])
    (h : ∀ s ∈ segments, s.IsNumeric) : (meetAll segments).IsNumeric := by
  induction segments with
  | nil => exact absurd rfl hne
  | cons s rest ih =>
    obtain ⟨hs, hrest⟩ := List.forall_mem_cons.mp h
    by_cases hnil : rest = []
    · rw [hnil, meetAll_singleton]
      exact hs
    · exact hs.meet (ih hnil hrest)

end Segment

theorem choices_append {α : Type} (left right : List (List α)) :
    choices (left ++ right) =
      (choices left).flatMap fun a => (choices right).map (a ++ ·) := by
  induction left with
  | nil => simp [choices]
  | cons options rest ih =>
    simp only [List.cons_append, choices, ih, List.flatMap_assoc, List.map_flatMap,
      List.flatMap_map, List.map_map, Function.comp_def]

theorem mem_choices_iff {α : Type} {lists : List (List α)} {choice : List α} :
    choice ∈ choices lists ↔ List.Forall₂ (· ∈ ·) choice lists := by
  induction lists generalizing choice with
  | nil => simp [choices]
  | cons options rest ih =>
    simp only [choices, List.mem_flatMap, List.mem_map, ih, List.forall₂_cons_right_iff]
    constructor
    · rintro ⟨x, hx, tail, htail, rfl⟩
      exact ⟨x, tail, hx, htail, rfl⟩
    · rintro ⟨x, tail, hx, htail, rfl⟩
      exact ⟨x, hx, tail, htail, rfl⟩

theorem ne_nil_of_mem_choices {α : Type} {lists : List (List α)} {choice : List α}
    (hne : lists ≠ []) (h : choice ∈ choices lists) : choice ≠ [] := by
  rintro rfl
  exact hne (List.forall₂_nil_left_iff.mp (mem_choices_iff.mp h))

theorem forall_of_mem_choices {α : Type} {p : α → Prop} {lists : List (List α)} {choice : List α}
    (hp : ∀ options ∈ lists, ∀ x ∈ options, p x) (h : choice ∈ choices lists) :
    ∀ x ∈ choice, p x := by
  have hall := mem_choices_iff.mp h
  clear h
  induction hall with
  | nil =>
    intro x hx
    cases hx
  | cons hmem _ ih =>
    obtain ⟨hfirst, hrest⟩ := List.forall_mem_cons.mp hp
    exact List.forall_mem_cons.mpr ⟨hfirst _ hmem, ih hrest⟩

theorem isNumeric_of_mem_choices {lists : List (List Segment)} {choice : List Segment}
    (hne : lists ≠ []) (hnumeric : ∀ options ∈ lists, ∀ s ∈ options, s.IsNumeric)
    (h : choice ∈ choices lists) : (Segment.meetAll choice).IsNumeric :=
  Segment.isNumeric_meetAll (ne_nil_of_mem_choices hne h) (forall_of_mem_choices hnumeric h)

namespace Segment

theorem mem_properOnes {segments : List Segment} {s : Segment} :
    s ∈ properOnes segments ↔ s ∈ segments ∧ s.IsProper := by
  simp [properOnes]

theorem filterMap_inter? (s : Segment) (segments : List Segment) :
    segments.filterMap s.inter? = properOnes (segments.map s.meet) := by
  induction segments with
  | nil => rfl
  | cons t rest ih =>
    unfold properOnes at ih ⊢
    by_cases hproper : (s.meet t).IsProper
    · simp [inter?, hproper, ih]
    · simp [inter?, hproper, ih]

theorem interSegments_eq (left right : List Segment) :
    interSegments left right = left.flatMap fun s => properOnes (right.map s.meet) := by
  simp only [interSegments, filterMap_inter?]

theorem inter?_eq_none {s t : Segment} (h : ¬ (s.meet t).IsProper) : s.inter? t = none :=
  if_neg h

theorem flatMap_properOnes {segments : List Segment} {f : Segment → List Segment}
    (h : ∀ s ∈ segments, ¬ s.IsProper → f s = []) :
    (properOnes segments).flatMap f = segments.flatMap f := by
  induction segments with
  | nil => rfl
  | cons s rest ih =>
    obtain ⟨hs, hrest⟩ := List.forall_mem_cons.mp h
    unfold properOnes at ih ⊢
    by_cases hproper : s.IsProper
    · simp [hproper, ih hrest]
    · simp [hproper, ih hrest, hs hproper]

theorem filterMap_properOnes {segments : List Segment} {f : Segment → Option Segment}
    (h : ∀ t ∈ segments, ¬ t.IsProper → f t = none) :
    (properOnes segments).filterMap f = segments.filterMap f := by
  rw [List.filterMap_eq_flatMap_toList, List.filterMap_eq_flatMap_toList]
  refine flatMap_properOnes fun t ht hnot => ?_
  rw [h t ht hnot]
  rfl

/-- Inverted intervals share nothing with others, so that it does not matter when they are left
out. -/
theorem interSegments_properOnes {left right : List Segment}
    (hl : ∀ s ∈ left, s.IsNumeric) (hr : ∀ t ∈ right, t.IsNumeric) :
    interSegments (properOnes left) (properOnes right) = interSegments left right := by
  have hright : ∀ s ∈ left, (properOnes right).filterMap s.inter? = right.filterMap s.inter? :=
    fun s hs => filterMap_properOnes fun t ht hnot =>
      inter?_eq_none fun h => hnot (isProper_right_of_meet (hl s hs) (hr t ht) h)
  have hleft : ∀ s ∈ left, ¬ s.IsProper → right.filterMap s.inter? = [] := fun s hs hnot =>
    List.filterMap_eq_nil_iff.mpr fun t ht =>
      inter?_eq_none fun h => hnot (isProper_left_of_meet (hl s hs) (hr t ht) h)
  calc (properOnes left).flatMap (fun s => (properOnes right).filterMap s.inter?)
      = (properOnes left).flatMap fun s => right.filterMap s.inter? :=
        List.flatMap_congr fun s hs => hright s (mem_properOnes.mp hs).1
    _ = left.flatMap fun s => right.filterMap s.inter? := flatMap_properOnes hleft

end Segment

open Segment

theorem sharedParts_append {left right : List (List Segment)} (hl : left ≠ []) (hr : right ≠ [])
    (hleft : ∀ options ∈ left, ∀ s ∈ options, s.IsNumeric)
    (hright : ∀ options ∈ right, ∀ s ∈ options, s.IsNumeric) :
    sharedParts (left ++ right) = interSegments (sharedParts left) (sharedParts right) := by
  have hparts : ∀ {lists : List (List Segment)}, lists ≠ [] →
      (∀ options ∈ lists, ∀ s ∈ options, s.IsNumeric) →
        ∀ s ∈ (choices lists).map meetAll, s.IsNumeric := by
    intro lists hne hnumeric s hs
    obtain ⟨choice, hchoice, rfl⟩ := List.mem_map.mp hs
    exact isNumeric_of_mem_choices hne hnumeric hchoice
  calc sharedParts (left ++ right)
      = ((choices left).map meetAll).flatMap fun s =>
          properOnes (((choices right).map meetAll).map s.meet) := by
        simp only [sharedParts, choices_append, properOnes, List.map_flatMap, List.filter_flatMap,
          List.flatMap_map, List.map_map, Function.comp_def, meetAll_append]
    _ = interSegments ((choices left).map meetAll) ((choices right).map meetAll) :=
        (interSegments_eq _ _).symm
    _ = interSegments (sharedParts left) (sharedParts right) :=
        (interSegments_properOnes (hparts hl hleft) (hparts hr hright)).symm

theorem properOnes_sharedParts (lists : List (List Segment)) :
    properOnes (sharedParts lists) = sharedParts lists := by
  simp [sharedParts, properOnes]

theorem choices_singletons {α : Type} (xs : List α) : choices (xs.map fun x => [x]) = [xs] := by
  induction xs with
  | nil => rfl
  | cons x rest ih => simp [choices, ih]

theorem sharedParts_singletons (segments : List Segment) :
    sharedParts (segments.map fun s => [s]) = properOnes [meetAll segments] := by
  simp [sharedParts, choices_singletons]

theorem sharedParts_singleton (segments : List Segment) :
    sharedParts [segments] = properOnes segments := by
  simp [sharedParts, choices, List.flatMap_singleton', List.map_flatMap, meetAll_singleton]

end Grounding
