/-! Finite sets of labels, kept in ascending order. Texts are ordered by their code points. -/

namespace Grounding

/-- A set of labels as the list of its members in ascending order. -/
structure LabelSet where
  labels : List String
  ascending : labels.Pairwise (· < ·)
  deriving DecidableEq

namespace LabelSet

def insertLabel (label : String) : List String → List String
  | [] => [label]
  | l :: rest =>
    if label < l then label :: l :: rest
    else if label = l then l :: rest
    else l :: insertLabel label rest

@[simp]
theorem mem_insertLabel {x label : String} {labels : List String} :
    x ∈ insertLabel label labels ↔ x = label ∨ x ∈ labels := by
  induction labels with
  | nil => simp [insertLabel]
  | cons l rest ih =>
    simp only [insertLabel]
    split
    · simp
    · split
      · rename_i h
        simp [h]
      · simp only [List.mem_cons, ih, or_left_comm]

theorem lt_of_not_lt_of_ne {a b : String} (hlt : ¬ a < b) (hne : a ≠ b) : b < a :=
  String.not_le.mp fun hle =>
    hne (String.le_antisymm hle (String.not_lt.mp hlt))

theorem ascending_insertLabel {label : String} {labels : List String}
    (h : labels.Pairwise (· < ·)) : (insertLabel label labels).Pairwise (· < ·) := by
  induction labels with
  | nil => simp [insertLabel]
  | cons l rest ih =>
    obtain ⟨hl, hrest⟩ := List.pairwise_cons.mp h
    simp only [insertLabel]
    split
    · rename_i hlt
      refine List.pairwise_cons.mpr ⟨?_, h⟩
      intro x hx
      rcases List.mem_cons.mp hx with rfl | hx
      · exact hlt
      · exact String.lt_trans hlt (hl x hx)
    · split
      · exact h
      · rename_i hlt hne
        refine List.pairwise_cons.mpr ⟨?_, ih hrest⟩
        intro x hx
        rcases mem_insertLabel.mp hx with rfl | hx
        · exact lt_of_not_lt_of_ne hlt hne
        · exact hl x hx

def empty : LabelSet :=
  ⟨[], List.Pairwise.nil⟩

def insert (label : String) (s : LabelSet) : LabelSet :=
  ⟨insertLabel label s.labels, ascending_insertLabel s.ascending⟩

def ofList (labels : List String) : LabelSet :=
  labels.foldl (fun s label => s.insert label) empty

theorem insertLabel_eq_append {label : String} {labels : List String}
    (h : ∀ l ∈ labels, l < label) : insertLabel label labels = labels ++ [label] := by
  induction labels with
  | nil => rfl
  | cons l rest ih =>
    obtain ⟨hl, hrest⟩ := List.forall_mem_cons.mp h
    have hne : label ≠ l := fun heq => String.lt_irrefl l (heq ▸ hl)
    rw [insertLabel, if_neg (String.lt_asymm hl), if_neg hne, ih hrest, List.cons_append]

theorem labels_foldl_insert {labels : List String} {s : LabelSet}
    (h : (s.labels ++ labels).Pairwise (· < ·)) :
    (labels.foldl (fun s label => s.insert label) s).labels = s.labels ++ labels := by
  induction labels generalizing s with
  | nil => simp
  | cons label rest ih =>
    have hlast : ∀ l ∈ s.labels, l < label := fun l hl =>
      (List.pairwise_append.mp h).2.2 l hl label (by simp)
    have hinsert : (s.insert label).labels = s.labels ++ [label] := insertLabel_eq_append hlast
    have hnext : ((s.insert label).labels ++ rest).Pairwise (· < ·) := by
      simpa [hinsert] using h
    rw [List.foldl_cons, ih hnext, hinsert, List.append_assoc, List.singleton_append]

theorem eq_of_labels {s t : LabelSet} (h : s.labels = t.labels) : s = t := by
  cases s
  cases t
  congr

/-- A set is the set of its own labels. -/
theorem ofList_labels (s : LabelSet) : ofList s.labels = s :=
  eq_of_labels (labels_foldl_insert s.ascending)

instance : Membership String LabelSet where
  mem s label := label ∈ s.labels

instance (label : String) (s : LabelSet) : Decidable (label ∈ s) :=
  inferInstanceAs (Decidable (label ∈ s.labels))

/-- The labels that both sets have. -/
def inter (s t : LabelSet) : LabelSet :=
  ⟨s.labels.filter (· ∈ t), s.ascending.filter _⟩

def isEmpty (s : LabelSet) : Bool :=
  s.labels.isEmpty

end LabelSet

end Grounding
