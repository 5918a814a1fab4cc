import Grounding.Proofs.FirstFault

/-! The text of a position in a plan. Its slashes divide it into the numerals of the indices. Two
positions with one text are therefore the same, and an error that shows its position leads to one
value of the document. -/

namespace Grounding

namespace Path

variable {p q : Path}

theorem toDigits_injective : Function.Injective (Nat.toDigits 10) := by
  intro m n h
  calc
    m = Nat.ofDigitChars 10 (Nat.toDigits 10 m) 0 := Nat.ofDigitChars_ten_toDigits.symm
    _ = Nat.ofDigitChars 10 (Nat.toDigits 10 n) 0 := by rw [h]
    _ = n := Nat.ofDigitChars_ten_toDigits

theorem slash_notMem_toDigits (n : Nat) : '/' ∉ Nat.toDigits 10 n := by
  intro h
  have hdigit : ('/').isDigit = true := Nat.isDigit_of_mem_toDigits (by decide) (by decide) h
  exact absurd hdigit (by decide)

/-- What stands after each slash. The root has one slash, and nothing after it. -/
def marks (p : Path) : List (List Char) :=
  if p.indices = [] then [[]] else p.indices.map (Nat.toDigits 10)

theorem slash_notMem_of_mem_marks {mark : List Char} (h : mark ∈ p.marks) : '/' ∉ mark := by
  unfold marks at h
  split at h
  · obtain rfl := List.mem_singleton.mp h
    simp
  · obtain ⟨n, -, rfl⟩ := List.mem_map.mp h
    exact slash_notMem_toDigits n

theorem intercalate_cons_eq_flatMap (c : Char) (mark : List Char) (marks : List (List Char)) :
    [c].intercalate (mark :: marks) = mark ++ marks.flatMap (c :: ·) := by
  induction marks generalizing mark with
  | nil => simp
  | cons next marks ih =>
    rw [List.intercalate_cons_cons, ih, List.flatMap_cons]
    simp

theorem toList_display (p : Path) : p.display.toList = ['/'].intercalate ([] :: p.marks) := by
  have hslash : (toString "/").toList = ['/'] := rfl
  rw [intercalate_cons_eq_flatMap, display, marks]
  split
  · rfl
  · simp [String.toList_join, List.flatMap_map, hslash]

theorem splitOn_display (p : Path) : p.display.toList.splitOn '/' = [] :: p.marks := by
  rw [toList_display]
  refine List.splitOn_intercalate '/' ?_ (List.cons_ne_nil _ _)
  intro mark hmark
  rcases List.mem_cons.mp hmark with rfl | hmark
  · simp
  · exact slash_notMem_of_mem_marks hmark

theorem nil_mem_marks_iff : [] ∈ p.marks ↔ p.indices = [] := by
  unfold marks
  split
  · rename_i hroot
    simp [hroot]
  · rename_i hindices
    have hdigits : [] ∉ p.indices.map (Nat.toDigits 10) := by simp [Nat.toDigits_ne_nil]
    exact iff_of_false hdigits hindices

theorem eq_of_marks (h : p.marks = q.marks) : p = q := by
  have hroot : p.indices = [] ↔ q.indices = [] := by
    rw [← nil_mem_marks_iff, h, nil_mem_marks_iff]
  obtain ⟨indices⟩ := p
  obtain ⟨more⟩ := q
  by_cases hp : indices = []
  · have hq : more = [] := hroot.mp hp
    rw [hp, hq]
  · have hq : more ≠ [] := mt hroot.mpr hp
    have hdigits : indices.map (Nat.toDigits 10) = more.map (Nat.toDigits 10) := by
      simpa [marks, hp, hq] using h
    rw [toDigits_injective.list_map hdigits]

theorem eq_of_display (h : p.display = q.display) : p = q := by
  have hsplit : [] :: p.marks = [] :: q.marks := by
    rw [← splitOn_display, ← splitOn_display, h]
  exact eq_of_marks (List.cons.inj hsplit).2

end Path

/-- Different positions have different texts. Where a document is no plan, all positions with the
text that the error shows therefore lead to the same value, of which the fault is true and which
belongs to the first malformed node. -/
theorem display_unambiguous :
    (∀ p q : Path, p.display = q.display ↔ p = q) ∧
    ∀ (v : Json) (e : ShapeError), Plan.ofJson v = .error e →
      ∃ value, e.fault.Describes value ∧ ∀ p : Path, p.display = e.path.display →
        v.follow p.indices = some value ∧
          ∃ node place, p.indices = node ++ place ∧ v.FirstFault node place e.fault := by
  refine ⟨fun p q => ⟨Path.eq_of_display, fun h => h ▸ rfl⟩, fun v e he => ?_⟩
  obtain ⟨node, place, hpath, hfirst⟩ := Plan.exists_firstFault he
  obtain ⟨value, hvalue, hdescribes⟩ := hfirst.exists_value
  refine ⟨value, hdescribes, fun p hp => ?_⟩
  obtain rfl := Path.eq_of_display hp
  exact ⟨hpath ▸ hvalue, node, place, hpath, hfirst⟩

/-- A fault at the head of the left operand. Its text is not that of the eleventh element of the
document, nor that of the root. -/
theorem display_unambiguous_nested :
    let v := Json.array
      [.string "UNION", .array [.string "NOT", .string "Night", .bool true], .array []]
    let e : ShapeError := ⟨.unknownOperator "NOT", ⟨[1, 0]⟩⟩
    Plan.ofJson v = .error e ∧ (Path.mk [1, 0]).display = "/1/0" ∧ Path.root.display = "/" ∧
      (Path.mk [10]).display ≠ (Path.mk [1, 0]).display ∧
      ∀ p : Path, p.display = "/1/0" → v.follow p.indices = some (.string "NOT") := by
  intro v e
  have he : Plan.ofJson v = .error e := rfl
  have htext : (Path.mk [1, 0]).display = "/1/0" := by decide
  obtain ⟨hsame, herror⟩ := display_unambiguous
  obtain ⟨value, ⟨rfl, -⟩, hvalue⟩ := herror v e he
  refine ⟨he, htext, rfl, mt (hsame _ _).mp (by decide), fun p hp => ?_⟩
  exact (hvalue p (hp.trans htext.symm)).1

end Grounding
