import Grounding.Proofs.WrittenText

/-! Values nested past the limit. The text of such a value is refused where the first part that is
too deep begins, so that a value is read back from its text exactly when it is within the limit. -/

namespace Grounding.Json

section

variable {n : Nat} {v : Json}

theorem fits_array_iff {items : List Json} :
    Fits n (.array items) ↔ 0 < n ∧ ∀ v ∈ items, Fits (n - 1) v := by
  constructor
  · intro h
    cases h with
    | scalar h => exact h.elim
    | array h => exact ⟨Nat.succ_pos _, h⟩
  · rintro ⟨hn, h⟩
    obtain ⟨k, rfl⟩ := Nat.exists_eq_add_one.mpr hn
    exact .array h

theorem fits_object_iff {members : List (String × Json)} (hnames : (Entries.names members).Nodup) :
    Fits n (.object members) ↔ 0 < n ∧ ∀ m ∈ members, Fits (n - 1) m.2 := by
  constructor
  · intro h
    cases h with
    | scalar h => exact h.elim
    | object _ h => exact ⟨Nat.succ_pos _, h⟩
  · rintro ⟨hn, h⟩
    obtain ⟨k, rfl⟩ := Nat.exists_eq_add_one.mpr hn
    exact .object hnames h

theorem exists_item_of_not_fits {items : List Json} (h : ¬ Fits (n + 1) (.array items)) :
    ∃ v ∈ items, ¬ Fits n v := by
  by_contra hall
  push Not at hall
  exact h (.array hall)

theorem exists_member_of_not_fits {members : List (String × Json)}
    (hnames : (Entries.names members).Nodup) (h : ¬ Fits (n + 1) (.object members)) :
    ∃ m ∈ members, ¬ Fits n m.2 := by
  by_contra hall
  push Not at hall
  exact h (.object hnames hall)

end

section

variable {limit k n : Nat} {frames : List Frame} {rest : List Token}

namespace Reader

theorem run_tokens_of_fits {v : Json} (h : Fits k v) (hk : frames.length + k ≤ limit) :
    run limit (value frames) (v.tokens ++ rest) = run limit (complete v frames) rest :=
  run_spells (spells_tokens h) hk

/-- Parts with commas between them are read one by one up to the first one that is too deep. What
has been read of them is all that changes. -/
theorem run_intercalate_of_deep {α σ : Type} (reading : σ → Reader) (next : α → σ → σ)
    {part : α → List Token} {deep : α → Prop} {parts : List α} {done : σ}
    (hread : ∀ a ∈ parts, ¬ deep a → ∀ done rest,
      run limit (reading done) (part a ++ .comma :: rest) = run limit (reading (next a done)) rest)
    (hdeep : ∀ a ∈ parts, deep a → ∀ done rest,
      run limit (reading done) (part a ++ rest) = .error .tooDeep)
    (h : ∃ a ∈ parts, deep a) :
    run limit (reading done) ([Token.comma].intercalate (parts.map part) ++ rest) =
      .error .tooDeep := by
  induction parts generalizing done with
  | nil => simp at h
  | cons a parts ih =>
    by_cases ha : deep a
    · obtain ⟨us, hus⟩ := exists_intercalate_cons (part a) (parts.map part)
      rw [List.map_cons, hus, List.append_assoc]
      exact hdeep a List.mem_cons_self ha done (us ++ rest)
    · obtain ⟨b, hb, hdeepb⟩ := h
      have hlater : b ∈ parts := (List.mem_cons.mp hb).resolve_left fun heq => ha (heq ▸ hdeepb)
      obtain ⟨first, more, rfl⟩ := List.exists_cons_of_ne_nil (List.ne_nil_of_mem hlater)
      rw [List.map_cons, List.map_cons, List.intercalate_cons_cons, ← List.map_cons,
        List.append_assoc, List.append_assoc, List.singleton_append,
        hread a List.mem_cons_self ha]
      exact ih (fun b hb => hread b (List.mem_cons_of_mem a hb))
        (fun b hb => hdeep b (List.mem_cons_of_mem a hb)) ⟨b, hlater, hdeepb⟩

theorem run_items_of_not_fits {items : List Json} {done : List Json}
    (hk : frames.length + 1 + k = limit)
    (hdeep : ∀ v ∈ items, ¬ Fits k v → ∀ done rest,
      run limit (value (.array done :: frames)) (v.tokens ++ rest) = .error .tooDeep)
    (h : ∃ v ∈ items, ¬ Fits k v) :
    run limit (value (.array done :: frames))
      ([Token.comma].intercalate (items.map tokens) ++ rest) = .error .tooDeep := by
  refine run_intercalate_of_deep (fun done => value (.array done :: frames)) List.cons
    (fun v _ hv done rest => ?_) hdeep h
  exact run_tokens_of_fits (not_not.mp hv) (by rw [List.length_cons]; omega)

theorem run_members_of_not_fits {members : List (String × Json)} {done : List (String × Json)}
    (hk : frames.length + 1 + k = limit)
    (hdeep : ∀ m ∈ members, ¬ Fits k m.2 → ∀ done rest,
      run limit (value (.object done m.1 :: frames)) (m.2.tokens ++ rest) = .error .tooDeep)
    (h : ∃ m ∈ members, ¬ Fits k m.2) :
    run limit (nextName done frames)
      ([Token.comma].intercalate ((members.map memberSpelling).map memberTokens) ++ rest) =
        .error .tooDeep := by
  rw [List.map_map]
  refine run_intercalate_of_deep (fun done => nextName done frames)
    (fun m done => Entries.assign m.1 m.2 done) (fun m _ hm done rest => ?_) hdeep h
  exact run_tokens_of_fits (not_not.mp hm) (by rw [List.length_cons]; omega)

/-- A value whose names are distinct is refused when it nests deeper than what is left of the
limit. -/
theorem run_tokens_of_not_fits {v : Json} (h : Fits n v) (hk : frames.length + k = limit)
    (hdeep : ¬ Fits k v) :
    run limit (value frames) (v.tokens ++ rest) = .error .tooDeep := by
  induction h generalizing k frames rest with
  | scalar h => exact absurd (.scalar h) hdeep
  | string s => exact absurd (.string s) hdeep
  | @array n items hitems ih =>
    rw [tokens_array, List.cons_append, List.append_assoc, run, step, start]
    cases k with
    | zero => rw [if_neg (by omega)]
    | succ k =>
      have hex := exists_item_of_not_fits hdeep
      obtain ⟨deep, hmem, -⟩ := id hex
      obtain ⟨first, more, rfl⟩ := List.exists_cons_of_ne_nil (List.ne_nil_of_mem hmem)
      have hfirst : Spells n first.spelling.tokens first.spelling.value :=
        spells_tokens (hitems first (by simp))
      have htokens : ((first :: more).map spelling).map Spelling.tokens =
          (first :: more).map tokens := by
        rw [List.map_map]
        rfl
      rw [if_pos (by omega)]
      refine (run_firstItem hfirst).trans ?_
      rw [← List.map_cons, htokens]
      refine run_items_of_not_fits (by omega) (fun v hv hnot done rest => ?_) hex
      exact ih v hv (by rw [List.length_cons]; omega) hnot
  | @object n members hnames hmembers ih =>
    rw [tokens_object, List.cons_append, List.append_assoc, run, step, start]
    cases k with
    | zero => rw [if_neg (by omega)]
    | succ k =>
      have hex := exists_member_of_not_fits hnames hdeep
      obtain ⟨deep, hmem, -⟩ := id hex
      obtain ⟨first, more, rfl⟩ := List.exists_cons_of_ne_nil (List.ne_nil_of_mem hmem)
      rw [if_pos (by omega)]
      refine run_firstName.trans ?_
      rw [← List.map_cons]
      refine run_members_of_not_fits (by omega) (fun m hm hnot done rest => ?_) hex
      exact ih m hm (by rw [List.length_cons]; omega) hnot

end Reader

/-- The text of a value past the limit is refused for its nesting. -/
theorem read_write_of_not_fits {v : Json} (h : Fits n v) (hdeep : ¬ Fits limit v)
    (hback : v.NumbersReadBack) (style : Style) :
    read limit (v.write style) = .error .tooDeep := by
  have hrun : Reader.run limit (.value []) (v.tokens ++ []) = .error .tooDeep :=
    Reader.run_tokens_of_not_fits h (by simp) hdeep
  rw [List.append_nil] at hrun
  rw [read, all_write hback]
  simp only [ofTokens, hrun]

end

end Grounding.Json
