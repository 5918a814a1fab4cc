import Grounding.Entries
import Mathlib.Data.List.Basic
import Mathlib.Data.List.Induction

/-! Which entries a list of named entries has after names have been assigned: each name once, at the
place where it came first and with the value that came last. -/

namespace Grounding.Entries

variable {α : Type}

/-- Of a list that has everything under its name, what a name finds is what has that name. -/
theorem find?_beq_eq_some_iff {name : α → String} {xs : List α}
    (hall : ∀ x, xs.find? (fun y => name y == name x) = some x) {text : String} {x : α} :
    xs.find? (fun y => name y == text) = some x ↔ text = name x := by
  constructor
  · intro h
    have hname := List.find?_some h
    exact (beq_iff_eq.mp hname).symm
  · rintro rfl
    exact hall x

theorem mem_names_iff {name : String} {entries : List (String × α)} :
    name ∈ names entries ↔ ∃ v, (name, v) ∈ entries := by
  constructor
  · intro h
    obtain ⟨⟨n, v⟩, hmem, rfl⟩ := List.mem_map.mp h
    exact ⟨v, hmem⟩
  · rintro ⟨v, hmem⟩
    exact List.mem_map.mpr ⟨(name, v), hmem, rfl⟩

theorem mem_of_find? {name : String} {v : α} {entries : List (String × α)}
    (h : find? name entries = some v) : (name, v) ∈ entries := by
  induction entries with
  | nil => cases h
  | cons entry rest ih =>
    obtain ⟨n, w⟩ := entry
    simp only [find?] at h
    split at h
    · rename_i hn
      obtain rfl := Option.some.inj h
      simp [hn]
    · exact List.mem_cons_of_mem _ (ih h)

theorem mem_assign {name n : String} {v w : α} {entries : List (String × α)}
    (h : (n, w) ∈ assign name v entries) : (n, w) = (name, v) ∨ (n, w) ∈ entries := by
  induction entries with
  | nil => simpa [assign] using h
  | cons entry rest ih =>
    obtain ⟨m, u⟩ := entry
    simp only [assign] at h
    split at h
    · rename_i hm
      rcases List.mem_cons.mp h with h | h
      · exact Or.inl (by rw [h, hm])
      · exact Or.inr (List.mem_cons_of_mem _ h)
    · rcases List.mem_cons.mp h with h | h
      · exact Or.inr (by simp [h])
      · exact (ih h).imp_right (List.mem_cons_of_mem _)

theorem mem_of_mem_foldl_assign {n : String} {w : α} {entries done : List (String × α)}
    (h : (n, w) ∈ entries.foldl (fun done entry => assign entry.1 entry.2 done) done) :
    (n, w) ∈ done ∨ (n, w) ∈ entries := by
  induction entries generalizing done with
  | nil => exact Or.inl h
  | cons entry rest ih =>
    rcases ih h with h | h
    · rcases mem_assign h with h | h
      · exact Or.inr (by simp [h])
      · exact Or.inl h
    · exact Or.inr (List.mem_cons_of_mem _ h)

theorem mem_of_mem_ofList {entry : String × α} {entries : List (String × α)}
    (h : entry ∈ ofList entries) : entry ∈ entries :=
  (mem_of_mem_foldl_assign h).resolve_left (by simp)

theorem find?_assign (n name : String) (v : α) (entries : List (String × α)) :
    find? n (assign name v entries) = if name = n then some v else find? n entries := by
  induction entries with
  | nil => rfl
  | cons entry rest ih =>
    obtain ⟨m, w⟩ := entry
    by_cases hm : m = name
    · rw [assign, if_pos hm, find?, find?, hm]
      by_cases hn : name = n
      · rw [if_pos hn, if_pos hn]
      · rw [if_neg hn, if_neg hn, if_neg hn]
    · rw [assign, if_neg hm, find?, find?, ih]
      by_cases hn : m = n
      · rw [if_pos hn, if_neg (fun h => hm (hn.trans h.symm)), if_pos hn]
      · rw [if_neg hn, if_neg hn]

theorem names_assign (name : String) (v : α) (entries : List (String × α)) :
    names (assign name v entries) =
      if name ∈ names entries then names entries else names entries ++ [name] := by
  induction entries with
  | nil => rfl
  | cons entry rest ih =>
    obtain ⟨m, w⟩ := entry
    by_cases hm : m = name
    · rw [assign, if_pos hm, if_pos (by simp [names, hm])]
      rfl
    · have hne : ¬ name = m := fun h => hm h.symm
      have hmem : name ∈ names ((m, w) :: rest) ↔ name ∈ names rest := by
        simp [names, hne]
      rw [assign, if_neg hm]
      change m :: names (assign name v rest) = _
      rw [ih]
      by_cases hr : name ∈ names rest
      · rw [if_pos hr, if_pos (hmem.mpr hr)]
        rfl
      · rw [if_neg hr, if_neg fun h => hr (hmem.mp h)]
        rfl

theorem nodup_names_assign {name : String} {v : α} {entries : List (String × α)}
    (h : (names entries).Nodup) : (names (assign name v entries)).Nodup := by
  rw [names_assign]
  split
  · exact h
  · rename_i hmem
    exact List.nodup_append.mpr ⟨h, by simp, by grind⟩

theorem ofList_concat (entries : List (String × α)) (name : String) (v : α) :
    ofList (entries ++ [(name, v)]) = assign name v (ofList entries) := by
  simp [ofList]

theorem nodup_names_ofList (entries : List (String × α)) : (names (ofList entries)).Nodup := by
  induction entries using List.reverseRecOn with
  | nil => exact List.nodup_nil
  | append_singleton entries entry ih =>
    rw [ofList_concat]
    exact nodup_names_assign ih

theorem names_ofList (entries : List (String × α)) :
    names (ofList entries) = (names entries).eraseDups := by
  induction entries using List.reverseRecOn with
  | nil => rfl
  | append_singleton entries entry ih =>
    have hnames : names (entries ++ [entry]) = names entries ++ [entry.1] := by simp [names]
    rw [ofList_concat, names_assign, ih, hnames, List.eraseDups_append]
    by_cases hmem : entry.1 ∈ names entries
    · simp [hmem, List.removeAll]
    · simp [hmem, List.removeAll, List.eraseDups_cons]

theorem find?_ofList (n : String) (entries : List (String × α)) :
    find? n (ofList entries) = find? n entries.reverse := by
  induction entries using List.reverseRecOn with
  | nil => rfl
  | append_singleton entries entry ih =>
    rw [ofList_concat, find?_assign, ih, List.reverse_append]
    rfl

theorem find?_eq_lookup (name : String) (entries : List (String × α)) :
    find? name entries = entries.lookup name := by
  induction entries with
  | nil => rfl
  | cons entry rest ih =>
    obtain ⟨n, v⟩ := entry
    by_cases hn : n = name
    · simp [find?, hn]
    · have hne : (name == n) = false := by simpa using fun h => hn h.symm
      simp [find?, List.lookup_cons, hn, hne, ih]

theorem find?_eq_none_iff {name : String} {entries : List (String × α)} :
    find? name entries = none ↔ name ∉ names entries := by
  induction entries with
  | nil => simp [find?, names]
  | cons entry rest ih =>
    obtain ⟨n, w⟩ := entry
    by_cases hn : n = name
    · simp [find?, names, hn]
    · have hne : ¬ name = n := fun h => hn h.symm
      simpa [find?, names, hn, hne] using ih

theorem find?_eq_some_iff {name : String} {v : α} {entries : List (String × α)}
    (h : (names entries).Nodup) : find? name entries = some v ↔ (name, v) ∈ entries := by
  refine ⟨mem_of_find?, fun hmem => ?_⟩
  induction entries with
  | nil => cases hmem
  | cons entry rest ih =>
    obtain ⟨n, w⟩ := entry
    obtain ⟨hfresh, hrest⟩ := List.nodup_cons.mp h
    rcases List.mem_cons.mp hmem with heq | hmem
    · obtain ⟨rfl, rfl⟩ := Prod.mk.inj heq
      rw [find?, if_pos rfl]
    · have hne : n ≠ name := by
        rintro rfl
        exact hfresh (mem_names_iff.mpr ⟨v, hmem⟩)
      rw [find?, if_neg hne]
      exact ih hrest hmem

/-- Entries with distinct names are determined by their names and by what is found under them. -/
theorem eq_filterMap_names {entries : List (String × α)} (h : (names entries).Nodup) :
    entries = (names entries).filterMap fun name => (find? name entries).map fun v => (name, v) := by
  have hsome : ∀ entry ∈ entries,
      (find? entry.1 entries).map (fun v => (entry.1, v)) = some entry := fun entry hentry => by
    rw [(find?_eq_some_iff h).mpr hentry]
    rfl
  rw [names, List.filterMap_map]
  exact ((List.filterMap_congr hsome).trans List.filterMap_some).symm

/-- The entries that count: each name once, where it comes first, with the value it has last. -/
def latest (entries : List (String × α)) : List (String × α) :=
  (names entries).eraseDups.filterMap fun name =>
    (find? name entries.reverse).map fun v => (name, v)

theorem ofList_eq_latest (entries : List (String × α)) : ofList entries = latest entries := by
  rw [eq_filterMap_names (nodup_names_ofList entries)]
  simp only [find?_ofList, names_ofList, latest]

theorem assign_of_not_mem {name : String} {v : α} {entries : List (String × α)}
    (h : name ∉ names entries) : assign name v entries = entries ++ [(name, v)] := by
  induction entries with
  | nil => rfl
  | cons entry rest ih =>
    obtain ⟨n, w⟩ := entry
    have hne : n ≠ name := fun heq => h (by simp [names, heq])
    have hrest : name ∉ names rest := fun hmem => h (List.mem_cons_of_mem _ hmem)
    rw [assign, if_neg hne, ih hrest, List.cons_append]

theorem foldl_assign_of_nodup {entries done : List (String × α)}
    (h : (names (done ++ entries)).Nodup) :
    entries.foldl (fun done entry => assign entry.1 entry.2 done) done = done ++ entries := by
  induction entries generalizing done with
  | nil => simp
  | cons entry rest ih =>
    obtain ⟨name, v⟩ := entry
    have hfresh : name ∉ names done := fun hmem => by
      rw [names, List.map_append] at h
      exact (List.nodup_append.mp h).2.2 name hmem name (by simp) rfl
    have hnext : done ++ [(name, v)] ++ rest = done ++ (name, v) :: rest := by simp
    rw [List.foldl_cons, assign_of_not_mem hfresh, ih (by rwa [hnext]), hnext]

theorem ofList_eq_self {entries : List (String × α)} (h : (names entries).Nodup) :
    ofList entries = entries :=
  foldl_assign_of_nodup h

theorem latest_eq_self {entries : List (String × α)} (h : (names entries).Nodup) :
    latest entries = entries := by
  rw [← ofList_eq_latest, ofList_eq_self h]

theorem mem_of_mem_latest {entry : String × α} {entries : List (String × α)}
    (h : entry ∈ latest entries) : entry ∈ entries := by
  rw [← ofList_eq_latest] at h
  exact mem_of_mem_ofList h

section

variable {β : Type} (f : α → β)

theorem assign_map (name : String) (v : α) (entries : List (String × α)) :
    assign name (f v) (entries.map (Prod.map id f)) =
      (assign name v entries).map (Prod.map id f) := by
  induction entries with
  | nil => rfl
  | cons entry rest ih =>
    obtain ⟨n, w⟩ := entry
    by_cases hn : n = name
    · simp [assign, hn]
    · simp [assign, hn, ih]

/-- Which entries count does not depend on their values. -/
theorem latest_map (entries : List (String × α)) :
    latest (entries.map (Prod.map id f)) = (latest entries).map (Prod.map id f) := by
  rw [← ofList_eq_latest, ← ofList_eq_latest]
  induction entries using List.reverseRecOn with
  | nil => rfl
  | append_singleton entries entry ih =>
    obtain ⟨name, v⟩ := entry
    rw [List.map_append, List.map_singleton, Prod.map_apply, id_eq, ofList_concat, ofList_concat,
      ih, assign_map]

end

end Grounding.Entries
