import Grounding.Proofs.OntologyLoading

/-! Two loads of one document under different options. They differ at the names that take the
default period, and there in the period alone. -/

namespace Grounding.Ontology

variable {default? : Option Number} {members : List (String × Json)} {o o' : Ontology}
  {text : String} {p q : Number}

theorem defaulted_of_ofMembers_none (h : ofMembers none members = .ok o) : o.defaulted = [] := by
  induction members generalizing o with
  | nil =>
    obtain rfl := Except.ok.inj h
    rfl
  | cons member rest ih =>
    obtain ⟨entry, tail, hread, hrest, rfl⟩ := ofMembers_cons_eq_ok.mp h
    have hentry : entry.defaulted = false := Entry.not_defaulted_of_read_none hread
    simp [prepend, hentry, ih hrest]

theorem ofMembers_of_no_defaulted (h : ofMembers default? members = .ok o)
    (hnone : o.defaulted = []) (other? : Option Number) : ofMembers other? members = .ok o := by
  induction members generalizing o with
  | nil => exact h
  | cons member rest ih =>
    obtain ⟨entry, tail, hread, hrest, rfl⟩ := ofMembers_cons_eq_ok.mp h
    cases hentry : entry.defaulted with
    | true => simp [prepend, hentry] at hnone
    | false =>
      have htail : tail.defaulted = [] := by simpa [prepend, hentry] using hnone
      exact ofMembers_cons_eq_ok.mpr
        ⟨entry, tail, Entry.read_of_not_defaulted hread hentry other?, ih hrest htail, rfl⟩

/-- Without a default period a load stops at the first name that would take it. -/
theorem ofMembers_none_of_defaulted {n : String} {rest : List String}
    (h : ofMembers (some p) members = .ok o) (hfirst : o.defaulted = n :: rest) :
    ofMembers none members = .error (.missingPeriod n) := by
  induction members generalizing o with
  | nil =>
    obtain rfl := Except.ok.inj h
    cases hfirst
  | cons member members ih =>
    obtain ⟨name, v⟩ := member
    obtain ⟨entry, tail, hread, hrest, rfl⟩ := ofMembers_cons_eq_ok.mp h
    cases hentry : entry.defaulted with
    | true =>
      obtain ⟨rfl, -⟩ : name = n ∧ tail.defaulted = rest := by
        simpa [prepend, hentry] using hfirst
      exact ofMembers_cons_of_error (Entry.read_none_of_defaulted hread hentry)
    | false =>
      have htail : tail.defaulted = n :: rest := by simpa [prepend, hentry] using hfirst
      rw [ofMembers_cons_of_ok (Entry.read_of_not_defaulted hread hentry none), ih hrest htail]
      rfl

/-- Up to the names that take the default period two ontologies say the same, and there they say
`p` and `q` of the same range of a circle. -/
structure DiffersInPeriod (p q : Number) (o o' : Ontology) : Prop where
  names : o.names = o'.names
  defaulted : o.defaulted = o'.defaulted
  lookup : ∀ name ∉ o.defaulted, o.lookup name = o'.lookup name
  lookup_defaulted : ∀ name ∈ o.defaulted, ∃ field min max,
    o.lookup name = .ok (.cyclic field min max p) ∧ o'.lookup name = .ok (.cyclic field min max q)

theorem Holds.mem_defaulted_iff (h : Holds default? members o)
    (hnames : ∀ m ∈ members, m.2.HasDistinctNames) {name : String} {v : Json} {entry : Entry}
    (hmem : (name, v) ∈ members) (hread : Entry.read name default? v = .ok entry) :
    name ∈ o.defaulted ↔ entry.defaulted = true := by
  rw [h.defaulted, Entry.defaulted_of_read (hnames _ hmem) hread]
  constructor
  · intro hname
    obtain ⟨w, hw⟩ := Entries.mem_names_iff.mp hname
    obtain ⟨hmem', hlacks⟩ := List.mem_filter.mp hw
    have hnodup : (Entries.names members).Nodup := h.names ▸ h.nodup
    have hsame := ((Entries.find?_eq_some_iff hnodup).mpr hmem).symm.trans
      ((Entries.find?_eq_some_iff hnodup).mpr hmem')
    rw [Option.some.inj hsame]
    exact hlacks
  · intro hlacks
    exact Entries.mem_names_iff.mpr ⟨v, List.mem_filter.mpr ⟨hmem, hlacks⟩⟩

theorem Holds.differsInPeriod (h : Holds (some p) members o) (h' : Holds (some q) members o')
    (hnames : ∀ m ∈ members, m.2.HasDistinctNames) : DiffersInPeriod p q o o' := by
  refine ⟨h.names.trans h'.names.symm, h.defaulted.trans h'.defaulted.symm, ?_, ?_⟩
  · intro name hname
    by_cases hmem : name ∈ o.names
    · rw [h.names] at hmem
      obtain ⟨v, hv⟩ := Entries.mem_names_iff.mp hmem
      obtain ⟨entry, hread, hlookup⟩ := h.lookup name v hv
      obtain ⟨entry', hread', hlookup'⟩ := h'.lookup name v hv
      have hentry : entry.defaulted = false := by
        rw [← Bool.not_eq_true, ← h.mem_defaulted_iff hnames hv hread]
        exact hname
      have hsame := Entry.read_of_not_defaulted hread hentry (some q)
      obtain rfl := Except.ok.inj (hsame.symm.trans hread')
      exact hlookup.trans hlookup'.symm
    · have hmem' : name ∉ o'.names := by rwa [h'.names, ← h.names]
      exact (h.lookup_other name hmem).trans (h'.lookup_other name hmem').symm
  · intro name hname
    have hmem : name ∈ Entries.names (members.filter fun m => Entry.lacksPeriod m.2) :=
      h.defaulted ▸ hname
    obtain ⟨v, hv⟩ := Entries.mem_names_iff.mp hmem
    have hv := List.mem_of_mem_filter hv
    obtain ⟨entry, hread, hlookup⟩ := h.lookup name v hv
    obtain ⟨entry', hread', hlookup'⟩ := h'.lookup name v hv
    obtain ⟨field, min, max, rfl, rfl⟩ :=
      Entry.cyclic_of_defaulted hread hread' ((h.mem_defaulted_iff hnames hv hread).mp hname)
    exact ⟨field, min, max, hlookup, hlookup'⟩

/-- A load without a default period gives what any default gives, as long as no name takes it. The
loads with two defaults differ in the periods of the names that take them. -/
theorem ofText_default (text : String) (p q : Number) :
    (∀ o, ofText none text = .ok o → ofText (some p) text = .ok o ∧ o.defaulted = []) ∧
    (∀ o, ofText (some p) text = .ok o →
      (o.defaulted = [] → ofText none text = .ok o) ∧
      ∀ n rest, o.defaulted = n :: rest → ofText none text = .error (.missingPeriod n)) ∧
    ∀ o o', ofText (some p) text = .ok o → ofText (some q) text = .ok o' →
      DiffersInPeriod p q o o' := by
  refine ⟨?_, ?_, ?_⟩
  · intro o h
    obtain ⟨members, hspells⟩ := exists_spellsObject_of_ofText h
    rw [ofText_of_spellsObject hspells] at h ⊢
    have hnone : o.defaulted = [] := defaulted_of_ofMembers_none h
    exact ⟨ofMembers_of_no_defaulted h hnone (some p), hnone⟩
  · intro o h
    obtain ⟨members, hspells⟩ := exists_spellsObject_of_ofText h
    rw [ofText_of_spellsObject hspells] at h ⊢
    exact ⟨fun hnone => ofMembers_of_no_defaulted h hnone none,
      fun n rest hfirst => ofMembers_none_of_defaulted h hfirst⟩
  · intro o o' h h'
    obtain ⟨members, hspells⟩ := exists_spellsObject_of_ofText h
    exact (holds_of_ofText hspells h).differsInPeriod (holds_of_ofText hspells h')
      (hasDistinctNames_latest hspells)

/-- A range of months that gives its period, and one of hours that gives none. -/
def winterNight : String :=
  "\x7b\"Winter\":[\"cyclic_range\",\"month\",11,2,null,null,12]," ++
    "\"Night\":[\"cyclic_range\",\"hour\",22,6,null,null,null]\x7d"

def winter : String :=
  "\x7b\"Winter\":[\"cyclic_range\",\"month\",11,2,null,null,12]\x7d"

theorem ofText_default_winterNight :
    (∃ o, ofText none winter = .ok o ∧ ofText (some (.ofInt 24)) winter = .ok o) ∧
    ∃ o o', ofText (some (.ofInt 24)) winterNight = .ok o ∧
      ofText (some (.ofInt 30)) winterNight = .ok o' ∧ o.defaulted = ["Night"] ∧
        DiffersInPeriod (.ofInt 24) (.ofInt 30) o o' ∧
          ofText none winterNight = .error (.missingPeriod "Night") := by
  have hwinter : (ofText none winter).toOption.isSome := by decide +kernel
  have hday : (ofText (some (.ofInt 24)) winterNight).toOption.map (·.defaulted) =
      some ["Night"] := by decide +kernel
  have hlong : (ofText (some (.ofInt 30)) winterNight).toOption.isSome := by decide +kernel
  obtain ⟨strict, hstrict⟩ := Option.isSome_iff_exists.mp hwinter
  obtain ⟨o, ho, hdefaulted⟩ := Option.map_eq_some_iff.mp hday
  obtain ⟨o', ho'⟩ := Option.isSome_iff_exists.mp hlong
  have hstrict := toOption_eq_some.mp hstrict
  have ho := toOption_eq_some.mp ho
  have ho' := toOption_eq_some.mp ho'
  obtain ⟨-, hlenient, hdiffers⟩ := ofText_default winterNight (.ofInt 24) (.ofInt 30)
  exact ⟨⟨strict, hstrict, ((ofText_default winter (.ofInt 24) (.ofInt 30)).1 strict hstrict).1⟩,
    o, o', ho, ho', hdefaulted, hdiffers o o' ho ho', (hlenient o ho).2 "Night" [] hdefaulted⟩

end Grounding.Ontology
