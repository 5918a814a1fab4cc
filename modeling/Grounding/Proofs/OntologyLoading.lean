import Grounding.Proofs.EntryPeriod
import Grounding.Proofs.TokenGrammar
import Mathlib.Data.List.Forall2

/-! Loading an ontology. The members that count are read one after the other: the first one that
cannot be read ends the load with its error, and otherwise each of them is in the ontology. -/

namespace Grounding

theorem Json.SpellsObject.hasDistinctNames {limit : Nat} {text : String}
    {members : List (String × Json)} (h : SpellsObject limit text members) {name : String} {v : Json}
    (hmem : (name, v) ∈ members) : v.HasDistinctNames := by
  cases v with
  | object => exact h.nodup_names hmem
  | _ => trivial

namespace Ontology

variable {default? : Option Number} {members : List (String × Json)} {o : Ontology}

/-- The ontology with one entry more in front. -/
def prepend (name : String) (entry : Entry) (o : Ontology) : Ontology :=
  ⟨(name, entry.concept) :: o.entries, if entry.defaulted then name :: o.defaulted else o.defaulted⟩

section

variable {name : String} {v : Json} {entry : Entry} {e : OntologyError}

theorem ofMembers_cons_of_ok (h : Entry.read name default? v = .ok entry) :
    ofMembers default? ((name, v) :: members) =
      (ofMembers default? members).map (prepend name entry) := by
  simp only [ofMembers, h, bind, Except.bind]
  cases ofMembers default? members <;> rfl

theorem ofMembers_cons_of_error (h : Entry.read name default? v = .error e) :
    ofMembers default? ((name, v) :: members) = .error e := by
  simp only [ofMembers, h, bind, Except.bind]

theorem ofMembers_cons_eq_ok :
    ofMembers default? ((name, v) :: members) = .ok o ↔ ∃ entry tail,
      Entry.read name default? v = .ok entry ∧ ofMembers default? members = .ok tail ∧
        o = tail.prepend name entry := by
  constructor
  · intro h
    obtain ⟨entry, hread, h⟩ := bind_eq_ok.mp h
    obtain ⟨tail, hrest, h⟩ := bind_eq_ok.mp h
    exact ⟨entry, tail, hread, hrest, (Except.ok.inj h).symm⟩
  · rintro ⟨entry, tail, hread, hrest, rfl⟩
    rw [ofMembers_cons_of_ok hread, hrest]
    rfl

end

theorem exists_ofMembers_iff :
    (∃ o, ofMembers default? members = .ok o) ↔
      ∀ m ∈ members, ∃ entry, Entry.read m.1 default? m.2 = .ok entry := by
  induction members with
  | nil => simp [ofMembers]
  | cons member rest ih =>
    obtain ⟨name, v⟩ := member
    rw [List.forall_mem_cons, ← ih]
    constructor
    · rintro ⟨o, h⟩
      obtain ⟨entry, tail, hread, hrest, -⟩ := ofMembers_cons_eq_ok.mp h
      exact ⟨⟨entry, hread⟩, ⟨tail, hrest⟩⟩
    · rintro ⟨⟨entry, hread⟩, ⟨tail, hrest⟩⟩
      exact ⟨_, ofMembers_cons_eq_ok.mpr ⟨entry, tail, hread, hrest, rfl⟩⟩

theorem ofMembers_eq_error {before after : List (String × Json)} {name : String} {v : Json}
    {e : OntologyError}
    (hbefore : ∀ m ∈ before, ∃ entry, Entry.read m.1 default? m.2 = .ok entry)
    (h : Entry.read name default? v = .error e) :
    ofMembers default? (before ++ (name, v) :: after) = .error e := by
  induction before with
  | nil => exact ofMembers_cons_of_error h
  | cons m before ih =>
    obtain ⟨⟨entry, hread⟩, hrest⟩ := List.forall_mem_cons.mp hbefore
    rw [List.cons_append, ofMembers_cons_of_ok hread, ih hrest]
    rfl

theorem exists_first_error {e : OntologyError} (h : ofMembers default? members = .error e) :
    ∃ before name v after, members = before ++ (name, v) :: after ∧
      (∀ m ∈ before, ∃ entry, Entry.read m.1 default? m.2 = .ok entry) ∧
        Entry.read name default? v = .error e := by
  induction members with
  | nil => cases h
  | cons member rest ih =>
    obtain ⟨name, v⟩ := member
    cases hread : Entry.read name default? v with
    | error f =>
      rw [ofMembers_cons_of_error hread] at h
      obtain rfl := Except.error.inj h
      exact ⟨[], name, v, rest, rfl, by simp, hread⟩
    | ok entry =>
      rw [ofMembers_cons_of_ok hread] at h
      cases hrest : ofMembers default? rest with
      | ok tail =>
        rw [hrest] at h
        cases h
      | error f =>
        rw [hrest] at h
        obtain rfl := Except.error.inj h
        obtain ⟨before, n, w, after, rfl, hbefore, hw⟩ := ih hrest
        exact ⟨(name, v) :: before, n, w, after, rfl,
          List.forall_mem_cons.mpr ⟨⟨entry, hread⟩, hbefore⟩, hw⟩

/-- The entry is the concept of the member under its name. -/
def IsEntryOf (default? : Option Number) (m : String × Json) (e : String × Concept) : Prop :=
  ∃ entry, Entry.read m.1 default? m.2 = .ok entry ∧ e = (m.1, entry.concept)

theorem forall₂_of_ofMembers (h : ofMembers default? members = .ok o) :
    List.Forall₂ (IsEntryOf default?) members o.entries := by
  induction members generalizing o with
  | nil =>
    obtain rfl := Except.ok.inj h
    exact .nil
  | cons member rest ih =>
    obtain ⟨entry, tail, hread, hrest, rfl⟩ := ofMembers_cons_eq_ok.mp h
    exact .cons ⟨entry, hread, rfl⟩ (ih hrest)

theorem mem_entries_of_ofMembers (h : ofMembers default? members = .ok o) {name : String} {v : Json}
    (hmem : (name, v) ∈ members) :
    ∃ entry, Entry.read name default? v = .ok entry ∧ (name, entry.concept) ∈ o.entries := by
  induction members generalizing o with
  | nil => cases hmem
  | cons member rest ih =>
    obtain ⟨entry, tail, hread, hrest, rfl⟩ := ofMembers_cons_eq_ok.mp h
    rcases List.mem_cons.mp hmem with rfl | hmem
    · exact ⟨entry, hread, List.mem_cons_self⟩
    · obtain ⟨entry', hread', hmem'⟩ := ih hrest hmem
      exact ⟨entry', hread', List.mem_cons_of_mem _ hmem'⟩

theorem names_of_ofMembers (h : ofMembers default? members = .ok o) :
    o.names = Entries.names members := by
  induction members generalizing o with
  | nil =>
    obtain rfl := Except.ok.inj h
    rfl
  | cons member rest ih =>
    obtain ⟨entry, tail, -, hrest, rfl⟩ := ofMembers_cons_eq_ok.mp h
    exact congrArg (member.1 :: ·) (ih hrest)

theorem defaulted_of_ofMembers (hnames : ∀ m ∈ members, m.2.HasDistinctNames)
    (h : ofMembers default? members = .ok o) :
    o.defaulted = Entries.names (members.filter fun m => Entry.lacksPeriod m.2) := by
  induction members generalizing o with
  | nil =>
    obtain rfl := Except.ok.inj h
    rfl
  | cons member rest ih =>
    obtain ⟨hmember, hrest⟩ := List.forall_mem_cons.mp hnames
    obtain ⟨entry, tail, hread, hload, rfl⟩ := ofMembers_cons_eq_ok.mp h
    have htail := ih hrest hload
    rw [prepend, Entry.defaulted_of_read hmember hread, htail]
    cases hlacks : Entry.lacksPeriod member.2 <;> simp [hlacks, Entries.names]

/-- The ontology is made of these members, and every query answers accordingly. -/
structure Holds (default? : Option Number) (members : List (String × Json)) (o : Ontology) :
    Prop where
  names : o.names = Entries.names members
  nodup : o.names.Nodup
  entries : List.Forall₂ (IsEntryOf default?) members o.entries
  lookup : ∀ name v, (name, v) ∈ members →
    ∃ entry, Entry.read name default? v = .ok entry ∧ o.lookup name = .ok entry.concept
  lookup_other : ∀ name ∉ o.names, o.lookup name = .error (.unknownConcept name)
  contains : ∀ name, o.contains name = true ↔ name ∈ o.names
  size : o.size = members.length
  isEmpty : o.isEmpty = true ↔ members = []
  vocabulary : ∀ separator, o.vocabulary separator = separator.intercalate (Entries.names members)
  defaulted : o.defaulted = Entries.names (members.filter fun m => Entry.lacksPeriod m.2)

theorem lookup_eq_error {name : String} (h : name ∉ o.names) :
    o.lookup name = .error (.unknownConcept name) := by
  unfold lookup
  rw [Entries.find?_eq_none_iff.mpr h]

theorem contains_iff {name : String} : o.contains name = true ↔ name ∈ o.names := by
  unfold contains
  rw [Option.isSome_iff_ne_none, ne_eq, Entries.find?_eq_none_iff, not_not]
  rfl

theorem holds_of_ofMembers (hdistinct : (Entries.names members).Nodup)
    (hnames : ∀ m ∈ members, m.2.HasDistinctNames) (h : ofMembers default? members = .ok o) :
    Holds default? members o := by
  have hentries := forall₂_of_ofMembers h
  have hname := names_of_ofMembers h
  have hnodup : o.names.Nodup := by rwa [hname]
  refine ⟨hname, hnodup, hentries, ?_, fun _ => lookup_eq_error, fun _ => contains_iff,
    hentries.length_eq.symm, ?_, fun separator => congrArg separator.intercalate hname,
    defaulted_of_ofMembers hnames h⟩
  · intro name v hmem
    obtain ⟨entry, hread, hentry⟩ := mem_entries_of_ofMembers h hmem
    exact ⟨entry, hread, lookup_eq_ok_iff.mpr ((Entries.find?_eq_some_iff hnodup).mpr hentry)⟩
  · rw [isEmpty, List.isEmpty_iff_length_eq_zero, ← hentries.length_eq, List.length_eq_zero_iff]

section

variable {text : String}

theorem ofText_of_spellsObject (h : Json.SpellsObject Json.deepestNesting text members) :
    ofText default? text = ofMembers default? (Entries.latest members) := by
  have hread := Json.read_eq_object_iff.mpr ⟨members, h, rfl⟩
  have hsettled : Entries.ofList (Entries.ofList members) = Entries.ofList members :=
    Entries.ofList_eq_self (Entries.nodup_names_ofList members)
  rw [ofText, hread, ← Entries.ofList_eq_latest]
  change ofMembers default? (Entries.ofList (Entries.ofList members)) = _
  rw [hsettled]

theorem exists_spellsObject_of_ofText (h : ofText default? text = .ok o) :
    ∃ members, Json.SpellsObject Json.deepestNesting text members := by
  unfold ofText at h
  split at h
  · rename_i v hread
    cases v with
    | object entries =>
      obtain ⟨members, hspells, -⟩ := Json.read_eq_object_iff.mp hread
      exact ⟨members, hspells⟩
    | _ => cases h
  · cases h

theorem nodup_names_latest (members : List (String × Json)) :
    (Entries.names (Entries.latest members)).Nodup := by
  rw [← Entries.ofList_eq_latest]
  exact Entries.nodup_names_ofList members

theorem hasDistinctNames_latest (h : Json.SpellsObject Json.deepestNesting text members) :
    ∀ m ∈ Entries.latest members, m.2.HasDistinctNames := by
  intro m hm
  rw [← Entries.ofList_eq_latest] at hm
  exact h.hasDistinctNames (Entries.mem_of_mem_ofList hm)

theorem holds_of_ofText (h : Json.SpellsObject Json.deepestNesting text members)
    (ho : ofText default? text = .ok o) : Holds default? (Entries.latest members) o := by
  rw [ofText_of_spellsObject h] at ho
  exact holds_of_ofMembers (nodup_names_latest members) (hasDistinctNames_latest h) ho

/-- The load of a document depends on its latest members alone. It succeeds when all of them can be
read, and then the ontology holds them; otherwise it fails with the error of the first bad one. -/
theorem ofText_latest (h : Json.SpellsObject Json.deepestNesting text members) :
    ((∃ o, ofText default? text = .ok o) ↔
      ∀ m ∈ Entries.latest members, ∃ entry, Entry.read m.1 default? m.2 = .ok entry) ∧
    (∀ o, ofText default? text = .ok o → Holds default? (Entries.latest members) o) ∧
    (∀ e, ofText default? text = .error e ↔ ∃ before name v after,
      Entries.latest members = before ++ (name, v) :: after ∧
        (∀ m ∈ before, ∃ entry, Entry.read m.1 default? m.2 = .ok entry) ∧
          Entry.read name default? v = .error e) ∧
    ∀ other others, Json.SpellsObject Json.deepestNesting other others →
      Entries.latest others = Entries.latest members →
        ofText default? other = ofText default? text := by
  have hload : ofText default? text = ofMembers default? (Entries.latest members) :=
    ofText_of_spellsObject h
  refine ⟨?_, fun o ho => holds_of_ofText h ho, ?_, ?_⟩
  · rw [hload]
    exact exists_ofMembers_iff
  · intro e
    rw [hload]
    constructor
    · exact exists_first_error
    · rintro ⟨before, name, v, after, hsplit, hbefore, hread⟩
      rw [hsplit]
      exact ofMembers_eq_error hbefore hread
  · intro other others hother hsame
    rw [ofText_of_spellsObject hother, hload, hsame]

/-- A document that names a concept twice, the first time without an entry. -/
def repeatedName : String :=
  "\x7b\"a\":null,\"a\":[\"categorical\",\"f\",null,null,null,[],null]\x7d"

def repeatedEntry : Json :=
  .array [.string "categorical", .string "f", .null, .null, .null, .array [], .null]

theorem spellsObject_repeatedName :
    Json.SpellsObject Json.deepestNesting repeatedName [("a", .null), ("a", repeatedEntry)] := by
  let null : Json.Spelling := ⟨[.scalar .null], .null⟩
  let text (s : String) : Json.Spelling := ⟨[.string s], .string s⟩
  let items : List Json.Spelling :=
    [text "categorical", text "f", null, null, null, ⟨[.openArray, .closeArray], .array []⟩, null]
  let parts : List (String × Json.Spelling) :=
    [("a", null), ("a", ⟨.openArray :: ([.comma].intercalate (items.map Json.Spelling.tokens) ++
      [.closeArray]), .array (items.map Json.Spelling.value)⟩)]
  have hnull (n : Nat) : Json.Spells n null.tokens null.value := .scalar trivial
  have htext (n : Nat) (s : String) : Json.Spells n (text s).tokens (text s).value := .string s
  have hempty (n : Nat) : Json.Spells (n + 1) [.openArray, .closeArray] (.array []) :=
    @Json.Spells.array n [] (by simp)
  refine ⟨126, parts, rfl, rfl, ?_, ?_⟩
  · simp only [parts, List.forall_mem_cons]
    refine ⟨hnull 126, .array ?_, by simp⟩
    simp only [items, List.forall_mem_cons]
    exact ⟨htext _ _, htext _ _, hnull _, hnull _, hnull _, hempty _, hnull _, by simp⟩
  · have hchars : ((Json.Token.openObject :: ([.comma].intercalate (parts.map Json.memberTokens) ++
        [.closeObject])).mapM Json.Token.chars?).map List.flatten = some repeatedName.toList := by
      decide +kernel
    obtain ⟨written, hwritten, hflatten⟩ := Option.map_eq_some_iff.mp hchars
    rw [← hflatten]
    exact Json.Token.all_flatten_of_chars? hwritten

theorem ofText_latest_repeatedName :
    Json.SpellsObject Json.deepestNesting repeatedName [("a", .null), ("a", repeatedEntry)] ∧
      ∃ o, ofText none repeatedName = .ok o ∧ Holds none [("a", repeatedEntry)] o := by
  have hloads : (ofText none repeatedName).toOption.isSome := by decide +kernel
  obtain ⟨o, ho⟩ := Option.isSome_iff_exists.mp hloads
  have ho := toOption_eq_some.mp ho
  exact ⟨spellsObject_repeatedName, o, ho, (ofText_latest spellsObject_repeatedName).2.1 o ho⟩

end

end Ontology

end Grounding
