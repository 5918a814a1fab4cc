import Grounding.Output.Format
import Grounding.Proofs.EntryDocument
import Grounding.Proofs.OntologyLoading

/-! Ontologies as documents. A document that gives concepts by their names loads to the ontology
that the concepts make, and the listing of an ontology gives its concepts in this way. This holds of
every text that spells the document; the text that is written for it is one if the numbers in it are
read back. -/

namespace Grounding

/-- The document of each concept under its name. -/
def documents (concepts : List (String × Concept)) : List (String × Json) :=
  concepts.map (Prod.map id Concept.toJson)

/-- The members with the names and concepts of a listing. -/
def Json.listed? : Json → Option (List (String × Json))
  | .array items => items.mapM fun item =>
    match item.member? "name", item.member? "concept" with
    | some (.string name), some v => some (name, v)
    | _, _ => none
  | _ => none

namespace Ontology

variable {default? : Option Number} {concepts : List (String × Concept)} {text : String}
  {o : Ontology}

theorem ofMembers_documents (h : ∀ entry ∈ concepts, entry.2.HasEntry) :
    ofMembers default? (documents concepts) =
      (concepts.forM fun entry => entry.2.validate entry.1).map fun _ => ⟨concepts, []⟩ := by
  induction concepts with
  | nil => rfl
  | cons entry rest ih =>
    obtain ⟨name, c⟩ := entry
    obtain ⟨hentry, hrest⟩ := List.forall_mem_cons.mp h
    have hread : Entry.read name default? c.toJson =
        (c.validate name).map fun _ => ⟨c, false⟩ := Entry.read_toJson hentry
    rw [List.forM]
    cases hvalid : c.validate name with
    | error e =>
      rw [hvalid] at hread
      exact ofMembers_cons_of_error hread
    | ok =>
      rw [hvalid] at hread
      refine (ofMembers_cons_of_ok hread).trans ?_
      change (ofMembers default? (documents rest)).map _ = _
      rw [ih hrest]
      cases rest.forM fun entry => entry.2.validate entry.1 <;> rfl

theorem ofText_of_spells_documents (h : ∀ entry ∈ concepts, entry.2.HasEntry)
    (htext : Json.SpellsObject Json.deepestNesting text (documents concepts)) :
    ofText default? text = ((Entries.latest concepts).forM fun entry => entry.2.validate entry.1).map
      fun _ => ⟨Entries.latest concepts, []⟩ := by
  rw [ofText_of_spellsObject htext, documents, Entries.latest_map]
  exact ofMembers_documents fun entry hentry => h entry (Entries.mem_of_mem_latest hentry)

/-- The document is written in full if its numbers are read back. -/
theorem spellsObject_documents (h : ∀ entry ∈ concepts, entry.2.HasEntry)
    (hback : (Json.object (documents concepts)).NumbersReadBack) (style : Json.Style) :
    Json.SpellsObject Json.deepestNesting ((Json.object (documents concepts)).write style)
      (documents concepts) :=
  Json.spellsObject_write (List.forall_mem_map.mpr fun entry hentry =>
    Concept.fits_toJson 124 (h entry hentry)) hback style

theorem ofConcepts_of_valid (h : ∀ entry ∈ concepts, entry.2.validate entry.1 = .ok ()) :
    ofConcepts concepts = .ok ⟨Entries.latest concepts, []⟩ := by
  rw [ofConcepts, forM_eq_ok.mpr h, Entries.ofList_eq_latest]
  rfl

/-- A text and concepts lead to the same. If the concepts are valid, both make one ontology, where a
repeated name keeps its first place and takes its last concept. If the names are distinct, both make
one ontology or have one first error. -/
structure Agrees (default? : Option Number) (text : String) (concepts : List (String × Concept)) :
    Prop where
  of_valid : (∀ entry ∈ concepts, entry.2.validate entry.1 = .ok ()) → ∃ o,
    ofConcepts concepts = .ok o ∧ ofText default? text = .ok o ∧
      o.entries = Entries.latest concepts ∧ o.defaulted = []
  of_nodup : (Entries.names concepts).Nodup → ofText default? text = ofConcepts concepts

theorem agrees_of_spells (h : ∀ entry ∈ concepts, entry.2.HasEntry)
    (htext : Json.SpellsObject Json.deepestNesting text (documents concepts)) :
    Agrees default? text concepts where
  of_valid hvalid := by
    have hlatest : ∀ entry ∈ Entries.latest concepts, entry.2.validate entry.1 = .ok () :=
      fun entry hentry => hvalid entry (Entries.mem_of_mem_latest hentry)
    refine ⟨⟨Entries.latest concepts, []⟩, ofConcepts_of_valid hvalid, ?_, rfl, rfl⟩
    rw [ofText_of_spells_documents h htext, forM_eq_ok.mpr hlatest]
    rfl
  of_nodup hnodup := by
    rw [ofText_of_spells_documents h htext, Entries.latest_eq_self hnodup, ofConcepts,
      Entries.ofList_eq_self hnodup]
    cases concepts.forM fun entry => entry.2.validate entry.1 <;> rfl

/-- Concepts and their document make the same ontology, in every text that spells the document and
so in the one that is written, if its numbers are read back. -/
theorem ofText_documents (h : ∀ entry ∈ concepts, entry.2.HasEntry) :
    (∀ text, Json.SpellsObject Json.deepestNesting text (documents concepts) →
      ∀ default?, Agrees default? text concepts) ∧
    ((Json.object (documents concepts)).NumbersReadBack → ∀ style default?,
      Agrees default? ((Json.object (documents concepts)).write style) concepts) :=
  ⟨fun _ htext _ => agrees_of_spells h htext, fun hback style _ =>
    agrees_of_spells h (spellsObject_documents h hback style)⟩

/-- The day with another concept of midnight, which takes the place of the first one. -/
def revisedDay : List (String × Concept) :=
  day.entries ++ [("Midnight", .scalar "time" ⟨.zero, .zero⟩ (some "h"))]

def brokenDay : List (String × Concept) :=
  [("Noon", .categorical "time" (.ofList ["12"])), ("Never", .cyclic "time" .zero .zero .zero),
    ("Midnight", .scalar "time" ⟨.zero, .zero⟩ none)]

theorem ofText_documents_day :
    ((∀ entry ∈ revisedDay, entry.2.HasEntry) ∧
      (Json.object (documents revisedDay)).NumbersReadBack ∧ ∃ o, ofConcepts revisedDay = .ok o ∧
        ofText none ((Json.object (documents revisedDay)).write .pretty) = .ok o ∧
          o.names = ["Midnight", "Night", "Early"] ∧ o.defaulted = []) ∧
    (∀ entry ∈ brokenDay, entry.2.HasEntry) ∧
      (Json.object (documents brokenDay)).NumbersReadBack ∧
        ofText none ((Json.object (documents brokenDay)).write .compact) =
          .error (.invalidPeriod "Never" .zero) := by
  have hrevised : ∀ entry ∈ revisedDay, entry.2.HasEntry := by decide
  have hrevisedBack : (Json.object (documents revisedDay)).NumbersReadBack := by decide +kernel
  have hvalid : ∀ entry ∈ revisedDay, entry.2.validate entry.1 = .ok () := by
    simp only [revisedDay, day, List.cons_append, List.nil_append, List.forall_mem_cons]
    exact ⟨rfl, rfl, rfl, rfl, by simp⟩
  have hbroken : ∀ entry ∈ brokenDay, entry.2.HasEntry := by decide
  have hbrokenBack : (Json.object (documents brokenDay)).NumbersReadBack := by decide +kernel
  obtain ⟨o, hconcepts, htext, hentries, hdefaulted⟩ :=
    ((ofText_documents hrevised).2 hrevisedBack .pretty none).of_valid hvalid
  have hsame := ((ofText_documents hbroken).2 hbrokenBack .compact none).of_nodup (by decide)
  refine ⟨⟨hrevised, hrevisedBack, o, hconcepts, htext, ?_, hdefaulted⟩, hbroken, hbrokenBack,
    hsame.trans rfl⟩
  rw [names, hentries]
  rfl

/-- A third of 271 is written with sixteen digits, which are read as a neighbour of it. -/
def third : Ontology :=
  ⟨[("Third", .scalar "time" ⟨.zero, .ofRatio false (271 * oneUnits) 3⟩ none)], []⟩

theorem valid_third : ∀ entry ∈ third.entries, entry.2.validate entry.1 = .ok () := by
  simp only [Concept.validate_eq_ok_iff, third, List.mem_singleton, forall_eq, Concept.IsStorable,
    Segment.IsProper, Number.le_iff]
  decide +kernel

theorem exists_ofText_third :
    ∃ o, ofText none ((Json.object (documents third.entries)).write .compact) = .ok o ∧
      o.names = third.names ∧ o.entries ≠ third.entries := by
  have hread : (ofText none ((Json.object (documents third.entries)).write .compact)).toOption.map
      (fun o => (o.names, o.entries == third.entries)) = some (third.names, false) := by
    decide +kernel
  cases htext : ofText none ((Json.object (documents third.entries)).write .compact) with
  | error e =>
    rw [htext] at hread
    cases hread
  | ok o =>
    rw [htext] at hread
    obtain ⟨hnames, hentries⟩ := Prod.mk.inj (Option.some.inj hread)
    exact ⟨o, rfl, hnames, by simpa using hentries⟩

theorem not_ofText_documents :
    (∀ entry ∈ third.entries, entry.2.HasEntry ∧ entry.2.validate entry.1 = .ok ()) ∧
      ∃ o o', ofConcepts third.entries = .ok o ∧
        ofText none ((Json.object (documents third.entries)).write .compact) = .ok o' ∧
          o'.entries ≠ o.entries := by
  obtain ⟨o', htext, -, hentries⟩ := exists_ofText_third
  have hentry : ∀ entry ∈ third.entries, entry.2.HasEntry := fun entry hmem =>
    Concept.hasEntry_of_isStorable (Concept.validate_eq_ok_iff.mp (valid_third entry hmem))
  exact ⟨fun entry hmem => ⟨hentry entry hmem, valid_third entry hmem⟩, _, o',
    ofConcepts_of_valid valid_third, htext, hentries⟩

theorem IsBuilt.nodup_names (h : o.IsBuilt) : (Entries.names o.entries).Nodup := by
  cases h with
  | ofText h =>
    obtain ⟨members, hmembers⟩ := exists_spellsObject_of_ofText h
    exact (holds_of_ofText hmembers h).nodup
  | ofConcepts h =>
    obtain ⟨-, ho⟩ := bind_unit_eq_ok.mp h
    obtain rfl := Except.ok.inj ho
    exact Entries.nodup_names_ofList _

theorem listed_listing (o : Ontology) : o.listing.listed? = some (documents o.entries) := by
  change (o.entries.map _).mapM _ = _
  induction o.entries with
  | nil => rfl
  | cons entry rest ih =>
    rw [List.map_cons, List.mapM_cons, ih]
    rfl

theorem IsBuilt.hasEntry_of_mem (h : o.IsBuilt) : ∀ entry ∈ o.entries, entry.2.HasEntry :=
  fun entry hmem => Concept.hasEntry_of_isStorable (h.storable_of_mem entry hmem)

theorem ofText_of_spells_listed (h : o.IsBuilt)
    (htext : Json.SpellsObject Json.deepestNesting text (documents o.entries)) :
    ofText default? text = .ok ⟨o.entries, []⟩ := by
  have hvalid : ∀ entry ∈ o.entries, entry.2.validate entry.1 = .ok () := fun entry hmem =>
    Concept.validate_eq_ok_iff.mpr (h.storable_of_mem entry hmem)
  rw [ofText_of_spells_documents h.hasEntry_of_mem htext, Entries.latest_eq_self h.nodup_names,
    forM_eq_ok.mpr hvalid]
  rfl

/-- Entries give exactly the valid concepts, each by its own document. So every text that spells the
members of a listing loads to the entries of the ontology, whatever the default period is, and the
text that is written for them does if its numbers are read back. -/
theorem listing_reloads :
    (∀ name default? c, c.validate name = .ok () →
      Entry.read name default? c.toJson = .ok ⟨c, false⟩) ∧
    (∀ name default? v entry, Entry.read name default? v = .ok entry →
      entry.concept.validate name = .ok ()) ∧
    ∀ o : Ontology, o.IsBuilt → ∃ members, o.listing.listed? = some members ∧
      (∀ text, Json.SpellsObject Json.deepestNesting text members → ∀ default?,
        ofText default? text = .ok ⟨o.entries, []⟩) ∧
      ((Json.object members).NumbersReadBack → ∀ style default?,
        ofText default? ((Json.object members).write style) = .ok ⟨o.entries, []⟩) := by
  refine ⟨fun _ _ _ => Entry.read_toJson_of_validate, fun _ _ _ _ => Entry.validate_of_read,
    fun o h => ⟨documents o.entries, listed_listing o, fun _ htext _ =>
      ofText_of_spells_listed h htext, fun hback style _ => ?_⟩⟩
  exact ofText_of_spells_listed h (spellsObject_documents h.hasEntry_of_mem hback style)

theorem numbersReadBack_day : (Json.object (documents day.entries)).NumbersReadBack := by
  decide +kernel

theorem listing_reloads_day :
    (∀ entry ∈ day.entries, entry.2.validate entry.1 = .ok () ∧
      Entry.read entry.1 (some .zero) entry.2.toJson = .ok ⟨entry.2, false⟩) ∧
    day.IsBuilt ∧ ∃ members, day.listing.listed? = some members ∧
      (Json.object members).NumbersReadBack ∧ ∀ style,
        ofText (some .zero) ((Json.object members).write style) = .ok day := by
  obtain ⟨hread, -, hlisting⟩ := listing_reloads
  obtain ⟨members, hlisted, -, hwritten⟩ := hlisting day isBuilt_day
  obtain rfl := Option.some.inj ((listed_listing day).symm.trans hlisted)
  refine ⟨fun entry hentry => ?_, isBuilt_day, _, hlisted, numbersReadBack_day, fun style =>
    hwritten numbersReadBack_day style (some .zero)⟩
  have hvalid : entry.2.validate entry.1 = .ok () :=
    Concept.validate_eq_ok_iff.mpr (isBuilt_day.storable_of_mem entry hentry)
  exact ⟨hvalid, hread entry.1 (some .zero) entry.2 hvalid⟩

theorem not_listing_reloads :
    third.IsBuilt ∧ ∃ members, third.listing.listed? = some members ∧
      ∃ o, ofText none ((Json.object members).write .compact) = .ok o ∧
        o.names = third.names ∧ o.entries ≠ third.entries :=
  ⟨.ofConcepts (ofConcepts_of_valid valid_third), _, listed_listing third, exists_ofText_third⟩

end Ontology

end Grounding
