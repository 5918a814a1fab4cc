import Grounding.Proofs.StoredConcept

/-! The period of an entry. It comes from the options exactly when the entry is a range of a circle
that gives no period, and then nothing else of the entry depends on the options. -/

namespace Grounding

namespace Concept.Kind

theorem ofTag?_eq_some_iff {text : String} {kind : Kind} :
    ofTag? text = some kind ↔ text = kind.tag :=
  Entries.find?_beq_eq_some_iff fun kind => by cases kind <;> rfl

end Concept.Kind

/-- A range of a circle without a period. -/
def Draft.lacksPeriod (d : Draft) : Bool :=
  d.type == some Concept.Kind.cyclicRange.tag && d.rangeMax.isNone

namespace Entry

variable {name : String} {default? : Option Number} {d : Draft} {v : Json} {entry : Entry}
  {p q : Number}

theorem need_eq_ok {α : Type} {a : Attribute} {o : Option α} {x : α} :
    need name a o = .ok x ↔ o = some x := by
  cases o <;> simp [need]

theorem type_of_lacksPeriod (h : d.lacksPeriod = true) :
    d.type = some Concept.Kind.cyclicRange.tag := by
  simp only [Draft.lacksPeriod, Bool.and_eq_true, beq_iff_eq] at h
  exact h.1

theorem rangeMax_of_lacksPeriod (h : d.lacksPeriod = true) : d.rangeMax = none := by
  simp only [Draft.lacksPeriod, Bool.and_eq_true, Option.isNone_iff_eq_none] at h
  exact h.2

/-- Without a period only the field is looked at before the period is asked for. -/
theorem ofDraft_of_lacksPeriod (h : d.lacksPeriod = true) :
    ofDraft name default? d =
      (need name .field d.field >>= fun field =>
        periodOf name default? none >>= fun period =>
        need name .min d.min >>= fun min =>
        need name .max d.max >>= fun max =>
        .ok ⟨.cyclic field min max period.1, period.2⟩) := by
  have hkind : Concept.Kind.ofTag? Concept.Kind.cyclicRange.tag = some .cyclicRange := rfl
  unfold ofDraft
  rw [type_of_lacksPeriod h, rangeMax_of_lacksPeriod h]
  simp only [need, hkind, bind, Except.bind]

/-- An entry that needs no default period does not depend on it. -/
theorem ofDraft_of_declared (h : d.lacksPeriod = false) :
    ofDraft name default? d = ofDraft name none d := by
  unfold ofDraft
  cases htype : d.type with
  | none => rfl
  | some tag =>
    simp only [need, bind, Except.bind]
    cases hkind : Concept.Kind.ofTag? tag with
    | none => rfl
    | some kind =>
      cases kind with
      | cyclicRange =>
        have htag := Concept.Kind.ofTag?_eq_some_iff.mp hkind
        cases hperiod : d.rangeMax with
        | none => simp [Draft.lacksPeriod, htype, htag, hperiod] at h
        | some period => rfl
      | _ => rfl

theorem defaulted_of_periodOf {period? : Option Number} {period : Number × Bool}
    (h : periodOf name default? period? = .ok period) : period.2 = period?.isNone := by
  cases period? with
  | some _ =>
    cases h
    rfl
  | none =>
    cases default? with
    | none => cases h
    | some _ =>
      cases h
      rfl

theorem defaulted_of_ofDraft (h : ofDraft name default? d = .ok entry) :
    entry.defaulted = d.lacksPeriod := by
  obtain ⟨tag, htag, h⟩ := bind_eq_ok.mp h
  rw [need_eq_ok] at htag
  split at h
  · rename_i hkind
    obtain rfl := Concept.Kind.ofTag?_eq_some_iff.mp hkind
    obtain ⟨field, -, h⟩ := bind_eq_ok.mp h
    obtain ⟨min, -, h⟩ := bind_eq_ok.mp h
    obtain ⟨max, -, h⟩ := bind_eq_ok.mp h
    obtain rfl := Except.ok.inj h
    simp [Draft.lacksPeriod, htag, Concept.Kind.tag]
  · rename_i hkind
    obtain rfl := Concept.Kind.ofTag?_eq_some_iff.mp hkind
    obtain ⟨field, -, h⟩ := bind_eq_ok.mp h
    obtain ⟨values, -, h⟩ := bind_eq_ok.mp h
    obtain rfl := Except.ok.inj h
    simp [Draft.lacksPeriod, htag, Concept.Kind.tag]
  · rename_i hkind
    obtain rfl := Concept.Kind.ofTag?_eq_some_iff.mp hkind
    obtain ⟨field, -, h⟩ := bind_eq_ok.mp h
    obtain ⟨period, hperiod, h⟩ := bind_eq_ok.mp h
    obtain ⟨min, -, h⟩ := bind_eq_ok.mp h
    obtain ⟨max, -, h⟩ := bind_eq_ok.mp h
    obtain rfl := Except.ok.inj h
    simp [Draft.lacksPeriod, htag, defaulted_of_periodOf hperiod]
  · obtain ⟨field, -, h⟩ := bind_eq_ok.mp h
    cases h
  · cases h

/-- A concept with a default period, and what becomes of its entry under other options. -/
theorem ofDraft_of_defaulted (h : ofDraft name (some p) d = .ok entry)
    (hdefaulted : entry.defaulted = true) :
    ofDraft name none d = .error (.missingPeriod name) ∧
      ∃ field min max, ∀ q, ofDraft name (some q) d = .ok ⟨.cyclic field min max q, true⟩ := by
  have hlacks : d.lacksPeriod = true := (defaulted_of_ofDraft h).symm.trans hdefaulted
  rw [ofDraft_of_lacksPeriod hlacks] at h
  obtain ⟨field, hfield, h⟩ := bind_eq_ok.mp h
  obtain ⟨period, -, h⟩ := bind_eq_ok.mp h
  obtain ⟨min, hmin, h⟩ := bind_eq_ok.mp h
  obtain ⟨max, hmax, h⟩ := bind_eq_ok.mp h
  constructor
  · rw [ofDraft_of_lacksPeriod hlacks, hfield]
    rfl
  · refine ⟨field, min, max, fun q => ?_⟩
    rw [ofDraft_of_lacksPeriod hlacks, hfield, hmin, hmax]
    rfl

theorem ofDraft_of_not_defaulted (h : ofDraft name default? d = .ok entry)
    (hdefaulted : entry.defaulted = false) (other? : Option Number) :
    ofDraft name other? d = .ok entry := by
  have hdeclared : d.lacksPeriod = false := (defaulted_of_ofDraft h).symm.trans hdefaulted
  rw [ofDraft_of_declared hdeclared] at h ⊢
  exact h

theorem read_of_not_defaulted (h : read name default? v = .ok entry)
    (hdefaulted : entry.defaulted = false) (other? : Option Number) :
    read name other? v = .ok entry := by
  obtain ⟨d, hd, hentry, hvalid⟩ := Ontology.read_eq_ok_iff.mp h
  exact Ontology.read_eq_ok_iff.mpr
    ⟨d, hd, ofDraft_of_not_defaulted hentry hdefaulted other?, hvalid⟩

theorem not_defaulted_of_read_none (h : read name none v = .ok entry) :
    entry.defaulted = false := by
  obtain ⟨d, -, hentry, -⟩ := Ontology.read_eq_ok_iff.mp h
  cases hlacks : d.lacksPeriod with
  | false => exact (defaulted_of_ofDraft hentry).trans hlacks
  | true =>
    rw [ofDraft_of_lacksPeriod hlacks] at hentry
    obtain ⟨field, -, hentry⟩ := bind_eq_ok.mp hentry
    cases hentry

theorem read_none_of_defaulted (h : read name (some p) v = .ok entry)
    (hdefaulted : entry.defaulted = true) : read name none v = .error (.missingPeriod name) := by
  obtain ⟨d, hd, hentry, -⟩ := Ontology.read_eq_ok_iff.mp h
  unfold read
  rw [hd]
  simp only [bind, Except.bind]
  rw [(ofDraft_of_defaulted hentry hdefaulted).1]

/-- With two default periods an entry without a period differs in the period alone. -/
theorem cyclic_of_defaulted {entry' : Entry} (h : read name (some p) v = .ok entry)
    (h' : read name (some q) v = .ok entry') (hdefaulted : entry.defaulted = true) :
    ∃ field min max, entry = ⟨.cyclic field min max p, true⟩ ∧
      entry' = ⟨.cyclic field min max q, true⟩ := by
  obtain ⟨d, hd, hentry, -⟩ := Ontology.read_eq_ok_iff.mp h
  obtain ⟨d', hd', hentry', -⟩ := Ontology.read_eq_ok_iff.mp h'
  obtain rfl : d = d' := Except.ok.inj (hd.symm.trans hd')
  obtain ⟨-, field, min, max, hall⟩ := ofDraft_of_defaulted hentry hdefaulted
  exact ⟨field, min, max, Except.ok.inj (hentry.symm.trans (hall p)),
    Except.ok.inj (hentry'.symm.trans (hall q))⟩

end Entry

def Json.isNull : Json → Bool
  | null => true
  | _ => false

/-- An object names each member once. -/
def Json.HasDistinctNames : Json → Prop
  | object members => (Entries.names members).Nodup
  | _ => True

def Json.text? : Json → Option String
  | string s => some s
  | _ => none

theorem Attribute.name_inj {a b : Attribute} : a.name = b.name ↔ a = b := by
  constructor
  · intro h
    cases a <;> cases b <;> first | rfl | simp [name] at h
  · rintro rfl
    rfl

namespace Entry

/-- The value of an attribute in the document. -/
def attribute? (a : Attribute) : Json → Option Json
  | .object members => Entries.find? a.name members
  | .array items => items[slots.idxOf a]?
  | _ => none

/-- A range of a circle in the document with no period, or with null for one. -/
def lacksPeriod (v : Json) : Bool :=
  (attribute? .type v).bind Json.text? == some Concept.Kind.cyclicRange.tag &&
    (attribute? .rangeMax v).all Json.isNull

theorem lookup_zip {κ α : Type} [DecidableEq κ] {k : κ} {keys : List κ} (hk : k ∈ keys)
    (items : List α) : (keys.zip items).lookup k = items[keys.idxOf k]? := by
  induction keys generalizing items with
  | nil => cases hk
  | cons key keys ih =>
    cases items with
    | nil => rfl
    | cons item items =>
      by_cases hkey : k = key
      · simp [hkey]
      · have hrest : k ∈ keys := (List.mem_cons.mp hk).resolve_left hkey
        have hne : (k == key) = false := by simpa using hkey
        have hne' : key ≠ k := fun h => hkey h.symm
        rw [List.zip_cons_cons, List.lookup_cons, hne, List.idxOf_cons_ne _ hne',
          List.getElem?_cons_succ]
        exact ih hrest items

/-- What is read of one attribute, when each attribute is given at most once. -/
theorem shown_of_foldlM {κ β : Type} [DecidableEq κ] {k : κ} {get : Draft → Option β}
    {parse : Json → Option β} {f : Draft → κ × Json → Except DecodeFault Draft}
    (hstep : ∀ d d' slot, f d slot = .ok d' →
      get d' = if slot.1 = k then (parse slot.2).or (get d) else get d)
    {given : List (κ × Json)} {d d' : Draft} (hgiven : (given.map (·.1)).Nodup)
    (h : given.foldlM f d = .ok d') : get d' = ((given.lookup k).bind parse).or (get d) := by
  induction given generalizing d with
  | nil =>
    obtain rfl := Except.ok.inj h
    rfl
  | cons slot rest ih =>
    obtain ⟨key, v⟩ := slot
    obtain ⟨next, hnext, h⟩ := bind_eq_ok.mp h
    obtain ⟨hfresh, hrest⟩ := List.nodup_cons.mp hgiven
    rw [ih hrest h, hstep _ _ _ hnext]
    by_cases hkey : key = k
    · have hnone : rest.lookup k = none := by
        rw [List.lookup_eq_none_iff]
        rintro p hp
        simpa using fun heq : k = p.1 => hfresh (List.mem_map.mpr ⟨p, hp, (hkey.trans heq).symm⟩)
      simp [hkey, hnone]
    · have hne : (k == key) = false := by simpa using fun h => hkey h.symm
      simp [List.lookup_cons, hkey, hne]

/-- A part of the draft that comes from one attribute, and how its value is taken. -/
structure Shows {β : Type} (a : Attribute) (get : Draft → Option β) (parse : Json → Option β) :
    Prop where
  blank : get .blank = none
  null : parse .null = none
  read : ∀ {d d' : Draft} {b : Attribute} {v : Json}, v.isNull = false → d.read b v = .ok d' →
    get d' = if b = a then (parse v).or (get d) else get d

theorem shows_type : Shows .type Draft.type Json.text? where
  blank := rfl
  null := rfl
  read := by
    intro d d' b v _ h
    cases b with
    | type =>
      obtain ⟨s, hs, h⟩ := bind_eq_ok.mp h
      obtain rfl := Except.ok.inj h
      cases v with
      | string => exact congrArg some (Except.ok.inj hs).symm
      | _ => cases hs
    | _ =>
      obtain ⟨x, -, h⟩ := bind_eq_ok.mp h
      obtain rfl := Except.ok.inj h
      rfl

/-- Whether there is a period. -/
theorem shows_rangeMax :
    Shows .rangeMax (fun d => d.rangeMax.map fun _ => ())
      (fun v => if v.isNull then none else some ()) where
  blank := rfl
  null := rfl
  read := by
    intro d d' b v hv h
    cases b with
    | _ =>
      obtain ⟨x, -, h⟩ := bind_eq_ok.mp h
      obtain rfl := Except.ok.inj h
      simp [hv]

section

variable {β : Type} {a b : Attribute} {get : Draft → Option β} {parse : Json → Option β}
  {d d' : Draft}

theorem Shows.of_readValue (hs : Shows a get parse) (h : readValue d b v = .ok d') :
    get d' = if b = a then (parse v).or (get d) else get d := by
  unfold readValue at h
  split at h
  · obtain rfl := Except.ok.inj h
    simp [hs.null]
  · rename_i hnull
    have hv : v.isNull = false := by
      cases v with
      | null => exact absurd rfl hnull
      | _ => rfl
    exact hs.read hv h

theorem Shows.of_readMember (hs : Shows a get parse) (ha : a ∈ slots) {member : String × Json}
    (h : readMember d member = .ok d') :
    get d' = if member.1 = a.name then (parse member.2).or (get d) else get d := by
  unfold readMember at h
  split at h
  · rename_i b hb
    have hfound := List.find?_some hb
    have hname : b.name = member.1 := by simpa using hfound
    rw [hs.of_readValue h, ← hname]
    simp only [Attribute.name_inj]
  · rename_i hnone
    obtain rfl := Except.ok.inj h
    have hne := List.find?_eq_none.mp hnone a ha
    rw [if_neg fun heq => hne (by simp [heq])]

/-- What is read of an attribute is what the document gives for it. -/
theorem Shows.of_draft (hs : Shows a get parse) (ha : a ∈ slots)
    (hnames : v.HasDistinctNames) (h : draft v = .ok d) : get d = (attribute? a v).bind parse := by
  cases v with
  | object members =>
    have hread := shown_of_foldlM (fun _ _ _ => hs.of_readMember ha) hnames h
    rw [hread, hs.blank, Option.or_none, ← Entries.find?_eq_lookup]
    rfl
  | array items =>
    obtain ⟨d', hread, h⟩ := bind_eq_ok.mp h
    obtain ⟨hshort, h⟩ := guard_eq_ok.mp h
    obtain ⟨-, h⟩ := guard_eq_ok.mp h
    obtain rfl := Except.ok.inj h
    have hslots : ((slots.zip items).map (·.1)).Nodup := by
      rw [List.map_fst_zip (Nat.le_of_not_lt hshort)]
      decide
    rw [shown_of_foldlM (fun _ _ _ => hs.of_readValue) hslots hread, hs.blank, Option.or_none,
      lookup_zip ha]
    rfl
  | _ => cases h

end

/-- Whether an entry that can be read has a period shows in the document. -/
theorem lacksPeriod_of_draft (hnames : v.HasDistinctNames) (h : draft v = .ok d) :
    d.lacksPeriod = lacksPeriod v := by
  have htype := shows_type.of_draft (by decide) hnames h
  have hperiod := shows_rangeMax.of_draft (by decide) hnames h
  have hnone : d.rangeMax.isNone = (attribute? .rangeMax v).all Json.isNull := by
    cases hv : attribute? .rangeMax v with
    | none => simpa [hv] using hperiod
    | some w =>
      rw [hv, Option.bind_some] at hperiod
      cases hnull : w.isNull with
      | true => simpa [hnull] using hperiod
      | false => simpa [hnull, Option.isSome_iff_exists] using hperiod
  rw [Draft.lacksPeriod, lacksPeriod, htype, hnone]

theorem defaulted_of_read (hnames : v.HasDistinctNames)
    (h : read name default? v = .ok entry) : entry.defaulted = lacksPeriod v := by
  obtain ⟨d, hd, hentry, -⟩ := Ontology.read_eq_ok_iff.mp h
  exact (defaulted_of_ofDraft hentry).trans (lacksPeriod_of_draft hnames hd)

end Entry

end Grounding
