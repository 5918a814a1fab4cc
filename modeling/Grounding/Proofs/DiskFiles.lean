import Grounding.Disk
import Grounding.Proofs.Outcome
import Mathlib.Data.List.DropRight

/-! Writing a file. A file that has been given a content is read back from each location that leads
to it, be it relative or from the root, and no other file or folder changes. -/

namespace Grounding.Disk

/-- The path to which a location leads, through folders and up from them. -/
def LeadsTo (disk : Disk) (location : String) (path : List String) : Prop :=
  ∃ place steps, disk.start location = .ok (place, steps) ∧ disk.walk place steps = .ok path

/-- What is there after a content has been written to the file at a path, to which a location leads.
All other files and folders are as before, and each location leads where it has led. -/
structure WritesAt (disk : Disk) (location : String) (content : ByteArray) (after : Disk)
    (path : List String) : Prop where
  leadsTo : after.LeadsTo location path
  content?_eq : after.content? path = some content
  node?_eq : ∀ other, other ≠ path → after.node? other = disk.node? other
  current_eq : after.current = disk.current
  keeps : ∀ other next, disk.LeadsTo other next → after.LeadsTo other next

/-- The content has been written to the file to which the location leads, and nothing else has
changed. -/
def Writes (disk : Disk) (location : String) (content : ByteArray) (after : Disk) : Prop :=
  ∃ path, disk.WritesAt location content after path

variable {disk after : Disk} {location second : String} {content : ByteArray}
  {path place next other : List String} {node : Node} {name : String}

theorem find?_putNode (path other : List String) (node : Node) (nodes : List (List String × Node)) :
    (putNode path node nodes).find? (·.1 == other) =
      if path = other then some (path, node) else nodes.find? (·.1 == other) := by
  induction nodes with
  | nil => by_cases h : path = other <;> simp [putNode, h]
  | cons entry rest ih =>
    obtain ⟨p, n⟩ := entry
    unfold putNode
    by_cases hp : p = path
    · subst hp
      by_cases h : p = other <;> simp [h]
    · rw [if_neg hp]
      by_cases h : p = other
      · have hne : path ≠ other := fun heq => hp (h.trans heq.symm)
        simp [h, hne]
      · simp [h, ih]

theorem node?_put_self (hpath : path ≠ []) : (disk.put path node).node? path = some node := by
  simp [node?, put, hpath, find?_putNode]

theorem node?_put_of_ne (h : other ≠ path) :
    (disk.put path node).node? other = disk.node? other := by
  simp [node?, put, find?_putNode, Ne.symm h]

theorem content?_eq_some :
    disk.content? path = some content ↔ disk.node? path = some (.file content) := by
  unfold content?
  split <;> simp_all

theorem read_of_leadsTo (hpath : disk.LeadsTo location path)
    (hcontent : disk.content? path = some content) : disk.read location = .ok content := by
  obtain ⟨place, steps, hstart, hwalk⟩ := hpath
  have hnode := content?_eq_some.mp hcontent
  simp [Disk.read, hstart, hwalk, hnode, bind, Except.bind]

theorem LeadsTo.unique (h : disk.LeadsTo location path) (h' : disk.LeadsTo location next) :
    path = next := by
  obtain ⟨place, steps, hstart, hwalk⟩ := h
  obtain ⟨place', steps', hstart', hwalk'⟩ := h'
  obtain ⟨rfl, rfl⟩ := Prod.mk.inj (Except.ok.inj (hstart.symm.trans hstart'))
  exact Except.ok.inj (hwalk.symm.trans hwalk')

/-- A file that was there before has the new content under each of its names. -/
theorem Writes.read_of_leadsTo (h : disk.Writes location content after)
    (hpath : disk.LeadsTo location path) (hsecond : disk.LeadsTo second path) :
    after.read second = .ok content := by
  obtain ⟨path', h⟩ := h
  obtain rfl := h.leadsTo.unique (h.keeps _ _ hpath)
  exact read_of_leadsTo (h.keeps _ _ hsecond) h.content?_eq

theorem isFolder_iff : disk.isFolder path = true ↔ disk.node? path = some .folder := by
  unfold isFolder
  split <;> simp_all

theorem isSome_node?_put (hpath : path ≠ []) (h : (disk.node? other).isSome) :
    ((disk.put path node).node? other).isSome := by
  by_cases hp : other = path
  · rw [hp, node?_put_self hpath]
    rfl
  · rwa [node?_put_of_ne hp]

section

variable (hpath : path ≠ []) (hnode : disk.node? path ≠ some .folder)

include hpath hnode

theorem isFolder_put_file (other : List String) :
    (disk.put path (.file content)).isFolder other = disk.isFolder other := by
  rw [Bool.eq_iff_iff, isFolder_iff, isFolder_iff]
  by_cases hp : other = path
  · subst hp
    rw [node?_put_self hpath]
    exact iff_of_false (by simp) hnode
  · rw [node?_put_of_ne hp]

/-- A step that led somewhere still leads there when a file has its content changed or is new. -/
theorem step_put_file (h : disk.step place name = .ok next) :
    (disk.put path (.file content)).step place name = .ok next := by
  unfold step at h ⊢
  rw [isFolder_put_file hpath hnode]
  by_cases hfolder : disk.isFolder place = false
  · rw [if_pos hfolder] at h
    cases h
  rw [if_neg hfolder] at h ⊢
  by_cases hstay : name = "" ∨ name = "."
  · rwa [if_pos hstay] at h ⊢
  rw [if_neg hstay] at h ⊢
  by_cases hup : name = ".."
  · rwa [if_pos hup] at h ⊢
  rw [if_neg hup] at h ⊢
  by_cases hthere : (disk.node? (place ++ [name])).isSome
  · rw [if_pos hthere] at h
    rwa [if_pos (isSome_node?_put hpath hthere)]
  · rw [if_neg hthere] at h
    cases h

theorem walk_put_file {names : List String} (h : disk.walk place names = .ok next) :
    (disk.put path (.file content)).walk place names = .ok next := by
  induction names generalizing place with
  | nil => exact h
  | cons name rest ih =>
    unfold walk at h ⊢
    split at h
    · rename_i mid hstep
      rw [step_put_file hpath hnode hstep]
      exact ih h
    · cases h

theorem leadsTo_put_file (h : disk.LeadsTo location next) :
    (disk.put path (.file content)).LeadsTo location next := by
  obtain ⟨place, steps, hstart, hwalk⟩ := h
  exact ⟨place, steps, hstart, walk_put_file hpath hnode hwalk⟩

end

theorem walk_append {mid : List String} {names rest : List String}
    (h : disk.walk place names = .ok mid) :
    disk.walk place (names ++ rest) = disk.walk mid rest := by
  induction names generalizing place with
  | nil =>
    obtain rfl := Except.ok.inj h
    rfl
  | cons name names ih =>
    rw [List.cons_append, walk]
    rw [walk] at h
    split at h
    · exact ih h
    · cases h

theorem step_inside (hfolder : disk.node? path = some .folder) (hname : name ∉ ["", ".", ".."])
    (hthere : (disk.node? (path ++ [name])).isSome) :
    disk.step path name = .ok (path ++ [name]) := by
  simp only [List.mem_cons, List.not_mem_nil, or_false, not_or] at hname
  obtain ⟨hempty, hdot, hup⟩ := hname
  simp [step, isFolder_iff.mpr hfolder, hempty, hdot, hup, hthere]

/-- What a file is created from: a folder to which a location leads up to its last name, where no
folder has that name. -/
theorem create_eq_ok (h : disk.create location content = .ok after) :
    ∃ place names name path, disk.start location = .ok (place, names ++ [name]) ∧
      disk.walk place names = .ok path ∧ disk.node? path = some .folder ∧
      name ∉ ["", ".", ".."] ∧ disk.node? (path ++ [name]) ≠ some .folder ∧
      after = disk.put (path ++ [name]) (.file content) := by
  obtain ⟨⟨place, steps⟩, hstart, h⟩ := bind_eq_ok.mp h
  have hnamed : (steps.reverse.dropWhile (· == "")).reverse = steps.rdropWhile (· == "") := rfl
  simp only [hnamed] at h
  split at h
  · cases h
  rename_i name hlast
  obtain ⟨path, hwalk, hguards⟩ := bind_eq_ok.mp h
  obtain ⟨hfolder, hguard⟩ := guard_eq_ok.mp hguards
  obtain ⟨hname, hplace⟩ := guard_eq_ok.mp hguard
  simp only [not_or, Nat.not_lt] at hname
  obtain ⟨hdot, hup, hlength⟩ := hname
  have hall : steps.rdropWhile (· == "") = steps :=
    (List.rdropWhile_prefix (· == "") steps).eq_of_length_le hlength
  have hlastNamed := List.rdropWhile_eq_self_iff.mp hall
  rw [hall] at hlast hwalk
  obtain ⟨names, rfl⟩ := List.getLast?_eq_some_iff.mp hlast
  rw [List.dropLast_concat] at hwalk
  have hempty : name ≠ "" := by simpa using hlastNamed
  split at hplace
  · cases hplace
  rename_i hnode
  exact ⟨place, names, name, path, hstart, hwalk, isFolder_iff.mp (by simpa using hfolder),
    by simp [hempty, hdot, hup], hnode, (Except.ok.inj hplace).symm⟩

theorem writes_of_create (h : disk.create location content = .ok after) :
    disk.Writes location content after := by
  obtain ⟨place, names, name, path, hstart, hwalk, hfolder, hname, hnode, rfl⟩ := create_eq_ok h
  have hpath : path ++ [name] ≠ [] := by simp
  have hput : (disk.put (path ++ [name]) (.file content)).node? (path ++ [name]) =
      some (.file content) := node?_put_self hpath
  have hfolder' : (disk.put (path ++ [name]) (.file content)).node? path = some .folder := by
    rw [node?_put_of_ne (by simp), hfolder]
  refine ⟨path ++ [name], ⟨place, names ++ [name], hstart, ?_⟩, content?_eq_some.mpr hput,
    fun other hother => node?_put_of_ne hother, rfl, fun _ _ => leadsTo_put_file hpath hnode⟩
  rw [walk_append (walk_put_file hpath hnode hwalk), walk,
    step_inside hfolder' hname (by simp [hput])]
  rfl

end Grounding.Disk
