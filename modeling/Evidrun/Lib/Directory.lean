import Mathlib.Data.List.Nodup

/-!
# Directories

A directory holds at most one file under a name. A write replaces the file, as a
rename of a temporary file onto it does, and an unlink of a missing file does nothing.
-/

set_option autoImplicit false

structure Directory (Name Content : Type) where
  entries : List (Name × Content)
  distinct : (entries.map Prod.fst).Nodup

namespace Directory

variable {Name Content : Type} [DecidableEq Name]

omit [DecidableEq Name] in
def empty : Directory Name Content := ⟨[], .nil⟩

def read (files : Directory Name Content) (name : Name) : Option Content :=
  files.entries.lookup name

def unlink (files : Directory Name Content) (name : Name) : Directory Name Content where
  entries := files.entries.filter fun entry => entry.1 ≠ name
  distinct := files.distinct.sublist (List.filter_sublist.map Prod.fst)

def write (files : Directory Name Content) (name : Name) (content : Content) :
    Directory Name Content where
  entries := (name, content) :: (files.unlink name).entries
  distinct := by
    refine List.nodup_cons.mpr ⟨?_, (files.unlink name).distinct⟩
    simp [unlink]

/-- The names, in the order of the entries. -/
def names (files : Directory Name Content) : List Name := files.entries.map Prod.fst

@[simp] theorem read_empty (name : Name) :
    (empty : Directory Name Content).read name = none := rfl

private theorem lookup_filter_other {entries : List (Name × Content)} {name other : Name}
    (differ : other ≠ name) :
    (entries.filter fun entry => entry.1 ≠ name).lookup other = entries.lookup other := by
  induction entries with
  | nil => rfl
  | cons entry rest ih =>
      obtain ⟨key, content⟩ := entry
      by_cases same : key = name
      · subst same
        have skipped : (other == key) = false := by simpa using differ
        simpa [List.lookup_cons, skipped] using ih
      · by_cases found : other = key
        · subst found
          simp [same]
        · have skipped : (other == key) = false := by simpa using found
          simpa [same, List.lookup_cons, skipped] using ih

@[simp] theorem read_unlink_self (files : Directory Name Content) (name : Name) :
    (files.unlink name).read name = none := by
  simp only [read, unlink, List.lookup_eq_none_iff, List.mem_filter]
  intro entry inside
  have differ : entry.1 ≠ name := by simpa using inside.2
  simpa using differ.symm

theorem read_unlink_other (files : Directory Name Content) {name other : Name}
    (differ : other ≠ name) : (files.unlink name).read other = files.read other :=
  lookup_filter_other differ

@[simp] theorem read_write_self (files : Directory Name Content) (name : Name)
    (content : Content) : (files.write name content).read name = some content := by
  simp [read, write]

theorem read_write_other (files : Directory Name Content) {name other : Name}
    (content : Content) (differ : other ≠ name) :
    (files.write name content).read other = files.read other := by
  have skipped : (other == name) = false := by simpa using differ
  rw [← files.read_unlink_other differ]
  simp [read, write, List.lookup_cons, skipped]

theorem mem_iff_read (files : Directory Name Content) (name : Name) (content : Content) :
    (name, content) ∈ files.entries ↔ files.read name = some content := by
  obtain ⟨entries, distinct⟩ := files
  simp only [read]
  induction entries with
  | nil => simp
  | cons entry rest ih =>
      obtain ⟨key, first⟩ := entry
      have unique := List.nodup_cons.mp distinct
      by_cases same : name = key
      · subst same
        have absent : (name, content) ∉ rest := fun inside =>
          unique.1 (List.mem_map.mpr ⟨_, inside, rfl⟩)
        simp [absent, eq_comm]
      · have skipped : (name == key) = false := by simpa using same
        simp [same, List.lookup_cons, skipped, ih unique.2]

/-- A scan of all files sees each of them under its name. -/
theorem any_iff_read (files : Directory Name Content) (wanted : Name → Content → Bool) :
    files.entries.any (fun entry => wanted entry.1 entry.2) = true ↔
      ∃ name content, files.read name = some content ∧ wanted name content = true := by
  simp only [List.any_eq_true, Prod.exists, mem_iff_read]

end Directory
