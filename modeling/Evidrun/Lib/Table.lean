import Mathlib.Data.List.Basic
import Mathlib.Data.List.Nodup

/-!
# Tables of keyed rows

A table is the list of its rows in the order they were inserted. A row is read
by its key and changed in place by its key; the lemmas say what each of these
does to a later read.
-/

namespace Table

set_option autoImplicit false

variable {Row Key : Type} [DecidableEq Key] (key : Row → Key)

def find (rows : List Row) (wanted : Key) : Option Row :=
  rows.find? fun row => key row = wanted

/-- Change the row with a key; a change never moves a row to another key. -/
def modify (rows : List Row) (wanted : Key) (change : Row → Row) : List Row :=
  rows.map fun row => if key row = wanted then change row else row

variable {key}

variable {rows : List Row} {wanted : Key} {row : Row}

theorem find_mem (found : find key rows wanted = some row) : row ∈ rows :=
  List.mem_of_find?_eq_some found

theorem find_key (found : find key rows wanted = some row) : key row = wanted := by
  simpa using List.find?_some found

theorem find_eq_none : find key rows wanted = none ↔ ∀ row ∈ rows, key row ≠ wanted := by
  simp [find]

@[simp] theorem find_nil (wanted : Key) : find key ([] : List Row) wanted = none := rfl

theorem find_append (rows more : List Row) (wanted : Key) :
    find key (rows ++ more) wanted = (find key rows wanted).or (find key more wanted) := by
  simp [find, List.find?_append]

theorem find_of_mem (distinct : (rows.map key).Nodup) (member : row ∈ rows) :
    find key rows (key row) = some row := by
  induction rows with
  | nil => simp at member
  | cons head tail ih =>
      simp only [List.map_cons, List.nodup_cons] at distinct
      rcases List.mem_cons.mp member with rfl | later
      · simp [find]
      · have differ : key head ≠ key row := fun same =>
          distinct.1 (same ▸ List.mem_map_of_mem later)
        have rest := ih distinct.2 later
        simp only [find] at rest ⊢
        simp [differ, rest]

/-- A key identifies its rows when each row is the only one with its key. -/
theorem nodup_iff_filter (rows : List Row) :
    (rows.map key).Nodup ↔
      ∀ row ∈ rows, rows.filter (fun other => key other == key row) = [row] := by
  have counted : ∀ row, (rows.map key).count (key row) =
      (rows.filter fun other => key other == key row).length := by
    intro row
    rw [List.count, List.countP_map, List.countP_eq_length_filter]
    rfl
  simp only [List.nodup_iff_count_eq_one, List.forall_mem_map, counted, List.length_eq_one_iff]
  refine forall₂_congr fun row member => ⟨?_, fun only => ⟨row, only⟩⟩
  rintro ⟨other, only⟩
  have inside : row ∈ rows.filter fun other => key other == key row := by simp [member]
  rw [only, List.mem_singleton] at inside
  rw [only, inside]

/-- A change of all rows that keeps the keys is seen by a read. -/
theorem find_map (rows : List Row) (wanted : Key) (change : Row → Row)
    (keyed : ∀ row, key (change row) = key row) :
    find key (rows.map change) wanted = (find key rows wanted).map change := by
  simp only [find, List.find?_map]
  congr 2
  funext row
  simp [keyed row]

theorem mem_modify {change : Row → Row} :
    row ∈ modify key rows wanted change ↔
      ∃ before ∈ rows, row = if key before = wanted then change before else before := by
  simp [modify, eq_comm]

theorem map_key_modify (rows : List Row) (wanted : Key) (change : Row → Row)
    (keyed : ∀ row, key (change row) = key row) :
    (modify key rows wanted change).map key = rows.map key := by
  simp only [modify, List.map_map]
  refine List.map_congr_left fun row _ => ?_
  simp only [Function.comp_apply]
  split_ifs
  · exact keyed row
  · rfl

theorem find_modify_self (rows : List Row) (wanted : Key) (change : Row → Row)
    (keyed : ∀ row, key (change row) = key row) :
    find key (modify key rows wanted change) wanted = (find key rows wanted).map change := by
  induction rows with
  | nil => rfl
  | cons head tail ih =>
      simp only [find, modify, List.map_cons] at ih ⊢
      by_cases same : key head = wanted
      · simp [same, keyed head]
      · simp [same, ih]

theorem find_modify_other (rows : List Row) (wanted other : Key) (change : Row → Row)
    (keyed : ∀ row, key (change row) = key row) (differ : other ≠ wanted) :
    find key (modify key rows wanted change) other = find key rows other := by
  induction rows with
  | nil => rfl
  | cons head tail ih =>
      simp only [find, modify, List.map_cons] at ih ⊢
      by_cases same : key head = wanted
      · have before : key head ≠ other := fun equal => differ (equal.symm.trans same)
        have after : key (change head) ≠ other := by rw [keyed head]; exact before
        rw [if_pos same, List.find?_cons_of_neg (by simpa using after),
          List.find?_cons_of_neg (by simpa using before), ih]
      · rw [if_neg same, List.find?_cons, List.find?_cons, ih]

@[simp] theorem modify_id (rows : List Row) (wanted : Key) : modify key rows wanted id = rows := by
  simp [modify]

/-- Two changes that look the same on the one row with a key look the same on the table. -/
theorem map_modify_congr {View : Type} (view : Row → View) (distinct : (rows.map key).Nodup)
    (found : find key rows wanted = some row) (change other : Row → Row)
    (same : view (change row) = view (other row)) :
    (modify key rows wanted change).map view = (modify key rows wanted other).map view := by
  simp only [modify, List.map_map]
  refine List.map_congr_left fun candidate member => ?_
  simp only [Function.comp_apply]
  split_ifs with keyed
  · have located := find_of_mem distinct member
    rw [keyed, found] at located
    rw [← Option.some.inj located]
    exact same
  · rfl

theorem filter_modify (keep : Row → Bool) (rows : List Row) (wanted : Key) (change : Row → Row)
    (kept : ∀ row, keep (change row) = keep row) :
    (modify key rows wanted change).filter keep = modify key (rows.filter keep) wanted change := by
  simp only [modify, List.filter_map]
  congr 1
  refine List.filter_congr fun row _ => ?_
  simp only [Function.comp_apply]
  split_ifs
  · exact kept row
  · rfl

theorem modify_absent (change : Row → Row) (absent : ∀ row ∈ rows, key row ≠ wanted) :
    modify key rows wanted change = rows := by
  refine (List.map_congr_left fun row member => ?_).trans (List.map_id rows)
  exact if_neg (absent row member)

/-- Changing a row leaves the table as it was exactly when it leaves the row as it was. -/
theorem modify_eq_self_iff (change : Row → Row) (distinct : (rows.map key).Nodup)
    (found : find key rows wanted = some row) :
    modify key rows wanted change = rows ↔ change row = row := by
  have isRow := find_key found
  conv_lhs => rw [modify, ← List.map_id rows, List.map_map, List.map_inj_left]
  constructor
  · intro unchanged
    simpa [isRow] using unchanged row (find_mem found)
  · intro same other member
    simp only [Function.comp_apply, id_eq]
    split_ifs with isOther
    · rw [← isOther, find_of_mem distinct member] at found
      rw [Option.some.inj found]
      exact same
    · rfl

/-- Changing the last row of a table leaves the rows before it alone. -/
theorem modify_last {earlier : List Row} {last : Row} (change : Row → Row)
    (distinct : ((earlier ++ [last]).map key).Nodup) :
    modify key (earlier ++ [last]) (key last) change = earlier ++ [change last] := by
  have absent : ∀ row ∈ earlier, key row ≠ key last := by
    intro row member same
    simp only [List.map_append, List.map_cons, List.map_nil] at distinct
    exact (List.nodup_append.mp distinct).2.2 (key row) (List.mem_map_of_mem member) (key last)
      List.mem_cons_self same
  have unchanged := modify_absent change absent
  simp only [modify, List.map_append, List.map_cons, List.map_nil, if_true] at unchanged ⊢
  rw [unchanged]

end Table
