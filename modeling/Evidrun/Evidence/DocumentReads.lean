import Evidrun.Contracts.Runtime

/-!
# Documents of a bundle

How the verifier reads the documents of a bundle's members; reading one that is malformed
raises.
-/

namespace Evidrun.Evidence

open JsonText DocumentSchema Evidrun.Contracts

set_option autoImplicit false

/-- What reading a document of a bundle can raise. -/
inductive ReadError
  | keyError (key : String)
  | typeError (text : String)
  | attributeError (name : String)
  /-- A `ValueError`, which a pydantic `ValidationError` is as well. -/
  | valueError (text : String)
deriving DecidableEq

/-- `document[key]`. -/
def subscript (document : Json) (key : String) : Except ReadError Json :=
  match document with
  | .obj _ => match document.get? key with
      | some value => .ok value
      | none => .error (.keyError key)
  | _ => .error (.typeError "not a dictionary")

section Dictionaries

variable {Key Value : Type} [DecidableEq Key]

/-- `entries[key] = value`. -/
def setEntry (key : Key) (value : Value) : List (Key × Value) → List (Key × Value)
  | [] => [(key, value)]
  | entry :: rest =>
      if entry.1 = key then (key, value) :: rest else entry :: setEntry key value rest

/-- The dictionary of a comprehension: a later entry replaces the value of its key. -/
def dictOf (entries : List (Key × Value)) : List (Key × Value) :=
  entries.foldl (fun dict entry => setEntry entry.1 entry.2 dict) []

def getEntry (entries : List (Key × Value)) (key : Key) : Option Value :=
  (entries.find? fun entry => entry.1 = key).map Prod.snd

theorem dictOf_concat (entries : List (Key × Value)) (entry : Key × Value) :
    dictOf (entries ++ [entry]) = setEntry entry.1 entry.2 (dictOf entries) := by
  simp [dictOf]

variable {entries : List (Key × Value)} {entry : Key × Value}

theorem mem_setEntry {key : Key} {value : Value} (inside : entry ∈ setEntry key value entries) :
    entry = (key, value) ∨ entry ∈ entries := by
  induction entries with
  | nil => exact .inl (List.mem_singleton.mp inside)
  | cons first rest ih =>
      rw [setEntry] at inside
      split_ifs at inside
      · exact (List.mem_cons.mp inside).imp id (List.mem_cons_of_mem _)
      · rcases List.mem_cons.mp inside with rfl | later
        · exact .inr List.mem_cons_self
        · exact (ih later).imp id (List.mem_cons_of_mem _)

theorem setEntry_keys (key : Key) (value : Value) (entries : List (Key × Value)) :
    (setEntry key value entries).map Prod.fst =
      if key ∈ entries.map Prod.fst then entries.map Prod.fst
      else entries.map Prod.fst ++ [key] := by
  induction entries with
  | nil => rfl
  | cons first rest ih =>
      rw [setEntry]
      by_cases same : first.1 = key
      · simp [same]
      · rw [if_neg same, List.map_cons, ih]
        by_cases later : key ∈ rest.map Prod.fst
        · simp [later]
        · simp [later, Ne.symm same]

/-- A dictionary holds entries of the list it was built from. -/
theorem mem_of_mem_dictOf (inside : entry ∈ dictOf entries) : entry ∈ entries := by
  induction entries using List.reverseRecOn with
  | nil => exact inside
  | append_singleton earlier last ih =>
      rw [dictOf_concat] at inside
      rcases mem_setEntry inside with rfl | before
      · simp
      · exact List.mem_append_left _ (ih before)

theorem dictOf_keys_nodup (entries : List (Key × Value)) :
    ((dictOf entries).map Prod.fst).Nodup := by
  induction entries using List.reverseRecOn with
  | nil => exact .nil
  | append_singleton earlier last ih =>
      rw [dictOf_concat, setEntry_keys]
      split_ifs with known
      · exact ih
      · refine List.nodup_append.mpr ⟨ih, by simp, fun key inside other last same => ?_⟩
        rw [List.mem_singleton.mp last] at same
        exact known (same ▸ inside)

/-- Every key of the list is a key of the dictionary. -/
theorem key_mem_dictOf (inside : entry ∈ entries) : entry.1 ∈ (dictOf entries).map Prod.fst := by
  induction entries using List.reverseRecOn with
  | nil => cases inside
  | append_singleton earlier last ih =>
      rw [dictOf_concat, setEntry_keys]
      rcases List.mem_append.mp inside with before | final
      · split_ifs
        · exact ih before
        · exact List.mem_append_left _ (ih before)
      · cases List.mem_singleton.mp final
        split_ifs with known
        · exact known
        · exact List.mem_append_right _ (List.mem_singleton.mpr rfl)

end Dictionaries

def readCheckpointDocument (platform : Platform) (document : Json) : Except ReadError (CheckpointRecord platform) :=
  match CheckpointRecord.modelValidate platform (document.erase "checkpoint_hash") with
  | .ok record => .ok record
  | .error reason => .error (.valueError reason)

end Evidrun.Evidence
