import Mathlib.Data.Set.Image

/-!
# Differences of keyed collections

Two versions of a collection are compared through the value that each has for a key. What was
added, removed and changed is applied to all values of the earlier version. A version can have
more values for a key than the one that is compared; those are neither removed nor added.
-/

namespace KeyedDiff

set_option autoImplicit false

variable {Key Value : Type}

section Definitions

variable (old new : Key → Option Value)

def added : Set Value := {value | ∃ key, old key = none ∧ new key = some value}

def removed : Set Value := {value | ∃ key, old key = some value ∧ new key = none}

/-- The values of a key that has two different ones, before and after. -/
def changed : Set (Value × Value) :=
  {change | ∃ key, old key = some change.1 ∧ new key = some change.2 ∧ change.1 ≠ change.2}

/-- The earlier values without those removed or changed, and those added or changed to. -/
def applied (values : Set Value) : Set Value :=
  (values \ (removed old new ∪ Prod.fst '' changed old new)) ∪
    (added old new ∪ Prod.snd '' changed old new)

end Definitions

/-- The compared values of a version are values of it, and a value has one key. -/
structure Compares (entries : Set (Key × Value)) (compared : Key → Option Value) : Prop where
  held : ∀ key value, compared key = some value → (key, value) ∈ entries
  keyed : ∀ entry ∈ entries, ∀ other ∈ entries, entry.2 = other.2 → entry.1 = other.1

variable {old new : Key → Option Value} {before after : Set (Key × Value)}

/-- What is left of the earlier values are those that were not compared. -/
theorem mem_applied_iff (ours : Compares before old) (value : Value) :
    value ∈ applied old new (Prod.snd '' before) ↔
      (∃ key, (key, value) ∈ before ∧ old key ≠ some value) ∨ ∃ key, new key = some value := by
  constructor
  · rintro (⟨⟨⟨key, held⟩, inside, same⟩, kept⟩ | ⟨key, _, given⟩ |
      ⟨⟨_, _⟩, ⟨key, _, given, _⟩, rfl⟩)
    · obtain rfl : held = value := same
      by_cases compared : old key = some held
      · -- A compared value that was kept has the same key afterwards.
        refine .inr ⟨key, ?_⟩
        by_contra lost
        cases later : new key with
        | none => exact kept (.inl ⟨key, compared, later⟩)
        | some other =>
            have differs : held ≠ other := fun same => lost (same ▸ later)
            exact kept (.inr ⟨(held, other), ⟨key, compared, later, differs⟩, rfl⟩)
      · exact .inl ⟨key, inside, compared⟩
    · exact .inr ⟨key, given⟩
    · exact .inr ⟨key, given⟩
  · rintro (⟨key, inside, shadowed⟩ | ⟨key, given⟩)
    · have same : ∀ {other : Key}, old other = some value → other = key := fun found =>
        ours.keyed _ (ours.held _ _ found) _ inside rfl
      refine .inl ⟨⟨_, inside, rfl⟩, ?_⟩
      rintro (⟨other, found, _⟩ | ⟨⟨_, _⟩, ⟨other, found, _⟩, rfl⟩)
      · exact shadowed (same found ▸ found)
      · exact shadowed (same found ▸ found)
    · cases earlier : old key with
      | none => exact .inr (.inl ⟨key, earlier, given⟩)
      | some other =>
          by_cases kept : other = value
          · subst kept
            refine .inl ⟨⟨_, ours.held _ _ earlier, rfl⟩, ?_⟩
            have same : ∀ {another : Key}, old another = some other → another = key := fun found =>
              ours.keyed _ (ours.held _ _ found) _ (ours.held _ _ earlier) rfl
            rintro (⟨another, found, gone⟩ | ⟨⟨_, _⟩, ⟨another, found, moved, differs⟩, rfl⟩)
            · rw [same found, given] at gone
              cases gone
            · rw [same found, given] at moved
              exact differs (Option.some.inj moved)
          · exact .inr (.inr ⟨(other, value), ⟨key, earlier, given, kept⟩, rfl⟩)

/-- The differences lead from one version to the other exactly when every value that was not
compared before is still there, and every one that is not compared now was there before and was
not compared then. -/
theorem applied_eq_iff (ours : Compares before old) (theirs : Compares after new)
    (shared : ∀ entry ∈ before, ∀ other ∈ after, entry.2 = other.2 → entry.1 = other.1) :
    applied old new (Prod.snd '' before) = Prod.snd '' after ↔
      (∀ entry ∈ before, old entry.1 ≠ some entry.2 → entry ∈ after) ∧
        ∀ entry ∈ after, new entry.1 ≠ some entry.2 →
          entry ∈ before ∧ old entry.1 ≠ some entry.2 := by
  rw [Set.ext_iff]
  simp only [mem_applied_iff ours]
  constructor
  · intro same
    constructor
    · rintro ⟨key, value⟩ inside shadowed
      obtain ⟨⟨other, held⟩, listed, found⟩ := (same value).mp (.inl ⟨key, inside, shadowed⟩)
      obtain rfl : held = value := found
      obtain rfl : key = other := shared _ inside _ listed rfl
      exact listed
    · rintro ⟨key, value⟩ inside shadowed
      rcases (same value).mpr ⟨_, inside, rfl⟩ with ⟨other, listed, kept⟩ | ⟨other, given⟩
      · obtain rfl : other = key := shared _ listed _ inside rfl
        exact ⟨listed, kept⟩
      · obtain rfl : other = key := theirs.keyed _ (theirs.held _ _ given) _ inside rfl
        exact absurd given shadowed
  · rintro ⟨kept, known⟩ value
    constructor
    · rintro (⟨key, inside, shadowed⟩ | ⟨key, given⟩)
      · exact ⟨_, kept _ inside shadowed, rfl⟩
      · exact ⟨_, theirs.held _ _ given, rfl⟩
    · rintro ⟨⟨key, held⟩, inside, found⟩
      obtain rfl : held = value := found
      by_cases given : new key = some held
      · exact .inr ⟨key, given⟩
      · obtain ⟨listed, shadowed⟩ := known _ inside given
        exact .inl ⟨key, listed, shadowed⟩

end KeyedDiff
