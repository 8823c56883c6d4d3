import Mathlib.Data.List.Chain
import Mathlib.Data.List.Sort
import Mathlib.Data.List.Range

/-!
# Hash chains

A log whose entries carry their position and the hash of the entry before them.
A chain grows at its end only, so the predicate is built the way the log is
written; the lemmas read it back from the start.
-/

namespace HashChain

set_option autoImplicit false

variable {Entry Hash : Type}
variable (position : Entry → Nat) (previous : Entry → Option Hash) (hash : Entry → Hash)

inductive Chained : List Entry → Prop
  | nil : Chained []
  | snoc {entries : List Entry} {next : Entry} (chained : Chained entries)
      (placed : position next = entries.length + 1)
      (linked : previous next = entries.getLast?.map hash) : Chained (entries ++ [next])

variable {position previous hash}

variable {entries : List Entry}

theorem Chained.positions (chained : Chained position previous hash entries) :
    entries.map position = List.range' 1 entries.length := by
  induction chained with
  | nil => rfl
  | snoc _ placed _ ih =>
      simp only [List.map_append, List.map_cons, List.map_nil, List.length_append,
        List.length_cons, List.length_nil, Nat.zero_add, List.range'_concat, Nat.one_mul]
      rw [ih, placed, Nat.add_comm 1]

/-- Reading a chain in order of position gives back the chain. -/
theorem Chained.sorted (chained : Chained position previous hash entries) :
    entries.insertionSort (fun left right => position left ≤ position right) = entries := by
  refine List.Pairwise.insertionSort_eq ?_
  have increasing : (entries.map position).Pairwise (· ≤ ·) := by
    rw [chained.positions]
    exact List.pairwise_le_range'
  exact List.pairwise_map.mp increasing

theorem Chained.first_unlinked (chained : Chained position previous hash entries) (first : Entry)
    (head : entries.head? = some first) : previous first = none := by
  induction chained with
  | nil => simp at head
  | @snoc before next _ _ linked ih =>
      cases before with
      | nil =>
          simp only [List.nil_append, List.head?_cons, Option.some.injEq] at head
          rw [← head, linked]
          rfl
      | cons start rest => exact ih (by simpa using head)

theorem Chained.linked (chained : Chained position previous hash entries) :
    entries.IsChain fun before after => previous after = some (hash before) := by
  induction chained with
  | nil => exact List.isChain_nil
  | snoc _ _ linked ih =>
      rw [List.isChain_append]
      refine ⟨ih, List.isChain_singleton _, ?_⟩
      intro last isLast next isNext
      simp only [List.head?_cons, Option.mem_def, Option.some.injEq] at isNext
      rw [← isNext, linked, Option.mem_def.mp isLast]
      rfl

/-- The position that follows the last entry is the next free one. -/
theorem Chained.last_position (chained : Chained position previous hash entries) (last : Entry)
    (isLast : entries.getLast? = some last) : position last = entries.length := by
  cases chained with
  | nil => simp at isLast
  | snoc _ placed _ =>
      simp only [List.getLast?_append, List.getLast?_singleton, Option.some_or,
        Option.some.injEq] at isLast
      rw [← isLast, placed]
      simp

/-! ## What the last hash binds -/

/-- The first entry has no link, every other one carries the hash before it. -/
structure Linked (previous : Entry → Option Hash) (hash : Entry → Hash) (entries : List Entry) :
    Prop where
  first : ∀ entry ∈ entries.head?, previous entry = none
  rest : entries.IsChain fun before after => previous after = some (hash before)

theorem Linked.last {before : List Entry} {last : Entry}
    (linked : Linked previous hash (before ++ [last])) :
    previous last = before.getLast?.map hash := by
  cases tail : before.getLast? with
  | none =>
      rw [List.getLast?_eq_none_iff] at tail
      subst tail
      exact linked.first last rfl
  | some entry => exact (List.isChain_append.mp linked.rest).2.2 entry tail last rfl

theorem Linked.before {before : List Entry} {last : Entry}
    (linked : Linked previous hash (before ++ [last])) : Linked previous hash before where
  first entry head := linked.first entry (by
    cases before with
    | nil => simp at head
    | cons first rest => exact head)
  rest := (List.isChain_append.mp linked.rest).1

/-- Where a hash determines its entry, the last hash determines the whole log. -/
theorem Linked.eq_of_last_hash {Same : Entry → Entry → Prop} {left right : List Entry}
    (linkedLeft : Linked previous hash left) (linkedRight : Linked previous hash right)
    (binding : ∀ entry ∈ left, ∀ other ∈ right, hash entry = hash other →
      Same entry other ∧ previous entry = previous other)
    (last : left.getLast?.map hash = right.getLast?.map hash) : List.Forall₂ Same left right := by
  induction left using List.reverseRecOn generalizing right with
  | nil =>
      have empty : right = [] := by simpa using last.symm
      rw [empty]
      exact List.Forall₂.nil
  | append_singleton before entry ih =>
      rcases List.eq_nil_or_concat right with rfl | ⟨earlier, other, rfl⟩
      · simp at last
      simp only [List.concat_eq_append] at *
      have hashes : hash entry = hash other := by simpa using last
      obtain ⟨same, links⟩ := binding entry (by simp) other (by simp) hashes
      rw [linkedLeft.last, linkedRight.last] at links
      have front := ih linkedLeft.before linkedRight.before
        (fun entry member other inside =>
          binding entry (List.mem_append_left _ member) other (List.mem_append_left _ inside))
        links
      exact List.rel_append front (List.Forall₂.cons same List.Forall₂.nil)

end HashChain
