import Mathlib.Data.List.Forall2
import Mathlib.Data.List.Sort
import Mathlib.Data.List.Nodup

/-!
# Aligned lists

Two lists whose items are related one by one, as the items read and what they were
read as. What the relation tells of single items carries over to the lists.
-/

namespace Aligned

set_option autoImplicit false

variable {Item Other : Type} {related : Item → Other → Prop} {items : List Item}
  {others : List Other}

theorem exists_right (aligned : List.Forall₂ related items others) {item : Item}
    (member : item ∈ items) : ∃ other ∈ others, related item other := by
  induction aligned with
  | nil => simp at member
  | cons head _ ih =>
      rcases List.mem_cons.mp member with rfl | later
      · exact ⟨_, List.mem_cons_self, head⟩
      · obtain ⟨other, inside, holds⟩ := ih later
        exact ⟨other, List.mem_cons_of_mem _ inside, holds⟩

theorem exists_left (aligned : List.Forall₂ related items others) {other : Other}
    (member : other ∈ others) : ∃ item ∈ items, related item other :=
  exists_right aligned.flip member

theorem exists_aligned (each : ∀ item ∈ items, ∃ other, related item other) :
    ∃ others, List.Forall₂ related items others := by
  induction items with
  | nil => exact ⟨[], .nil⟩
  | cons item rest ih =>
      obtain ⟨other, head⟩ := each item List.mem_cons_self
      obtain ⟨others, tail⟩ := ih fun second member => each second (List.mem_cons_of_mem _ member)
      exact ⟨other :: others, .cons head tail⟩

/-- An order of the items is an order of what they are related to. -/
theorem pairwise_right {order : Item → Item → Prop} {goal : Other → Other → Prop}
    (aligned : List.Forall₂ related items others) (ordered : items.Pairwise order)
    (each : ∀ {first second item other}, related first item → related second other →
      order first second → goal item other) : others.Pairwise goal := by
  induction aligned with
  | nil => exact .nil
  | @cons item other items others head rest ih =>
      rw [List.pairwise_cons] at ordered ⊢
      refine ⟨fun second member => ?_, ih ordered.2⟩
      obtain ⟨source, inside, held⟩ := exists_left rest member
      exact each head held (ordered.1 source inside)

theorem nodup_right (aligned : List.Forall₂ related items others) (distinct : items.Nodup)
    (single : ∀ item ∈ items, ∀ second ∈ items, ∀ other, related item other →
      related second other → item = second) : others.Nodup := by
  induction aligned with
  | nil => exact List.nodup_nil
  | @cons item other items others head rest ih =>
      rw [List.nodup_cons] at distinct ⊢
      refine ⟨fun later => ?_, ih distinct.2 fun first inside second insideOther =>
        single first (List.mem_cons_of_mem _ inside) second (List.mem_cons_of_mem _ insideOther)⟩
      obtain ⟨second, inside, holds⟩ := exists_left rest later
      have same := single item List.mem_cons_self second (List.mem_cons_of_mem _ inside) other head
        holds
      exact distinct.1 (same ▸ inside)

theorem mapM_congr {Error Value : Type} {read : Item → Except Error Value}
    {second : Other → Except Error Value}
    (same : List.Forall₂ (fun item other => read item = second other) items others) :
    items.mapM read = others.mapM second := by
  induction same with
  | nil => rfl
  | cons head _ ih => rw [List.mapM_cons, List.mapM_cons, head, ih]

/-- Two lists aligned with a common one have the same image. -/
theorem map_congr {Third Value : Type} {first : Item → Other → Prop} {second : Item → Third → Prop}
    {thirds : List Third} {view : Other → Value} {viewThird : Third → Value}
    (aligned : List.Forall₂ first items others) (alignedThird : List.Forall₂ second items thirds)
    (same : ∀ item ∈ items, ∀ other third, first item other → second item third →
      view other = viewThird third) : others.map view = thirds.map viewThird := by
  induction aligned generalizing thirds with
  | nil =>
      cases alignedThird
      rfl
  | cons head _ ih =>
      cases alignedThird with
      | cons headThird restThird =>
          rw [List.map_cons, List.map_cons, same _ List.mem_cons_self _ _ head headThird,
            ih restThird fun item inside => same item (List.mem_cons_of_mem _ inside)]

theorem pairwise_sorted_key {Key : Type} [LinearOrder Key] (key : Item → Key)
    (items : List Item) :
    (items.insertionSort fun left right => key left ≤ key right).Pairwise fun left right =>
      key left ≤ key right := by
  have total : Std.Total fun left right : Item => key left ≤ key right :=
    ⟨fun left right => le_total (key left) (key right)⟩
  have trans : IsTrans Item fun left right => key left ≤ key right :=
    ⟨fun _ _ _ first second => le_trans first second⟩
  exact List.pairwise_insertionSort _ items

end Aligned
