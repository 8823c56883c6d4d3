import Mathlib.Data.List.AList
import Mathlib.Data.Finset.Sort
import Mathlib.Data.List.Lex
import Mathlib.Data.String.Basic
import Mathlib.Logic.Relation
import Mathlib.Order.Antisymmetrization
import Mathlib.Algebra.BigOperators.Group.Finset.Basic
import Mathlib.Algebra.Order.BigOperators.Group.Finset
import Mathlib.Algebra.Ring.Nat

/-!
# Import cycles

`cycles` of the dependency report is Tarjan's algorithm on two explicit stacks. The invariant of
the search is stated over the nodes of the frames and the edges that their cursors have not passed;
a turn of the loop enters a node, passes an edge, leaves a node, or closes a component.
-/

namespace Evidrun.Scripts

set_option autoImplicit false

open Relation

variable {Node : Type} [LinearOrder Node]

/-! ## The graph -/

/-- A dictionary of successor sets. -/
abbrev Adjacency (Node : Type) := AList fun _ : Node => Finset Node

/-- `adjacent.get(node, ())`. -/
def successors (adjacent : Adjacency Node) (node : Node) : Finset Node :=
  (adjacent.lookup node).getD ∅

/-- Deduplicated successor sets, with self-loops dropped. -/
def adjacency (edges : List (Node × Node)) : Adjacency Node :=
  edges.foldl (fun targets edge =>
    if edge.1 ≠ edge.2 then targets.insert edge.1 (insert edge.2 (successors targets edge.1))
    else targets) ∅

/-- The nodes the outer loop starts from: the keys and the successors. -/
def nodes (adjacent : Adjacency Node) : Finset Node :=
  adjacent.keys.toFinset ∪ (adjacent.entries.map Sigma.snd).foldr (· ∪ ·) ∅

/-! ## The search -/

structure Frame (Node : Type) where
  node : Node
  successors : List Node
  cursor : Nat

/-- What the walk keeps. Both stacks have their top first. -/
structure Search (Node : Type) where
  index : Node → Option Nat
  lowlink : Node → Option Nat
  onStack : Finset Node
  componentStack : List Node
  found : List (List Node)
  counter : Nat
  work : List (Frame Node)

def initial : Search Node := ⟨fun _ => none, fun _ => none, ∅, [], [], 0, []⟩

/-- A node gets the next number and goes on both stacks. -/
def enter (adjacent : Adjacency Node) (search : Search Node) (node : Node) : Search Node :=
  { search with
    index := Function.update search.index node (some search.counter)
    lowlink := Function.update search.lowlink node (some search.counter)
    counter := search.counter + 1
    componentStack := node :: search.componentStack
    onStack := insert node search.onStack
    work := ⟨node, (successors adjacent node).sort, 0⟩ :: search.work }

/-- Pops members up to and with the node; an empty stack raises. -/
def popComponent (node : Node) : List Node → Finset Node →
    Option (List Node × List Node × Finset Node)
  | [], _ => none
  | member :: rest, onStack =>
      if member = node then some ([member], rest, onStack.erase member)
      else (popComponent node rest (onStack.erase member)).map fun (component, popped) =>
        (member :: component, popped)

def setLow (search : Search Node) (node : Node) (low : Nat) : Search Node :=
  { search with lowlink := Function.update search.lowlink node (some low) }

/-- `lowlink[node] = min(lowlink[node], bound)`, where a missing entry raises. -/
def lower (search : Search Node) (node : Node) (bound : Nat) : Option (Search Node) := do
  let low ← search.lowlink node
  some (setLow search node (min low bound))

/-- Keeps a popped component, sorted, when it is larger than one node. -/
def settle (search : Search Node) (component stack : List Node) (onStack : Finset Node) :
    Search Node :=
  { search with
    componentStack := stack
    onStack := onStack
    found := if 1 < component.length then search.found ++ [component.mergeSort (· ≤ ·)]
      else search.found }

/-- Pops the component of a node that is its root. -/
def close (search : Search Node) (node : Node) : Option (Search Node) := do
  let low ← search.lowlink node
  let number ← search.index node
  if low = number then do
    let (component, stack, onStack) ← popComponent node search.componentStack search.onStack
    some (settle search component stack onStack)
  else some search

/-- One turn of the loop on the top frame. -/
def turn (adjacent : Adjacency Node) (search : Search Node) (top : Frame Node)
    (rest : List (Frame Node)) : Option (Search Node) :=
  match top.successors[top.cursor]? with
  | some successor =>
      let moved := { search with work := { top with cursor := top.cursor + 1 } :: rest }
      match search.index successor with
      | none => some (enter adjacent moved successor)
      | some number =>
          if successor ∈ search.onStack then lower moved top.node number else some moved
  | none => do
      let popped := { search with work := rest }
      let passed ← match rest with
        | [] => some popped
        | parent :: _ => (search.lowlink top.node).bind (lower popped parent.node)
      close passed top.node

/-- The inner loop, with a bound on its turns. -/
def walk (adjacent : Adjacency Node) : Nat → Search Node → Option (Search Node)
  | 0, _ => none
  | fuel + 1, search =>
      match search.work with
      | [] => some search
      | top :: rest => (turn adjacent search top rest).bind (walk adjacent fuel)

/-- Every node is entered and left once and every edge passed once. -/
def turns (adjacent : Adjacency Node) : Nat :=
  ∑ node ∈ nodes adjacent, ((successors adjacent node).card + 1)

/-- Strongly connected components larger than one node, sorted. -/
def cycles (adjacent : Adjacency Node) : Option (List (List Node)) := do
  let search ← (nodes adjacent).sort.foldlM (fun search start =>
    if (search.index start).isSome then some search
    else walk adjacent (turns adjacent + 1) (enter adjacent search start)) initial
  some (search.found.mergeSort (· ≤ ·))

/-! ## Edges and components -/

abbrev Edge (adjacent : Adjacency Node) (source target : Node) : Prop :=
  target ∈ successors adjacent source

abbrev Reach (adjacent : Adjacency Node) : Node → Node → Prop := ReflTransGen (Edge adjacent)

theorem successors_insert (adjacent : Adjacency Node) (source : Node) (targets : Finset Node)
    (node : Node) : successors (adjacent.insert source targets) node =
      if node = source then targets else successors adjacent node := by
  by_cases same : node = source
  · subst same
    simp [successors]
  · simp [successors, same, AList.lookup_insert_ne same]

theorem edge_adjacency {edges : List (Node × Node)} {source target : Node} :
    Edge (adjacency edges) source target ↔ (source, target) ∈ edges ∧ source ≠ target := by
  have build : ∀ start : Adjacency Node,
      Edge (edges.foldl (fun targets edge =>
        if edge.1 ≠ edge.2 then targets.insert edge.1 (insert edge.2 (successors targets edge.1))
        else targets) start) source target ↔
      Edge start source target ∨ (source, target) ∈ edges ∧ source ≠ target := by
    induction edges with
    | nil => simp
    | cons edge rest ih =>
        intro start
        rw [List.foldl_cons, ih, List.mem_cons, Prod.ext_iff]
        by_cases loop : edge.1 = edge.2
        · rw [if_neg (not_not_intro loop)]
          grind
        · rw [if_pos loop, Edge, successors_insert]
          grind
  rw [adjacency, build ∅]
  simp [Edge, successors]

theorem nodes_of_edge {adjacent : Adjacency Node} {source target : Node}
    (edge : Edge adjacent source target) : source ∈ nodes adjacent ∧ target ∈ nodes adjacent := by
  unfold Edge successors at edge
  cases found : adjacent.lookup source with
  | none => simp [found] at edge
  | some targets =>
      have entry := AList.mem_lookup_iff.mp found
      have inside : ∀ sets : List (Finset Node), targets ∈ sets →
          target ∈ sets.foldr (· ∪ ·) ∅ := by
        intro sets member
        induction sets with
        | nil => simp at member
        | cons set rest ih =>
            rcases List.mem_cons.mp member with rfl | later
            · simp [show target ∈ targets by simpa [found] using edge]
            · simp [ih later]
      refine ⟨Finset.mem_union_left _ (List.mem_toFinset.mpr ?_),
        Finset.mem_union_right _ (inside _ (List.mem_map_of_mem entry))⟩
      exact AList.mem_keys.mp (AList.lookup_isSome.mp (by simp [found]))

/-! ## The invariant -/

namespace Search

def number (search : Search Node) (node : Node) : Nat := (search.index node).getD 0

def low (search : Search Node) (node : Node) : Nat := (search.lowlink node).getD 0

/-- Numbered, with its component popped. -/
def Closed (search : Search Node) (node : Node) : Prop :=
  (search.index node).isSome ∧ node ∉ search.componentStack

end Search

/-- A walk whose frames are those of the path, top first, with the pending edges ahead of their
cursors. -/
structure Walk (adjacent : Adjacency Node) (search : Search Node) (path : List Node)
    (pending : Node → Node → Prop) : Prop where
  numbers : ∀ node number, search.index node = some number → number < search.counter
  linked : ∀ node, (search.index node).isSome → (search.lowlink node).isSome
  flagged : ∀ node, node ∈ search.onStack ↔ node ∈ search.componentStack
  numbered : ∀ node ∈ search.componentStack, (search.index node).isSome
  ordered : search.componentStack.Pairwise fun above below =>
    search.number below < search.number above
  stacked : ∀ node ∈ path, node ∈ search.componentStack
  nested : path.Pairwise fun above below => search.number below < search.number above
  /-- A node reaches those above it on the stack, -/
  upward : ∀ x ∈ search.componentStack, ∀ y ∈ search.componentStack,
    search.number x ≤ search.number y → Reach adjacent x y
  /-- and a node of the path at its place or below. -/
  returns : ∀ x ∈ search.componentStack, ∃ node ∈ path,
    search.number node ≤ search.number x ∧ Reach adjacent x node
  /-- A low link is the number of a node that is reached, -/
  attained : ∀ node ∈ path, search.low node ≤ search.number node ∧
    ∃ x ∈ search.componentStack, search.low node = search.number x ∧ Reach adjacent node x
  /-- and an edge that was passed and leads below a node of the path is in a low link. -/
  passed : ∀ x ∈ search.componentStack, ∀ y, Edge adjacent x y → ¬ pending x y →
    (search.index y).isSome ∧ (y ∈ search.componentStack → ∀ node ∈ path,
      search.number node ≤ search.number x → search.number y < search.number node →
        ∃ inner ∈ path, search.number node ≤ search.number inner ∧
          search.number inner ≤ search.number x ∧ search.low inner ≤ search.number y)
  closed : ∀ x y, search.Closed x → Edge adjacent x y → search.Closed y
  components : ∀ component ∈ search.found, component.Pairwise (· < ·) ∧ 1 < component.length ∧
    (∃ x, ∀ y, y ∈ component ↔ AntisymmRel (Reach adjacent) x y) ∧
    ∀ x ∈ component, search.Closed x
  complete : ∀ x y, search.Closed x → x ≠ y → AntisymmRel (Reach adjacent) x y →
    ∃ component ∈ search.found, x ∈ component
  once : search.found.Nodup

namespace Walk

variable {adjacent : Adjacency Node} {search : Search Node} {path : List Node}
  {pending pending' : Node → Node → Prop} {node : Node}

omit [LinearOrder Node] in
theorem number_eq {number : Nat} (known : search.index node = some number) :
    search.number node = number := by simp [Search.number, known]

theorem index_of_stacked (walk : Walk adjacent search path pending)
    (member : node ∈ search.componentStack) : search.index node = some (search.number node) := by
  obtain ⟨number, known⟩ := Option.isSome_iff_exists.mp (walk.numbered node member)
  rw [known, number_eq known]

theorem lowlink_of_stacked (walk : Walk adjacent search path pending)
    (member : node ∈ search.componentStack) : search.lowlink node = some (search.low node) := by
  obtain ⟨low, known⟩ := Option.isSome_iff_exists.mp
    (walk.linked node (walk.numbered node member))
  rw [known, Search.low, known, Option.getD_some]

/-- The pending edges may be overestimated. -/
theorem mono (walk : Walk adjacent search path pending)
    (wider : ∀ x y, Edge adjacent x y → pending x y → pending' x y) :
    Walk adjacent search path pending' :=
  { walk with passed := fun x member y edge gone =>
      walk.passed x member y edge (gone ∘ wider x y edge) }

/-- A fresh node goes on the path with all its edges ahead. -/
theorem enter (walk : Walk adjacent search path pending) (fresh : search.index node = none)
    (from_top : ∀ parent ∈ path.head?, Edge adjacent parent node)
    (own : ∀ y, Edge adjacent node y → pending' node y)
    (wider : ∀ x y, pending x y → y ≠ node → pending' x y) :
    Walk adjacent (Scripts.enter adjacent search node) (node :: path) pending' := by
  have numbered := walk.numbered
  have stacked := walk.stacked
  have apart : ∀ x ∈ search.componentStack, x ≠ node := by grind
  have below : ∀ x ∈ search.componentStack, search.number x < search.counter := fun x member =>
    walk.numbers x _ (walk.index_of_stacked member)
  let entered := Scripts.enter adjacent search node
  have stack_eq : entered.componentStack = node :: search.componentStack := rfl
  have index_own : entered.index node = some search.counter := Function.update_self ..
  have index_ne : ∀ x, x ≠ node → entered.index x = search.index x := fun x other =>
    Function.update_of_ne other _ _
  have low_own : entered.low node = search.counter := by simp [Search.low, entered, Scripts.enter]
  have low_ne : ∀ x, x ≠ node → entered.low x = search.low x := fun x other => by
    simp [Search.low, entered, Scripts.enter, other]
  have number_own : entered.number node = search.counter := by rw [Search.number, index_own]; rfl
  have number_ne : ∀ x, x ≠ node → entered.number x = search.number x := fun x other => by
    rw [Search.number, index_ne x other, Search.number]
  have closed_iff : ∀ x, entered.Closed x ↔ search.Closed x := by
    grind [Search.Closed]
  have stays := @ReflTransGen.refl Node (Edge adjacent) node
  -- Every node of the stack reaches the top of the path and with it the new node.
  have reaches : ∀ x ∈ search.componentStack, Reach adjacent x node := by
    intro x member
    obtain ⟨grey, on_path, _, back⟩ := walk.returns x member
    cases path with
    | nil => simp at on_path
    | cons parent rest =>
        have lower : search.number grey ≤ search.number parent := by
          rcases List.mem_cons.mp on_path with rfl | later
          · exact le_rfl
          · exact (List.rel_of_pairwise_cons walk.nested later).le
        exact (back.trans (walk.upward grey (walk.stacked _ on_path) parent
          (walk.stacked _ (List.mem_cons_self ..)) lower)).tail (from_top parent rfl)
  exact {
    numbers := fun x number known => by
      have counted : (Scripts.enter adjacent search node).counter = search.counter + 1 := rfl
      by_cases same : x = node
      · grind
      · exact Nat.lt_succ_of_lt (walk.numbers x number (index_ne x same ▸ known))
    linked := fun x known => by
      by_cases same : x = node
      · simp [Scripts.enter, same]
      · simpa [Scripts.enter, same] using walk.linked x (index_ne x same ▸ known)
    flagged := fun x => by simp [Scripts.enter, walk.flagged]
    numbered := by grind
    ordered := List.pairwise_cons.mpr ⟨by grind, walk.ordered.imp_of_mem (by grind)⟩
    stacked := by grind
    nested := List.pairwise_cons.mpr ⟨by grind, walk.nested.imp_of_mem (by grind)⟩
    upward := by grind [walk.upward]
    returns := by grind [walk.returns]
    attained := List.forall_mem_cons.mpr ⟨by grind, fun x old => by
      obtain ⟨le, low, on_stack, same, reach⟩ := walk.attained x old
      exact ⟨by grind, low, by grind⟩⟩
    passed := by grind [walk.passed]
    closed := by grind [walk.closed]
    components := fun component member => by
      obtain ⟨sorted, size, whole, shut⟩ := walk.components component member
      exact ⟨sorted, size, whole, fun x inside => (closed_iff x).mpr (shut x inside)⟩
    complete := fun x y shut => walk.complete x y ((closed_iff x).mp shut)
    once := walk.once }

/-- The low link of a node on the path takes the number of a node that it reaches. -/
theorem lower (walk : Walk adjacent search path pending) (on_path : node ∈ path) {x : Node}
    (on_stack : x ∈ search.componentStack) (reach : Reach adjacent node x) :
    ∃ lowered, Scripts.lower search node (search.number x) = some lowered ∧
      Walk adjacent lowered path pending ∧ lowered.work = search.work ∧
      lowered.index = search.index ∧ lowered.componentStack = search.componentStack ∧
      lowered.low node ≤ search.number x ∧ ∀ y, y ≠ node → lowered.low y = search.low y := by
  let low := min (search.low node) (search.number x)
  have low_own : (setLow search node low).low node = low := by simp [Search.low, setLow]
  have low_old : ∀ y, y ≠ node → (setLow search node low).low y = search.low y :=
    fun y other => by simp [Search.low, setLow, other]
  refine ⟨setLow search node low, ?_, ?_, rfl, rfl, rfl, low_own.trans_le (min_le_right ..),
    low_old⟩
  · rw [Scripts.lower, walk.lowlink_of_stacked (walk.stacked node on_path)]
    rfl
  · exact { walk with
      linked := fun y known => by
        by_cases same : y = node
        · simp [setLow, same]
        · simpa [setLow, same] using walk.linked y known
      attained := fun y member => by
        by_cases same : y = node
        · subst same
          obtain ⟨le, old, on_old, attains, back⟩ := walk.attained y member
          rw [low_own]
          refine ⟨(min_le_left ..).trans le, ?_⟩
          rcases min_choice (search.low y) (search.number x) with left | right
          · exact ⟨old, on_old, left.trans attains, back⟩
          · exact ⟨x, on_stack, right, reach⟩
        · rw [low_old y same]
          exact walk.attained y member
      passed := fun y member z edge gone => by
        obtain ⟨known, bounded⟩ := walk.passed y member z edge gone
        refine ⟨known, fun stacked v on_v le less => ?_⟩
        obtain ⟨inner, on_inner, first, second, third⟩ := bounded stacked v on_v le less
        refine ⟨inner, on_inner, first, second, ?_⟩
        by_cases same : inner = node
        · subst same
          rw [low_own]
          exact (min_le_left ..).trans third
        · rwa [low_old inner same] }

/-- The cursor of the top frame passes an edge whose target is numbered. -/
theorem pass (walk : Walk adjacent search (node :: path) pending) {y : Node}
    (known : (search.index y).isSome)
    (bounded : y ∈ search.componentStack → search.low node ≤ search.number y)
    (wider : ∀ x z, pending x z → pending' x z ∨ x = node ∧ z = y) :
    Walk adjacent search (node :: path) pending' :=
  { walk with
    passed := fun x member z edge gone => by
      by_cases ahead : pending x z
      · obtain ⟨rfl, rfl⟩ := (wider x z ahead).resolve_left gone
        exact ⟨known, fun on_stack v _ le _ =>
          ⟨x, List.mem_cons_self .., le, le_rfl, bounded on_stack⟩⟩
      · exact walk.passed x member z edge ahead }

/-- A node with a lower low link leaves the path once its parent has that low link. -/
theorem leave (walk : Walk adjacent search (node :: path) pending)
    (deeper : search.low node ≠ search.number node)
    (propagated : ∀ parent ∈ path.head?, search.low parent ≤ search.low node) :
    Walk adjacent search path pending := by
  have own := walk.stacked node (List.mem_cons_self ..)
  obtain ⟨le, x, on_stack, attains, reach⟩ := walk.attained node (List.mem_cons_self ..)
  -- Behind the low link is a node of the path below the one that leaves.
  have below : ∀ y ∈ search.componentStack, ∃ grey ∈ path,
      search.number grey ≤ search.number y ∧ Reach adjacent y grey := by
    intro y member
    obtain ⟨grey, on_path, lower, back⟩ := walk.returns y member
    rcases List.mem_cons.mp on_path with rfl | later
    · obtain ⟨root, on_root, under, home⟩ := walk.returns x on_stack
      have shallow : search.number root < search.number grey := by omega
      rcases List.mem_cons.mp on_root with rfl | later
      · exact absurd shallow (lt_irrefl _)
      · exact ⟨root, later, by omega, (back.trans reach).trans home⟩
    · exact ⟨grey, later, lower, back⟩
  exact { walk with
    stacked := fun y member => walk.stacked y (List.mem_cons_of_mem _ member)
    nested := walk.nested.of_cons
    returns := below
    attained := fun y member => walk.attained y (List.mem_cons_of_mem _ member)
    passed := fun y member z edge gone => by
      obtain ⟨known, bounded⟩ := walk.passed y member z edge gone
      refine ⟨known, fun stacked v on_v le less => ?_⟩
      obtain ⟨inner, on_inner, first, second, third⟩ :=
        bounded stacked v (List.mem_cons_of_mem _ on_v) le less
      rcases List.mem_cons.mp on_inner with rfl | later
      · cases path with
        | nil => simp at on_v
        | cons parent rest =>
            have nested := List.rel_of_pairwise_cons walk.nested (List.mem_cons_self ..)
            refine ⟨parent, List.mem_cons_self .., ?_, by omega, (propagated parent rfl).trans third⟩
            rcases List.mem_cons.mp on_v with rfl | older
            · exact le_rfl
            · exact (List.rel_of_pairwise_cons walk.nested.of_cons older).le
      · exact ⟨inner, later, first, second, third⟩ }

end Walk

/-- What is popped with a node on the stack. -/
theorem popComponent_of_mem {node : Node} {stack : List Node} (member : node ∈ stack) :
    ∃ front rest, stack = front ++ node :: rest ∧ ∀ onStack, popComponent node stack onStack =
      some (front ++ [node], rest, onStack \ (front ++ [node]).toFinset) := by
  induction stack with
  | nil => simp at member
  | cons first later ih =>
      by_cases same : first = node
      · subst same
        exact ⟨[], later, rfl, fun onStack => by
          simp [popComponent, Finset.sdiff_singleton_eq_erase]⟩
      · obtain ⟨front, rest, rfl, popped⟩ :=
          ih ((List.mem_cons.mp member).resolve_left (Ne.symm same))
        refine ⟨first :: front, rest, rfl, fun onStack => ?_⟩
        rw [popComponent, if_neg same, popped]
        simp only [Option.map_some, List.cons_append, List.toFinset_cons, Finset.erase_sdiff_comm,
          Finset.sdiff_insert]

namespace Walk

variable {adjacent : Adjacency Node} {search : Search Node} {path : List Node}
  {pending : Node → Node → Prop} {node : Node}

theorem below_top (walk : Walk adjacent search (node :: path) pending) {x : Node}
    (member : x ∈ path) : search.number x < search.number node :=
  List.rel_of_pairwise_cons walk.nested member

theorem closed_of_reach (walk : Walk adjacent search path pending) {x y : Node}
    (shut : search.Closed x) (reach : Reach adjacent x y) : search.Closed y := by
  induction reach with
  | refl => exact shut
  | tail _ edge ih => exact walk.closed _ _ ih edge

/-- An edge from above a root stays there or leads to a closed node. -/
theorem edge_above (walk : Walk adjacent search (node :: path) pending)
    (root : search.low node = search.number node) (onPath : ∀ x y, pending x y → x ∈ path)
    {x y : Node} (on_stack : x ∈ search.componentStack)
    (above : search.number node ≤ search.number x) (edge : Edge adjacent x y) :
    y ∈ search.componentStack ∧ search.number node ≤ search.number y ∨ search.Closed y := by
  obtain ⟨known, bounded⟩ := walk.passed x on_stack y edge fun ahead =>
    absurd (walk.below_top (onPath x y ahead)) (Nat.not_lt.mpr above)
  by_cases stacked : y ∈ search.componentStack
  · refine .inl ⟨stacked, ?_⟩
    by_contra less
    obtain ⟨inner, on_inner, first, _, third⟩ :=
      bounded stacked node (List.mem_cons_self ..) above (Nat.not_le.mp less)
    rcases List.mem_cons.mp on_inner with rfl | later
    · omega
    · exact absurd (walk.below_top later) (Nat.not_lt.mpr first)
  · exact .inr ⟨known, stacked⟩

/-- The nodes from a root upward are its component. -/
theorem component_iff (walk : Walk adjacent search (node :: path) pending)
    (root : search.low node = search.number node) (onPath : ∀ x y, pending x y → x ∈ path)
    (y : Node) : AntisymmRel (Reach adjacent) node y ↔
      y ∈ search.componentStack ∧ search.number node ≤ search.number y := by
  have own := walk.stacked node (List.mem_cons_self ..)
  constructor
  · rintro ⟨there, back⟩
    have above : y ∈ search.componentStack ∧ search.number node ≤ search.number y ∨
        search.Closed y := by
      clear back
      induction there with
      | refl => exact .inl ⟨own, le_rfl⟩
      | tail _ edge ih =>
          rcases ih with ⟨on_stack, le⟩ | shut
          · exact walk.edge_above root onPath on_stack le edge
          · exact .inr (walk.closed _ _ shut edge)
    refine above.resolve_right fun shut => ?_
    exact (walk.closed_of_reach shut back).2 own
  · rintro ⟨on_stack, le⟩
    obtain ⟨grey, on_path, _, back⟩ := walk.returns y on_stack
    have lower : search.number grey ≤ search.number node := by
      rcases List.mem_cons.mp on_path with rfl | later
      · exact le_rfl
      · exact (walk.below_top later).le
    exact ⟨walk.upward node own y on_stack le,
      back.trans (walk.upward grey (walk.stacked grey on_path) node own lower)⟩

/-- A root is closed with its component. -/
theorem close_root (walk : Walk adjacent search (node :: path) pending)
    (root : search.low node = search.number node) (onPath : ∀ x y, pending x y → x ∈ path)
    {front rest : List Node} (split : search.componentStack = front ++ node :: rest) :
    Walk adjacent (settle search (front ++ [node]) rest
      (search.onStack \ (front ++ [node]).toFinset)) path pending := by
  have own := walk.stacked node (List.mem_cons_self ..)
  have ordered := walk.ordered
  rw [split, List.pairwise_append, List.pairwise_cons] at ordered
  obtain ⟨_, ⟨lower, ordered⟩, higher⟩ := ordered
  have remains : ∀ x, x ∈ rest ↔ x ∈ search.componentStack ∧ search.number x < search.number node := by
    intro x
    rw [split, List.mem_append, List.mem_cons]
    constructor
    · exact fun member => ⟨.inr (.inr member), lower x member⟩
    · rintro ⟨member | rfl | member, less⟩
      · exact absurd (higher x member node (List.mem_cons_self ..)) less.asymm
      · exact absurd less (lt_irrefl _)
      · exact member
  have inside : ∀ x, x ∈ front ++ [node] ↔
      x ∈ search.componentStack ∧ search.number node ≤ search.number x := by
    intro x
    rw [split, List.mem_append, List.mem_append, List.mem_singleton, List.mem_cons]
    constructor
    · rintro (member | rfl)
      · exact ⟨.inl member, (higher x member node (List.mem_cons_self ..)).le⟩
      · exact ⟨.inr (.inl rfl), le_rfl⟩
    · rintro ⟨member | rfl | member, le⟩
      · exact .inl member
      · exact .inr rfl
      · exact absurd (lower x member) (Nat.not_lt.mpr le)
  have component := fun y => (walk.component_iff root onPath y).trans (inside y).symm
  have stays : ∀ x, x ∈ rest → x ∈ search.componentStack := fun x member => ((remains x).mp member).1
  let settled := settle search (front ++ [node]) rest
    (search.onStack \ (front ++ [node]).toFinset)
  have closed_iff : ∀ x, settled.Closed x ↔ search.Closed x ∨ x ∈ front ++ [node] := by
    intro x
    have known := walk.numbered x
    have order : ¬ search.number node ≤ search.number x ↔ search.number x < search.number node :=
      Nat.not_le
    have here := remains x
    have gone := inside x
    unfold Search.Closed settled settle
    tauto
  have found_iff : ∀ found, found ∈ settled.found ↔ found ∈ search.found ∨
      1 < (front ++ [node]).length ∧ found = (front ++ [node]).mergeSort (· ≤ ·) := by
    grind [settle]
  have sorted : ((front ++ [node]).mergeSort (· ≤ ·)).Pairwise (· < ·) := by
    have distinct : search.componentStack.Nodup := walk.ordered.imp fun less same =>
      absurd (congrArg search.number same) less.ne'
    rw [split, List.append_cons] at distinct
    have weak := List.pairwise_mergeSort' (fun x y : Node => x ≤ y) (front ++ [node])
    exact (weak.and ((List.mergeSort_perm _ _).nodup_iff.mpr distinct.of_append_left)).imp
      fun both => lt_of_le_of_ne both.1 both.2
  exact {
    numbers := walk.numbers
    linked := walk.linked
    flagged := fun x => by
      rw [settle, Finset.mem_sdiff, List.mem_toFinset, walk.flagged, inside, remains, ← Nat.not_le]
      tauto
    numbered := fun x member => walk.numbered x (stays x member)
    ordered := ordered
    stacked := fun x member => (remains x).mpr
      ⟨walk.stacked x (List.mem_cons_of_mem _ member), walk.below_top member⟩
    nested := walk.nested.of_cons
    upward := fun x first y second => walk.upward x (stays x first) y (stays y second)
    returns := fun x member => by
      obtain ⟨on_stack, less⟩ := (remains x).mp member
      obtain ⟨grey, on_path, le, back⟩ := walk.returns x on_stack
      exact ⟨grey, by grind, le, back⟩
    attained := fun x member => by
      obtain ⟨le, y, on_stack, attains, reach⟩ := walk.attained x (List.mem_cons_of_mem _ member)
      exact ⟨le, y, (remains y).mpr ⟨on_stack, (attains ▸ le).trans_lt (walk.below_top member)⟩,
        attains, reach⟩
    passed := fun x member y edge gone => by
      obtain ⟨on_stack, less⟩ := (remains x).mp member
      obtain ⟨known, bounded⟩ := walk.passed x on_stack y edge gone
      refine ⟨known, fun stacked v on_v le under => ?_⟩
      obtain ⟨inner, on_inner, first, second, third⟩ :=
        bounded (stays y stacked) v (List.mem_cons_of_mem _ on_v) le under
      exact ⟨inner, by grind, first, second, third⟩
    closed := by grind [walk.closed, walk.edge_above]
    components := fun found member => by
      rcases (found_iff found).mp member with earlier | ⟨large, rfl⟩
      · obtain ⟨sorted, size, whole, shut⟩ := walk.components found earlier
        exact ⟨sorted, size, whole, fun x inside => (closed_iff x).mpr (.inl (shut x inside))⟩
      · exact ⟨sorted, by rwa [List.length_mergeSort],
          ⟨node, fun y => List.mem_mergeSort.trans (component y).symm⟩,
          fun x inside => (closed_iff x).mpr (.inr (List.mem_mergeSort.mp inside))⟩
    complete := fun x y shut different mutual_ => by
      rcases (closed_iff x).mp shut with old | member
      · grind [walk.complete]
      · have first := (component x).mpr member
        have other := (component y).mp ⟨first.1.trans mutual_.1, mutual_.2.trans first.2⟩
        have large : 1 < (front ++ [node]).length := by
          by_contra small
          have alone : front = [] := by simpa using small
          simp only [alone, List.nil_append, List.mem_singleton] at member other
          exact different (member.trans other.symm)
        exact ⟨_, (found_iff _).mpr (.inr ⟨large, rfl⟩), List.mem_mergeSort.mpr member⟩
    once := by
      have absent : (front ++ [node]).mergeSort (· ≤ ·) ∉ search.found := fun earlier =>
        ((walk.components _ earlier).2.2.2 node (by simp)).2 own
      grind [walk.once, settle] }

/-- The top node leaves the path, with its component when it is a root. -/
theorem close (walk : Walk adjacent search (node :: path) pending)
    (onPath : ∀ x y, pending x y → x ∈ path)
    (propagated : ∀ parent ∈ path.head?, search.low parent ≤ search.low node) :
    ∃ left, Scripts.close search node = some left ∧ Walk adjacent left path pending ∧
      left.work = search.work ∧ left.index = search.index := by
  have own := walk.stacked node (List.mem_cons_self ..)
  rw [Scripts.close, walk.lowlink_of_stacked own, walk.index_of_stacked own]
  by_cases root : search.low node = search.number node
  · obtain ⟨front, rest, split, popped⟩ := popComponent_of_mem own
    exact ⟨_, by simp [root, popped], walk.close_root root onPath split, rfl, rfl⟩
  · exact ⟨search, by simp [root], walk.leave root propagated, rfl, rfl⟩

end Walk

/-! ## The loops -/

namespace Search

variable (adjacent : Adjacency Node) (search : Search Node)

/-- The edge is ahead of the cursor of a frame. -/
def Pending (work : List (Frame Node)) (x y : Node) : Prop :=
  ∃ frame ∈ work, frame.node = x ∧ y ∈ frame.successors.drop frame.cursor

/-- The walk of the frames of the loop. -/
structure Running : Prop where
  walk : Walk adjacent search (search.work.map Frame.node) (Pending search.work)
  edges : ∀ frame ∈ search.work, ∀ y ∈ frame.successors, Edge adjacent frame.node y

/-- How many turns are left: edges ahead, nodes to leave, and those of the nodes to come. -/
def remaining : Nat :=
  (search.work.map fun frame => (frame.successors.drop frame.cursor).length + 1).sum +
    ∑ node ∈ nodes adjacent with search.index node = none, ((successors adjacent node).card + 1)

/-- What a turn leaves: a walk with fewer turns to come, and no number lost. -/
structure Advances (next : Search Node) : Prop where
  running : next.Running adjacent
  fewer : next.remaining adjacent < search.remaining adjacent
  kept : ∀ node, (search.index node).isSome → (next.index node).isSome

end Search

open Search

variable {adjacent : Adjacency Node} {search : Search Node}

theorem remaining_enter {node : Node} (fresh : search.index node = none)
    (known : node ∈ nodes adjacent) :
    (enter adjacent search node).remaining adjacent = search.remaining adjacent := by
  have others : {other ∈ nodes adjacent | (enter adjacent search node).index other = none} =
      {other ∈ nodes adjacent | search.index other = none}.erase node := by
    ext other
    rw [Finset.mem_erase, Finset.mem_filter, Finset.mem_filter]
    by_cases same : other = node
    · simp [enter, same]
    · simp [enter, same]
  have own := Finset.add_sum_erase {other ∈ nodes adjacent | search.index other = none}
    (fun node => (successors adjacent node).card + 1) (Finset.mem_filter.mpr ⟨known, fresh⟩)
  rw [remaining, others, remaining, ← own]
  simp only [enter, List.map_cons, List.sum_cons, List.drop_zero, Finset.length_sort]
  omega

theorem walk_reframe {path : List Node} {pending : Node → Node → Prop}
    (walk : Walk adjacent search path pending) (work : List (Frame Node)) :
    Walk adjacent { search with work := work } path pending := { walk with }

/-- The fresh node of a turn, or of the outer loop where no frame is left. -/
theorem Search.Running.enter {work : List (Frame Node)} {node : Node}
    (running : search.Running adjacent) (fresh : search.index node = none)
    (same : work.map Frame.node = search.work.map Frame.node)
    (edges : ∀ frame ∈ work, ∀ y ∈ frame.successors, Edge adjacent frame.node y)
    (from_top : ∀ parent ∈ (work.map Frame.node).head?, Edge adjacent parent node)
    (wider : ∀ x y, Pending search.work x y → y ≠ node → Pending work x y) :
    (Scripts.enter adjacent { search with work := work } node).Running adjacent := by
  refine ⟨?_, fun frame member => ?_⟩
  · have moved : Walk adjacent { search with work := work } (work.map Frame.node)
        (Pending search.work) := same ▸ walk_reframe running.walk work
    refine moved.enter fresh from_top (fun y edge => ?_) fun x y ahead other => ?_
    · exact ⟨_, List.mem_cons_self .., rfl, by simpa using edge⟩
    · obtain ⟨frame, member, rest⟩ := wider x y ahead other
      exact ⟨frame, List.mem_cons_of_mem _ member, rest⟩
  · rcases List.mem_cons.mp member with rfl | old
    · simp
    · exact edges frame old

/-- The cursor of the top frame moves over an edge. -/
structure Moves (search : Search Node) (top : Frame Node) (rest : List (Frame Node))
    (successor : Node) : Prop where
  frames : search.work = top :: rest
  next : top.successors[top.cursor]? = some successor

namespace Moves

variable {top : Frame Node} {rest : List (Frame Node)} {successor : Node}

omit [LinearOrder Node] in
theorem drop_eq (moves : Moves search top rest successor) :
    top.successors.drop top.cursor = successor :: top.successors.drop (top.cursor + 1) := by
  obtain ⟨inside, rfl⟩ := List.getElem?_eq_some_iff.mp moves.next
  exact List.drop_eq_getElem_cons inside

omit [LinearOrder Node] in
theorem pending (moves : Moves search top rest successor) {x y : Node}
    (ahead : Pending search.work x y) :
    Pending ({ top with cursor := top.cursor + 1 } :: rest) x y ∨
      x = top.node ∧ y = successor := by
  obtain ⟨frame, member, rfl, later⟩ := ahead
  rw [moves.frames] at member
  rcases List.mem_cons.mp member with rfl | old
  · rw [moves.drop_eq] at later
    rcases List.mem_cons.mp later with rfl | further
    · exact .inr ⟨rfl, rfl⟩
    · exact .inl ⟨_, List.mem_cons_self .., rfl, further⟩
  · exact .inl ⟨frame, List.mem_cons_of_mem _ old, rfl, later⟩

theorem remaining (moves : Moves search top rest successor) :
    ({ search with work := { top with cursor := top.cursor + 1 } :: rest } : Search Node).remaining
      adjacent < search.remaining adjacent := by
  simp only [Search.remaining, moves.frames, List.map_cons, List.sum_cons, moves.drop_eq,
    List.length_cons]
  omega

/-- The frames of the moved search have the edges and nodes of the old ones. -/
theorem edges (moves : Moves search top rest successor) (running : search.Running adjacent) :
    ∀ frame ∈ { top with cursor := top.cursor + 1 } :: rest, ∀ y ∈ frame.successors,
      Edge adjacent frame.node y := by
  intro frame member
  rcases List.mem_cons.mp member with rfl | old
  · exact running.edges top (moves.frames ▸ List.mem_cons_self ..)
  · exact running.edges frame (moves.frames ▸ List.mem_cons_of_mem _ old)

theorem edge (moves : Moves search top rest successor) (running : search.Running adjacent) :
    Edge adjacent top.node successor :=
  running.edges top (moves.frames ▸ List.mem_cons_self ..) successor
    (List.mem_of_getElem? moves.next)

/-- A turn that passes an edge. -/
theorem turn (moves : Moves search top rest successor) (running : search.Running adjacent) :
    ∃ next, Scripts.turn adjacent search top rest = some next ∧ Advances adjacent search next := by
  have walk := running.walk
  rw [moves.frames, List.map_cons, ← moves.frames] at walk
  have own := walk.stacked top.node (List.mem_cons_self ..)
  have edge := moves.edge running
  have step : Scripts.turn adjacent search top rest = match search.index successor with
      | none => some (Scripts.enter adjacent
          { search with work := { top with cursor := top.cursor + 1 } :: rest } successor)
      | some number => if successor ∈ search.onStack
          then lower { search with work := { top with cursor := top.cursor + 1 } :: rest }
            top.node number
          else some { search with work := { top with cursor := top.cursor + 1 } :: rest } := by
    rw [Scripts.turn, moves.next]
  rw [step]
  cases known : search.index successor with
  | none =>
      refine ⟨_, rfl, running.enter known (by simp [moves.frames]) (moves.edges running)
        (by simpa using edge) fun x y ahead other =>
          (moves.pending ahead).resolve_right fun same => other same.2, ?_, fun node some => ?_⟩
      · refine lt_of_eq_of_lt ?_ moves.remaining
        exact remaining_enter known (nodes_of_edge edge).2
      · by_cases same : node = successor
        · simp [Scripts.enter, same]
        · simpa [Scripts.enter, same] using some
  | some number =>
      have numbered : search.number successor = number := Walk.number_eq known
      have moved := walk_reframe walk ({ top with cursor := top.cursor + 1 } :: rest)
      by_cases stacked : successor ∈ search.onStack
      · obtain ⟨lowered, same, walk, work, index, stack, low, _⟩ := moved.lower
          (List.mem_cons_self ..) ((moved.flagged successor).mp stacked) (.single edge)
        have number_same : lowered.number successor = search.number successor := by
          rw [Search.number, index, Search.number]
        refine ⟨lowered, ?_, ⟨?_, ?_⟩, ?_, fun node some => index ▸ some⟩
        · exact (if_pos stacked).trans (numbered ▸ same)
        · rw [work]
          exact walk.pass (by rw [index, known]; rfl) (fun _ => number_same ▸ low)
            fun _ _ => moves.pending
        · rw [work]
          exact moves.edges running
        · refine lt_of_eq_of_lt ?_ moves.remaining
          rw [Search.remaining, Search.remaining, work, index]
      · refine ⟨_, if_neg stacked, ⟨?_, moves.edges running⟩, moves.remaining, fun _ => id⟩
        exact moved.pass (by rw [known]; rfl)
          (fun inside => absurd ((moved.flagged successor).mpr inside) stacked)
          fun _ _ => moves.pending

end Moves

/-- A turn that leaves the top node. -/
theorem turn_leaves {top : Frame Node} {rest : List (Frame Node)}
    (running : search.Running adjacent) (frames : search.work = top :: rest)
    (exhausted : top.successors[top.cursor]? = none) :
    ∃ next, turn adjacent search top rest = some next ∧ Advances adjacent search next := by
  have ahead : top.successors.drop top.cursor = [] :=
    List.drop_eq_nil_of_le (List.getElem?_eq_none_iff.mp exhausted)
  have walk : Walk adjacent { search with work := rest } (top.node :: rest.map Frame.node)
      (Pending rest) := by
    have old := walk_reframe running.walk rest
    rw [frames, List.map_cons] at old
    refine old.mono fun x y _ => ?_
    rintro ⟨frame, member, same, later⟩
    rcases List.mem_cons.mp member with rfl | old
    · simp [ahead] at later
    · exact ⟨frame, old, same, later⟩
  have onPath : ∀ x y, Pending rest x y → x ∈ rest.map Frame.node := by
    rintro x y ⟨frame, member, rfl, _⟩
    exact List.mem_map_of_mem member
  have edges : ∀ frame ∈ rest, ∀ y ∈ frame.successors, Edge adjacent frame.node y :=
    fun frame member => running.edges frame (frames ▸ List.mem_cons_of_mem _ member)
  have fewer : ∀ left : Search Node, left.work = rest → left.index = search.index →
      left.remaining adjacent < search.remaining adjacent := by
    intro left work index
    simp only [remaining, work, index, frames, List.map_cons, List.sum_cons]
    omega
  -- What is left once the parent, if there is one, has the low link.
  have finish : ∀ passed : Search Node, Walk adjacent passed (top.node :: rest.map Frame.node)
      (Pending rest) → passed.work = rest → passed.index = search.index →
      (∀ parent ∈ (rest.map Frame.node).head?, passed.low parent ≤ passed.low top.node) →
      ∃ next, close passed top.node = some next ∧ Advances adjacent search next := by
    intro passed walk work index propagated
    obtain ⟨left, closed, walk, same, kept⟩ := walk.close onPath propagated
    rw [work] at same
    rw [index] at kept
    exact ⟨left, closed, ⟨same.symm ▸ walk, same.symm ▸ edges⟩, fewer left same kept,
      fun node some => kept.symm ▸ some⟩
  rw [turn, exhausted]
  cases rest with
  | nil => exact finish _ walk rfl rfl (by simp)
  | cons parent below =>
      have own := walk.stacked top.node (List.mem_cons_self ..)
      have on_path : parent.node ∈ top.node :: (parent :: below).map Frame.node := by simp
      obtain ⟨_, x, on_stack, attains, reach⟩ := walk.attained top.node (List.mem_cons_self ..)
      have nested := walk.below_top (List.mem_cons_self ..)
      obtain ⟨lowered, same, lowered_walk, work, index, _, low, kept⟩ := walk.lower on_path on_stack
        ((walk.upward _ (walk.stacked _ on_path) _ own nested.le).trans reach)
      have other : top.node ≠ parent.node := fun same => absurd (same ▸ nested) (lt_irrefl _)
      obtain ⟨next, closed, rest⟩ := finish lowered lowered_walk work index fun node head => by
        cases Option.some.inj head
        exact (low.trans_eq attains.symm).trans_eq (kept _ other).symm
      refine ⟨next, ?_, rest⟩
      have link : search.lowlink top.node = some (search.low top.node) :=
        walk.lowlink_of_stacked own
      have propagates : lower { search with work := parent :: below } parent.node
          (search.low top.node) = some lowered := attains ▸ same
      simpa [link, propagates] using closed

/-- The inner loop ends within its bound and leaves no frame. -/
theorem walk_ends (running : search.Running adjacent) {fuel : Nat}
    (enough : search.remaining adjacent < fuel) :
    ∃ ended, walk adjacent fuel search = some ended ∧ ended.Running adjacent ∧ ended.work = [] ∧
      ∀ node, (search.index node).isSome → (ended.index node).isSome := by
  induction fuel generalizing search with
  | zero => exact absurd enough (Nat.not_lt_zero _)
  | succ fuel ih =>
      rw [walk]
      cases frames : search.work with
      | nil => exact ⟨search, rfl, running, frames, fun _ => id⟩
      | cons top rest =>
          have step : ∃ next, turn adjacent search top rest = some next ∧
              Advances adjacent search next := by
            cases next : top.successors[top.cursor]? with
            | none => exact turn_leaves running frames next
            | some successor => exact Moves.turn ⟨frames, next⟩ running
          obtain ⟨next, turned, running, fewer, kept⟩ := step
          obtain ⟨ended, walked, rest⟩ := ih running (by omega)
          refine ⟨ended, ?_, rest.1, rest.2.1, fun node known => rest.2.2 node (kept node known)⟩
          simpa [turned] using walked

/-- The outer loop numbers every node and leaves no frame. -/
theorem starts_end (starts : List Node) (known : ∀ start ∈ starts, start ∈ nodes adjacent)
    (running : search.Running adjacent) (idle : search.work = []) :
    ∃ ended, starts.foldlM (fun search start =>
        if (search.index start).isSome then some search
        else walk adjacent (turns adjacent + 1) (enter adjacent search start)) search =
          some ended ∧ ended.Running adjacent ∧ ended.work = [] ∧
      (∀ node, (search.index node).isSome → (ended.index node).isSome) ∧
      ∀ start ∈ starts, (ended.index start).isSome := by
  induction starts generalizing search with
  | nil => exact ⟨search, rfl, running, idle, fun _ => id, by simp⟩
  | cons start rest ih =>
      have later := fun node member => known node (List.mem_cons_of_mem _ member)
      -- Either way the start is numbered before the next one is tried.
      have step : ∃ next, (if (search.index start).isSome then some search
          else walk adjacent (turns adjacent + 1) (enter adjacent search start)) = some next ∧
          next.Running adjacent ∧ next.work = [] ∧
          (∀ node, (search.index node).isSome → (next.index node).isSome) ∧
          (next.index start).isSome := by
        split_ifs with numbered
        · exact ⟨search, rfl, running, idle, fun _ => id, numbered⟩
        · have fresh : search.index start = none := by simpa using numbered
          have entered : (enter adjacent search start).Running adjacent :=
            running.enter fresh rfl running.edges (by simp [idle]) fun _ _ ahead _ => ahead
          have bound : (enter adjacent search start).remaining adjacent < turns adjacent + 1 := by
            rw [remaining_enter fresh (known start (List.mem_cons_self ..)), remaining, idle, turns]
            simpa using Nat.lt_succ_of_le
              (Finset.sum_le_sum_of_subset (Finset.filter_subset _ (nodes adjacent)))
          obtain ⟨next, walked, running, idle, kept⟩ := walk_ends entered bound
          refine ⟨next, walked, running, idle, fun node some => kept node ?_, kept start ?_⟩
          · by_cases same : node = start
            · simp [enter, same]
            · simpa [enter, same] using some
          · simp [enter]
      obtain ⟨next, stepped, running, idle, kept, own⟩ := step
      obtain ⟨ended, folded, running, idle, still, others⟩ := ih later running idle
      refine ⟨ended, ?_, running, idle, fun node some => still node (kept node some), ?_⟩
      · rw [List.foldlM_cons, stepped]
        exact folded
      · intro node member
        rcases List.mem_cons.mp member with rfl | old
        · exact still node own
        · exact others node old

theorem running_initial : (initial : Search Node).Running adjacent := by
  refine ⟨?_, by simp [initial]⟩
  constructor <;> simp [initial, Search.Closed]

/-! ## Exactness -/

/-- Two nodes of one strongly connected component. -/
def Connected (edges : List (Node × Node)) : Node → Node → Prop :=
  AntisymmRel (ReflTransGen fun source target => (source, target) ∈ edges)

/-- Dropping the self-loops changes no path. -/
theorem connected_iff (edges : List (Node × Node)) (x y : Node) :
    AntisymmRel (Reach (adjacency edges)) x y ↔ Connected edges x y := by
  have same : Reach (adjacency edges) = ReflTransGen fun x y => (x, y) ∈ edges := by
    ext x y
    constructor
    · refine ReflTransGen.mono (r := Edge (adjacency edges)) (fun source target edge => ?_) x y
      exact (edge_adjacency.mp edge).1
    · intro path
      induction path with
      | refl => exact .refl
      | @tail middle target _ edge ih =>
          by_cases loop : middle = target
          · exact loop ▸ ih
          · exact ih.tail (edge_adjacency.mpr ⟨edge, loop⟩)
  rw [Connected, same]

/-- `cycles` returns the components larger than one node, each once, sorted and in order. -/
theorem cycles_exact (edges : List (Node × Node)) :
    ∃ found, cycles (adjacency edges) = some found ∧ found.Pairwise (· < ·) ∧
      ∀ component, component ∈ found ↔ component.Pairwise (· < ·) ∧ 1 < component.length ∧
        ∃ x, ∀ y, y ∈ component ↔ Connected edges x y := by
  obtain ⟨ended, folded, running, idle, _, numbered⟩ := starts_end
    (nodes (adjacency edges)).sort (fun start => (Finset.mem_sort _).mp) running_initial rfl
  have walk := running.walk
  rw [idle] at walk
  have shut : ∀ node ∈ nodes (adjacency edges), ended.Closed node := by
    refine fun node known => ⟨numbered node (by simpa using known), fun stacked => ?_⟩
    obtain ⟨_, on_path, _⟩ := walk.returns node stacked
    simp at on_path
  refine ⟨ended.found.mergeSort (· ≤ ·), by rw [cycles, folded]; rfl, ?_, fun component => ?_⟩
  · have weak := List.pairwise_mergeSort' (fun x y : List Node => x ≤ y) ended.found
    exact (weak.and ((List.mergeSort_perm _ _).nodup_iff.mpr walk.once)).imp
      fun both => lt_of_le_of_ne both.1 both.2
  · rw [List.mem_mergeSort]
    constructor
    · intro member
      obtain ⟨sorted, size, ⟨x, whole⟩, _⟩ := walk.components component member
      exact ⟨sorted, size, x, fun y => (whole y).trans (connected_iff edges x y)⟩
    · rintro ⟨sorted, size, x, whole⟩
      -- Two members have a path between them, so they are nodes and their component was found.
      obtain ⟨a, b, rest, rfl⟩ : ∃ a b rest, component = a :: b :: rest := by
        match component, size with
        | a :: b :: rest, _ => exact ⟨a, b, rest, rfl⟩
      have different : a ≠ b := (List.rel_of_pairwise_cons sorted (List.mem_cons_self ..)).ne
      have first := (connected_iff edges x a).mpr ((whole a).mp (by simp))
      have second := (connected_iff edges x b).mpr ((whole b).mp (by simp))
      have between : AntisymmRel (Reach (adjacency edges)) a b :=
        ⟨first.2.trans second.1, second.2.trans first.1⟩
      have known : a ∈ nodes (adjacency edges) := by
        obtain rfl | ⟨_, edge, _⟩ := between.1.cases_head
        · exact absurd rfl different
        · exact (nodes_of_edge edge).1
      obtain ⟨component, member, inside⟩ := walk.complete a b (shut a known) different between
      obtain ⟨ordered, _, ⟨z, own⟩, _⟩ := walk.components component member
      have home := (own a).mp inside
      have same : component = a :: b :: rest := ordered.eq_of_mem_iff sorted fun y => by
        rw [own, whole, ← connected_iff]
        exact ⟨fun there => ⟨(first.1.trans home.2).trans there.1,
            (there.2.trans home.1).trans first.2⟩,
          fun there => ⟨(home.1.trans first.2).trans there.1, (there.2.trans first.1).trans home.2⟩⟩
      exact same ▸ member

end Evidrun.Scripts
