import Mathlib.Data.List.Sort
import Mathlib.Algebra.Order.Ring.Rat

/-!
# Forensic turn window

The observability page shows the turn around a selected event
(`apps/web/src/features/observability/observabilityModel.ts`): a backward scan for the
invocation that opens it and a forward scan for the response that closes it.
-/

namespace Evidrun.Web

set_option autoImplicit false

/-- The fields of a `RunEvent` that the window reads. -/
structure RunEvent where
  eventId : String
  type : String
  sequence : Rat
  deriving DecidableEq

/-- `String.prototype.localeCompare`, read as "does not come after". -/
structure Collation where
  notAfter : String → String → Bool
  trans : ∀ a b c, notAfter a b → notAfter b c → notAfter a c
  total : ∀ a b, notAfter a b || notAfter b a

def Collation.orders (collation : Collation) (left right : RunEvent) : Bool :=
  left.sequence < right.sequence ||
    (left.sequence == right.sequence && collation.notAfter left.eventId right.eventId)

def sortEvents (collation : Collation) (events : List RunEvent) : List RunEvent :=
  events.mergeSort collation.orders

def Invoked (event : RunEvent) : Prop := event.type = "subject.invoked"

def Responded (event : RunEvent) : Prop := event.type = "subject.responded"

instance (event : RunEvent) : Decidable (Invoked event) := inferInstanceAs (Decidable (_ = _))

instance (event : RunEvent) : Decidable (Responded event) := inferInstanceAs (Decidable (_ = _))

/-- A scan in one direction: how many events it passes before the boundary it looks for. -/
def scan (found stopped : RunEvent → Prop) [DecidablePred found] [DecidablePred stopped] :
    List RunEvent → Option Nat
  | [] => none
  | event :: rest =>
      if found event then some 0
      else if stopped event then none
      else (scan found stopped rest).map (· + 1)

/-- The index of the invocation: a response does not stop the scan at the selected event. -/
def turnStart (ordered : List RunEvent) (selectedIndex : Nat) : Option Nat :=
  if ordered[selectedIndex]?.any (Invoked ·) then some selectedIndex
  else (scan Invoked Responded (ordered.take selectedIndex).reverse).map (selectedIndex - 1 - ·)

/-- The index of the response. -/
def turnEnd (ordered : List RunEvent) (start : Nat) : Option Nat :=
  (scan Responded Invoked (ordered.drop (start + 1))).map (start + 1 + ·)

def getForensicTurnWindow (collation : Collation) (events : List RunEvent)
    (selectedEventId : String) : Option (List RunEvent) := do
  let ordered := sortEvents collation events
  let selectedIndex ← ordered.findIdx? (·.eventId == selectedEventId)
  let start ← turnStart ordered selectedIndex
  let stop ← turnEnd ordered start
  if stop < selectedIndex then none
  else some ((ordered.drop start).take (stop + 1 - start))

/-! ## The segment -/

structure IsTurn (first : RunEvent) (middle : List RunEvent) (last : RunEvent) : Prop where
  opens : Invoked first
  inner : ∀ event ∈ middle, ¬ Responded event ∧ ¬ Invoked event
  closes : Responded last

/-- A turn of the events in sequence order that has the selected event in it. -/
def TurnWindow (events : List RunEvent) (selectedEventId : String) (segment : List RunEvent) :
    Prop :=
  ∃ before first middle last after,
    (before ++ (first :: middle ++ [last]) ++ after).Perm events ∧
    (before ++ (first :: middle ++ [last]) ++ after).Pairwise (·.sequence < ·.sequence) ∧
    IsTurn first middle last ∧ segment = first :: middle ++ [last] ∧
    ∃ event ∈ segment, event.eventId = selectedEventId

theorem Responded.not_invoked {event : RunEvent} (responded : Responded event) :
    ¬ Invoked event := by
  intro invoked
  exact absurd (invoked.symm.trans responded) (by decide)

/-! ## The scans -/

variable {events before after : List RunEvent} {selected : RunEvent}

theorem scan_eq_some {found stopped : RunEvent → Prop} [DecidablePred found] [DecidablePred stopped]
    {passed : Nat} :
    scan found stopped events = some passed ↔
      ∃ skipped event rest, events = skipped ++ event :: rest ∧
        (∀ inner ∈ skipped, ¬ found inner ∧ ¬ stopped inner) ∧ found event ∧
        passed = skipped.length := by
  constructor
  · intro scanned
    induction events generalizing passed with
    | nil => cases scanned
    | cons event rest ih =>
        simp only [scan] at scanned
        split_ifs at scanned with isFound isStopped
        · exact ⟨[], event, rest, rfl, by simp, isFound, (Option.some.inj scanned).symm⟩
        · obtain ⟨later, onward, rfl⟩ := Option.map_eq_some_iff.mp scanned
          obtain ⟨skipped, last, others, rfl, inner, reached, rfl⟩ := ih onward
          exact ⟨event :: skipped, last, others, rfl,
            List.forall_mem_cons.mpr ⟨⟨isFound, isStopped⟩, inner⟩, reached, rfl⟩
  · rintro ⟨skipped, event, rest, rfl, inner, reached, rfl⟩
    induction skipped with
    | nil => simp [scan, reached]
    | cons first skipped ih =>
        obtain ⟨⟨notFound, notStopped⟩, inner⟩ := List.forall_mem_cons.mp inner
        simp [scan, notFound, notStopped, ih inner]

theorem turnStart_split (before : List RunEvent) (selected : RunEvent) (after : List RunEvent) :
    turnStart (before ++ selected :: after) before.length =
      if Invoked selected then some before.length
      else (scan Invoked Responded before.reverse).map (before.length - 1 - ·) := by
  simp [turnStart]

/-- The scan stops at an invocation that is not after the selected event. -/
theorem opened_of_turnStart {start : Nat}
    (opened : turnStart (before ++ selected :: after) before.length = some start) :
    ∃ earlier first later, before ++ selected :: after = earlier ++ first :: later ∧
      Invoked first ∧ earlier.length = start ∧ start ≤ before.length := by
  rw [turnStart_split] at opened
  split_ifs at opened with invoked
  · cases opened
    exact ⟨before, selected, after, rfl, invoked, rfl, le_rfl⟩
  · obtain ⟨passed, scanned, rfl⟩ := Option.map_eq_some_iff.mp opened
    obtain ⟨skipped, first, earlier, reversed, _, opens, rfl⟩ := scan_eq_some.mp scanned
    have split : before = earlier.reverse ++ first :: skipped.reverse := by
      simpa using congrArg List.reverse reversed
    exact ⟨earlier.reverse, first, skipped.reverse ++ selected :: after, by simp [split], opens,
      by simp [split], by simp [split]⟩

theorem slice_turn (earlier middle later : List RunEvent) (first last : RunEvent) :
    ((earlier ++ (first :: middle ++ [last]) ++ later).drop earlier.length).take
      (earlier.length + 1 + middle.length + 1 - earlier.length) = first :: middle ++ [last] := by
  have length : earlier.length + 1 + middle.length + 1 - earlier.length =
      (first :: middle ++ [last]).length := by
    simp
    omega
  rw [List.append_assoc, List.drop_left, length, List.take_left]

/-- What the two scans cut out of the ordered events is a turn around the selected one. -/
theorem turn_of_scans {start stop : Nat}
    (opened : turnStart (before ++ selected :: after) before.length = some start)
    (closed : turnEnd (before ++ selected :: after) start = some stop)
    (reaches : before.length ≤ stop) :
    ∃ earlier first middle last later,
      before ++ selected :: after = earlier ++ (first :: middle ++ [last]) ++ later ∧
      IsTurn first middle last ∧ selected ∈ first :: middle ++ [last] ∧
      ((before ++ selected :: after).drop start).take (stop + 1 - start) =
        first :: middle ++ [last] := by
  obtain ⟨earlier, first, rest, split, opens, rfl, bound⟩ := opened_of_turnStart opened
  have dropped : (earlier ++ first :: rest).drop (earlier.length + 1) = rest := by simp
  rw [split, turnEnd, dropped] at closed
  obtain ⟨passed, scanned, rfl⟩ := Option.map_eq_some_iff.mp closed
  obtain ⟨middle, last, later, rfl, inner, closes, rfl⟩ := scan_eq_some.mp scanned
  have turned : earlier ++ first :: (middle ++ last :: later) =
      earlier ++ (first :: middle ++ [last]) ++ later := by simp
  refine ⟨earlier, first, middle, last, later, split.trans turned, ⟨opens, inner, closes⟩, ?_, ?_⟩
  swap
  · rw [split, turned, slice_turn]
  -- the selected event stands between the two indices
  have found : (before ++ selected :: after)[before.length]? = some selected := by simp
  rw [split, turned, List.append_assoc, List.getElem?_append_right bound,
    List.getElem?_append_left (by simp; omega)] at found
  exact List.mem_of_getElem? found

/-- An event of a turn is the first one, or no boundary lies between it and the first one. -/
theorem IsTurn.reaches {first last : RunEvent} {middle : List RunEvent}
    (turn : IsTurn first middle last) (member : selected ∈ middle ++ [last]) :
    ∃ skipped rest, middle ++ [last] = skipped ++ selected :: rest ∧
      (∀ event ∈ skipped, ¬ Invoked event ∧ ¬ Responded event) ∧ ¬ Invoked selected := by
  rcases List.mem_append.mp member with inside | outer
  · obtain ⟨skipped, rest, rfl⟩ := List.append_of_mem inside
    exact ⟨skipped, rest ++ [last], by simp, fun event seen => (turn.inner event (by simp [seen])).symm,
      (turn.inner selected inside).2⟩
  · cases List.mem_singleton.mp outer
    exact ⟨middle, [], rfl, fun event seen => (turn.inner event seen).symm,
      turn.closes.not_invoked⟩

/-- Both scans find the turn from each of its events. -/
theorem scans_of_turn (earlier later : List RunEvent) {middle : List RunEvent}
    {first last : RunEvent} (turn : IsTurn first middle last)
    (member : selected ∈ first :: middle ++ [last]) :
    ∃ before after, earlier ++ (first :: middle ++ [last]) ++ later = before ++ selected :: after ∧
      turnStart (before ++ selected :: after) before.length = some earlier.length ∧
      before.length ≤ earlier.length + 1 + middle.length := by
  rcases List.mem_cons.mp member with rfl | member
  · exact ⟨earlier, middle ++ [last] ++ later, by simp, by simp [turnStart_split, turn.opens],
      by omega⟩
  · obtain ⟨skipped, rest, split, inner, notInvoked⟩ := turn.reaches member
    refine ⟨earlier ++ first :: skipped, rest ++ later, ?_, ?_, ?_⟩
    · rw [List.cons_append, split]
      simp
    · have scanned : scan Invoked Responded (earlier ++ first :: skipped).reverse =
          some skipped.length :=
        scan_eq_some.mpr ⟨skipped.reverse, first, earlier.reverse, by simp,
          by simpa using inner, turn.opens, by simp⟩
      rw [turnStart_split, if_neg notInvoked, scanned]
      simp
    · have lengths := congrArg List.length split
      simp only [List.length_append, List.length_cons, List.length_nil] at lengths ⊢
      omega

/-! ## The order -/

theorem sortEvents_increasing (collation : Collation)
    (distinct : (events.map RunEvent.sequence).Nodup) :
    (sortEvents collation events).Pairwise (·.sequence < ·.sequence) := by
  have sorted : (sortEvents collation events).Pairwise fun a b => collation.orders a b = true := by
    refine List.pairwise_mergeSort (fun a b c => ?_) (fun a b => ?_) events
    · simp only [Collation.orders, Bool.or_eq_true, decide_eq_true_eq, Bool.and_eq_true,
        beq_iff_eq]
      rintro (below | ⟨same, first⟩) (above | ⟨equal, second⟩)
      · exact Or.inl (below.trans above)
      · exact Or.inl (equal ▸ below)
      · exact Or.inl (same ▸ above)
      · exact Or.inr ⟨same.trans equal, collation.trans _ _ _ first second⟩
    · have total := collation.total a.eventId b.eventId
      simp only [Collation.orders, Bool.or_eq_true, decide_eq_true_eq, Bool.and_eq_true,
        beq_iff_eq] at total ⊢
      rcases lt_trichotomy a.sequence b.sequence with below | same | above
      · exact Or.inl (Or.inl below)
      · exact total.imp (fun first => Or.inr ⟨same, first⟩) fun first => Or.inr ⟨same.symm, first⟩
      · exact Or.inr (Or.inl above)
  have apart : (sortEvents collation events).Pairwise (·.sequence ≠ ·.sequence) :=
    List.pairwise_map.mp (((List.mergeSort_perm events _).map _).nodup_iff.mpr distinct)
  refine sorted.imp₂ (fun a b ordered differ => ?_) apart
  simpa [Collation.orders, differ] using ordered

theorem findIdx?_selected (distinct : ((before ++ selected :: after).map RunEvent.eventId).Nodup) :
    (before ++ selected :: after).findIdx? (·.eventId == selected.eventId) =
      some before.length := by
  have missing : before.findIdx? (·.eventId == selected.eventId) = none := by
    rw [List.findIdx?_eq_none_iff]
    intro event member
    simp only [List.map_append, List.map_cons, List.nodup_append] at distinct
    simpa using distinct.2.2 _ (List.mem_map_of_mem member) _ (List.mem_cons_self ..)
  simp [List.findIdx?_append, missing, List.findIdx?_cons]

theorem split_of_findIdx? {ordered : List RunEvent} {selectedEventId : String} {index : Nat}
    (found : ordered.findIdx? (·.eventId == selectedEventId) = some index) :
    ∃ before selected after, ordered = before ++ selected :: after ∧ before.length = index ∧
      selected.eventId = selectedEventId := by
  obtain ⟨bound, named, _⟩ := List.findIdx?_eq_some_iff_getElem.mp found
  refine ⟨ordered.take index, ordered[index], ordered.drop (index + 1), ?_,
    List.length_take_of_le bound.le, by simpa using named⟩
  rw [← List.drop_eq_getElem_cons bound, List.take_append_drop]

/-- The window is the turn around the selected event, and `null` where there is none. -/
theorem getForensicTurnWindow_eq_some (collation : Collation)
    (ids : (events.map RunEvent.eventId).Nodup) (sequences : (events.map RunEvent.sequence).Nodup)
    (selectedEventId : String) (segment : List RunEvent) :
    getForensicTurnWindow collation events selectedEventId = some segment ↔
      TurnWindow events selectedEventId segment := by
  have perm : (sortEvents collation events).Perm events := List.mergeSort_perm _ _
  have increasing := sortEvents_increasing collation sequences
  unfold getForensicTurnWindow
  constructor
  · intro returned
    simp only [Option.bind_eq_bind, Option.bind_eq_some_iff] at returned
    obtain ⟨index, found, start, opened, stop, closed, sliced⟩ := returned
    split_ifs at sliced with short
    obtain ⟨before, selected, after, ordered, rfl, named⟩ := split_of_findIdx? found
    rw [ordered] at opened closed sliced perm increasing
    obtain ⟨earlier, first, middle, last, later, split, turn, member, cut⟩ :=
      turn_of_scans opened closed (not_lt.mp short)
    rw [split] at perm increasing
    rw [cut] at sliced
    cases sliced
    exact ⟨earlier, first, middle, last, later, perm, increasing, turn, rfl, selected, member,
      named⟩
  · rintro ⟨earlier, first, middle, last, later, same, rising, turn, rfl, selected, member, rfl⟩
    have ordered : sortEvents collation events = earlier ++ (first :: middle ++ [last]) ++ later :=
      (perm.trans same.symm).eq_of_pairwise
        (fun _ _ _ _ below above => absurd below above.asymm) increasing rising
    obtain ⟨before, after, split, opened, reaches⟩ := scans_of_turn earlier later turn member
    have distinct : ((before ++ selected :: after).map RunEvent.eventId).Nodup :=
      split ▸ (same.map RunEvent.eventId).nodup_iff.mpr ids
    have closed : turnEnd (before ++ selected :: after) earlier.length =
        some (earlier.length + 1 + middle.length) :=
      Option.map_eq_some_iff.mpr ⟨middle.length, scan_eq_some.mpr ⟨middle, last, later,
        by rw [← split]; simp, turn.inner, turn.closes, rfl⟩, rfl⟩
    simp only [ordered, split, findIdx?_selected distinct, opened, closed, Option.bind_eq_bind,
      Option.bind_some, if_neg (not_lt.mpr reaches)]
    rw [← split, slice_turn]

/-- The window is the one turn around the selected event, and `null` where there is none. -/
theorem forensic_turn_window_exact (collation : Collation) {events : List RunEvent}
    (ids : (events.map RunEvent.eventId).Nodup) (sequences : (events.map RunEvent.sequence).Nodup)
    (selectedEventId : String) :
    (∀ segment, getForensicTurnWindow collation events selectedEventId = some segment ↔
      TurnWindow events selectedEventId segment) ∧
    ((¬ ∃ segment, TurnWindow events selectedEventId segment) →
      getForensicTurnWindow collation events selectedEventId = none) ∧
    ∀ segment other, TurnWindow events selectedEventId segment →
      TurnWindow events selectedEventId other → segment = other := by
  have exact := getForensicTurnWindow_eq_some collation ids sequences selectedEventId
  refine ⟨exact, fun without => ?_, fun segment other one two => ?_⟩
  · rw [Option.eq_none_iff_forall_ne_some]
    exact fun segment found => without ⟨segment, (exact segment).mp found⟩
  · exact Option.some.inj (((exact segment).mpr one).symm.trans ((exact other).mpr two))

/-- A selected tool call between its invocation and its response, listed out of order. -/
theorem window_of_tool_call :
    getForensicTurnWindow ⟨fun _ _ => true, fun _ _ _ _ _ => rfl, fun _ _ => rfl⟩
      [⟨"c", "subject.responded", 3⟩, ⟨"a", "subject.invoked", 1⟩, ⟨"b", "tool.called", 2⟩] "b" =
      some [⟨"a", "subject.invoked", 1⟩, ⟨"b", "tool.called", 2⟩, ⟨"c", "subject.responded", 3⟩] :=
  ((forensic_turn_window_exact _ (by decide) (by decide) "b").1 _).mpr
    ⟨[], ⟨"a", "subject.invoked", 1⟩, [⟨"b", "tool.called", 2⟩], ⟨"c", "subject.responded", 3⟩, [],
      by decide, by decide, ⟨rfl, by decide, rfl⟩, rfl, ⟨"b", "tool.called", 2⟩, by decide, rfl⟩

end Evidrun.Web
