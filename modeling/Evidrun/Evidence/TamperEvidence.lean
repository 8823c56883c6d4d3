import Evidrun.Lib.HashChain
import Evidrun.Evidence.Verify

/-!
# What the last event hash binds

Each event hashes everything it carries but its own hash, the hash of the event
before it included. Under an injective digest the last hash of a chain that the
verifier accepts therefore determines every event of the chain.
-/

namespace Evidrun.Evidence

open JsonText DocumentSchema Evidrun.Contracts Evidrun.Database HashChain

set_option autoImplicit false

def eventHash (event : Json) : String := (event.field "event_hash").asString

/-- The link to the event before; the first event carries none. -/
def previousHash (event : Json) : Option String := strOf event "prev_event_hash"

/-- The event carries the hash of everything else in it. -/
def CarriesItsHash (platform : Platform) (event : Json) : Prop :=
  event.get? "event_hash" = some (.str (sha256Json platform (event.erase "event_hash")))

section

variable {platform : Platform} {runId : String} {event : Json}

/-- An accepted round: the event carries its hash and the link to the state. -/
theorem chainStep_some {sequence : Nat} {state next : ChainState}
    (passed : chainStep platform runId sequence event state = .ok (some next)) :
    CarriesItsHash platform event ∧ event.field "prev_event_hash" = state.previous ∧
      next.previous = event.field "event_hash" := by
  simp only [chainStep, bind_ok, item, orRaise_ok] at passed
  obtain ⟨storedHash, hash, passed⟩ := passed
  split_ifs at passed with envelope
  · simp only [envelopeValid, Bool.and_eq_true, beq_iff_eq] at envelope
    obtain ⟨⟨_, link⟩, sealed⟩ := envelope
    split at passed
    · cases passed
    · split_ifs at passed
      · simp only [Except.ok.injEq, Option.map_eq_some_iff] at passed
        obtain ⟨_, _, rfl⟩ := passed
        rw [field_erase event (by decide)] at link
        exact ⟨by rw [CarriesItsHash, hash, sealed], link, (Json.field_of_get hash).symm⟩
      · cases passed
  · cases passed

theorem CarriesItsHash.field (carries : CarriesItsHash platform event) :
    event.field "event_hash" = .str (eventHash event) := by
  rw [eventHash, Json.field_of_get carries]
  rfl

theorem CarriesItsHash.eventHash (carries : CarriesItsHash platform event) :
    eventHash event = sha256Json platform (event.erase "event_hash") := by
  rw [Evidence.eventHash, Json.field_of_get carries]
  rfl

theorem previousHash_of_field {text : String} (link : event.field "prev_event_hash" = .str text) :
    previousHash event = some text := by
  unfold Json.field at link
  cases found : event.get? "prev_event_hash" with
  | none => simp [found] at link
  | some value =>
      rw [found, Option.getD_some] at link
      rw [previousHash, strOf, found, link]

theorem previousHash_of_null (link : event.field "prev_event_hash" = .null) :
    previousHash event = none := by
  unfold Json.field at link
  cases found : event.get? "prev_event_hash" with
  | none => rw [previousHash, strOf, found]
  | some value =>
      rw [found, Option.getD_some] at link
      rw [previousHash, strOf, found, link]

/-- The events of an accepted chain carry their hashes and are linked, from the
state the replay is in. -/
theorem chainLoop_linked (events : List Json) {sequence : Nat} {state : ChainState}
    (accepted : chainLoop platform runId sequence events state = .ok true) :
    (∀ event ∈ events, CarriesItsHash platform event) ∧
      (∀ event ∈ events.head?, event.field "prev_event_hash" = state.previous) ∧
      events.IsChain fun before after => previousHash after = some (eventHash before) := by
  induction events generalizing sequence state with
  | nil => simp
  | cons event rest ih =>
      simp only [chainLoop, bind_ok] at accepted
      obtain ⟨step, stepped, accepted⟩ := accepted
      cases step with
      | none => cases accepted
      | some next =>
          obtain ⟨carries, link, following⟩ := chainStep_some stepped
          obtain ⟨others, firstLink, linked⟩ := ih accepted
          refine ⟨?_, ?_, ?_⟩
          · intro found member
            rcases List.mem_cons.mp member with rfl | later
            · exact carries
            · exact others found later
          · intro found head
            cases head
            exact link
          · rw [List.isChain_cons]
            refine ⟨?_, linked⟩
            intro second isSecond
            refine previousHash_of_field ?_
            rw [firstLink second isSecond, following, carries.field]

theorem linked_of_chainValid {events : List Json}
    (accepted : chainValid platform runId events = .ok true) :
    (∀ event ∈ events, CarriesItsHash platform event) ∧
      Linked previousHash eventHash events := by
  obtain ⟨carries, first, linked⟩ := chainLoop_linked events accepted
  refine ⟨carries, ⟨?_, linked⟩⟩
  intro event head
  exact previousHash_of_null (first event head)

/-- Events with the same hash are the same dictionary. -/
theorem same_of_eventHash (injective : Function.Injective platform.sha256) {left right : Json}
    (leftDictionary : left.isDictionary = true) (rightDictionary : right.isDictionary = true)
    (leftCarries : CarriesItsHash platform left) (rightCarries : CarriesItsHash platform right)
    (same : eventHash left = eventHash right) : sortKeys left = sortKeys right := by
  have digests := same
  rw [leftCarries.eventHash, rightCarries.eventHash] at digests
  have bodies : sortKeys (left.erase "event_hash") = sortKeys (right.erase "event_hash") :=
    (canonicalJson_eq_iff _ _).mp (injective digests)
  exact sortKeys_eq_of_erase leftDictionary rightDictionary leftCarries rightCarries
    (by rw [digests]) bodies

end

/-- The link does not depend on the order of the keys. -/
theorem previousHash_sortKeys (event : Json) :
    previousHash (sortKeys event) = previousHash event := by
  simp only [previousHash, strOf, get?_sortKeys]
  cases event.get? "prev_event_hash" with
  | none => rfl
  | some link => cases link <;> simp [sortKeys]

namespace Sample

open Evidrun.Database.Sample (digestText)

/-- The digest of a text is the text itself. -/
def legible : Platform := { Database.Sample.platform with sha256 := id }

def queuedPayload : Json :=
  .obj [("admission_digest", .str digestText), ("run_id", .str "run"),
    ("run_spec_digest", .str digestText), ("variant_id", .str "baseline")]

def queuedFields : List (String × Json) :=
  [("actor_id", .str "evidrun"), ("actor_type", .str "system"), ("payload", queuedPayload),
    ("prev_event_hash", .null), ("run_id", .str "run"), ("schema_version", .str "1"),
    ("sequence", .int 1), ("type", .str "run.queued")]

/-- The event that carries these fields and their hash. -/
def queuedEvent (fields : List (String × Json)) : Json :=
  .obj (("event_hash", .str (sha256Json legible (.obj fields))) :: fields)

theorem queuedPayload_conforms : Conforms legible ⟨.runQueued, queuedPayload⟩ := by
  have read : (normalizeEventPayload legible .runQueued queuedPayload) = .ok queuedPayload := by
    decide +kernel
  exact read

theorem queuedEvent_sealed : SealedEvent legible "run" 1 .null (queuedEvent queuedFields) :=
  ⟨rfl, rfl, rfl, rfl, ⟨"system", by decide, rfl⟩, by decide +kernel, rfl,
    ⟨.runQueued, by decide +kernel, queuedPayload_conforms⟩⟩

/-- The same event with its keys in another order. -/
theorem reversedEvent_sealed :
    SealedEvent legible "run" 1 .null (queuedEvent queuedFields.reverse) :=
  ⟨rfl, rfl, rfl, rfl, ⟨"system", by decide, rfl⟩, by decide +kernel, rfl,
    ⟨.runQueued, by decide +kernel, queuedPayload_conforms⟩⟩

/-- The event that opens a Run is a chain by itself. -/
theorem chainValid_queued {event : Json} (sealed : SealedEvent legible "run" 1 .null event)
    (read : factOf? event = some ⟨.runQueued, queuedPayload⟩) :
    chainValid legible "run" [event] = .ok true := by
  have step := @chainStep_sealed legible "run" event .start 1 _ sealed read
  rw [chainValid, chainLoop, step]
  rfl

end Sample

end Evidrun.Evidence
