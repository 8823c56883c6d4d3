import Evidrun.Contracts.Envelope
import Evidrun.Database.History
import Evidrun.Evidence.DocumentReads

/-!
# Capability offers

Preparing a Run appends one `capability.offered` event for each capability of the
envelope. The payload is normalized before it is stored, which removes an empty
list of permissions. The check of the ledger and the check of the bundle each
build what they expect from the admission, without that step.
-/

namespace Evidrun.Evidence

open JsonText DocumentSchema Evidrun.Contracts Evidrun.Database
open SubjectEnvelopeCompiler

set_option autoImplicit false

/-! ## The check of the bundle -/

/-- What the check reads of the Run of a bundle. -/
structure RunCore (platform : Platform) where
  spec : RunSpec platform
  admission : AdmissionRecord platform
  events : List Json

/-- `[event["payload"] for event in events if event["type"] == kind]`. -/
def payloadsOf (kind : String) : List Json → Except ReadError (List Json)
  | [] => .ok []
  | event :: rest => do
      if (← subscript event "type") = .str kind then
        let payload ← subscript event "payload"
        .ok (payload :: (← payloadsOf kind rest))
      else payloadsOf kind rest

/-- `[event for event in events if event["type"] == kind]`. -/
def eventsOfType (kind : String) : List Json → Except ReadError (List Json)
  | [] => .ok []
  | event :: rest => do
      let here ← subscript event "type"
      let others ← eventsOfType kind rest
      .ok (if here = .str kind then event :: others else others)

def expectedOffer (capability : Json) : Json :=
  .obj [("capability_ref", dropEmpty (capability.field "resolved_ref")),
    ("required", capability.field "required"), ("exposure", capability.field "exposure"),
    ("effective_permissions", .arr (capability.items "effective_permissions"))]

section Core

variable {platform : Platform} (core : RunCore platform)

def expectedOffers : List String :=
  ((effectiveCapabilities core.admission.dump).filter fun capability =>
    isSet capability "resolved_ref").map fun capability => canonicalJson (expectedOffer capability)

def offersValid (hasSubject : Bool) : Except ReadError Bool := do
  let actual := (← payloadsOf "capability.offered" core.events).map canonicalJson
  let expected := if hasSubject then expectedOffers core else []
  .ok (decide actual.Nodup && sameSet actual expected)

def expectedInvocation : List (String × Json) :=
  let inventory := core.admission.dump.field "resolved_inventory"
  [("runner", (inventory.field "runner_ref").field "name"),
    ("network", ((core.spec.dump.field "workspace").field "network_policy").field "mode")] ++
    ["provider_profile_id", "provider_model", "provider_reasoning_effort",
      "provider_adapter"].map fun name => (name, inventory.field name)

def invocationsValid : Except ReadError Bool := do
  match ← eventsOfType "subject.invoked" core.events with
  | [] => .ok true
  | [event] => match ← subscript event "payload" with
      | .obj fields => .ok ((expectedInvocation core).all fun (key, value) =>
          (Json.obj fields).field key == value)
      | _ => .error (.attributeError "get")
  | _ => .ok false

def admissionBindingValid (hasSubject : Bool) : Except ReadError Bool := do
  let offers ← offersValid core hasSubject
  let invocations ← invocationsValid core
  .ok (offers && invocations)

end Core

/-! ## What is stored of an offer -/

/-- The payload of an offer as it is stored. -/
def offer (capability : Json) : Json :=
  .obj (present [("capability_ref", some (capability.field "resolved_ref")),
    ("effective_permissions",
      if capability.items "effective_permissions" = [] then none
      else some (.arr (capability.items "effective_permissions"))),
    ("exposure", some (capability.field "exposure")),
    ("required", some (capability.field "required"))])

@[simp] theorem field_offer (capability : Json) :
    (offer capability).field "capability_ref" = capability.field "resolved_ref" := rfl

section Capability

variable {platform : Platform} {admission : AdmissionRecord platform} {capability : Json}
  (member : capability ∈ effectiveCapabilities admission.dump)

include member

theorem resolvedRef_stable :
    capability.field "resolved_ref" ≠ .null ∧
      validate platform.coercion capabilityDescriptorRef (capability.field "resolved_ref") =
        .ok (capability.field "resolved_ref") := by
  have formed := wellFormed_resolvedCapability platform.coercion
  have stable := capability_stable member
  obtain ⟨_, dumped, _, shape, _, checked⟩ := validate_model stable
  rw [← shape] at checked
  have status := (List.mem_filter.mp member).2
  simp only [validateResolution, raiseIf_bind_ok, status, Bool.true_and, Bool.or_eq_false_iff,
    Bool.not_eq_false'] at checked
  have given : capability.field "resolved_ref" ≠ .null := by
    simpa [isSet] using checked.1.1.1
  exact ⟨given, ((field_source formed stable
    (show optional "resolved_ref" capabilityDescriptorRef ∈ _ by simp)).resolve_left
      fun unset => given unset.1).2.2⟩

theorem dropEmpty_resolvedRef :
    dropEmpty (capability.field "resolved_ref") = capability.field "resolved_ref" :=
  dropEmpty_scalar_model (wellFormed_capabilityDescriptorRef platform.coercion)
    (resolvedRef_stable member).2 (by simp [required, nonEmptyStr, Contracts.digest])

/-- The payload that is appended is normalized to the offer. -/
theorem normalize_offered :
    normalizeEventPayload platform .capabilityOffered (offeredRequest capability).payload =
      .ok (offer capability) := by
  have formed := wellFormed_resolvedCapability platform.coercion
  have stable := capability_stable member
  obtain ⟨given, refStable⟩ := resolvedRef_stable member
  have permissions := items_source formed stable
    (show tuple "effective_permissions" nonEmptyStr ∈ _ by simp)
  have shown := field_stable formed stable (show required "exposure" exposure ∈ _ by simp) (by simp)
  have needed := field_stable formed stable (show required "required" boolean ∈ _ by simp) (by simp)
  have read : validate platform.coercion capabilityOfferedPayload (offeredRequest capability).payload =
      .ok (.obj [("capability_ref", capability.field "resolved_ref"),
        ("effective_permissions", .arr (capability.items "effective_permissions")),
        ("exposure", capability.field "exposure"), ("required", capability.field "required")]) := by
    let kept (name : String) := some (capability.field name)
    let listed := some (Json.arr (capability.items "effective_permissions"))
    refine validate_given [("capability_ref", kept "resolved_ref", kept "resolved_ref"),
      ("effective_permissions", listed, listed), ("exposure", kept "exposure", kept "exposure"),
      ("required", kept "required", kept "required")] rfl ?_ ?_ rfl
    · exact .cons ⟨rfl, reads_value given refStable _⟩ <|
        .cons ⟨rfl, reads_items permissions _⟩ <|
        .cons ⟨rfl, kept_field formed stable (show required "exposure" exposure ∈ _ by simp)
          (by simp)⟩ <|
        .cons ⟨rfl, kept_field formed stable (show required "required" boolean ∈ _ by simp)
          (by simp)⟩ .nil
    · intro value member
      simp only [List.mem_cons, List.not_mem_nil, or_false] at member
      obtain rfl | rfl | rfl | rfl := member <;> rfl
  have listed : keep (.arr (capability.items "effective_permissions")) =
      if capability.items "effective_permissions" = [] then none
      else some (.arr (capability.items "effective_permissions")) := by
    rw [keep, dropEmpty_scalar_items fun item inside => isScalar_of_stable (permissions item inside)]
    cases capability.items "effective_permissions" <;> simp [isEmpty]
  have referred : keep (capability.field "resolved_ref") =
      some (capability.field "resolved_ref") := by
    have filled := (@durable_capabilityDescriptorRef platform.coercion).2 _ _ refStable
    rw [keep, dropEmpty_resolvedRef member] at *
    simp [given, filled]
  rw [normalizeEventPayload, DocumentSchema.normalize, show EventType.payloadModel .capabilityOffered =
    capabilityOfferedPayload from rfl, read]
  simp only [Except.map, dropEmpty, dropEmptyFields_cons, listed, referred,
    keep_of_isScalar _ (isScalar_of_stable shown), keep_of_isScalar _ (isScalar_of_stable needed)]
  simp only [offer, present_cons]
  rfl

/-- The bundle expects the offer that is stored, if it carries permissions. -/
theorem canonicalJson_expectedOffer (given : capability.items "effective_permissions" ≠ []) :
    canonicalJson (expectedOffer capability) = canonicalJson (offer capability) := by
  rw [canonicalJson_eq_iff, expectedOffer, dropEmpty_resolvedRef member, offer, if_neg given]
  simp [sortKeys, sortKeysFields, insertField, present]

theorem offer_ordered : (offer capability).ordered = true :=
  normalizeEventPayload_ordered platform _ _ _ (normalize_offered member)

end Capability

/-! ## The check of the ledger -/

/-- The Run's admission row holds this admission. -/
def HoldsAdmission (platform : Platform) (store : Store) (run : RunRow)
    (admission : AdmissionRecord platform) : Prop :=
  ∃ id row, run.admissionId = some id ∧ store.admission? id = some row ∧
    row.recordJson = .write admission.semanticDocument

theorem readAdmission_stored {platform : Platform} {admission : AdmissionRecord platform}
    {row : AdmissionRecordRow} (stored : row.recordJson = .write admission.semanticDocument) :
    readAdmission platform row = .ok admission.dump := by
  have formed := wellFormed_admissionRecord platform.coercion
  have ordered : admission.semanticDocument.ordered = true :=
    dropEmpty_ordered _ (validate_ordered formed admission.valid)
  have read : AdmissionRecord.modelValidate platform admission.semanticDocument = .ok admission :=
    Instance.modelValidate_semanticDocument formed admission
      (restores_admissionRecord _ _ admission.valid)
  rw [readAdmission, stored, CanonicalText.write_document _ ordered, read]
  rfl

section Ledger

variable {platform : Platform} {store : Store} {run : RunRow} {admission : AdmissionRecord platform}
  (holds : HoldsAdmission platform store run admission)

include holds

/-- A stored offer is accepted when it names permissions and its reference names one capability. -/
theorem checkCapabilityOffered_offer {capability : Json}
    (member : capability ∈ effectiveCapabilities admission.dump) :
    checkCapabilityOffered platform store run (offer capability) = .ok () ↔
      capability.items "effective_permissions" ≠ [] ∧
        (effectiveCapabilities admission.dump).filter (fun other =>
          other.field "resolved_ref" == capability.field "resolved_ref") = [capability] := by
  obtain ⟨id, row, admitted, found, stored⟩ := holds
  have offered : item (offer capability) "capability_ref" =
      .ok (capability.field "resolved_ref") := rfl
  have same : ((admission.dump.field "resolved_inventory").items "capabilities").filter
      (fun other => other.field "status" == .str "resolved" &&
        other.field "resolved_ref" == capability.field "resolved_ref") =
      (effectiveCapabilities admission.dump).filter (fun other =>
        other.field "resolved_ref" == capability.field "resolved_ref") := by
    rw [effectiveCapabilities, List.filter_filter]
    simp only [Bool.and_comm]
  have inside : capability ∈ (effectiveCapabilities admission.dump).filter (fun other =>
      other.field "resolved_ref" == capability.field "resolved_ref") := by
    simp [member]
  have shown : item (offer capability) "effective_permissions" =
      if capability.items "effective_permissions" = [] then .error (.keyError "effective_permissions")
      else .ok (.arr (capability.items "effective_permissions")) := by
    split_ifs with empty <;> simp [item, offer, present, empty, Json.get?, orRaise, List.lookup_cons]
  have listed : item (offer capability) "exposure" = .ok (capability.field "exposure") ∧
      item (offer capability) "required" = .ok (capability.field "required") := by
    by_cases empty : capability.items "effective_permissions" = [] <;>
      simp [item, offer, present, empty, Json.get?, orRaise, List.lookup_cons]
  simp only [checkCapabilityOffered, bind_ok, orRaise_ok, admitted, found, Option.some.injEq,
    exists_eq_left', readAdmission_stored stored, Except.ok.injEq, offered, same]
  generalize (effectiveCapabilities admission.dump).filter (fun other =>
      other.field "resolved_ref" == capability.field "resolved_ref") = matches_ at inside
  rcases matches_ with _ | ⟨matched, _ | ⟨second, rest⟩⟩
  · cases inside
  · obtain rfl := List.mem_singleton.mp inside
    simp [listed, shown, bind_ok]
  · simp

end Ledger

/-! ## What a preparation appends -/

/-- The row holds the event that the request asks for. -/
structure Writes (platform : Platform) (runId : String) (request : OnceRequest)
    (row : RunEventRow) : Prop where
  owned : row.runId = runId
  kind : row.eventType = request.eventType
  keyed : row.operationKey = some request.operationKey
  payload : normalizeEventPayload platform request.eventType request.payload =
    .ok row.payloadJson.document

theorem Writes.offer {platform : Platform} {runId : String} {admission : AdmissionRecord platform}
    {capability : Json} {row : RunEventRow}
    (writes : Writes platform runId (offeredRequest capability) row)
    (member : capability ∈ effectiveCapabilities admission.dump) :
    row.payloadJson.document = Evidence.offer capability :=
  Except.ok.inj (writes.payload.symm.trans (normalize_offered member))

section Appends

variable {platform : Platform} {runId : String}

/-- The appender finds the event that an operation key wrote, or writes it. -/
theorem appendEventOnce_writes {request : OnceRequest} {occurredAt : Time} {store after : Store}
    {row : RunEventRow}
    (appended : appendEventOnce platform runId request occurredAt store = .ok (row, after)) :
    Writes platform runId request row ∧ row ∈ after.events ∧
      (after.events = store.events ∨ after.events = store.events ++ [row] ∧
        ∀ other ∈ store.events, other.runId = runId → other.operationKey ≠ row.operationKey) := by
  simp only [appendEventOnce, bind_ok, validated_ok] at appended
  obtain ⟨payload, normalized, appended⟩ := appended
  have ordered := normalizeEventPayload_ordered platform _ _ _ normalized
  cases existing : store.eventByKey? runId request.operationKey with
  | some found =>
      simp only [existing, bind_ok, require_ok, sameEvent, Bool.and_eq_true, beq_iff_eq,
        ok_pair] at appended
      obtain ⟨_, ⟨kind, text⟩, rfl, rfl⟩ := appended
      have matched := List.find?_some existing
      simp only [Bool.and_eq_true, decide_eq_true_eq] at matched
      have document : found.payloadJson.document = payload := by
        rw [← CanonicalText.text_write, CanonicalText.text_inj] at text
        rw [text, CanonicalText.write_document _ ordered]
      exact ⟨⟨matched.1, kind, matched.2, document ▸ normalized⟩, List.mem_of_find?_eq_some existing,
        .inl rfl⟩
  | none =>
      simp only [existing, bind_ok, orRaise_ok, require_ok, decide_eq_true_eq, newId,
        ok_pair] at appended
      obtain ⟨_, _, _, _, last, _, inserted, insertion, rowIs, afterIs⟩ := appended
      rw [rowIs] at insertion
      obtain ⟨_, _, fresh, rfl⟩ := Store.insertEvent_ok insertion
      have owned : row.runId = runId := by rw [← rowIs]; rfl
      have keyed : row.operationKey = some request.operationKey := by rw [← rowIs]; rfl
      have document : row.payloadJson.document = payload := by
        rw [← rowIs]
        exact CanonicalText.write_document _ ordered
      have events : after.events = store.events ++ [row] := by
        rw [← afterIs]
        cases request.nextStatus <;> rfl
      exact ⟨⟨owned, by rw [← rowIs]; rfl, keyed, document ▸ normalized⟩, by simp [events],
        .inr ⟨events, fun other member same =>
          fresh other member (same.trans owned.symm) (by simp [keyed])⟩⟩

variable (platform runId) in
/-- The rows that a list of requests appended. -/
structure Appended (requests : List (Except Exc OnceRequest)) (store after : Store)
    (rows : List RunEventRow) : Prop where
  events : after.events = store.events ++ rows
  unused : ∀ row ∈ rows, ∀ other ∈ store.events, other.runId = runId →
    other.operationKey ≠ row.operationKey
  distinct : rows.Pairwise fun first second => first.operationKey ≠ second.operationKey
  sources : ∀ row ∈ rows, ∃ request, .ok request ∈ requests ∧ Writes platform runId request row
  covered : ∀ request, .ok request ∈ requests →
    ∃ row ∈ after.events, Writes platform runId request row

theorem appendAll_appended {clock : Nat → Time} (requests : List (Except Exc OnceRequest))
    (index : Nat) {store after : Store}
    (appended : appendAll platform runId clock requests index store = .ok after) :
    ∃ rows, Appended platform runId requests store after rows := by
  induction requests generalizing index store with
  | nil =>
      simp only [appendAll, Except.ok.injEq] at appended
      exact ⟨[], by simp [appended], by simp, .nil, by simp, by simp⟩
  | cons head rest ih =>
      simp only [appendAll, bind_ok, Prod.exists] at appended
      obtain ⟨request, rfl, row, middle, first, others⟩ := appended
      obtain ⟨rows, run⟩ := ih (index + 1) others
      obtain ⟨writes, member, change⟩ := appendEventOnce_writes first
      have sources : ∀ row ∈ rows, ∃ other, Except.ok other ∈ .ok request :: rest ∧
          Writes platform runId other row := fun row inside => by
        obtain ⟨other, source, written⟩ := run.sources row inside
        exact ⟨other, List.mem_cons_of_mem _ source, written⟩
      have covered : ∀ other, Except.ok other ∈ Except.ok request :: rest →
          ∃ row ∈ after.events, Writes platform runId other row := by
        intro other source
        rcases List.mem_cons.mp source with same | source
        · rw [Except.ok.inj same]
          exact ⟨row, by rw [run.events]; exact List.mem_append_left _ member, writes⟩
        · exact run.covered other source
      rcases change with same | ⟨extended, fresh⟩
      · exact ⟨rows, by rw [run.events, same], by simpa [same] using run.unused, run.distinct,
          sources, covered⟩
      · refine ⟨row :: rows, by rw [run.events, extended]; simp, ?_, ?_, ?_, covered⟩
        · intro added inside other earlier owned
          rcases List.mem_cons.mp inside with rfl | later
          · exact fresh other earlier owned
          · exact run.unused added later other
              (by rw [extended]; exact List.mem_append_left _ earlier) owned
        · exact .cons (fun later inside => run.unused later inside row member writes.owned)
            run.distinct
        · intro added inside
          rcases List.mem_cons.mp inside with rfl | later
          · exact ⟨request, List.mem_cons_self, writes⟩
          · exact sources added later

end Appends

section Preparation

variable {platform : Platform} {request : PrepareRequest platform} {clock : Nat → Time}
  {store after : Store} {result : ContextSnapshotRow × SubjectEnvelopeRow}
  (prepared : prepareRunExecutionBody platform request clock store = .ok (result, after))

include prepared

theorem prepareRunExecution_appended :
    ∃ rows, Appended platform request.runId (preparationRequests platform request result.1.id)
      store after rows := by
  simp only [prepareRunExecutionBody, bind_ok, Prod.exists, ok_pair] at prepared
  obtain ⟨_, _, _, _, snapshot, first, snapshotted, _, second, enveloped, third, appended, rfl,
    rfl⟩ := prepared
  obtain ⟨rows, run⟩ := appendAll_appended _ _ appended
  have same : second.events = store.events := by
    rw [upsertSubjectEnvelope_frame enveloped, upsertContextSnapshot_frame snapshotted]
  exact ⟨rows, by rw [← same]; exact run.events, by rw [← same]; exact run.unused, run.distinct,
    run.sources, run.covered⟩

end Preparation

/-! ## When the offers of a preparation verify -/

/-- The envelope of an admission offers what the admission resolved. -/
theorem compile_capabilities {platform : Platform} {spec : RunSpec platform}
    {admission : AdmissionRecord platform} {materialized : Option (List (InputBinding platform))}
    {envelope : SubjectEnvelope platform}
    (compiled : compile spec admission materialized = .ok envelope) :
    envelope.dump.items "effective_capabilities" = effectiveCapabilities admission.dump := by
  have steps := compiled
  simp only [compile, bind_ok, raiseWhen_ok, bne_eq_false_iff_eq] at steps
  obtain ⟨_, digest, _, decision, _⟩ := steps
  have own : AdmittedFor spec admission := ⟨digest, decision⟩
  obtain ⟨expected, guidance, _, dumped, run⟩ := compile_eq own materialized
  rw [run] at compiled
  simp only [bind_ok, Except.ok.injEq] at compiled
  obtain ⟨_, _, _, _, rfl⟩ := compiled
  rw [dumped]
  rfl

def offeredRows (store : Store) (runId : String) : List RunEventRow :=
  (store.eventsOf runId).filter fun row => row.eventType = .capabilityOffered

/-- Every capability carries permissions, and no two carry one reference. -/
structure OffersDistinct (admission : Json) : Prop where
  permissions : ∀ capability ∈ effectiveCapabilities admission,
    capability.items "effective_permissions" ≠ []
  references : ((effectiveCapabilities admission).map fun capability =>
    capability.field "resolved_ref").Nodup

section Offers

variable {platform : Platform} {request : PrepareRequest platform} {clock : Nat → Time}
  {store after : Store} {result : ContextSnapshotRow × SubjectEnvelopeRow}
  {materialized : Option (List (InputBinding platform))}
  (compiled : compile request.spec request.admission materialized = .ok request.envelope)
  (prepared : prepareRunExecutionBody platform request clock store = .ok (result, after))
  (fresh : ∀ row ∈ store.events, row.runId = request.runId → row.eventType ≠ .capabilityOffered)

include compiled prepared fresh

/-- The offered events of the Run are the offers of its admission, each under its own key. -/
theorem offeredRows_spec :
    (∀ row ∈ offeredRows after request.runId,
      ∃ capability ∈ effectiveCapabilities request.admission.dump,
        row.payloadJson.document = offer capability ∧
          row.operationKey = some (offeredRequest capability).operationKey) ∧
    (∀ capability ∈ effectiveCapabilities request.admission.dump,
      ∃ row ∈ offeredRows after request.runId, row.payloadJson.document = offer capability) ∧
    (offeredRows after request.runId).Pairwise fun first second =>
      first.operationKey ≠ second.operationKey := by
  obtain ⟨rows, run⟩ := prepareRunExecution_appended prepared
  have listed := compile_capabilities compiled
  have requested : ∀ once, Except.ok once ∈ preparationRequests platform request result.1.id →
      once.eventType = .capabilityOffered →
      ∃ capability ∈ effectiveCapabilities request.admission.dump,
        once = offeredRequest capability := by
    intro once member kind
    simp only [preparationRequests, listed, List.mem_append, List.mem_cons, List.not_mem_nil,
      or_false, Except.ok.injEq, List.mem_map] at member
    obtain ((rfl | rfl) | ⟨capability, inside, made⟩) | rfl := member
    · cases kind
    · cases kind
    · split_ifs at made with missing
      exact ⟨capability, inside, (Except.ok.inj made).symm⟩
    · cases kind
  have permuted : (offeredRows after request.runId).Perm
      (rows.filter fun row => row.eventType = .capabilityOffered) := by
    have owned : (after.events.filter fun row => row.runId = request.runId).filter
        (fun row => row.eventType = .capabilityOffered) =
          rows.filter fun row => row.eventType = .capabilityOffered := by
      have none_before : store.events.filter (fun row =>
          decide (row.eventType = .capabilityOffered) && decide (row.runId = request.runId)) = [] := by
        simp only [List.filter_eq_nil_iff, Bool.and_eq_true, decide_eq_true_eq, not_and]
        exact fun row member kind same => fresh row member same kind
      rw [List.filter_filter, run.events, List.filter_append, none_before, List.nil_append]
      refine List.filter_congr fun row member => ?_
      obtain ⟨_, _, writes⟩ := run.sources row member
      simp [writes.owned]
    rw [← owned]
    exact (List.perm_insertionSort _ _).filter _
  refine ⟨?_, ?_, ?_⟩
  · intro row member
    obtain ⟨added, kind⟩ := List.mem_filter.mp (permuted.mem_iff.mp member)
    obtain ⟨once, source, writes⟩ := run.sources row added
    obtain ⟨capability, inside, rfl⟩ := requested once source
      (writes.kind.symm.trans (of_decide_eq_true kind))
    exact ⟨capability, inside, writes.offer inside, writes.keyed⟩
  · intro capability member
    have asked : Except.ok (offeredRequest capability) ∈
        preparationRequests platform request result.1.id := by
      simp only [preparationRequests, listed, List.mem_append, List.mem_map]
      exact .inl (.inr ⟨capability, member, if_neg (resolvedRef_stable member).1⟩)
    obtain ⟨row, inside, writes⟩ := run.covered _ asked
    refine ⟨row, ?_, writes.offer member⟩
    simp [offeredRows, Store.eventsOf, inside, writes.owned, writes.kind, offeredRequest]
  · exact (permuted.pairwise_iff fun differ => differ.symm).mpr (run.distinct.filter _)

/-- The bundle check accepts the offers of capabilities that all carry permissions. -/
theorem offersValid_of_permissions
    (permissions : ∀ capability ∈ effectiveCapabilities request.admission.dump,
      capability.items "effective_permissions" ≠ [])
    {core : RunCore platform} (own : core.admission = request.admission)
    (exported : payloadsOf "capability.offered" core.events =
      .ok ((offeredRows after request.runId).map fun row => row.payloadJson.document)) :
    offersValid core true = .ok true := by
  obtain ⟨sources, covered, keys⟩ := offeredRows_spec compiled prepared fresh
  have texts : expectedOffers core = (effectiveCapabilities request.admission.dump).map fun item =>
      canonicalJson (offer item) := by
    rw [expectedOffers, own, List.filter_eq_self.mpr]
    · exact List.map_congr_left fun item member =>
        canonicalJson_expectedOffer member (permissions item member)
    · intro item member
      simpa [isSet] using (resolvedRef_stable member).1
  have different : ((offeredRows after request.runId).map fun row =>
      canonicalJson row.payloadJson.document).Nodup := by
    rw [List.nodup_iff_pairwise_ne, List.pairwise_map]
    refine keys.imp_of_mem fun {first second} one other differ same => differ ?_
    obtain ⟨_, _, stored, keyed⟩ := sources first one
    obtain ⟨_, _, storedOther, keyedOther⟩ := sources second other
    have equal := congrArg CanonicalText.document ((CanonicalText.text_inj _ _).mp same)
    rw [stored, storedOther] at equal
    have refs := congrArg (Json.field · "capability_ref") equal
    simp only [field_offer] at refs
    rw [keyed, keyedOther]
    simp only [offeredRequest, refs]
  rw [offersValid, exported]
  simp only [bind, Except.bind, List.map_map, if_true, texts, sameSet, Except.ok.injEq,
    Bool.and_eq_true, decide_eq_true_eq, List.all_eq_true, List.forall_mem_map]
  refine ⟨different, fun row inside => ?_, fun item member => ?_⟩
  · obtain ⟨item, member, stored, _⟩ := sources row inside
    exact List.mem_map.mpr ⟨item, member, by rw [Function.comp_apply, stored]⟩
  · obtain ⟨row, inside, stored⟩ := covered item member
    exact List.mem_map.mpr ⟨row, inside, by rw [Function.comp_apply, stored]⟩

end Offers

/-- The offered events of a preparation are accepted by the ledger and by the bundle
check exactly when every capability carries permissions and its own reference. -/
theorem offers_verify_iff {platform : Platform} {request : PrepareRequest platform}
    {clock : Nat → Time} {store after : Store} {result : ContextSnapshotRow × SubjectEnvelopeRow}
    {materialized : Option (List (InputBinding platform))}
    (compiled : compile request.spec request.admission materialized = .ok request.envelope)
    (prepared : prepareRunExecutionBody platform request clock store = .ok (result, after))
    (fresh : ∀ row ∈ store.events, row.runId = request.runId → row.eventType ≠ .capabilityOffered)
    {state : Store} {run : RunRow} (holds : HoldsAdmission platform state run request.admission) :
    ((∀ row ∈ offeredRows after request.runId,
        checkCapabilityOffered platform state run row.payloadJson.document = .ok ()) ∧
      ∀ core : RunCore platform, core.admission = request.admission →
        payloadsOf "capability.offered" core.events =
          .ok ((offeredRows after request.runId).map fun row => row.payloadJson.document) →
        invocationsValid core = .ok true → admissionBindingValid core true = .ok true) ↔
      OffersDistinct request.admission.dump := by
  obtain ⟨sources, covered, _⟩ := offeredRows_spec compiled prepared fresh
  have accepted : (∀ row ∈ offeredRows after request.runId,
        checkCapabilityOffered platform state run row.payloadJson.document = .ok ()) ↔
      OffersDistinct request.admission.dump := by
    constructor
    · intro accepts
      have each : ∀ capability ∈ effectiveCapabilities request.admission.dump, _ ∧ _ :=
        fun capability member => by
          obtain ⟨row, inside, stored⟩ := covered capability member
          exact (checkCapabilityOffered_offer holds member).mp (stored ▸ accepts row inside)
      exact ⟨fun capability member => (each capability member).1,
        (Table.nodup_iff_filter _).mpr fun capability member => (each capability member).2⟩
    · intro distinct row inside
      obtain ⟨capability, member, stored, _⟩ := sources row inside
      rw [stored, checkCapabilityOffered_offer holds member]
      exact ⟨distinct.permissions capability member,
        (Table.nodup_iff_filter _).mp distinct.references capability member⟩
  refine ⟨fun both => accepted.mp both.1, fun distinct => ⟨accepted.mpr distinct, ?_⟩⟩
  intro core own exported invocations
  have offers := offersValid_of_permissions compiled prepared fresh distinct.permissions own exported
  rw [admissionBindingValid, offers, invocations]
  rfl

namespace OfferSample

open Contracts.Sample

/-- A resolved tool, with one permission or with none. -/
def tool (granted : Bool) : Json :=
  .obj [("adapter", .str "local"), ("context_refs", .arr []),
    ("effective_interface_version", .str "1"),
    ("effective_permissions", .arr (if granted then [.str "read"] else [])),
    ("exposure", .str "schema_only"), ("kind", .str "tool"), ("requested_ref", capability),
    ("required", .bool true), ("resolved_ref", capability),
    ("satisfied_authority_constraints", .arr []), ("status", .str "resolved")]

def admission (granted : Bool) : AdmissionRecord platform :=
  ⟨.obj [("created_at_utc", .str "2026-01-01T00:00:00Z"), ("decision", .str "admitted"),
    ("denied_policies", .arr []), ("interaction_status", .str "resolved"), ("issues", .arr []),
    ("missing_requirements", .arr []),
    ("resolved_inventory", .obj [("capabilities", .arr [tool granted]),
      ("requirement_ref", contract .agentInventory "one"), ("runner_ref", capability),
      ("runtime_capabilities", .arr [])]),
    ("run_spec_digest", .str digestText), ("run_spec_ref", .str ("run-spec:" ++ digestText)),
    ("schema_version", .str "1"), ("warnings", .arr []), ("workspace_status", .str "resolved")],
    by cases granted <;> decide +kernel⟩

def envelope (granted : Bool) : SubjectEnvelope platform :=
  ⟨envelopeDump plainSpec (admission granted) (visibleInputs plainSpec none)
    (some (guidanceDump plainSpec.dump [passedDimension])), by cases granted <;> decide +kernel⟩

def fence : LeaseFence := ⟨"job", "attempt", "worker", 1⟩

def request (granted : Bool) : PrepareRequest platform where
  runId := "run"
  spec := plainSpec
  admission := admission granted
  snapshot := ⟨"policy", "full", 10, 0, 0, "", .arr [], digestText⟩
  envelope := envelope granted
  lease := fence

def run : RunRow where
  id := "run"
  experimentRevisionId := none
  variantId := "default"
  repetition := 1
  status := .queued
  runner := "runner"
  objective := "answer"
  output := none
  contextHash := none
  retryOf := none
  runSpecId := some "spec"
  admissionId := some "admission"
  executionTrustId := none
  executionTrustDigest := none
  createdAt := 0
  completedAt := none

def queuedEvent : RunEventRow where
  id := "evt"
  runId := "run"
  sequence := 1
  eventType := .runQueued
  occurredAt := 0
  actorType := "system"
  actorId := "evidrun"
  classification := "internal"
  correlationId := "run"
  causationId := none
  prevEventHash := none
  payloadJson := .write (.obj [])
  eventHash := digestText
  operationKey := some "run:queued"

/-- One admitted Run, queued and leased. -/
def leased (granted : Bool) : Store where
  runSpecs := [⟨"spec", .write (.obj []), digestText⟩]
  admissions := [⟨"admission", "spec", "admitted", .write (admission granted).semanticDocument,
    digestText, none, none, 0⟩]
  runs := [run]
  events := [queuedEvent]
  jobs := [⟨"job", "run", .leased, "once", digestText, 0, some "attempt", 1, 0, none, none⟩]
  attempts := [⟨"attempt", "job", 1, "worker", 1, .leased, 0, 30, 0, none, none⟩]
  envelopes := []
  snapshots := []
  grades := []
  checkpoints := []
  evaluations := []
  issued := 0

theorem compiled (granted : Bool) :
    compile (request granted).spec (request granted).admission none =
      .ok (request granted).envelope := by
  have dumps : (compile plainSpec (admission granted) none).toOption.map Instance.dump =
      some (envelope granted).dump := by
    cases granted <;> decide +kernel
  change compile plainSpec (admission granted) none = .ok (envelope granted)
  cases run : compile plainSpec (admission granted) none with
  | error _ => simp [run, Except.toOption] at dumps
  | ok built =>
      rw [run] at dumps
      exact congrArg Except.ok (Instance.ext _ _ (Option.some.inj dumps))

theorem prepared (granted : Bool) : ∃ result after,
    prepareRunExecutionBody platform (request granted) (fun _ => 0) (leased granted) =
      .ok (result, after) := by
  have done : (prepareRunExecutionBody platform (request granted) (fun _ => 0)
      (leased granted)).isOk = true := by
    cases granted <;> decide +kernel
  cases run : prepareRunExecutionBody platform (request granted) (fun _ => 0) (leased granted) with
  | error _ => simp [run, Except.isOk, Except.toBool] at done
  | ok both => exact ⟨both.1, both.2, rfl⟩

theorem holds (granted : Bool) :
    HoldsAdmission platform (leased granted) run (request granted).admission :=
  ⟨"admission", _, rfl, rfl, rfl⟩

theorem fresh (granted : Bool) : ∀ row ∈ (leased granted).events,
    row.runId = (request granted).runId → row.eventType ≠ .capabilityOffered := by
  intro row member
  rw [List.mem_singleton.mp member]
  simp [queuedEvent]

/-- The Run of a bundle with one offered event. -/
def core (granted : Bool) : RunCore platform where
  spec := plainSpec
  admission := admission granted
  events := [.obj [("payload", offer (tool granted)), ("type", .str "capability.offered")]]

end OfferSample

/-- An offer without permissions is appended; the ledger check raises on it and the
bundle check refuses it. -/
theorem bare_offer_refused : ∃ result after,
    compile (OfferSample.request false).spec (OfferSample.request false).admission none =
        .ok (OfferSample.request false).envelope ∧
      prepareRunExecutionBody Contracts.Sample.platform (OfferSample.request false) (fun _ => 0)
          (OfferSample.leased false) = .ok (result, after) ∧
      HoldsAdmission Contracts.Sample.platform (OfferSample.leased false) OfferSample.run
        (OfferSample.request false).admission ∧
      (∃ row ∈ offeredRows after (OfferSample.request false).runId,
        row.payloadJson.document = offer (OfferSample.tool false)) ∧
      checkCapabilityOffered Contracts.Sample.platform (OfferSample.leased false) OfferSample.run
          (offer (OfferSample.tool false)) = .error (.keyError "effective_permissions") ∧
      admissionBindingValid (OfferSample.core false) true = .ok false := by
  obtain ⟨result, after, done⟩ := OfferSample.prepared false
  obtain ⟨_, covered, _⟩ :=
    offeredRows_spec (OfferSample.compiled false) done (OfferSample.fresh false)
  exact ⟨result, after, OfferSample.compiled false, done, OfferSample.holds false,
    covered (OfferSample.tool false) (by decide +kernel), by decide +kernel, by decide +kernel⟩

/-- An offer with a permission is accepted by both checks. -/
theorem granted_offer_accepted : ∃ result after,
    prepareRunExecutionBody Contracts.Sample.platform (OfferSample.request true) (fun _ => 0)
        (OfferSample.leased true) = .ok (result, after) ∧
      ∀ row ∈ offeredRows after (OfferSample.request true).runId,
        checkCapabilityOffered Contracts.Sample.platform (OfferSample.leased true) OfferSample.run
          row.payloadJson.document = .ok () := by
  obtain ⟨result, after, done⟩ := OfferSample.prepared true
  have distinct : OffersDistinct (OfferSample.request true).admission.dump := ⟨by decide, by decide⟩
  exact ⟨result, after, done, ((offers_verify_iff (OfferSample.compiled true) done
    (OfferSample.fresh true) (OfferSample.holds true)).mpr distinct).1⟩

end Evidrun.Evidence
