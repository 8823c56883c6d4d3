import Evidrun.Lib.DocumentSchema

/-!
# Base contract models

The schemas that every contract document is built from, following
`evidrun.contracts.base` and `evidrun.shared.types`. The fields of a model are
listed in key order, the order in which their canonical text has them.
-/

namespace Evidrun.Contracts

open JsonText DocumentSchema

set_option autoImplicit false

/-- What the process gets from outside: the digest function, the identifiers that
`uuid.uuid7` hands out, and how pydantic reads loosely typed scalars. -/
structure Platform where
  sha256 : String → String
  uuid7 : Nat → String
  coercion : Coercion

def sha256Json (platform : Platform) (document : Json) : String :=
  platform.sha256 (canonicalJson document)

/-! ## Scalars -/

def isLowerHex (char : Char) : Bool := char.isDigit || ('a' ≤ char && char ≤ 'f')

/-- The pattern `^[0-9a-f]{64}$`. -/
def isDigest (text : String) : Bool :=
  text.toList.length == 64 && text.toList.all isLowerHex

def nonEmptyStr : Schema := .scalar (.trimmed fun _ => true)

def digest : Schema := .scalar (.matching isDigest)

def text : Schema := .scalar .text

def boolean : Schema := .scalar .boolean

def literal (values : List String) : Schema := .scalar (.literal values)

/-- `Field(ge=least)`. -/
def integerFrom (least : Int) : Schema := .scalar (.integer (some least))

def classification : Schema := literal ["public", "internal", "sensitive", "restricted"]

def required (name : String) (schema : Schema) : String × Presence × Schema :=
  (name, .required, schema)

def optional (name : String) (schema : Schema) : String × Presence × Schema :=
  (name, .optional, schema)

def defaulted (name : String) (value : Json) (schema : Schema) : String × Presence × Schema :=
  (name, .default value, schema)

/-- `tuple[item, ...] = ()`. -/
def tuple (name : String) (item : Schema) : String × Presence × Schema :=
  defaulted name (.arr []) (.list 0 item)

/-! ## Reference models -/

def contractType : Schema :=
  literal ["study", "goal", "scenario", "agent_inventory", "workspace_template",
    "interaction_protocol", "evaluation_plan", "checkpoint_policy", "progress_artifact_policy"]

def contractRef : Schema :=
  .model
    [required "contract_type" contractType,
      required "digest" digest,
      required "logical_id" nonEmptyStr,
      required "revision" (integerFrom 1)]
    noCheck

def artifactRef : Schema :=
  .model
    [required "artifact_id" nonEmptyStr,
      defaulted "classification" (.str "internal") classification,
      required "digest" digest,
      required "media_type" nonEmptyStr]
    noCheck

def capabilityDescriptorRef : Schema :=
  .model
    [required "digest" digest,
      required "name" nonEmptyStr,
      required "namespace" nonEmptyStr,
      required "version" nonEmptyStr]
    noCheck

/-- Evidence refs must use run:, event:, or artifact:. -/
def isEvidenceRef (ref : String) : Bool :=
  startsWith "run:".toList ref || startsWith "event:".toList ref ||
    startsWith "artifact:".toList ref

def evidenceRef : Schema := .model [required "ref" (.scalar (.trimmed isEvidenceRef))] noCheck

def keyValue : Schema :=
  .model [required "key" nonEmptyStr, required "value" (.scalar .primitive)] noCheck

/-! ## Reading fields of a document -/

def strOf (document : Json) (name : String) : Option String :=
  match document.get? name with
  | some (.str value) => some value
  | _ => none

def raiseIf (condition : Bool) (reason : String) : Except String Unit :=
  if condition then .error reason else .ok ()

/-! ## Well-formedness -/

section WellFormed

variable (coercion : Coercion)

@[simp] theorem wellFormed_scalar (rule : Scalar) : WellFormed coercion (.scalar rule) := by
  simp [WellFormed]

@[simp] theorem wellFormedFields_nil : WellFormedFields coercion [] := by simp [WellFormedFields]

@[simp] theorem wellFormedFields_required (name : String) (schema : Schema)
    (rest : List (String × Presence × Schema)) :
    WellFormedFields coercion (required name schema :: rest) ↔
      WellFormed coercion schema ∧ WellFormedFields coercion rest := by
  simp [WellFormedFields, required]

@[simp] theorem wellFormedFields_optional (name : String) (schema : Schema)
    (rest : List (String × Presence × Schema)) :
    WellFormedFields coercion (optional name schema :: rest) ↔
      WellFormed coercion schema ∧ WellFormedFields coercion rest := by
  simp [WellFormedFields, optional]

@[simp] theorem wellFormedFields_defaulted (name : String) (value : Json) (schema : Schema)
    (rest : List (String × Presence × Schema)) :
    WellFormedFields coercion (defaulted name value schema :: rest) ↔
      WellFormed coercion schema ∧ validate coercion schema value = .ok value ∧
        WellFormedFields coercion rest := by
  simp [WellFormedFields, defaulted]

@[simp] theorem wellFormedFields_tuple (name : String) (item : Schema)
    (rest : List (String × Presence × Schema)) :
    WellFormedFields coercion (tuple name item :: rest) ↔
      WellFormed coercion item ∧ WellFormedFields coercion rest := by
  simp [tuple, WellFormed, validate, pure, Except.pure, Except.map]

variable {coercion} in
theorem wellFormed_model {fields : List (String × Presence × Schema)}
    {check : Json → Except String Unit} (increasing : (names fields).Pairwise (· < ·))
    (formed : WellFormedFields coercion fields) : WellFormed coercion (.model fields check) := by
  rw [WellFormed]
  exact ⟨increasing, formed⟩

@[simp] theorem wellFormed_list (least : Nat) (item : Schema) :
    WellFormed coercion (.list least item) ↔ WellFormed coercion item := by
  simp [WellFormed]

/-- A field with one literal value dumps that value. -/
theorem literal_dump (fields : List (String × Presence × Schema))
    (check : Json → Except String Unit)
    (increasing : (names fields).Pairwise (· < ·)) (name value : String)
    (member : defaulted name (.str value) (literal [value]) ∈ fields) (given dump : Json)
    (read : validate coercion (.model fields check) given = .ok dump) :
    dump.get? name = some (.str value) := by
  obtain ⟨values, dumped, rfl, rfl, fieldsRead, _⟩ := validate_model read
  have field := validateFields_lookup increasing fieldsRead member
  cases present : values.lookup name with
  | none =>
      simp only [present, readPresence, Except.ok.injEq] at field
      exact field.symm
  | some source =>
      simp only [present, readPresence] at field
      cases source with
      | str text =>
          by_cases same : text = value
          · simp only [literal, validate, Scalar.parse, same, List.mem_singleton, if_true,
              Except.map, Except.ok.injEq] at field
            exact field.symm
          · simp [literal, validate, Scalar.parse, same, Except.map] at field
      | _ => simp [literal, validate, Scalar.parse, Except.map] at field

@[simp] theorem wellFormed_contractRef : WellFormed coercion contractRef := by
  rw [contractRef, WellFormed]
  exact ⟨by decide, by simp [contractType, literal, digest, nonEmptyStr, integerFrom]⟩

@[simp] theorem wellFormed_artifactRef : WellFormed coercion artifactRef := by
  rw [artifactRef, WellFormed]
  exact ⟨by decide, by simp [classification, literal, digest, nonEmptyStr, validate, Scalar.parse]⟩

@[simp] theorem wellFormed_capabilityDescriptorRef :
    WellFormed coercion capabilityDescriptorRef := by
  rw [capabilityDescriptorRef, WellFormed]
  exact ⟨by decide, by simp [digest, nonEmptyStr]⟩

@[simp] theorem wellFormed_evidenceRef : WellFormed coercion evidenceRef := by
  rw [evidenceRef, WellFormed]
  exact ⟨by decide, by simp⟩

@[simp] theorem wellFormed_keyValue : WellFormed coercion keyValue := by
  rw [keyValue, WellFormed]
  exact ⟨by decide, by simp [nonEmptyStr]⟩

end WellFormed

end Evidrun.Contracts
