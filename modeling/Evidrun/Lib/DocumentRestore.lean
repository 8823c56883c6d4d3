import Evidrun.Lib.DocumentSchema

/-!
# Schemas that restore what was dropped

`retained` asks of one dump that everything `dropEmpty` removes from it is a
default of the schema. Here the question is put to the schema: which schemas
retain every dump they can produce. A field is safe if it is never empty after
`dropEmpty`, if its default is what an empty value stood for, or if the check of
its model does not let it be empty (a guarded field).
-/

namespace DocumentSchema

open JsonText

set_option autoImplicit false

variable (coercion : Coercion)

/-- Whatever the schema reads can be read again without its empty parts. -/
def Restores (schema : Schema) : Prop :=
  ∀ given dump, validate coercion schema given = .ok dump → retained schema dump = true

/-- What the schema reads is never empty. -/
def Filled (schema : Schema) : Prop :=
  ∀ given dump, validate coercion schema given = .ok dump → isEmpty (dropEmpty dump) = false

/-- The one value of the schema that can be empty. -/
def Recovers (schema : Schema) (usual : Json) : Prop :=
  ∀ given dump, validate coercion schema given = .ok dump → isEmpty (dropEmpty dump) = true →
    dump = usual

/-- A field that is restored when it was dropped, or is never dropped. -/
def RestoresField : Presence → Schema → Prop
  | .default usual, schema => Recovers coercion schema usual
  | .required, schema | .optional, schema => Filled coercion schema

def RestoresFields (guarded : List String) : List (String × Presence × Schema) → Prop
  | [] => True
  | (name, presence, schema) :: rest =>
      Restores coercion schema ∧ (name ∈ guarded ∨ RestoresField coercion presence schema) ∧
        RestoresFields guarded rest

variable {coercion}

variable {schema item : Schema} {value given dump : Json}
  {fields : List (String × Presence × Schema)} {check : Json → Except String Unit} {least : Nat}
  {dumped again : List (String × Json)} {name : String} {presence : Presence}
  {guarded : List String}

theorem Filled.recovers (filled : Filled coercion schema) (usual : Json) :
    Recovers coercion schema usual := by
  intro given dump read empty
  rw [filled given dump read] at empty
  cases empty

theorem Filled.restoresField (filled : Filled coercion schema) (presence : Presence) :
    RestoresField coercion presence schema := by
  cases presence with
  | required => exact filled
  | optional => exact filled
  | default usual => exact filled.recovers usual

/-! ## Scalars, constants and lists -/

theorem restores_scalar (rule : Scalar) : Restores coercion (.scalar rule) := by
  intro given dump _
  rfl

theorem filled_scalar (rule : Scalar) : Filled coercion (.scalar rule) := by
  intro given dump read
  rw [validate] at read
  have scalar := (rule.parse_stable coercion given dump read).2
  cases dump <;> simp_all [isScalar, dropEmpty, isEmpty]

theorem isScalar_of_stable {rule : Scalar}
    (stable : validate coercion (.scalar rule) value = .ok value) : isScalar value = true :=
  (rule.parse_stable coercion value value stable).2

theorem dropEmpty_of_isScalar (scalar : isScalar value = true) : dropEmpty value = value := by
  cases value <;> simp_all [isScalar, dropEmpty]

/-- A list of scalars has no empty part. -/
theorem dropEmpty_scalar_items {items : List Json} (scalars : ∀ item ∈ items, isScalar item = true) :
    dropEmpty (.arr items) = .arr items := by
  rw [dropEmpty, dropEmptyItems_eq_map]
  have same : items.map dropEmpty = items.map id :=
    List.map_congr_left fun item member => dropEmpty_of_isScalar (scalars item member)
  rw [same, List.map_id]

theorem dropEmptyFields_scalars {fields : List (String × Json)}
    (scalars : ∀ entry ∈ fields, isScalar entry.2 = true) : dropEmptyFields fields = fields := by
  induction fields with
  | nil => rfl
  | cons entry rest ih =>
      rw [dropEmptyFields_cons, keep_of_isScalar _ (scalars entry List.mem_cons_self),
        ih fun other member => scalars other (List.mem_cons_of_mem _ member)]
      rfl

/-- A model of scalars has no empty part. -/
theorem dropEmpty_scalar_model (formed : WellFormed coercion (.model fields check))
    (read : validate coercion (.model fields check) given = .ok dump)
    (scalars : ∀ field ∈ fields, ∃ rule, field.2.2 = .scalar rule) : dropEmpty dump = dump := by
  rw [WellFormed] at formed
  obtain ⟨values, dumped, rfl, rfl, valid, _⟩ := validate_model read
  have held : ∀ entry ∈ dumped, isScalar entry.2 = true := by
    intro entry member
    obtain ⟨field, inside, source, sourceValid⟩ :=
      validateFields_mem formed.2 valid member
    obtain ⟨rule, scalar⟩ := scalars field inside
    rw [scalar, validate] at sourceValid
    exact (rule.parse_stable coercion source entry.2 sourceValid).2
  rw [dropEmpty, dropEmptyFields_scalars held]

theorem restores_constant (value : Json) : Restores coercion (.constant value) := by
  intro given dump _
  rfl

theorem filled_constant (given : isEmpty (dropEmpty value) = false) :
    Filled coercion (.constant value) := by
  intro source dump read
  rw [validate] at read
  split_ifs at read
  cases read
  exact given

theorem restores_list (inner : Restores coercion item) : Restores coercion (.list least item) := by
  intro given dump read
  obtain ⟨items, dumps, rfl, rfl, mapped, _⟩ := validate_list read
  rw [retained, List.all_eq_true]
  intro value member
  obtain ⟨source, valid⟩ := source_of_mem_mapM mapped member
  exact inner source value valid

theorem isEmpty_dropEmpty_arr (items : List Json) :
    isEmpty (dropEmpty (.arr items)) = items.isEmpty := by
  cases items <;> rfl

theorem filled_list (positive : 0 < least) : Filled coercion (.list least item) := by
  intro given dump read
  obtain ⟨items, dumps, rfl, rfl, _, enough⟩ := validate_list read
  rw [isEmpty_dropEmpty_arr]
  cases dumps with
  | nil => exact absurd enough (Nat.not_le.mpr positive)
  | cons first rest => rfl

theorem recovers_list (item : Schema) : Recovers coercion (.list 0 item) (.arr []) := by
  intro given dump read empty
  obtain ⟨items, dumps, rfl, rfl, _, _⟩ := validate_list read
  rw [isEmpty_dropEmpty_arr, List.isEmpty_iff] at empty
  rw [empty]

/-! ## Models -/

theorem isEmpty_dropEmpty_of_lookup (held : dumped.lookup name = some value)
    (kept : keep value ≠ none) : isEmpty (dropEmpty (.obj dumped)) = false := by
  obtain ⟨left, kept⟩ := Option.ne_none_iff_exists'.mp kept
  have found := lookup_dropEmptyFields_kept held kept
  rw [dropEmpty]
  cases remaining : dropEmptyFields dumped with
  | nil => simp [remaining] at found
  | cons first rest => rfl

theorem keep_of_not_isEmpty (present : value ≠ .null) (given : isEmpty (dropEmpty value) = false) :
    keep value ≠ none := by
  simp [keep, present, given]

private theorem isEmpty_of_keep {value : Json} (present : value ≠ .null)
    (dropped : keep value = none) : isEmpty (dropEmpty value) = true :=
  (keep_eq_none value dropped).resolve_left present

/-- A field that must hold a value does. -/
theorem validateFields_present_of_mandatory (increasing : (names fields).Pairwise (· < ·))
    {given : List (String × Json)} (read : validateFields coercion fields given = .ok dumped)
    (member : (name, presence, schema) ∈ fields) (mandatory : presence ≠ .optional) :
    ∃ value, dumped.lookup name = some value := by
  have field := validateFields_lookup increasing read member
  cases held : dumped.lookup name with
  | some value => exact ⟨value, rfl⟩
  | none =>
      rw [held] at field
      exact absurd (readPresence_none field) mandatory

/-- A field of a model that was read is unset, or was read by its own schema. -/
theorem field_source (formed : WellFormed coercion (.model fields check))
    (read : validate coercion (.model fields check) given = .ok dump)
    (member : (name, presence, schema) ∈ fields) :
    (dump.field name = .null ∧ presence = .optional) ∨
      (dump.get? name = some (dump.field name) ∧ dump.field name ≠ .null ∧
        validate coercion schema (dump.field name) = .ok (dump.field name)) := by
  rw [WellFormed] at formed
  obtain ⟨values, dumped, rfl, rfl, valid, _⟩ := validate_model read
  cases held : dumped.lookup name with
  | none =>
      have field := validateFields_lookup formed.1 valid member
      rw [held] at field
      exact Or.inl ⟨by simp [Json.field, Json.get?, held], readPresence_none field⟩
  | some value =>
      obtain ⟨present, source, sourceValid⟩ :=
        validateFields_source formed.1 formed.2 valid member held
      have schemaFormed := (wellFormedFields_mem formed.2 member).1
      simp only [Json.field, Json.get?, held, Option.getD_some]
      exact Or.inr ⟨trivial, present, validate_stable schemaFormed _ _ sourceValid⟩

/-- A field that is not optional holds what its schema reads. -/
theorem field_stable (formed : WellFormed coercion (.model fields check))
    (read : validate coercion (.model fields check) given = .ok dump)
    (member : (name, presence, schema) ∈ fields) (mandatory : presence ≠ .optional) :
    validate coercion schema (dump.field name) = .ok (dump.field name) :=
  ((field_source formed read member).resolve_left fun unset => mandatory unset.2).2.2

/-- A field of one model is read as it stands by a field of another. -/
theorem kept_field (formed : WellFormed coercion (.model fields check))
    (read : validate coercion (.model fields check) given = .ok dump) {other : Presence}
    (member : (name, presence, schema) ∈ fields) (mandatory : presence ≠ .optional) :
    readPresence (validate coercion schema) other (some (dump.field name)) =
      .ok (some (dump.field name)) := by
  obtain ⟨_, present, stable⟩ :=
    (field_source formed read member).resolve_left fun unset => mandatory unset.2
  exact readPresence_kept ⟨present, stable⟩

theorem reads_value (present : value ≠ .null) (stable : validate coercion schema value = .ok value)
    (presence : Presence) :
    readPresence (validate coercion schema) presence (some value) = .ok (some value) :=
  readPresence_kept ⟨present, stable⟩

theorem reads_items {items : List Json}
    (stable : ∀ value ∈ items, validate coercion item value = .ok value) (presence : Presence) :
    readPresence (validate coercion (.list 0 item)) presence (some (.arr items)) =
      .ok (some (.arr items)) :=
  reads_value (by simp) (validate_items (Nat.zero_le _) (List.forall₂_same.mpr stable)) presence

/-- The items of a list that a model holds. -/
theorem items_source (formed : WellFormed coercion (.model fields check))
    (read : validate coercion (.model fields check) given = .ok dump)
    (member : (name, presence, .list least item) ∈ fields) :
    ∀ value ∈ dump.items name, validate coercion item value = .ok value := by
  intro value inside
  rcases field_source formed read member with ⟨unset, -⟩ | ⟨held, -, stable⟩
  · cases found : dump.get? name with
    | none => simp [Json.items, found] at inside
    | some content =>
        rw [Json.field_of_get found] at unset
        simp [Json.items, found, unset] at inside
  · obtain ⟨items, dumps, shape, same, mapped, -⟩ := validate_list stable
    rw [shape] at held same
    cases same
    simp only [Json.items, held] at inside
    rw [mapM_except_ok, List.forall₂_same] at mapped
    exact mapped value inside

/-- What was given for a field was read by its schema. -/
theorem get?_of_read (formed : WellFormed coercion (.model fields check))
    (read : validate coercion (.model fields check) given = .ok dump)
    (member : (name, presence, schema) ∈ fields) (found : given.get? name = some value)
    (present : value ≠ .null) :
    ∃ result, validate coercion schema value = .ok result ∧ dump.get? name = some result := by
  rw [WellFormed] at formed
  obtain ⟨values, dumped, rfl, rfl, valid, _⟩ := validate_model read
  have field := validateFields_lookup formed.1 valid member
  simp only [Json.get?] at found ⊢
  rw [found, readPresence_of_ne_null present] at field
  cases result : validate coercion schema value with
  | ok content =>
      rw [result] at field
      exact ⟨content, rfl, (Except.ok.inj field).symm⟩
  | error reason =>
      rw [result] at field
      cases field

/-- A field that was given in normal form is kept as it was given. -/
theorem get?_of_given (formed : WellFormed coercion (.model fields check))
    (read : validate coercion (.model fields check) given = .ok dump)
    (member : (name, presence, schema) ∈ fields) (found : given.get? name = some value)
    (present : value ≠ .null) (stable : validate coercion schema value = .ok value) :
    dump.get? name = some value := by
  obtain ⟨result, valid, held⟩ := get?_of_read formed read member found present
  rw [stable] at valid
  rw [held, Except.ok.inj valid]

/-- What a model holds under a name depends on what was given under that name only. -/
theorem get?_congr_of_validate (formed : WellFormed coercion (.model fields check))
    {other second : Json} (read : validate coercion (.model fields check) given = .ok dump)
    (readOther : validate coercion (.model fields check) other = .ok second)
    (same : given.get? name = other.get? name) : dump.get? name = second.get? name := by
  rw [WellFormed] at formed
  obtain ⟨values, dumped, rfl, rfl, valid, _⟩ := validate_model read
  obtain ⟨others, seconds, rfl, rfl, validOther, _⟩ := validate_model readOther
  simp only [Json.get?] at same ⊢
  by_cases named : name ∈ names fields
  · obtain ⟨⟨name, presence, schema⟩, member, rfl⟩ := List.mem_map.mp named
    have first := validateFields_lookup formed.1 valid member
    have next := validateFields_lookup formed.1 validOther member
    rw [same, next] at first
    exact (Except.ok.inj first).symm
  · have absent : ∀ {source entries : List (String × Json)},
        validateFields coercion fields source = .ok entries → entries.lookup name = none :=
      fun valid => lookup_eq_none.mpr fun inside =>
        named ((validateFields_keys valid).subset inside)
    rw [absent valid, absent validOther]

/-- Some field always holds a value that is never empty. -/
def FilledFields (coercion : Coercion) (fields : List (String × Presence × Schema)) : Prop :=
  ∃ field ∈ fields, field.2.1 ≠ .optional ∧ Filled coercion field.2.2

theorem filled_model (formed : WellFormed coercion (.model fields check))
    (filled : FilledFields coercion fields) : Filled coercion (.model fields check) := by
  intro given dump read
  rw [WellFormed] at formed
  obtain ⟨⟨name, presence, schema⟩, member, mandatory, inner⟩ := filled
  obtain ⟨values, dumped, rfl, rfl, valid, _⟩ := validate_model read
  obtain ⟨value, held⟩ := validateFields_present_of_mandatory formed.1 valid member mandatory
  obtain ⟨present, source, sourceValid⟩ := validateFields_source formed.1 formed.2 valid member held
  exact isEmpty_dropEmpty_of_lookup held
    (keep_of_not_isEmpty present (inner source value sourceValid))

theorem restoresFields_mem (restores : RestoresFields coercion guarded fields)
    (member : (name, presence, schema) ∈ fields) :
    Restores coercion schema ∧ (name ∈ guarded ∨ RestoresField coercion presence schema) := by
  induction fields with
  | nil => simp at member
  | cons field rest ih =>
      rw [RestoresFields] at restores
      rcases List.mem_cons.mp member with rfl | later
      · exact ⟨restores.1, restores.2.1⟩
      · exact ih restores.2.2 later

theorem retainedFields_of_each
    (each : ∀ name presence schema value, (name, presence, schema) ∈ fields →
      dumped.lookup name = some value →
        (keep value = none → presence = .default value) ∧ retained schema value = true) :
    retainedFields fields dumped = true := by
  induction fields with
  | nil => rfl
  | cons field rest ih =>
      obtain ⟨name, presence, schema⟩ := field
      have tail := ih fun name presence schema value member =>
        each name presence schema value (List.mem_cons_of_mem _ member)
      simp only [retainedFields, tail, Bool.and_true]
      cases held : dumped.lookup name with
      | none => rfl
      | some value =>
          obtain ⟨restored, inner⟩ := each name presence schema value List.mem_cons_self held
          by_cases dropped : keep value = none
          · simp [restored dropped, dropped]
          · cases presence <;> simp [dropped, inner]

/-- A list that is not empty is kept. -/
theorem keep_of_items (held : dumped.lookup name = some value)
    (filled : (Json.obj dumped).items name ≠ []) : keep value ≠ none := by
  simp only [Json.items, Json.get?, held] at filled
  cases value with
  | arr items =>
      refine keep_of_not_isEmpty (by simp) ?_
      rw [isEmpty_dropEmpty_arr]
      cases items with
      | nil => exact absurd rfl filled
      | cons first rest => rfl
  | _ => exact absurd rfl filled

/-- A dump is retained once its guarded lists are not empty. -/
theorem retained_of_guarded (formed : WellFormed coercion (.model fields check))
    (restores : RestoresFields coercion guarded fields)
    (read : validate coercion (.model fields check) given = .ok dump)
    (filled : ∀ name ∈ guarded, dump.items name ≠ []) :
    retained (.model fields check) dump = true := by
  rw [WellFormed] at formed
  obtain ⟨values, dumped, rfl, rfl, valid, _⟩ := validate_model read
  rw [retained]
  refine retainedFields_of_each fun name presence schema value member held => ?_
  obtain ⟨present, source, sourceValid⟩ := validateFields_source formed.1 formed.2 valid member held
  obtain ⟨inner, safe⟩ := restoresFields_mem restores member
  refine ⟨fun dropped => ?_, inner source value sourceValid⟩
  rcases safe with guard | safe
  · exact absurd dropped (keep_of_items held (filled name guard))
  · have empty := isEmpty_of_keep present dropped
    cases presence with
    | required =>
        rw [safe source value sourceValid] at empty
        cases empty
    | optional =>
        rw [safe source value sourceValid] at empty
        cases empty
    | default usual => rw [safe source value sourceValid empty]

theorem restores_model (guarded : List String) (formed : WellFormed coercion (.model fields check))
    (restores : RestoresFields coercion guarded fields)
    (guards : ∀ dump, check dump = .ok () → ∀ name ∈ guarded, dump.items name ≠ []) :
    Restores coercion (.model fields check) := by
  intro given dump read
  refine retained_of_guarded formed restores read (guards dump ?_)
  obtain ⟨_, _, rfl, rfl, _, checked⟩ := validate_model read
  exact checked

/-- A model with a guarded list is never empty. -/
theorem filled_guarded
    (guards : ∀ dump, check dump = .ok () → ∀ name ∈ guarded, dump.items name ≠ [])
    (guard : name ∈ guarded) : Filled coercion (.model fields check) := by
  intro given dump read
  obtain ⟨values, dumped, rfl, rfl, valid, checked⟩ := validate_model read
  have filled := guards _ checked name guard
  cases held : dumped.lookup name with
  | none => simp [Json.items, Json.get?, held] at filled
  | some value => exact isEmpty_dropEmpty_of_lookup held (keep_of_items held filled)

/-- A model whose fields are all lists is empty only with all of them empty. -/
theorem recovers_lists {columns : List (String × Schema)} :
    Recovers coercion
      (.model (columns.map fun column => (column.1, .default (.arr []), .list 0 column.2)) check)
      (.obj (columns.map fun column => (column.1, .arr []))) := by
  intro given dump read empty
  obtain ⟨values, dumped, rfl, rfl, valid, -⟩ := validate_model read
  congr 1
  have gone : dropEmptyFields dumped = [] := by
    rw [dropEmpty] at empty
    cases remaining : dropEmptyFields dumped with
    | nil => rfl
    | cons first rest => simp [remaining, isEmpty] at empty
  clear read empty
  induction columns generalizing dumped with
  | nil =>
      simp only [List.map_nil, validateFields, Except.ok.injEq] at valid
      exact valid.symm
  | cons column rest ih =>
      obtain ⟨value, others, first, tail, rfl⟩ := validateFields_cons valid
      have usual : validate coercion (.list 0 column.2) (.arr []) = .ok (.arr []) := rfl
      cases value with
      | none => cases readPresence_none first
      | some value =>
          rw [consField, dropEmptyFields_cons] at gone
          cases kept : keep value with
          | some left => simp [kept, consField] at gone
          | none =>
              simp only [kept, consField] at gone
              obtain ⟨source, sourceValid⟩ := readPresence_some (fun _ same => by cases same; exact usual) first
              have present : value ≠ .null := by
                obtain ⟨_, _, _, rfl, _⟩ := validate_list sourceValid
                simp
              have same := recovers_list column.2 source value sourceValid
                (isEmpty_of_keep present kept)
              rw [same, consField, List.map_cons, ih others tail gone]

/-! ## Unions -/

theorem restores_tagged {tag : String} {cases : List (String × Schema)}
    (formed : WellFormed coercion (.tagged tag cases))
    (each : ∀ choice ∈ cases, Restores coercion choice.2) :
    Restores coercion (.tagged tag cases) := by
  intro given dump read
  rw [WellFormed] at formed
  obtain ⟨value, schema, chosen, member, valid⟩ := validate_tagged read
  have keyed := (wellFormedCases_mem formed member).2 given dump valid
  rw [retained, keyed]
  simp only [retainedCase_lookup cases value schema dump chosen]
  exact each (value, schema) member given dump valid

theorem filled_tagged {tag : String} {cases : List (String × Schema)}
    (each : ∀ choice ∈ cases, Filled coercion choice.2) : Filled coercion (.tagged tag cases) := by
  intro given dump read
  obtain ⟨value, schema, _, member, valid⟩ := validate_tagged read
  exact each (value, schema) member given dump valid

/-! ## Documents that read back with the same content -/

/-- What the schema reads can be read again without its empty parts, and the
second dump differs from the first in nothing but empty parts. -/
def Rereads (coercion : Coercion) (schema : Schema) : Prop :=
  ∀ given dump, validate coercion schema given = .ok dump →
    ∃ again, validate coercion schema (dropEmpty dump) = .ok again ∧
      dropEmpty again = dropEmpty dump

/-- A field that may be left out once its value is empty. -/
def RereadsField (coercion : Coercion) : Presence → Schema → Prop
  | .required, schema => Filled coercion schema
  | .optional, _ => True
  | .default usual, schema =>
      ∀ given dump, validate coercion schema given = .ok dump → keep dump = none →
        keep usual = none

/-- An instance is determined by its content. -/
theorem Restores.instance_ext (restores : Restores coercion schema)
    (formed : WellFormed coercion schema) {left right : Instance coercion schema}
    (same : left.semanticDocument = right.semanticDocument) : left = right := by
  have restored : ∀ read : Instance coercion schema,
      validate coercion schema read.semanticDocument = .ok read.dump := fun read =>
    validate_dropEmpty formed read.valid (restores _ _ read.valid)
  have dumps := restored left
  rw [same, restored right] at dumps
  exact Instance.ext _ _ (Except.ok.inj dumps).symm

theorem Restores.rereads (restores : Restores coercion schema) (formed : WellFormed coercion schema) :
    Rereads coercion schema := by
  intro given dump read
  exact ⟨dump, validate_dropEmpty formed read (restores given dump read), rfl⟩

theorem RestoresField.rereadsField (formed : WellFormed coercion schema)
    (restores : RestoresField coercion presence schema) :
    RereadsField coercion presence schema := by
  cases presence with
  | required => exact restores
  | optional => trivial
  | default usual =>
      intro given dump read dropped
      have present := validate_ne_null formed read
      rw [← restores given dump read (isEmpty_of_keep present dropped)]
      exact dropped

theorem rereads_list (inner : Rereads coercion item) : Rereads coercion (.list least item) := by
  intro given dump read
  obtain ⟨items, dumps, rfl, rfl, mapped, enough⟩ := validate_list read
  have each : ∃ again, List.Forall₂ (fun value second => validate coercion item value = .ok second)
      (dropEmptyItems dumps) again ∧ dropEmptyItems again = dropEmptyItems dumps := by
    rw [mapM_except_ok] at mapped
    clear read enough
    induction mapped with
    | nil => exact ⟨[], .nil, rfl⟩
    | cons head _ ih =>
        obtain ⟨second, valid, same⟩ := inner _ _ head
        obtain ⟨rest, aligned, rests⟩ := ih
        exact ⟨second :: rest, .cons valid aligned, by simp only [dropEmptyItems, same, rests]⟩
  obtain ⟨again, aligned, same⟩ := each
  have length : least ≤ (dropEmptyItems dumps).length := by
    simpa [dropEmptyItems_eq_map] using enough
  refine ⟨.arr again, ?_, by simp only [dropEmpty, same]⟩
  rw [dropEmpty, validate, if_pos length, (mapM_except_ok _ _ _).mpr aligned]
  rfl

/-- A field is read again from what was kept of it. -/
theorem readPresence_keep {source value : Option Json} (formed : WellFormed coercion schema)
    (defaults : ∀ usual, presence = .default usual → validate coercion schema usual = .ok usual)
    (read : readPresence (validate coercion schema) presence source = .ok value)
    (inner : Rereads coercion schema)
    (safe : RereadsField coercion presence schema ∨ value.bind keep ≠ none) :
    ∃ again, readPresence (validate coercion schema) presence (value.bind keep) = .ok again ∧
      again.bind keep = value.bind keep := by
  cases value with
  | none =>
      rw [readPresence_none read]
      exact ⟨none, rfl, rfl⟩
  | some value =>
      obtain ⟨given, valid⟩ := readPresence_some defaults read
      have present := validate_ne_null formed valid
      cases kept : keep value with
      | none =>
          have safe := safe.resolve_right (by simp [kept])
          cases presence with
          | required =>
              have filled := safe given value valid
              rw [isEmpty_of_keep present kept] at filled
              cases filled
          | optional => exact ⟨none, by simp [kept, readPresence], by simp [kept]⟩
          | default usual =>
              exact ⟨some usual, by simp [kept, readPresence],
                by simp [kept, safe given value valid kept]⟩
      | some left =>
          obtain ⟨again, validAgain, same⟩ := inner given value valid
          obtain ⟨rfl, filled⟩ := keep_eq_some kept
          have presentAgain := validate_ne_null formed validAgain
          refine ⟨some again, ?_, ?_⟩
          · simp only [Option.bind_some, kept, readPresence_of_ne_null (dropEmpty_ne_null present),
              validAgain, Except.map]
          · simp only [Option.bind_some, kept]
            rw [keep, if_neg (by simp [presentAgain, same, filled]), same]

theorem validateFields_total {source : List (String × Json)}
    (each : ∀ name presence schema, (name, presence, schema) ∈ fields → ∃ value,
      readPresence (validate coercion schema) presence (source.lookup name) = .ok value) :
    ∃ dumped, validateFields coercion fields source = .ok dumped := by
  induction fields with
  | nil => exact ⟨[], rfl⟩
  | cons field rest ih =>
      obtain ⟨name, presence, schema⟩ := field
      obtain ⟨value, first⟩ := each name presence schema List.mem_cons_self
      obtain ⟨others, tail⟩ := ih fun name presence schema member =>
        each name presence schema (List.mem_cons_of_mem _ member)
      exact ⟨consField name value others, by
        simp only [validateFields, first, tail, bind, Except.bind]⟩

theorem dropEmptyFields_consField (name : String) (value : Option Json)
    (rest : List (String × Json)) :
    dropEmptyFields (consField name value rest) =
      consField name (value.bind keep) (dropEmptyFields rest) := by
  cases value with
  | none => rfl
  | some value => exact dropEmptyFields_cons name value rest

/-- Two dumps of one model have the same content if every field has. -/
theorem dropEmptyFields_eq (increasing : (names fields).Pairwise (· < ·))
    {given source : List (String × Json)} (read : validateFields coercion fields given = .ok dumped)
    (readAgain : validateFields coercion fields source = .ok again)
    (same : ∀ name ∈ names fields,
      (again.lookup name).bind keep = (dumped.lookup name).bind keep) :
    dropEmptyFields again = dropEmptyFields dumped := by
  induction fields generalizing dumped again with
  | nil =>
      simp only [validateFields, Except.ok.injEq] at read readAgain
      rw [← read, ← readAgain]
  | cons field rest ih =>
      obtain ⟨name, presence, schema⟩ := field
      obtain ⟨value, others, _, tail, rfl⟩ := validateFields_cons read
      obtain ⟨second, later, _, tailAgain, rfl⟩ := validateFields_cons readAgain
      simp only [names, List.map_cons, List.pairwise_cons] at increasing
      have fresh : ∀ {left entries}, validateFields coercion rest left = .ok entries →
          name ∉ entries.map Prod.fst := by
        intro left entries tail found
        exact absurd rfl (ne_of_lt (increasing.1 name
          ((validateFields_keys tail).subset found)))
      have head := same name (by simp [names])
      rw [lookup_consField_self _ _ _ (fresh tailAgain), lookup_consField_self _ _ _ (fresh tail)]
        at head
      have rests := ih increasing.2 tail tailAgain fun other member => by
        have differ : other ≠ name := (ne_of_lt (increasing.1 other member)).symm
        have equal := same other (List.mem_cons_of_mem _ member)
        rwa [lookup_consField_ne _ _ _ _ differ, lookup_consField_ne _ _ _ _ differ] at equal
      rw [dropEmptyFields_consField, dropEmptyFields_consField, head, rests]

def RereadsFields (coercion : Coercion) (guarded : List String) :
    List (String × Presence × Schema) → Prop
  | [] => True
  | (name, presence, schema) :: rest =>
      Rereads coercion schema ∧ (name ∈ guarded ∨ RereadsField coercion presence schema) ∧
        RereadsFields coercion guarded rest

theorem rereadsFields_mem (each : RereadsFields coercion guarded fields)
    (member : (name, presence, schema) ∈ fields) :
    Rereads coercion schema ∧ (name ∈ guarded ∨ RereadsField coercion presence schema) := by
  induction fields with
  | nil => simp at member
  | cons field rest ih =>
      rw [RereadsFields] at each
      rcases List.mem_cons.mp member with rfl | later
      · exact ⟨each.1, each.2.1⟩
      · exact ih each.2.2 later

/-- A model is read again if every field is and its check passes a second time. -/
theorem rereads_model (guarded : List String) (formed : WellFormed coercion (.model fields check))
    (each : RereadsFields coercion guarded fields)
    (guards : ∀ dump, check dump = .ok () → ∀ name ∈ guarded, dump.items name ≠ [])
    (checks : ∀ given dumped again, validateFields coercion fields given = .ok dumped →
      validateFields coercion fields (dropEmptyFields dumped) = .ok again →
        check (.obj dumped) = .ok () → check (.obj again) = .ok ()) :
    Rereads coercion (.model fields check) := by
  intro given dump read
  rw [WellFormed] at formed
  obtain ⟨values, dumped, rfl, rfl, valid, checked⟩ := validate_model read
  have keys := validateFields_keys valid
  have field : ∀ name presence schema, (name, presence, schema) ∈ fields → ∃ value,
      readPresence (validate coercion schema) presence ((dropEmptyFields dumped).lookup name) =
        .ok value ∧ value.bind keep = (dumped.lookup name).bind keep := by
    intro name presence schema member
    obtain ⟨schemaFormed, defaults⟩ := wellFormedFields_mem formed.2 member
    have first := validateFields_lookup formed.1 valid member
    obtain ⟨inner, safe⟩ := rereadsFields_mem each member
    rw [lookup_dropEmpty_read formed.1 valid]
    refine readPresence_keep schemaFormed defaults first inner (safe.symm.imp_right fun guard => ?_)
    have filled := guards _ checked name guard
    cases held : dumped.lookup name with
    | none => simp [Json.items, Json.get?, held] at filled
    | some value => simpa using keep_of_items held filled
  obtain ⟨again, validAgain⟩ := validateFields_total fun name presence schema member =>
    (field name presence schema member).imp fun _ both => both.1
  have content : dropEmptyFields again = dropEmptyFields dumped := by
    refine dropEmptyFields_eq formed.1 valid validAgain fun name member => ?_
    obtain ⟨⟨name, presence, schema⟩, inside, rfl⟩ := List.mem_map.mp member
    obtain ⟨value, second, same⟩ := field name presence schema inside
    rw [validateFields_lookup formed.1 validAgain inside] at second
    rw [Except.ok.inj second]
    exact same
  have known : ((dropEmptyFields dumped).all fun field => decide (field.1 ∈ names fields)) = true := by
    simp only [List.all_eq_true, decide_eq_true_eq]
    intro field member
    exact keys.subset ((dropEmptyFields_keys dumped).subset (List.mem_map_of_mem member))
  refine ⟨.obj again, ?_, by simp only [dropEmpty, content]⟩
  rw [dropEmpty, validate, if_pos known, validAgain]
  simp only [bind, Except.bind, checks values dumped again valid validAgain checked]

/-- A field that is restored is the same in the second dump. -/
theorem lookup_reread (increasing : (names fields).Pairwise (· < ·))
    (formed : WellFormedFields coercion fields) {given : List (String × Json)}
    (read : validateFields coercion fields given = .ok dumped)
    (readAgain : validateFields coercion fields (dropEmptyFields dumped) = .ok again)
    (member : (name, presence, schema) ∈ fields) (inner : Restores coercion schema)
    (safe : RestoresField coercion presence schema ∨ (Json.obj dumped).items name ≠ []) :
    again.lookup name = dumped.lookup name := by
  obtain ⟨schemaFormed, defaults⟩ := wellFormedFields_mem formed member
  have first := validateFields_lookup increasing read member
  have second := validateFields_lookup increasing readAgain member
  rw [lookup_dropEmpty_read increasing read] at second
  cases held : dumped.lookup name with
  | none =>
      rw [held] at first second
      rw [readPresence_none first] at second
      exact (Except.ok.inj second).symm
  | some value =>
      obtain ⟨present, source, valid⟩ :=
        validateFields_source increasing formed read member held
      rw [held, Option.bind_some] at second
      cases kept : keep value with
      | some left =>
          obtain ⟨rfl, _⟩ := keep_eq_some kept
          have restored := validate_dropEmpty schemaFormed valid
            (inner source value valid)
          rw [kept, readPresence_of_ne_null (dropEmpty_ne_null present), restored] at second
          exact (Except.ok.inj second).symm
      | none =>
          have safe := safe.resolve_right fun filled => keep_of_items held filled kept
          have empty := isEmpty_of_keep present kept
          cases presence with
          | default usual =>
              rw [kept, ← safe source value valid empty] at second
              exact (Except.ok.inj second).symm
          | required =>
              rw [safe source value valid] at empty
              cases empty
          | optional =>
              rw [safe source value valid] at empty
              cases empty

/-- A field that always holds a value is read again from its own content. -/
theorem validate_lookup_reread (increasing : (names fields).Pairwise (· < ·))
    (formed : WellFormedFields coercion fields) {given : List (String × Json)}
    (read : validateFields coercion fields given = .ok dumped)
    (readAgain : validateFields coercion fields (dropEmptyFields dumped) = .ok again)
    (member : (name, presence, schema) ∈ fields) (mandatory : presence ≠ .optional)
    (emptied : ∀ usual source value, presence = .default usual →
      validate coercion schema source = .ok value → dumped.lookup name = some value →
        isEmpty (dropEmpty value) = true → validate coercion schema (dropEmpty value) = .ok usual) :
    validate coercion schema (dropEmpty ((Json.obj dumped).field name)) =
      .ok ((Json.obj again).field name) := by
  have field := validateFields_lookup increasing readAgain member
  obtain ⟨value, held⟩ := validateFields_present_of_mandatory increasing read member mandatory
  obtain ⟨present, source, valid⟩ := validateFields_source increasing formed read member held
  rw [lookup_dropEmpty_read increasing read, held, Option.bind_some] at field
  simp only [Json.field, Json.get?, held, Option.getD_some]
  cases left : keep value with
  | some remaining =>
      obtain ⟨rfl, _⟩ := keep_eq_some left
      rw [left, readPresence_of_ne_null (dropEmpty_ne_null present)] at field
      cases second : validate coercion schema (dropEmpty value) with
      | error reason => simp [second, Except.map] at field
      | ok result =>
          simp only [second, Except.map, Except.ok.injEq] at field
          rw [← field, Option.getD_some]
  | none =>
      rw [left] at field
      cases presence with
      | optional => exact absurd rfl mandatory
      | required => simp [readPresence] at field
      | default usual =>
          simp only [readPresence, Except.ok.injEq] at field
          rw [← field, Option.getD_some]
          exact emptied usual source value rfl valid held (isEmpty_of_keep present left)

/-- A dump of a model and the dump read from its content, field by field. -/
theorem validate_model_reread {again : Json}
    (read : validate coercion (.model fields check) given = .ok dump)
    (readAgain : validate coercion (.model fields check) (dropEmpty dump) = .ok again) :
    ∃ values dumped second, dump = .obj dumped ∧ again = .obj second ∧
      validateFields coercion fields values = .ok dumped ∧
      validateFields coercion fields (dropEmptyFields dumped) = .ok second := by
  obtain ⟨values, dumped, rfl, rfl, valid, _⟩ := validate_model read
  obtain ⟨kept, second, same, rfl, validAgain, _⟩ := validate_model readAgain
  rw [dropEmpty, Json.obj.injEq] at same
  subst same
  exact ⟨values, dumped, second, rfl, rfl, valid, validAgain⟩

/-! ## Documents that do not read back -/

/-- A required list that is empty is dropped, and then missing. -/
theorem not_validate_dropEmpty (formed : WellFormed coercion (.model fields check))
    (read : validate coercion (.model fields check) given = .ok dump)
    (member : (name, .required, .list least item) ∈ fields) (empty : dump.items name = [])
    (again : Json) : validate coercion (.model fields check) (dropEmpty dump) ≠ .ok again := by
  rw [WellFormed] at formed
  obtain ⟨values, dumped, rfl, rfl, valid, _⟩ := validate_model read
  intro readAgain
  obtain ⟨kept, _, same, _, validAgain, _⟩ := validate_model readAgain
  rw [dropEmpty, Json.obj.injEq] at same
  subst same
  have field := validateFields_lookup formed.1 validAgain member
  obtain ⟨left, _, found, _, _⟩ := readPresence_required _ _ _ field
  rw [lookup_dropEmpty_read formed.1 valid] at found
  obtain ⟨value, held, kept⟩ := Option.bind_eq_some_iff.mp found
  obtain ⟨_, source, sourceValid⟩ := validateFields_source formed.1 formed.2 valid member held
  obtain ⟨_, items, _, rfl, _⟩ := validate_list sourceValid
  have none : items = [] := by simpa only [Json.items, Json.get?, held] using empty
  rw [none] at kept
  cases kept

end DocumentSchema
