import Evidrun.Lib.JsonText
import Mathlib.Data.List.DropRight

/-!
# Document schemas

A schema reads a JSON document field by field: scalars are checked and put in a
normal form, models refuse unknown fields and fill in defaults, and a check over
the whole model runs last. Reading gives back a document, the dump of the model
that was read. `dropEmpty` then removes null and empty parts, recursively.

The main result is that a dump read after `dropEmpty` gives the same dump again,
as long as `dropEmpty` removed nothing the schema cannot restore (`retained`).
-/

namespace DocumentSchema

open JsonText

set_option autoImplicit false

/-! ## Scalars -/

/-- How loosely typed scalars are read. What already has the type is kept, and a
time is read into its canonical text. -/
structure Coercion where
  toInt : Json → Option Int
  toBool : Json → Option Bool
  toFloat : Json → Option FloatText
  isTimestamp : String → Bool
  toTimestamp : Json → Option String
  int_kept : ∀ value, toInt (.int value) = some value
  bool_kept : ∀ value, toBool (.bool value) = some value
  float_kept : ∀ value, toFloat (.float value) = some value
  timestamp_kept : ∀ text, isTimestamp text = true → toTimestamp (.str text) = some text
  timestamp_read : ∀ given text, toTimestamp given = some text → isTimestamp text = true

attribute [simp] Coercion.int_kept Coercion.bool_kept Coercion.float_kept

/-- Only values of the type itself are read; any string stands for a time. -/
def Coercion.strict : Coercion where
  toInt
    | .int value => some value
    | _ => none
  toBool
    | .bool value => some value
    | _ => none
  toFloat
    | .float value => some value
    | _ => none
  isTimestamp _ := true
  toTimestamp
    | .str text => some text
    | _ => none
  int_kept _ := rfl
  bool_kept _ := rfl
  float_kept _ := rfl
  timestamp_kept _ _ := rfl
  timestamp_read _ _ _ := rfl

/-- The white space that trimming removes (the Unicode `White_Space` property). -/
def isWhitespace (char : Char) : Bool :=
  let code := char.toNat
  (9 ≤ code && code ≤ 13) || code == 0x20 || code == 0x85 || code == 0xA0 || code == 0x1680 ||
    (0x2000 ≤ code && code ≤ 0x200A) || code == 0x2028 || code == 0x2029 || code == 0x202F ||
    code == 0x205F || code == 0x3000

def stripChars (isSpace : Char → Bool) (chars : List Char) : List Char :=
  (chars.dropWhile isSpace).rdropWhile isSpace

def strip (text : String) : String := String.ofList (stripChars isWhitespace text.toList)

def startsWith (start : List Char) (text : String) : Bool := start.isPrefixOf text.toList

inductive Scalar
  /-- Any string. -/
  | text
  /-- A string trimmed of white space, not empty then, and accepted. -/
  | trimmed (accepts : String → Bool)
  /-- A string accepted as it stands. -/
  | matching (accepts : String → Bool)
  | integer (least : Option Int)
  | boolean
  | float (accepts : FloatText → Bool)
  | timestamp
  | literal (values : List String)
  /-- A string, an integer, a float or a boolean. -/
  | primitive

namespace Scalar

def parse (coercion : Coercion) : Scalar → Json → Except String Json
  | .text, .str value => .ok (.str value)
  | .text, _ => .error "Input should be a valid string"
  | .trimmed accepts, .str value =>
      if strip value = "" then .error "String should have at least 1 character"
      else if accepts (strip value) then .ok (.str (strip value))
      else .error "Value error"
  | .trimmed _, _ => .error "Input should be a valid string"
  | .matching accepts, .str value =>
      if accepts value then .ok (.str value) else .error "String should match pattern"
  | .matching _, _ => .error "Input should be a valid string"
  | .integer least, given => match coercion.toInt given with
      | some value =>
          if least.all (· ≤ value) then .ok (.int value)
          else .error "Input should be greater than or equal to the bound"
      | none => .error "Input should be a valid integer"
  | .boolean, given => match coercion.toBool given with
      | some value => .ok (.bool value)
      | none => .error "Input should be a valid boolean"
  | .float accepts, given => match coercion.toFloat given with
      | some value =>
          if accepts value then .ok (.float value) else .error "Input should be within its bounds"
      | none => .error "Input should be a valid number"
  | .timestamp, given => match coercion.toTimestamp given with
      | some value => .ok (.str value)
      | none => .error "Input should be a valid datetime"
  | .literal values, .str value =>
      if value ∈ values then .ok (.str value) else .error "Input should be a permitted value"
  | .literal _, _ => .error "Input should be a permitted value"
  | .primitive, .str value => .ok (.str value)
  | .primitive, .int value => .ok (.int value)
  | .primitive, .float value => .ok (.float value)
  | .primitive, .bool value => .ok (.bool value)
  | .primitive, _ => .error "Input should be a valid string"

end Scalar

def isScalar : Json → Bool
  | .null | .arr _ | .obj _ => false
  | _ => true

/-- Trimming the end keeps the first character unless nothing is left. -/
private theorem dropWhile_stripChars (isSpace : Char → Bool) (chars : List Char) :
    (stripChars isSpace chars).dropWhile isSpace = stripChars isSpace chars := by
  unfold stripChars
  obtain ⟨tail, split⟩ := List.rdropWhile_prefix isSpace (l := chars.dropWhile isSpace)
  cases kept : (chars.dropWhile isSpace).rdropWhile isSpace with
  | nil => rfl
  | cons char rest =>
      have first := List.head?_dropWhile_not isSpace chars
      rw [← split, kept] at first
      simp only [List.cons_append, List.head?_cons] at first
      simp [first]

theorem stripChars_idempotent (isSpace : Char → Bool) (chars : List Char) :
    stripChars isSpace (stripChars isSpace chars) = stripChars isSpace chars := by
  calc stripChars isSpace (stripChars isSpace chars)
      = (stripChars isSpace chars).rdropWhile isSpace := by
        conv_lhs => rw [stripChars, dropWhile_stripChars]
    _ = stripChars isSpace chars := List.rdropWhile_idempotent isSpace _

variable {chars : List Char} {text : String}

/-- A text with a visible character is not trimmed to nothing. -/
theorem stripChars_ne_nil {isSpace : Char → Bool} {char : Char} (member : char ∈ chars)
    (visible : isSpace char = false) : stripChars isSpace chars ≠ [] := by
  intro blank
  have spaces := List.rdropWhile_eq_nil_iff.mp blank
  rw [← List.takeWhile_append_dropWhile (p := isSpace) (l := chars)] at member
  rcases List.mem_append.mp member with taken | dropped
  · have := List.mem_takeWhile_imp taken
    simp [visible] at this
  · have := spaces char dropped
    simp [visible] at this

theorem visible_of_stripChars {isSpace : Char → Bool} (given : stripChars isSpace chars ≠ []) :
    ∃ char ∈ chars, isSpace char = false := by
  by_contra none
  push Not at none
  refine given ?_
  have all : chars.dropWhile isSpace = [] := by
    simpa [List.dropWhile_eq_nil_iff] using none
  rw [stripChars, all]
  rfl

theorem strip_ne_empty {char : Char} (member : char ∈ text.toList)
    (visible : isWhitespace char = false) : strip text ≠ "" := by
  intro blank
  have chars := congrArg String.toList blank
  rw [strip, String.toList_ofList] at chars
  exact stripChars_ne_nil member visible chars

/-- A text without white space is trimmed. -/
theorem strip_of_visible (visible : ∀ char ∈ text.toList, isWhitespace char = false) :
    strip text = text := by
  have dropped : text.toList.dropWhile isWhitespace = text.toList := by
    cases chars : text.toList with
    | nil => rfl
    | cons first rest => simp [visible first (by rw [chars]; exact List.mem_cons_self)]
  have kept : text.toList.rdropWhile isWhitespace = text.toList := by
    refine List.rdropWhile_eq_self_iff.mpr fun given => ?_
    simp [visible _ (List.getLast_mem given)]
  rw [strip, stripChars, dropped, kept, String.ofList_toList]

@[simp] theorem strip_strip (text : String) : strip (strip text) = strip text := by
  simp only [strip, String.toList_ofList, stripChars_idempotent]

/-- A text that trimming keeps and that is not empty. -/
def Trimmed (text : String) : Prop := strip text = text ∧ text ≠ ""

/-- A character that is there and is not white space. -/
def shown (char : Option Char) : Bool := char.any fun char => !isWhitespace char

theorem trimmed_ofList (first : shown chars.head? = true) (last : shown chars.getLast? = true) :
    Trimmed (String.ofList chars) := by
  have dropped : chars.dropWhile isWhitespace = chars := by
    cases chars with
    | nil => rfl
    | cons char rest => simp_all [shown]
  have kept : chars.rdropWhile isWhitespace = chars := by
    refine List.rdropWhile_eq_self_iff.mpr fun given => ?_
    rw [List.getLast?_eq_some_getLast given] at last
    simpa [shown] using last
  refine ⟨by rw [strip, String.toList_ofList, stripChars, dropped, kept], fun empty => ?_⟩
  have none : chars = [] := by simpa using congrArg String.toList empty
  simp [none, shown] at first

theorem Trimmed.shown_last (trimmed : Trimmed text) : shown text.toList.getLast? = true := by
  obtain ⟨same, given⟩ := trimmed
  have chars : (text.toList.dropWhile isWhitespace).rdropWhile isWhitespace = text.toList := by
    simpa [strip, stripChars] using congrArg String.toList same
  have present : text.toList ≠ [] := fun none => given (by simpa using congrArg String.ofList none)
  have last := List.rdropWhile_last_not isWhitespace (text.toList.dropWhile isWhitespace)
    (by rwa [chars])
  simp only [chars] at last
  rw [List.getLast?_eq_some_getLast present]
  simpa [shown] using last

theorem Trimmed.append {start : String} (visible : shown start.toList.head? = true)
    (trimmed : Trimmed text) : Trimmed (start ++ text) := by
  have last := trimmed.shown_last
  have chars : start ++ text = String.ofList (start.toList ++ text.toList) := by simp
  rw [chars]
  refine trimmed_ofList ?_ ?_
  · rw [List.head?_append]
    cases head : start.toList.head? with
    | none => simp [head, shown] at visible
    | some char => rwa [head] at visible
  · rw [List.getLast?_append]
    cases final : text.toList.getLast? with
    | none => simp [final, shown] at last
    | some char => rwa [final] at last

namespace Scalar

/-- A scalar that was read is in normal form. -/
theorem parse_stable (coercion : Coercion) (rule : Scalar) (given value : Json)
    (read : rule.parse coercion given = .ok value) :
    rule.parse coercion value = .ok value ∧ isScalar value = true := by
  cases rule with
  | text => cases given <;> simp [parse] at read; subst read; simp [parse, isScalar]
  | trimmed accepts =>
      cases given with
      | str text =>
          simp only [parse] at read
          split_ifs at read with empty accepted
          cases read
          simp [parse, empty, accepted, isScalar]
      | _ => simp [parse] at read
  | matching accepts =>
      cases given with
      | str text =>
          simp only [parse] at read
          split_ifs at read with accepted
          cases read
          simp [parse, accepted, isScalar]
      | _ => simp [parse] at read
  | integer least =>
      simp only [parse] at read
      split at read
      · split_ifs at read with bound
        cases read
        simp [parse, bound, isScalar]
      · cases read
  | boolean =>
      simp only [parse] at read
      split at read
      · cases read
        simp [parse, isScalar]
      · cases read
  | float accepts =>
      simp only [parse] at read
      split at read
      · split_ifs at read with accepted
        cases read
        simp [parse, accepted, isScalar]
      · cases read
  | timestamp =>
      simp only [parse] at read
      split at read
      next text found =>
        cases read
        have canonical := coercion.timestamp_read given text found
        simp [parse, coercion.timestamp_kept text canonical, isScalar]
      · cases read
  | literal values =>
      cases given with
      | str text =>
          simp only [parse] at read
          split_ifs at read with member
          cases read
          simp [parse, member, isScalar]
      | _ => simp [parse] at read
  | primitive => cases given <;> simp [parse] at read <;> subst read <;> simp [parse, isScalar]

end Scalar

/-! ## Schemas -/

inductive Presence
  | required
  | optional
  | default (value : Json)

inductive Schema
  | scalar (rule : Scalar)
  /-- One fixed value. -/
  | constant (value : Json)
  | list (least : Nat) (item : Schema)
  /-- Named fields, and a check over the dump of all of them. -/
  | model (fields : List (String × Presence × Schema)) (check : Json → Except String Unit)
  /-- One model per value of the discriminating field. -/
  | tagged (tag : String) (cases : List (String × Schema))

def noCheck : Json → Except String Unit := fun _ => .ok ()

def names (fields : List (String × Presence × Schema)) : List String := fields.map (·.1)

/-- A field's dump: `none` when the field holds nothing. -/
def readPresence (read : Json → Except String Json) :
    Presence → Option Json → Except String (Option Json)
  | .required, none => .error "Field required"
  | .optional, none => .ok none
  | .default value, none => .ok (some value)
  | .optional, some .null => .ok none
  | _, some given => (read given).map some

def consField (name : String) (value : Option Json) (rest : List (String × Json)) :
    List (String × Json) :=
  match value with
  | none => rest
  | some value => (name, value) :: rest

mutual
def validate (coercion : Coercion) : Schema → Json → Except String Json
  | .scalar rule, given => rule.parse coercion given
  | .constant value, given =>
      if given = value then .ok value else .error "Input should be the permitted value"
  | .list least item, .arr items =>
      if least ≤ items.length then (items.mapM (validate coercion item)).map .arr
      else .error "Tuple should have more items"
  | .list _ _, _ => .error "Input should be a valid tuple"
  | .model fields check, .obj given =>
      if given.all fun field => field.1 ∈ names fields then do
        let dump ← validateFields coercion fields given
        check (.obj dump)
        .ok (.obj dump)
      else .error "Extra inputs are not permitted"
  | .model _ _, _ => .error "Input should be a valid dictionary"
  | .tagged tag cases, .obj given => match given.lookup tag with
      | some (.str value) => validateCase coercion cases value (.obj given)
      | _ => .error "Unable to extract tag using discriminator"
  | .tagged _ _, _ => .error "Input should be a valid dictionary"

def validateFields (coercion : Coercion) : List (String × Presence × Schema) →
    List (String × Json) → Except String (List (String × Json))
  | [], _ => .ok []
  | (name, presence, schema) :: rest, given => do
      let value ← readPresence (validate coercion schema) presence (given.lookup name)
      let others ← validateFields coercion rest given
      .ok (consField name value others)

def validateCase (coercion : Coercion) : List (String × Schema) → String → Json →
    Except String Json
  | [], _, _ => .error "Input tag does not match any of the expected tags"
  | (value, schema) :: rest, tag, given =>
      if value = tag then validate coercion schema given
      else validateCase coercion rest tag given
end

/-! ## Dropping empty parts -/

def isEmpty : Json → Bool
  | .arr [] => true
  | .obj [] => true
  | _ => false

mutual
def dropEmpty : Json → Json
  | .arr items => .arr (dropEmptyItems items)
  | .obj fields => .obj (dropEmptyFields fields)
  | other => other

def dropEmptyItems : List Json → List Json
  | [] => []
  | item :: rest => dropEmpty item :: dropEmptyItems rest

def dropEmptyFields : List (String × Json) → List (String × Json)
  | [] => []
  | (key, value) :: rest =>
      if value = .null ∨ isEmpty (dropEmpty value) then dropEmptyFields rest
      else (key, dropEmpty value) :: dropEmptyFields rest
end

/-- What `dropEmpty` leaves of a field's value. -/
def keep (value : Json) : Option Json :=
  if value = .null ∨ isEmpty (dropEmpty value) then none else some (dropEmpty value)

/-- The document of a model that was read: its dump without empty parts. -/
def normalize (coercion : Coercion) (schema : Schema) (given : Json) : Except String Json :=
  (validate coercion schema given).map dropEmpty

theorem dropEmptyFields_cons (key : String) (value : Json) (rest : List (String × Json)) :
    dropEmptyFields ((key, value) :: rest) =
      consField key (keep value) (dropEmptyFields rest) := by
  rw [dropEmptyFields, keep]
  split_ifs <;> rfl

theorem dropEmptyItems_eq_map (items : List Json) : dropEmptyItems items = items.map dropEmpty := by
  induction items with
  | nil => rfl
  | cons item rest ih => rw [dropEmptyItems, ih, List.map_cons]

theorem keep_of_isScalar (value : Json) (scalar : isScalar value = true) :
    keep value = some value := by
  cases value <;> simp_all [isScalar, keep, dropEmpty, isEmpty]

theorem keep_eq_none (value : Json) (dropped : keep value = none) :
    value = .null ∨ isEmpty (dropEmpty value) = true := by
  unfold keep at dropped
  split_ifs at dropped with empty
  exact empty

theorem keep_eq_some {value kept : Json} (same : keep value = some kept) :
    kept = dropEmpty value ∧ isEmpty kept = false := by
  unfold keep at same
  split_ifs at same with empty
  push Not at empty
  exact ⟨(Option.some.inj same).symm, by rw [← Option.some.inj same]; simpa using empty.2⟩

/-! ## Keys of dumps -/

theorem consField_keys (name : String) (value : Option Json) (rest : List (String × Json)) :
    ((consField name value rest).map Prod.fst).Sublist (name :: rest.map Prod.fst) := by
  cases value with
  | none => exact List.sublist_cons_self _ _
  | some value => exact List.Sublist.refl _

theorem validateFields_cons {coercion : Coercion} {name : String} {presence : Presence}
    {schema : Schema} {rest : List (String × Presence × Schema)} {given dump : List (String × Json)}
    (read : validateFields coercion ((name, presence, schema) :: rest) given = .ok dump) :
    ∃ value others, readPresence (validate coercion schema) presence (given.lookup name) = .ok value ∧
      validateFields coercion rest given = .ok others ∧ dump = consField name value others := by
  rw [validateFields] at read
  cases first : readPresence (validate coercion schema) presence (given.lookup name) with
  | error reason => simp [first, bind, Except.bind] at read
  | ok value =>
      cases second : validateFields coercion rest given with
      | error reason => simp [first, second, bind, Except.bind] at read
      | ok others =>
          simp only [first, second, bind, Except.bind, Except.ok.injEq] at read
          exact ⟨value, others, rfl, rfl, read.symm⟩

theorem validateFields_keys {coercion : Coercion} {fields : List (String × Presence × Schema)}
    {given dump : List (String × Json)} (read : validateFields coercion fields given = .ok dump) :
    (dump.map Prod.fst).Sublist (names fields) := by
  induction fields generalizing dump with
  | nil =>
      simp only [validateFields, Except.ok.injEq] at read
      subst read
      exact List.Sublist.refl _
  | cons field rest ih =>
      obtain ⟨name, presence, schema⟩ := field
      obtain ⟨value, others, _, tail, rfl⟩ := validateFields_cons read
      exact (consField_keys name value others).trans ((ih tail).cons_cons name)

theorem dropEmptyFields_keys (fields : List (String × Json)) :
    ((dropEmptyFields fields).map Prod.fst).Sublist (fields.map Prod.fst) := by
  induction fields with
  | nil => exact List.Sublist.refl _
  | cons field rest ih =>
      rw [dropEmptyFields_cons]
      exact (consField_keys field.1 _ _).trans (ih.cons_cons field.1)

theorem lookup_eq_none {fields : List (String × Json)} {name : String} :
    fields.lookup name = none ↔ name ∉ fields.map Prod.fst := by
  simp only [List.lookup_eq_none_iff, bne_iff_ne, List.mem_map, not_exists, not_and]
  exact forall₂_congr fun _ _ => ne_comm

theorem lookup_consField_self (name : String) (value : Option Json) (rest : List (String × Json))
    (absent : name ∉ rest.map Prod.fst) : (consField name value rest).lookup name = value := by
  cases value with
  | none => exact lookup_eq_none.mpr absent
  | some value => simp [consField]

theorem lookup_consField_ne (name other : String) (value : Option Json)
    (rest : List (String × Json)) (differ : other ≠ name) :
    (consField name value rest).lookup other = rest.lookup other := by
  cases value with
  | none => rfl
  | some value => simp [consField, List.lookup_cons, beq_eq_false_iff_ne.mpr differ]

/-- A value that is kept is found whatever the other fields are. -/
theorem lookup_dropEmptyFields_kept {fields : List (String × Json)} {name : String}
    {value kept : Json} (found : fields.lookup name = some value) (same : keep value = some kept) :
    (dropEmptyFields fields).lookup name = some kept := by
  induction fields with
  | nil => simp at found
  | cons field rest ih =>
      obtain ⟨key, held⟩ := field
      rw [dropEmptyFields_cons]
      by_cases equal : name = key
      · subst equal
        simp only [List.lookup_cons, beq_self_eq_true, Option.some.injEq] at found
        simp [consField, found, same]
      · rw [lookup_consField_ne key name _ _ equal]
        simp only [List.lookup_cons, beq_eq_false_iff_ne.mpr equal] at found
        exact ih found

theorem lookup_dropEmptyFields (fields : List (String × Json)) (name : String)
    (distinct : (fields.map Prod.fst).Nodup) :
    (dropEmptyFields fields).lookup name = (fields.lookup name).bind keep := by
  induction fields with
  | nil => rfl
  | cons field rest ih =>
      obtain ⟨key, value⟩ := field
      simp only [List.map_cons, List.nodup_cons] at distinct
      rw [dropEmptyFields_cons]
      by_cases same : name = key
      · subst same
        have absent : name ∉ (dropEmptyFields rest).map Prod.fst := fun member =>
          distinct.1 ((dropEmptyFields_keys rest).subset member)
        rw [lookup_consField_self name _ _ absent]
        simp
      · rw [lookup_consField_ne key name _ _ same, ih distinct.2]
        simp [List.lookup_cons, beq_eq_false_iff_ne.mpr same]

/-! ## Induction over schemas -/

section Induction

set_option linter.unusedSectionVars false

variable {motive : Schema → Prop} (scalar : ∀ rule, motive (.scalar rule))
  (constant : ∀ value, motive (.constant value))
  (list : ∀ least item, motive item → motive (.list least item))
  (model : ∀ fields check, (∀ field ∈ fields, motive field.2.2) → motive (.model fields check))
  (tagged : ∀ tag cases, (∀ choice ∈ cases, motive choice.2) → motive (.tagged tag cases))

include scalar constant list model tagged

mutual
private theorem inductSchema : (schema : Schema) → motive schema
  | .scalar rule => scalar rule
  | .constant value => constant value
  | .list least item => list least item (inductSchema item)
  | .model fields check => model fields check (inductFields fields)
  | .tagged tag cases => tagged tag cases (inductCases cases)

private theorem inductFields : (fields : List (String × Presence × Schema)) →
    ∀ field ∈ fields, motive field.2.2
  | [], _, member => by simp at member
  | (_, _, schema) :: rest, field, member => by
      rcases List.mem_cons.mp member with rfl | later
      · exact inductSchema schema
      · exact inductFields rest field later

private theorem inductCases : (cases : List (String × Schema)) →
    ∀ choice ∈ cases, motive choice.2
  | [], _, member => by simp at member
  | (_, schema) :: rest, choice, member => by
      rcases List.mem_cons.mp member with rfl | later
      · exact inductSchema schema
      · exact inductCases rest choice later
end

/-- Schemas are built from the schemas of their items, fields and cases. -/
@[elab_as_elim] theorem Schema.induct (schema : Schema) : motive schema :=
  inductSchema scalar constant list model tagged schema

end Induction

/-! ## Well-formed schemas -/

mutual
/-- Field names are in order, defaults are in normal form, and every case of a
tagged schema dumps its own tag. -/
def WellFormed (coercion : Coercion) : Schema → Prop
  | .scalar _ => True
  | .constant value => value.ordered = true ∧ dropEmpty value = value ∧ value ≠ .null
  | .list _ item => WellFormed coercion item
  | .model fields _ => (names fields).Pairwise (· < ·) ∧ WellFormedFields coercion fields
  | .tagged tag cases => WellFormedCases coercion tag cases

def WellFormedFields (coercion : Coercion) : List (String × Presence × Schema) → Prop
  | [] => True
  | (_, presence, schema) :: rest =>
      WellFormed coercion schema ∧
        (∀ value, presence = .default value → validate coercion schema value = .ok value) ∧
        WellFormedFields coercion rest

def WellFormedCases (coercion : Coercion) (tag : String) : List (String × Schema) → Prop
  | [] => True
  | (value, schema) :: rest =>
      WellFormed coercion schema ∧
        (∀ given dump, validate coercion schema given = .ok dump →
          dump.get? tag = some (.str value)) ∧
        WellFormedCases coercion tag rest
end

theorem wellFormedFields_mem {coercion : Coercion} {fields : List (String × Presence × Schema)}
    (formed : WellFormedFields coercion fields) {name : String} {presence : Presence}
    {schema : Schema} (member : (name, presence, schema) ∈ fields) :
    WellFormed coercion schema ∧
      ∀ value, presence = .default value → validate coercion schema value = .ok value := by
  induction fields with
  | nil => simp at member
  | cons field rest ih =>
      rw [WellFormedFields] at formed
      rcases List.mem_cons.mp member with rfl | later
      · exact ⟨formed.1, formed.2.1⟩
      · exact ih formed.2.2 later

theorem wellFormedCases_mem {coercion : Coercion} {tag : String} {cases : List (String × Schema)}
    (formed : WellFormedCases coercion tag cases) {value : String} {schema : Schema}
    (member : (value, schema) ∈ cases) :
    WellFormed coercion schema ∧
      ∀ given dump, validate coercion schema given = .ok dump →
        dump.get? tag = some (.str value) := by
  induction cases with
  | nil => simp at member
  | cons choice rest ih =>
      rw [WellFormedCases] at formed
      rcases List.mem_cons.mp member with rfl | later
      · exact ⟨formed.1, formed.2.1⟩
      · exact ih formed.2.2 later

/-! ## What a successful read consists of -/

theorem forM_except_ok {Error Item : Type} (check : Item → Except Error Unit)
    (items : List Item) :
    items.forM check = .ok () ↔ ∀ item ∈ items, check item = .ok () := by
  induction items with
  | nil => simp [pure, Except.pure]
  | cons item rest ih =>
      change (check item >>= fun _ => rest.forM check) = .ok () ↔ _
      rw [List.forall_mem_cons, ← ih]
      cases check item <;> simp [bind, Except.bind]

/-- From a sequence of steps that succeeded, the first step's result and the rest. -/
theorem bind_ok {Error First Second : Type} (first : Except Error First)
    (next : First → Except Error Second) (result : Second) :
    (first >>= next) = .ok result ↔ ∃ value, first = .ok value ∧ next value = .ok result := by
  cases first <;> simp [bind, Except.bind]

/-- A result beside the state it was returned with. -/
theorem ok_pair {Error First Second : Type} {first other : First} {second last : Second} :
    (.ok (first, second) : Except Error (First × Second)) = .ok (other, last) ↔
      first = other ∧ second = last := by
  simp

theorem mapM_except_ok {Error Item Output : Type} (read : Item → Except Error Output)
    (items : List Item) (outputs : List Output) :
    items.mapM read = .ok outputs ↔
      List.Forall₂ (fun item output => read item = .ok output) items outputs := by
  induction items generalizing outputs with
  | nil => cases outputs <;> simp [pure, Except.pure]
  | cons item rest ih =>
      rw [List.mapM_cons]
      cases first : read item with
      | error reason => cases outputs <;> simp [bind, Except.bind, first]
      | ok output =>
          cases second : rest.mapM read with
          | error reason =>
              have none : ∀ others,
                  ¬ List.Forall₂ (fun item output => read item = .ok output) rest others := by
                intro others related
                rw [← ih others, second] at related
                cases related
              cases outputs <;> simp [bind, Except.bind, first, none]
          | ok others =>
              cases outputs with
              | nil => simp [bind, Except.bind, pure, Except.pure]
              | cons head tail =>
                  have iff := ih tail
                  rw [second] at iff
                  simp only [Except.ok.injEq] at iff
                  simp [bind, Except.bind, pure, Except.pure, first, ← iff]

theorem source_of_mem_mapM {Error Item Output : Type} {read : Item → Except Error Output}
    {items : List Item} {outputs : List Output} (mapped : items.mapM read = .ok outputs)
    {output : Output} (member : output ∈ outputs) : ∃ item, read item = .ok output := by
  rw [mapM_except_ok] at mapped
  induction mapped with
  | nil => simp at member
  | cons head _ ih =>
      rcases List.mem_cons.mp member with rfl | later
      · exact ⟨_, head⟩
      · exact ih later

theorem validate_list {coercion : Coercion} {least : Nat} {item : Schema} {given dump : Json}
    (read : validate coercion (.list least item) given = .ok dump) :
    ∃ items dumps, given = .arr items ∧ dump = .arr dumps ∧
      items.mapM (validate coercion item) = .ok dumps ∧ least ≤ dumps.length := by
  cases given with
  | arr items =>
      rw [validate] at read
      split_ifs at read with enough
      cases mapped : items.mapM (validate coercion item) with
      | error reason => simp [mapped, Except.map] at read
      | ok dumps =>
          simp only [mapped, Except.map, Except.ok.injEq] at read
          have length := ((mapM_except_ok _ _ _).mp mapped).length_eq
          exact ⟨items, dumps, rfl, read.symm, mapped, by omega⟩
  | _ => simp [validate] at read

theorem validate_items {coercion : Coercion} {least : Nat} {item : Schema} {items dumps : List Json}
    (enough : least ≤ items.length)
    (read : List.Forall₂ (fun given dump => validate coercion item given = .ok dump) items dumps) :
    validate coercion (.list least item) (.arr items) = .ok (.arr dumps) := by
  rw [validate, if_pos enough, (mapM_except_ok _ _ _).mpr read]
  rfl

theorem validate_model {coercion : Coercion} {fields : List (String × Presence × Schema)}
    {check : Json → Except String Unit} {given dump : Json}
    (read : validate coercion (.model fields check) given = .ok dump) :
    ∃ values dumped, given = .obj values ∧ dump = .obj dumped ∧
      validateFields coercion fields values = .ok dumped ∧ check (.obj dumped) = .ok () := by
  cases given with
  | obj values =>
      rw [validate] at read
      split_ifs at read with known
      cases first : validateFields coercion fields values with
      | error reason => simp [first, bind, Except.bind] at read
      | ok dumped =>
          cases second : check (.obj dumped) with
          | error reason => simp [first, second, bind, Except.bind] at read
          | ok checked =>
              simp only [first, second, bind, Except.bind, Except.ok.injEq] at read
              exact ⟨values, dumped, rfl, read.symm, first, second⟩
  | _ => simp [validate] at read

/-- The check of a model is made on the dump that its fields give. -/
theorem validate_checked {coercion : Coercion} {fields : List (String × Presence × Schema)}
    {other check : Json → Except String Unit} {given dump : Json}
    (read : validate coercion (.model fields other) given = .ok dump)
    (checked : check dump = .ok ()) : validate coercion (.model fields check) given = .ok dump := by
  obtain ⟨values, dumped, rfl, rfl, valid, _⟩ := validate_model read
  have named : values.all fun field => field.1 ∈ names fields := by
    by_contra extra
    rw [validate, if_neg extra] at read
    cases read
  rw [validate, if_pos named, valid]
  simp only [bind, Except.bind, checked]

theorem validateCase_lookup (coercion : Coercion) (cases : List (String × Schema)) (tag : String)
    (given : Json) :
    validateCase coercion cases tag given = match cases.lookup tag with
      | some schema => validate coercion schema given
      | none => .error "Input tag does not match any of the expected tags" := by
  induction cases with
  | nil => rfl
  | cons head rest ih =>
      obtain ⟨value, schema⟩ := head
      rw [validateCase, List.lookup_cons]
      by_cases same : value = tag
      · simp [same]
      · simp [same, beq_eq_false_iff_ne.mpr (Ne.symm same), ih]

private theorem mem_of_lookup (cases : List (String × Schema)) (tag : String) (schema : Schema)
    (found : cases.lookup tag = some schema) : (tag, schema) ∈ cases := by
  obtain ⟨before, after, rfl, _⟩ := List.lookup_eq_some_iff.mp found
  simp

theorem validate_tagged {coercion : Coercion} {tag : String} {cases : List (String × Schema)}
    {given dump : Json} (read : validate coercion (.tagged tag cases) given = .ok dump) :
    ∃ value schema, cases.lookup value = some schema ∧ (value, schema) ∈ cases ∧
      validate coercion schema given = .ok dump := by
  cases given with
  | obj values =>
      rw [validate] at read
      split at read
      next value found =>
        rw [validateCase_lookup] at read
        cases chosen : cases.lookup value with
        | none => simp [chosen] at read
        | some schema =>
            rw [chosen] at read
            exact ⟨value, schema, chosen, mem_of_lookup cases value schema chosen, read⟩
      · cases read
  | _ => simp [validate] at read

theorem validate_tagged_of_lookup (coercion : Coercion) (tag : String)
    (cases : List (String × Schema)) (value : String) (schema : Schema) (given : Json)
    (chosen : cases.lookup value = some schema) (keyed : given.get? tag = some (.str value)) :
    validate coercion (.tagged tag cases) given = validate coercion schema given := by
  cases given with
  | obj fields =>
      simp only [Json.get?] at keyed
      simp only [validate, keyed, validateCase_lookup, chosen]
  | _ => simp [Json.get?] at keyed

/-- What a present field holds was read by its schema, or is its default. -/
theorem readPresence_some {coercion : Coercion} {schema : Schema} {presence : Presence}
    {given : Option Json} {value : Json}
    (defaults : ∀ value, presence = .default value → validate coercion schema value = .ok value)
    (read : readPresence (validate coercion schema) presence given = .ok (some value)) :
    ∃ source, validate coercion schema source = .ok value := by
  have mapped : ∀ source, (validate coercion schema source).map some = .ok (some value) →
      ∃ source, validate coercion schema source = .ok value := by
    intro source same
    cases valid : validate coercion schema source with
    | error reason => simp [valid, Except.map] at same
    | ok found =>
        simp only [valid, Except.map, Except.ok.injEq, Option.some.injEq] at same
        exact ⟨source, by rw [valid, same]⟩
  unfold readPresence at read
  split at read
  · cases read
  · cases read
  · cases read
    exact ⟨value, defaults value rfl⟩
  · cases read
  · exact mapped _ read

theorem validateFields_lookup {coercion : Coercion} {fields : List (String × Presence × Schema)}
    (increasing : (names fields).Pairwise (· < ·)) {given dump : List (String × Json)}
    (read : validateFields coercion fields given = .ok dump) {name : String} {presence : Presence}
    {schema : Schema} (member : (name, presence, schema) ∈ fields) :
    readPresence (validate coercion schema) presence (given.lookup name) =
      .ok (dump.lookup name) := by
  induction fields generalizing dump with
  | nil => simp at member
  | cons field rest ih =>
      obtain ⟨first, firstPresence, firstSchema⟩ := field
      obtain ⟨value, others, head, tail, rfl⟩ := validateFields_cons read
      simp only [names, List.map_cons, List.pairwise_cons] at increasing
      rcases List.mem_cons.mp member with same | later
      · cases same
        have absent : name ∉ others.map Prod.fst := fun found =>
          absurd rfl (ne_of_lt (increasing.1 name
            ((validateFields_keys tail).subset found)))
        rw [lookup_consField_self name value others absent, head]
      · have differ : name ≠ first :=
          (ne_of_lt (increasing.1 name (List.mem_map_of_mem later))).symm
        rw [lookup_consField_ne first name value others differ]
        exact ih increasing.2 tail later

/-- The fields of a model are read one by one. -/
theorem validateFields_congr (coercion : Coercion) (fields : List (String × Presence × Schema))
    (given kept : List (String × Json))
    (same : ∀ name presence schema, (name, presence, schema) ∈ fields →
      readPresence (validate coercion schema) presence (kept.lookup name) =
        readPresence (validate coercion schema) presence (given.lookup name)) :
    validateFields coercion fields kept = validateFields coercion fields given := by
  induction fields with
  | nil => rfl
  | cons field rest ih =>
      obtain ⟨name, presence, schema⟩ := field
      have tail := ih fun name presence schema member =>
        same name presence schema (List.mem_cons_of_mem _ member)
      rw [validateFields, validateFields, same name presence schema List.mem_cons_self, tail]

/-- Every entry of a dump was read by the schema of its field. -/
theorem validateFields_mem {coercion : Coercion} {fields : List (String × Presence × Schema)}
    (formed : WellFormedFields coercion fields) {given dump : List (String × Json)}
    (read : validateFields coercion fields given = .ok dump) {entry : String × Json}
    (member : entry ∈ dump) :
    ∃ field ∈ fields, ∃ source, validate coercion field.2.2 source = .ok entry.2 := by
  induction fields generalizing dump with
  | nil =>
      simp only [validateFields, Except.ok.injEq] at read
      subst read
      simp at member
  | cons field rest ih =>
      obtain ⟨name, presence, schema⟩ := field
      rw [WellFormedFields] at formed
      obtain ⟨value, others, first, tail, rfl⟩ := validateFields_cons read
      have later : entry ∈ others →
          ∃ field ∈ (name, presence, schema) :: rest,
            ∃ source, validate coercion field.2.2 source = .ok entry.2 := by
        intro inside
        obtain ⟨found, foundMember, valid⟩ := ih formed.2.2 tail inside
        exact ⟨found, List.mem_cons_of_mem _ foundMember, valid⟩
      cases value with
      | none => exact later member
      | some value =>
          rcases List.mem_cons.mp member with rfl | inside
          · exact ⟨_, List.mem_cons_self,
              readPresence_some formed.2.1 first⟩
          · exact later inside

/-! ## Order of keys -/

private theorem ordered_of_isScalar (value : Json) (scalar : isScalar value = true) :
    value.ordered = true := by
  cases value <;> simp_all [isScalar, Json.ordered]

theorem validate_ordered {coercion : Coercion} {schema : Schema} :
    WellFormed coercion schema → ∀ {given dump}, validate coercion schema given = .ok dump →
      dump.ordered = true := by
  induction schema using Schema.induct with
  | scalar rule =>
      intro _ given dump read
      rw [validate] at read
      exact ordered_of_isScalar dump (rule.parse_stable coercion given dump read).2
  | constant value =>
      intro formed given dump read
      rw [WellFormed] at formed
      rw [validate] at read
      split_ifs at read
      cases read
      exact formed.1
  | list least item ih =>
      intro formed given dump read
      rw [WellFormed] at formed
      obtain ⟨items, dumps, rfl, rfl, mapped, _⟩ := validate_list read
      simp only [Json.ordered, orderedItems_iff]
      intro value member
      obtain ⟨source, valid⟩ := source_of_mem_mapM mapped member
      exact ih formed valid
  | model fields check ih =>
      intro formed given dump read
      rw [WellFormed] at formed
      obtain ⟨values, dumped, rfl, rfl, valid, _⟩ := validate_model read
      have keys : keysOrdered dumped = true := by
        rw [keysOrdered_iff]
        exact (formed.1.sublist (validateFields_keys valid)).imp le_of_lt
      simp only [Json.ordered, keys, Bool.true_and, orderedFields_iff]
      intro entry member
      obtain ⟨field, known, source, entryValid⟩ := validateFields_mem formed.2 valid member
      have fieldFormed := (wellFormedFields_mem formed.2 known).1
      exact ih field known fieldFormed entryValid
  | tagged tag cases ih =>
      intro formed given dump read
      rw [WellFormed] at formed
      obtain ⟨value, schema, _, member, valid⟩ := validate_tagged read
      exact ih (value, schema) member (wellFormedCases_mem formed member).1 valid

mutual
theorem dropEmpty_ordered : (document : Json) → document.ordered = true →
    (dropEmpty document).ordered = true
  | .null, _ | .bool _, _ | .int _, _ | .float _, _ | .str _, _ => by simp [dropEmpty, Json.ordered]
  | .arr items, ordered => by
      simp only [Json.ordered] at ordered
      simp only [dropEmpty, Json.ordered, dropEmptyItems_ordered items ordered]
  | .obj fields, ordered => by
      simp only [Json.ordered, Bool.and_eq_true] at ordered
      have keys : keysOrdered (dropEmptyFields fields) = true := by
        have increasing := ordered.1
        rw [keysOrdered_iff] at increasing ⊢
        exact increasing.sublist (dropEmptyFields_keys fields)
      simp only [dropEmpty, Json.ordered, keys, dropEmptyFields_ordered fields ordered.2,
        Bool.and_self]

theorem dropEmptyItems_ordered : (items : List Json) → orderedItems items = true →
    orderedItems (dropEmptyItems items) = true
  | [], _ => rfl
  | item :: rest, ordered => by
      simp only [orderedItems, Bool.and_eq_true] at ordered
      simp only [dropEmptyItems, orderedItems, dropEmpty_ordered item ordered.1,
        dropEmptyItems_ordered rest ordered.2, Bool.and_self]

theorem dropEmptyFields_ordered : (fields : List (String × Json)) → orderedFields fields = true →
    orderedFields (dropEmptyFields fields) = true
  | [], _ => rfl
  | (key, value) :: rest, ordered => by
      simp only [orderedFields, Bool.and_eq_true] at ordered
      rw [dropEmptyFields]
      split_ifs
      · exact dropEmptyFields_ordered rest ordered.2
      · simp only [orderedFields, dropEmpty_ordered value ordered.1,
          dropEmptyFields_ordered rest ordered.2, Bool.and_self]
end

theorem normalize_ok (coercion : Coercion) (schema : Schema) (given document : Json)
    (read : normalize coercion schema given = .ok document) :
    ∃ dump, validate coercion schema given = .ok dump ∧ document = dropEmpty dump := by
  unfold normalize at read
  cases valid : validate coercion schema given with
  | error reason => simp [valid, Except.map] at read
  | ok dump =>
      simp only [valid, Except.map, Except.ok.injEq] at read
      exact ⟨dump, rfl, read.symm⟩

theorem normalize_ordered (coercion : Coercion) (schema : Schema)
    (formed : WellFormed coercion schema) (given document : Json)
    (read : normalize coercion schema given = .ok document) : document.ordered = true := by
  obtain ⟨dump, valid, rfl⟩ := normalize_ok _ _ _ _ read
  exact dropEmpty_ordered dump (validate_ordered formed valid)

/-! ## One field of a model that was read -/

private theorem map_some_ok (read : Except String Json) (value : Option Json)
    (same : read.map some = .ok value) : ∃ found, value = some found ∧ read = .ok found := by
  cases read with
  | error reason => simp [Except.map] at same
  | ok found =>
      simp only [Except.map, Except.ok.injEq] at same
      exact ⟨found, same.symm, rfl⟩

theorem readPresence_required (read : Json → Except String Json) (source value : Option Json)
    (result : readPresence read .required source = .ok value) :
    ∃ given found, source = some given ∧ value = some found ∧ read given = .ok found := by
  cases source with
  | none => simp [readPresence] at result
  | some given =>
      obtain ⟨found, same, valid⟩ := map_some_ok (read given) value
        (by cases given <;> simpa [readPresence] using result)
      exact ⟨given, found, rfl, same, valid⟩

/-- A document that was read has each required field of its model. -/
theorem normalize_required (coercion : Coercion) (fields : List (String × Presence × Schema))
    (check : Json → Except String Unit) (increasing : (names fields).Pairwise (· < ·))
    (given document : Json)
    (read : normalize coercion (.model fields check) given = .ok document) (name : String)
    (schema : Schema) (member : (name, .required, schema) ∈ fields) :
    ∃ value found, given.get? name = some value ∧ validate coercion schema value = .ok found := by
  obtain ⟨dump, valid, rfl⟩ := normalize_ok _ _ _ _ read
  obtain ⟨values, dumped, rfl, rfl, fieldsRead, _⟩ := validate_model valid
  have result := validateFields_lookup increasing fieldsRead member
  obtain ⟨value, found, present, _, readValue⟩ := readPresence_required _ _ _ result
  exact ⟨value, found, present, readValue⟩

/-! ## Reading a dump back -/

theorem readPresence_of_ne_null {read : Json → Except String Json} {presence : Presence}
    {given : Json} (present : given ≠ .null) :
    readPresence read presence (some given) = (read given).map some := by
  cases presence <;> cases given <;> simp_all [readPresence]

theorem readPresence_none {read : Json → Except String Json} {presence : Presence}
    {given : Option Json} (absent : readPresence read presence given = .ok none) :
    presence = .optional := by
  have mapped : ∀ source, (read source).map some ≠ .ok none := by
    intro source same
    cases valid : read source <;> simp [valid, Except.map] at same
  cases presence with
  | optional => rfl
  | required => cases given <;> simp_all [readPresence]
  | default value => cases given <;> simp_all [readPresence]

theorem validate_ne_null {coercion : Coercion} {schema : Schema} :
    WellFormed coercion schema → ∀ {given dump}, validate coercion schema given = .ok dump →
      dump ≠ .null := by
  induction schema using Schema.induct with
  | scalar rule =>
      rintro _ given dump read rfl
      rw [validate] at read
      have scalar := (rule.parse_stable coercion given _ read).2
      simp [isScalar] at scalar
  | constant value =>
      intro formed given dump read
      rw [WellFormed] at formed
      rw [validate] at read
      split_ifs at read
      cases read
      exact formed.2.2
  | list least item =>
      rintro _ given dump read rfl
      obtain ⟨_, _, _, same, _⟩ := validate_list read
      cases same
  | model fields check =>
      rintro _ given dump read rfl
      obtain ⟨_, _, _, same, _⟩ := validate_model read
      cases same
  | tagged tag cases ih =>
      intro formed given dump read
      rw [WellFormed] at formed
      obtain ⟨value, schema, _, member, valid⟩ := validate_tagged read
      exact ih (value, schema) member (wellFormedCases_mem formed member).1 valid

/-- What a field that holds a value was read from. -/
theorem validateFields_source {coercion : Coercion} {fields : List (String × Presence × Schema)}
    {given dumped : List (String × Json)} {name : String} {presence : Presence} {schema : Schema}
    {value : Json} (increasing : (names fields).Pairwise (· < ·))
    (formed : WellFormedFields coercion fields)
    (read : validateFields coercion fields given = .ok dumped)
    (member : (name, presence, schema) ∈ fields) (held : dumped.lookup name = some value) :
    value ≠ .null ∧ ∃ source, validate coercion schema source = .ok value := by
  obtain ⟨schemaFormed, defaults⟩ := wellFormedFields_mem formed member
  have field := validateFields_lookup increasing read member
  rw [held] at field
  obtain ⟨source, valid⟩ := readPresence_some defaults field
  exact ⟨validate_ne_null schemaFormed valid, source, valid⟩

/-- A field of a dump once its empty parts are dropped. -/
theorem lookup_dropEmpty_read {coercion : Coercion} {fields : List (String × Presence × Schema)}
    {given dumped : List (String × Json)} (increasing : (names fields).Pairwise (· < ·))
    (read : validateFields coercion fields given = .ok dumped) (name : String) :
    (dropEmptyFields dumped).lookup name = (dumped.lookup name).bind keep :=
  lookup_dropEmptyFields dumped name
    ((increasing.sublist (validateFields_keys read)).imp ne_of_lt)

/-- A model is read again from fields that each give the value they gave before. -/
private theorem validate_model_again {coercion : Coercion}
    {fields : List (String × Presence × Schema)} {check : Json → Except String Unit}
    {values dumped kept : List (String × Json)}
    (formed : (names fields).Pairwise (· < ·) ∧ WellFormedFields coercion fields)
    (valid : validateFields coercion fields values = .ok dumped)
    (checked : check (.obj dumped) = .ok ())
    (keys : kept.map Prod.fst ⊆ dumped.map Prod.fst)
    (again : ∀ {name presence schema value source}, (name, presence, schema) ∈ fields →
      dumped.lookup name = some value → value ≠ .null →
        validate coercion schema source = .ok value →
          readPresence (validate coercion schema) presence (kept.lookup name) =
            .ok (some value)) :
    validate coercion (.model fields check) (.obj kept) = .ok (.obj dumped) := by
  have same := validateFields_congr coercion fields values kept fun name presence schema member => by
    have first := validateFields_lookup formed.1 valid member
    rw [first]
    cases held : dumped.lookup name with
    | none =>
        have gone : kept.lookup name = none := by
          rw [lookup_eq_none] at held ⊢
          exact fun member => held (keys member)
        rw [held] at first
        rw [gone, readPresence_none first]
        rfl
    | some value =>
        obtain ⟨present, source, sourceValid⟩ :=
          validateFields_source formed.1 formed.2 valid member held
        exact again member held present sourceValid
  have all : kept.all fun field => field.1 ∈ names fields := by
    simp only [List.all_eq_true, decide_eq_true_eq]
    exact fun field member =>
      (validateFields_keys valid).subset (keys (List.mem_map_of_mem member))
  rw [validate, if_pos all, same, valid]
  simp [bind, Except.bind, checked]

/-- A dump is in normal form: reading it gives the dump itself. -/
theorem validate_stable {coercion : Coercion} {schema : Schema} :
    WellFormed coercion schema → ∀ given dump, validate coercion schema given = .ok dump →
      validate coercion schema dump = .ok dump := by
  induction schema using Schema.induct with
  | scalar rule =>
      intro _ given dump read
      rw [validate] at read ⊢
      exact (rule.parse_stable coercion given dump read).1
  | constant value =>
      intro _ given dump read
      rw [validate] at read
      split_ifs at read
      cases read
      rw [validate, if_pos rfl]
  | list least item ih =>
      intro formed given dump read
      rw [WellFormed] at formed
      obtain ⟨items, dumps, rfl, rfl, mapped, enough⟩ := validate_list read
      have again : dumps.mapM (validate coercion item) = .ok dumps := by
        rw [mapM_except_ok, List.forall₂_same]
        intro value member
        obtain ⟨source, valid⟩ := source_of_mem_mapM mapped member
        exact ih formed source value valid
      rw [validate, if_pos enough, again]
      rfl
  | model fields check ih =>
      intro formed given dump read
      rw [WellFormed] at formed
      obtain ⟨values, dumped, rfl, rfl, valid, checked⟩ := validate_model read
      refine validate_model_again formed valid checked (List.Subset.refl _)
        fun member held present sourceValid => ?_
      rw [held, readPresence_of_ne_null present,
        ih _ member (wellFormedFields_mem formed.2 member).1 _ _ sourceValid]
      rfl
  | tagged tag cases ih =>
      intro formed given dump read
      rw [WellFormed] at formed
      obtain ⟨value, schema, chosen, member, valid⟩ := validate_tagged read
      obtain ⟨caseFormed, dumpsTag⟩ := wellFormedCases_mem formed member
      rw [validate_tagged_of_lookup coercion tag cases value schema dump chosen
        (dumpsTag given dump valid)]
      exact ih (value, schema) member caseFormed given dump valid

mutual
/-- Everything `dropEmpty` removes from the dump is a default of the schema. -/
def retained : Schema → Json → Bool
  | .list _ item, .arr items => items.all (retained item)
  | .model fields _, .obj dump => retainedFields fields dump
  | .tagged tag cases, dump => match dump.get? tag with
      | some (.str value) => retainedCase cases value dump
      | _ => true
  | _, _ => true

def retainedFields : List (String × Presence × Schema) → List (String × Json) → Bool
  | [], _ => true
  | (name, presence, schema) :: rest, dump =>
      (match dump.lookup name, presence with
        | none, _ => true
        | some value, .default usual =>
            if keep value = none then decide (usual = value) else retained schema value
        | some value, _ => decide (keep value ≠ none) && retained schema value) &&
      retainedFields rest dump

def retainedCase : List (String × Schema) → String → Json → Bool
  | [], _, _ => true
  | (value, schema) :: rest, tag, dump =>
      if value = tag then retained schema dump else retainedCase rest tag dump
end

private theorem retainedFields_mem (fields : List (String × Presence × Schema))
    (dump : List (String × Json)) (keeps : retainedFields fields dump = true) (name : String)
    (presence : Presence) (schema : Schema) (member : (name, presence, schema) ∈ fields)
    (value : Json) (held : dump.lookup name = some value) :
    (keep value = none → presence = .default value) ∧
      (keep value ≠ none → retained schema value = true) := by
  induction fields with
  | nil => simp at member
  | cons field rest ih =>
      simp only [retainedFields, Bool.and_eq_true] at keeps
      rcases List.mem_cons.mp member with rfl | later
      · have own := keeps.1
        rw [held] at own
        cases presence <;> grind
      · exact ih keeps.2 later

theorem retainedCase_lookup (cases : List (String × Schema)) (tag : String)
    (schema : Schema) (dump : Json) (chosen : cases.lookup tag = some schema) :
    retainedCase cases tag dump = retained schema dump := by
  induction cases with
  | nil => simp at chosen
  | cons head rest ih =>
      obtain ⟨value, first⟩ := head
      rw [List.lookup_cons] at chosen
      rw [retainedCase]
      by_cases same : value = tag
      · simp_all
      · simp only [beq_eq_false_iff_ne.mpr (Ne.symm same)] at chosen
        rw [if_neg same, ih chosen]

theorem dropEmpty_ne_null {value : Json} (present : value ≠ .null) :
    dropEmpty value ≠ .null := by
  cases value <;> simp_all [dropEmpty]

theorem get?_dropEmpty_str (document : Json) (name text : String)
    (found : document.get? name = some (.str text)) :
    (dropEmpty document).get? name = some (.str text) := by
  cases document with
  | obj fields =>
      simp only [Json.get?] at found
      simp only [dropEmpty, Json.get?]
      exact lookup_dropEmptyFields_kept found (by simp [keep, dropEmpty, isEmpty])
  | _ => simp [Json.get?] at found

/-- Reading a dump without its empty parts gives the dump again. -/
theorem validate_dropEmpty {coercion : Coercion} {schema : Schema} :
    WellFormed coercion schema → ∀ {given dump}, validate coercion schema given = .ok dump →
      retained schema dump = true → validate coercion schema (dropEmpty dump) = .ok dump := by
  induction schema using Schema.induct with
  | scalar rule =>
      intro _ given dump read _
      rw [validate] at read ⊢
      obtain ⟨stable, scalar⟩ := rule.parse_stable coercion given dump read
      have same : dropEmpty dump = dump := by cases dump <;> simp_all [isScalar, dropEmpty]
      rw [same, stable]
  | constant value =>
      intro formed given dump read _
      rw [WellFormed] at formed
      rw [validate] at read
      split_ifs at read
      cases read
      rw [formed.2.1, validate, if_pos rfl]
  | list least item ih =>
      intro formed given dump read keeps
      rw [WellFormed] at formed
      obtain ⟨items, dumps, rfl, rfl, mapped, enough⟩ := validate_list read
      simp only [retained, List.all_eq_true] at keeps
      have again : (dumps.map dropEmpty).mapM (validate coercion item) = .ok dumps := by
        rw [mapM_except_ok, List.forall₂_map_left_iff, List.forall₂_same]
        intro value member
        obtain ⟨source, valid⟩ := source_of_mem_mapM mapped member
        exact ih formed valid (keeps value member)
      rw [dropEmpty, dropEmptyItems_eq_map, validate, if_pos (by simpa using enough), again]
      rfl
  | model fields check ih =>
      intro formed given dump read keeps
      rw [WellFormed] at formed
      obtain ⟨values, dumped, rfl, rfl, valid, checked⟩ := validate_model read
      rw [retained] at keeps
      rw [dropEmpty]
      refine validate_model_again formed valid checked (dropEmptyFields_keys dumped).subset
        fun {name presence schema value _} member held present sourceValid => ?_
      obtain ⟨restored, inner⟩ :=
        retainedFields_mem fields dumped keeps name presence schema member value held
      rw [lookup_dropEmpty_read formed.1 valid, held, Option.bind_some]
      cases kept : keep value with
      | none =>
          rw [restored kept]
          rfl
      | some left =>
          obtain ⟨rfl, _⟩ := keep_eq_some kept
          have again := ih _ member (wellFormedFields_mem formed.2 member).1 sourceValid
            (inner (by simp [kept]))
          rw [readPresence_of_ne_null (dropEmpty_ne_null present), again]
          rfl
  | tagged tag cases ih =>
      intro formed given dump read keeps
      rw [WellFormed] at formed
      obtain ⟨value, schema, chosen, member, valid⟩ := validate_tagged read
      obtain ⟨caseFormed, dumpsTag⟩ := wellFormedCases_mem formed member
      have keyed := dumpsTag given dump valid
      rw [retained, keyed] at keeps
      rw [validate_tagged_of_lookup coercion tag cases value schema _ chosen
        (get?_dropEmpty_str dump tag value keyed)]
      exact ih (value, schema) member caseFormed valid
        (by rw [← retainedCase_lookup cases value schema dump chosen]; exact keeps)

/-! ## Documents given field by field -/

/-- The fields that hold a value. -/
def present (fields : List (String × Option Json)) : List (String × Json) :=
  fields.filterMap fun field => field.2.map fun value => (field.1, value)

theorem present_cons (name : String) (value : Option Json) (rest : List (String × Option Json)) :
    present ((name, value) :: rest) = consField name value (present rest) := by
  cases value <;> rfl

variable {name : String} {coercion : Coercion} {fields : List (String × Presence × Schema)}
  {check : Json → Except String Unit}

theorem present_names (fields : List (String × Option Json))
    (member : name ∈ (present fields).map Prod.fst) : name ∈ fields.map Prod.fst := by
  simp only [present, List.mem_map, List.mem_filterMap, Option.map_eq_some_iff] at member
  obtain ⟨_, ⟨field, inside, _, _, rfl⟩, rfl⟩ := member
  exact List.mem_map_of_mem inside

theorem lookup_present_unnamed (fields : List (String × Option Json))
    (unnamed : name ∉ fields.map Prod.fst) : (present fields).lookup name = none :=
  lookup_eq_none.mpr fun inside => unnamed (present_names fields inside)

theorem lookup_present {value : Option Json} (fields : List (String × Option Json))
    (distinct : (fields.map Prod.fst).Nodup) (member : (name, value) ∈ fields) :
    (present fields).lookup name = value := by
  induction fields with
  | nil => simp at member
  | cons field rest ih =>
      obtain ⟨other, held⟩ := field
      simp only [List.map_cons, List.nodup_cons] at distinct
      rw [present_cons]
      rcases List.mem_cons.mp member with same | later
      · obtain ⟨rfl, rfl⟩ := Prod.mk.inj same
        exact lookup_consField_self _ _ _ fun inside => distinct.1 (present_names rest inside)
      · have differ : name ≠ other := fun same =>
          distinct.1 (same ▸ List.mem_map_of_mem later)
        rw [lookup_consField_ne _ _ _ _ differ]
        exact ih distinct.2 later

/-- What a field of a model reads from what was given for it. -/
structure Reads (coercion : Coercion) (field : String × Presence × Schema)
    (value : String × Option Json × Option Json) : Prop where
  name : value.1 = field.1
  read : readPresence (validate coercion field.2.2) field.2.1 value.2.1 = .ok value.2.2

def givenFields (values : List (String × Option Json × Option Json)) : List (String × Option Json) :=
  values.map fun value => (value.1, value.2.1)

def readFields (values : List (String × Option Json × Option Json)) : List (String × Option Json) :=
  values.map fun value => (value.1, value.2.2)

theorem validateFields_reads {given : List (String × Json)}
    {values : List (String × Option Json × Option Json)}
    (aligned : List.Forall₂ (Reads coercion) fields values)
    (held : ∀ value ∈ values, given.lookup value.1 = value.2.1) :
    validateFields coercion fields given = .ok (present (readFields values)) := by
  induction aligned with
  | nil => rfl
  | cons head _ ih =>
      rename_i field value _ _ _
      obtain ⟨name, presence, schema⟩ := field
      obtain ⟨sameName, content, result⟩ := value
      obtain ⟨rfl, read⟩ := head
      have here := held _ List.mem_cons_self
      have rest := ih fun later member => held later (List.mem_cons_of_mem _ member)
      simp only at here read
      simp only [validateFields, here, read, rest, bind, Except.bind, readFields, List.map_cons,
        present_cons]

/-- A document with a known key for every field that a model reads. -/
theorem validate_given {given : List (String × Json)}
    (values : List (String × Option Json × Option Json))
    (known : (given.all fun field => decide (field.1 ∈ names fields)) = true)
    (aligned : List.Forall₂ (Reads coercion) fields values)
    (held : ∀ value ∈ values, given.lookup value.1 = value.2.1)
    (checked : check (.obj (present (readFields values))) = .ok ()) :
    validate coercion (.model fields check) (.obj given) =
      .ok (.obj (present (readFields values))) := by
  rw [validate, if_pos known, validateFields_reads aligned held]
  simp only [bind, Except.bind, checked]

/-- A document that gives every field of a model something it reads. -/
theorem validate_reads (values : List (String × Option Json × Option Json))
    (distinct : (names fields).Nodup) (aligned : List.Forall₂ (Reads coercion) fields values)
    (checked : check (.obj (present (readFields values))) = .ok ()) :
    validate coercion (.model fields check) (.obj (present (givenFields values))) =
      .ok (.obj (present (readFields values))) := by
  have sameNames : (givenFields values).map Prod.fst = names fields := by
    clear distinct checked
    induction aligned with
    | nil => rfl
    | cons head _ ih =>
        simp only [List.map_cons, names, givenFields] at ih ⊢
        rw [head.name, ih]
  have read := validateFields_reads aligned fun value member =>
    lookup_present (givenFields values) (by rw [sameNames]; exact distinct)
      (List.mem_map_of_mem member)
  have known : ((present (givenFields values)).all fun field =>
      decide (field.1 ∈ names fields)) = true := by
    simp only [List.all_eq_true, decide_eq_true_eq]
    intro field member
    rw [← sameNames]
    exact present_names (givenFields values) (List.mem_map_of_mem member)
  rw [validate, if_pos known, read]
  simp only [bind, Except.bind, checked]

/-- A value that the field reads as it stands, or an optional field without one. -/
def Kept (coercion : Coercion) (presence : Presence) (schema : Schema) : Option Json → Prop
  | none => presence = .optional
  | some value => value ≠ .null ∧ validate coercion schema value = .ok value

theorem readPresence_kept {presence : Presence} {schema : Schema} {value : Option Json}
    (kept : Kept coercion presence schema value) :
    readPresence (validate coercion schema) presence value = .ok value := by
  cases value with
  | none =>
      rw [show presence = .optional from kept]
      rfl
  | some value =>
      obtain ⟨given, read⟩ := kept
      cases presence <;> cases value <;> simp_all [readPresence, Except.map]

/-- A document that gives every field of a model a value it keeps is its own dump. -/
theorem validate_present (values : List (String × Option Json)) (distinct : (names fields).Nodup)
    (aligned : List.Forall₂ (fun field value => value.1 = field.1 ∧
      Kept coercion field.2.1 field.2.2 value.2) fields values)
    (checked : check (.obj (present values)) = .ok ()) :
    validate coercion (.model fields check) (.obj (present values)) =
      .ok (.obj (present values)) := by
  have reads : List.Forall₂ (Reads coercion) fields
      (values.map fun value => (value.1, value.2, value.2)) :=
    List.forall₂_map_right_iff.mpr (aligned.imp fun _ _ kept => ⟨kept.1, readPresence_kept kept.2⟩)
  have same : readFields (values.map fun value => (value.1, value.2, value.2)) = values := by
    rw [readFields, List.map_map]
    exact List.map_id values
  have given : givenFields (values.map fun value => (value.1, value.2, value.2)) = values := by
    rw [givenFields, List.map_map]
    exact List.map_id values
  have read := validate_reads _ distinct reads (by rw [same]; exact checked)
  rwa [given, same] at read

/-! ## Instances -/

/-- An instance of a model, held as its dump. -/
structure Instance (coercion : Coercion) (schema : Schema) where
  dump : Json
  valid : validate coercion schema dump = .ok dump

namespace Instance

variable {coercion : Coercion} {schema : Schema}

@[ext] theorem ext (left right : Instance coercion schema) (same : left.dump = right.dump) :
    left = right := by
  cases left
  cases right
  cases same
  rfl

instance : DecidableEq (Instance coercion schema) := fun left right =>
  decidable_of_iff (left.dump = right.dump) ⟨ext left right, fun same => by rw [same]⟩

/-- The content an instance is stored and digested by. -/
def semanticDocument (instance_ : Instance coercion schema) : Json := dropEmpty instance_.dump

/-- Build an instance from a document. -/
def modelValidate (formed : WellFormed coercion schema) (given : Json) :
    Except String (Instance coercion schema) :=
  match read : validate coercion schema given with
  | .ok dump => .ok ⟨dump, validate_stable formed given dump read⟩
  | .error reason => .error reason

theorem modelValidate_ok (formed : WellFormed coercion schema) (given : Json)
    (read : Instance coercion schema) :
    modelValidate formed given = .ok read ↔ validate coercion schema given = .ok read.dump := by
  unfold modelValidate
  split
  next dump valid =>
    constructor
    · intro same
      rw [← Except.ok.inj same]
      exact valid
    · intro same
      rw [valid] at same
      exact congrArg Except.ok (ext _ _ (Except.ok.inj same))
  next reason refused => simp [refused]

/-- An instance is read back from its semantic document unless `dropEmpty` removed
a part the schema cannot restore. -/
theorem modelValidate_semanticDocument (formed : WellFormed coercion schema)
    (stored : Instance coercion schema) (keeps : retained schema stored.dump = true) :
    modelValidate formed stored.semanticDocument = .ok stored := by
  rw [modelValidate_ok]
  exact validate_dropEmpty formed stored.valid keeps

end Instance

end DocumentSchema
