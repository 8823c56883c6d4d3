import Mathlib.Data.List.Basic
import Mathlib.Data.List.Sort
import Mathlib.Data.String.Basic

/-!
# JSON documents and their compact key-ordered text

A document is a tree of scalars, lists and string-keyed objects. The writer
prints it without white space and with object keys in code point order, so two
documents that differ only in key order print alike. The reader accepts exactly
the texts of that shape. The main result is that reading back a printed
document with ordered keys gives the same document, hence that printing is
injective on such documents.

A float is held as the decimal text that names it: every finite double has one
shortest decimal text, so nothing is lost and no rounding is modelled here.
-/

namespace JsonText

set_option autoImplicit false

def isFloatMark (char : Char) : Bool := char == '.' || char == 'e' || char == 'E'

def isNumberChar (char : Char) : Bool :=
  char.isDigit || char == '-' || char == '+' || isFloatMark char

def startsNumber : List Char → Bool
  | [] => false
  | char :: _ => char.isDigit || char == '-'

/-- The text of a finite float. The fields exclude every integer text. -/
structure FloatText where
  chars : List Char
  numeric : chars.all isNumberChar = true
  marked : chars.any isFloatMark = true
  headed : startsNumber chars = true
deriving DecidableEq

inductive Json
  | null
  | bool (value : Bool)
  | int (value : Int)
  | float (value : FloatText)
  | str (value : String)
  | arr (items : List Json)
  | obj (fields : List (String × Json))

namespace Json

mutual
def decEq : (left right : Json) → Decidable (left = right)
  | .null, .null => isTrue rfl
  | .bool a, .bool b => decidable_of_iff (a = b) (by simp)
  | .int a, .int b => decidable_of_iff (a = b) (by simp)
  | .float a, .float b => decidable_of_iff (a = b) (by simp)
  | .str a, .str b => decidable_of_iff (a = b) (by simp)
  | .arr a, .arr b => match decEqItems a b with
      | isTrue same => isTrue (by rw [same])
      | isFalse differ => isFalse (by simpa using differ)
  | .obj a, .obj b => match decEqFields a b with
      | isTrue same => isTrue (by rw [same])
      | isFalse differ => isFalse (by simpa using differ)
  | .null, .bool _ | .null, .int _ | .null, .float _ | .null, .str _ | .null, .arr _
  | .null, .obj _ | .bool _, .null | .bool _, .int _ | .bool _, .float _ | .bool _, .str _
  | .bool _, .arr _ | .bool _, .obj _ | .int _, .null | .int _, .bool _ | .int _, .float _
  | .int _, .str _ | .int _, .arr _ | .int _, .obj _ | .float _, .null | .float _, .bool _
  | .float _, .int _ | .float _, .str _ | .float _, .arr _ | .float _, .obj _ | .str _, .null
  | .str _, .bool _ | .str _, .int _ | .str _, .float _ | .str _, .arr _ | .str _, .obj _
  | .arr _, .null | .arr _, .bool _ | .arr _, .int _ | .arr _, .float _ | .arr _, .str _
  | .arr _, .obj _ | .obj _, .null | .obj _, .bool _ | .obj _, .int _ | .obj _, .float _
  | .obj _, .str _ | .obj _, .arr _ => isFalse (by simp)

def decEqItems : (left right : List Json) → Decidable (left = right)
  | [], [] => isTrue rfl
  | [], _ :: _ => isFalse (by simp)
  | _ :: _, [] => isFalse (by simp)
  | a :: restA, b :: restB => match decEq a b, decEqItems restA restB with
      | isTrue head, isTrue tail => isTrue (by rw [head, tail])
      | isFalse head, _ => isFalse (by simp [head])
      | _, isFalse tail => isFalse (by simp [tail])

def decEqFields : (left right : List (String × Json)) → Decidable (left = right)
  | [], [] => isTrue rfl
  | [], _ :: _ => isFalse (by simp)
  | _ :: _, [] => isFalse (by simp)
  | (keyA, a) :: restA, (keyB, b) :: restB =>
      match decEq a b, decEqFields restA restB with
      | isTrue head, isTrue tail =>
          if key : keyA = keyB then isTrue (by rw [head, tail, key])
          else isFalse (by simp [key])
      | isFalse head, _ => isFalse (by simp [head])
      | _, isFalse tail => isFalse (by simp [tail])
end

instance : DecidableEq Json := decEq

/-- The value under a key, as a dictionary lookup. -/
def get? : Json → String → Option Json
  | .obj fields, key => fields.lookup key
  | _, _ => none

/-- The value of an attribute; an attribute that is unset is null. -/
def field (document : Json) (name : String) : Json := (document.get? name).getD .null

theorem field_of_get {document value : Json} {name : String}
    (found : document.get? name = some value) : document.field name = value := by
  rw [field, found, Option.getD_some]

/-- The items of a list attribute; an attribute that is unset has none. -/
def items (document : Json) (name : String) : List Json :=
  match document.get? name with
  | some (.arr items) => items
  | _ => []

/-- The text of a string document. -/
def asString : Json → String
  | .str value => value
  | _ => ""

def erase : Json → String → Json
  | .obj fields, key => .obj (fields.filter fun field => field.1 != key)
  | other, _ => other

end Json

/-! ## Key order -/

def insertField (field : String × Json) : List (String × Json) → List (String × Json)
  | [] => [field]
  | head :: rest =>
      if field.1 ≤ head.1 then field :: head :: rest else head :: insertField field rest

mutual
def sortKeys : Json → Json
  | .arr items => .arr (sortKeysItems items)
  | .obj fields => .obj (sortKeysFields fields)
  | other => other

def sortKeysItems : List Json → List Json
  | [] => []
  | item :: rest => sortKeys item :: sortKeysItems rest

def sortKeysFields : List (String × Json) → List (String × Json)
  | [] => []
  | (key, value) :: rest => insertField (key, sortKeys value) (sortKeysFields rest)
end

def keysOrdered : List (String × Json) → Bool
  | [] => true
  | [_] => true
  | first :: second :: rest => decide (first.1 ≤ second.1) && keysOrdered (second :: rest)

mutual
/-- Every object of the document lists its keys in order. -/
def Json.ordered : Json → Bool
  | .arr items => orderedItems items
  | .obj fields => keysOrdered fields && orderedFields fields
  | _ => true

def orderedItems : List Json → Bool
  | [] => true
  | item :: rest => item.ordered && orderedItems rest

def orderedFields : List (String × Json) → Bool
  | [] => true
  | (_, value) :: rest => value.ordered && orderedFields rest
end

theorem keysOrdered_iff (fields : List (String × Json)) :
    keysOrdered fields = true ↔ (fields.map Prod.fst).Pairwise (· ≤ ·) := by
  rw [← List.isChain_iff_pairwise]
  induction fields with
  | nil => simp [keysOrdered]
  | cons first rest ih =>
      cases rest with
      | nil => simp [keysOrdered]
      | cons second tail => simp_all [keysOrdered]

private theorem insertField_of_keysOrdered (field : String × Json)
    (rest : List (String × Json)) (ordered : keysOrdered (field :: rest) = true) :
    insertField field rest = field :: rest := by
  cases rest with
  | nil => rfl
  | cons head tail =>
      simp only [keysOrdered, Bool.and_eq_true, decide_eq_true_eq] at ordered
      simp only [insertField, if_pos ordered.1]

theorem keysOrdered_tail (field : String × Json) (rest : List (String × Json))
    (ordered : keysOrdered (field :: rest) = true) : keysOrdered rest = true := by
  cases rest with
  | nil => rfl
  | cons head tail =>
      simp only [keysOrdered, Bool.and_eq_true] at ordered
      exact ordered.2

mutual
theorem sortKeys_of_ordered : (document : Json) → document.ordered = true →
    sortKeys document = document
  | .null, _ | .bool _, _ | .int _, _ | .float _, _ | .str _, _ => by simp only [sortKeys]
  | .arr items, ordered => by
      simp only [Json.ordered] at ordered
      simp only [sortKeys, sortKeysItems_of_ordered items ordered]
  | .obj fields, ordered => by
      simp only [Json.ordered, Bool.and_eq_true] at ordered
      simp only [sortKeys, sortKeysFields_of_ordered fields ordered.1 ordered.2]

theorem sortKeysItems_of_ordered : (items : List Json) → orderedItems items = true →
    sortKeysItems items = items
  | [], _ => rfl
  | item :: rest, ordered => by
      simp only [orderedItems, Bool.and_eq_true] at ordered
      simp only [sortKeysItems, sortKeys_of_ordered item ordered.1,
        sortKeysItems_of_ordered rest ordered.2]

theorem sortKeysFields_of_ordered : (fields : List (String × Json)) →
    keysOrdered fields = true → orderedFields fields = true → sortKeysFields fields = fields
  | [], _, _ => rfl
  | (key, value) :: rest, keys, values => by
      simp only [orderedFields, Bool.and_eq_true] at values
      simp only [sortKeysFields, sortKeys_of_ordered value values.1,
        sortKeysFields_of_ordered rest (keysOrdered_tail _ _ keys) values.2]
      exact insertField_of_keysOrdered _ _ keys
end

private theorem keysOrdered_cons (field : String × Json) (rest : List (String × Json)) :
    keysOrdered (field :: rest) = true ↔
      (∀ other ∈ rest, field.1 ≤ other.1) ∧ keysOrdered rest = true := by
  simp [keysOrdered_iff]

private theorem mem_insertField (field other : String × Json) (rest : List (String × Json)) :
    other ∈ insertField field rest ↔ other = field ∨ other ∈ rest := by
  induction rest with
  | nil => simp [insertField]
  | cons head tail ih =>
      rw [insertField]
      split_ifs
      · simp
      · simp only [List.mem_cons, ih]
        tauto

private theorem insertField_keysOrdered (field : String × Json) (rest : List (String × Json))
    (ordered : keysOrdered rest = true) : keysOrdered (insertField field rest) = true := by
  induction rest with
  | nil => rfl
  | cons head tail ih =>
      rw [insertField]
      split_ifs with before
      · simp only [keysOrdered, before, decide_true, ordered, Bool.and_self]
      · rw [keysOrdered_cons] at ordered ⊢
        refine ⟨?_, ih ordered.2⟩
        intro other member
        rcases (mem_insertField field other tail).mp member with rfl | later
        · exact le_of_lt (not_le.mp before)
        · exact ordered.1 other later

theorem orderedFields_iff (fields : List (String × Json)) :
    orderedFields fields = true ↔ ∀ field ∈ fields, field.2.ordered = true := by
  induction fields with
  | nil => simp [orderedFields]
  | cons field rest ih => simp [orderedFields, ih]

/-- A value inside an ordered document is ordered. -/
theorem ordered_of_get {document value : Json} {name : String} (ordered : document.ordered = true)
    (found : document.get? name = some value) : value.ordered = true := by
  cases document with
  | obj fields =>
      simp only [Json.ordered, Bool.and_eq_true, orderedFields_iff] at ordered
      simp only [Json.get?] at found
      obtain ⟨before, after, split, _⟩ := List.lookup_eq_some_iff.mp found
      exact ordered.2 (name, value) (by rw [split]; simp)
  | _ => simp [Json.get?] at found

theorem orderedItems_iff (items : List Json) :
    orderedItems items = true ↔ ∀ item ∈ items, item.ordered = true := by
  induction items with
  | nil => simp [orderedItems]
  | cons item rest ih => simp [orderedItems, ih]

mutual
theorem sortKeys_ordered : (document : Json) → (sortKeys document).ordered = true
  | .null | .bool _ | .int _ | .float _ | .str _ => by simp only [sortKeys, Json.ordered]
  | .arr items => by simp only [sortKeys, Json.ordered, sortKeysItems_ordered items]
  | .obj fields => by
      simp only [sortKeys, Json.ordered, sortKeysFields_ordered fields, Bool.and_self]

theorem sortKeysItems_ordered : (items : List Json) → orderedItems (sortKeysItems items) = true
  | [] => rfl
  | item :: rest => by
      simp only [sortKeysItems, orderedItems, sortKeys_ordered item, sortKeysItems_ordered rest,
        Bool.and_self]

theorem sortKeysFields_ordered : (fields : List (String × Json)) →
    keysOrdered (sortKeysFields fields) = true ∧ orderedFields (sortKeysFields fields) = true
  | [] => ⟨rfl, rfl⟩
  | (key, value) :: rest => by
      obtain ⟨keys, values⟩ := sortKeysFields_ordered rest
      rw [sortKeysFields]
      refine ⟨insertField_keysOrdered _ _ keys, ?_⟩
      rw [orderedFields_iff] at values ⊢
      intro field member
      rcases (mem_insertField _ field _).mp member with rfl | later
      · exact sortKeys_ordered value
      · exact values field later
end

/-! ## Dictionaries up to key order -/

theorem lookup_insertField (key name : String) (value : Json) (rest : List (String × Json)) :
    (insertField (key, value) rest).lookup name =
      if name = key then some value else rest.lookup name := by
  induction rest with
  | nil =>
      rw [insertField]
      split_ifs with same
      · simp [same]
      · simp [List.lookup_cons, beq_eq_false_iff_ne.mpr same]
  | cons head tail ih =>
      obtain ⟨other, held⟩ := head
      rw [insertField]
      split_ifs with before same same
      · simp [same]
      · simp [List.lookup_cons, beq_eq_false_iff_ne.mpr same]
      · have differ : name ≠ other := fun equal => before (by rw [← same, equal])
        rw [List.lookup_cons, beq_eq_false_iff_ne.mpr differ, ih, if_pos same]
      · rw [List.lookup_cons, List.lookup_cons, ih, if_neg same]

theorem lookup_sortKeysFields (fields : List (String × Json)) (name : String) :
    (sortKeysFields fields).lookup name = (fields.lookup name).map sortKeys := by
  induction fields with
  | nil => rfl
  | cons field rest ih =>
      obtain ⟨key, value⟩ := field
      rw [sortKeysFields, lookup_insertField, ih, List.lookup_cons]
      by_cases same : name = key
      · simp [same]
      · simp [same, beq_eq_false_iff_ne.mpr same]

theorem get?_sortKeys (document : Json) (name : String) :
    (sortKeys document).get? name = (document.get? name).map sortKeys := by
  cases document <;> simp [sortKeys, Json.get?, lookup_sortKeysFields]

private theorem insertField_comm (first second : String × Json) (rest : List (String × Json))
    (differ : first.1 ≠ second.1) :
    insertField first (insertField second rest) = insertField second (insertField first rest) := by
  induction rest with
  | nil =>
      rcases lt_or_gt_of_ne differ with less | greater
      · simp [insertField, le_of_lt less, not_le.mpr less]
      · simp [insertField, le_of_lt greater, not_le.mpr greater]
  | cons head tail ih =>
      by_cases firstBefore : first.1 ≤ head.1 <;> by_cases secondBefore : second.1 ≤ head.1
      · rcases lt_or_gt_of_ne differ with less | greater
        · simp [insertField, firstBefore, secondBefore, le_of_lt less, not_le.mpr less]
        · simp [insertField, firstBefore, secondBefore, le_of_lt greater, not_le.mpr greater]
      · have less : first.1 < second.1 := lt_of_le_of_lt firstBefore (not_le.mp secondBefore)
        simp [insertField, firstBefore, secondBefore, not_le.mpr less]
      · have greater : second.1 < first.1 := lt_of_le_of_lt secondBefore (not_le.mp firstBefore)
        simp [insertField, firstBefore, secondBefore, not_le.mpr greater]
      · simp [insertField, firstBefore, secondBefore, ih]

/-- A dictionary holds each key once. -/
def Json.isDictionary : Json → Bool
  | .obj fields => decide (fields.map Prod.fst).Nodup
  | _ => false

/-- A dictionary is, up to key order, one of its entries and all the others. -/
theorem sortKeysFields_extract (fields : List (String × Json)) (name : String) (value : Json)
    (distinct : (fields.map Prod.fst).Nodup) (found : fields.lookup name = some value) :
    sortKeysFields fields =
      insertField (name, sortKeys value)
        (sortKeysFields (fields.filter fun field => field.1 != name)) := by
  induction fields with
  | nil => simp at found
  | cons field rest ih =>
      obtain ⟨key, held⟩ := field
      simp only [List.map_cons, List.nodup_cons] at distinct
      by_cases same : name = key
      · subst same
        have others : rest.filter (fun field => field.1 != name) = rest := by
          refine List.filter_eq_self.mpr fun field member => bne_iff_ne.mpr ?_
          rintro rfl
          exact distinct.1 (List.mem_map_of_mem member)
        simp only [List.lookup_cons, beq_self_eq_true, Option.some.injEq] at found
        simp [sortKeysFields, others, found]
      · simp only [List.lookup_cons, beq_eq_false_iff_ne.mpr same] at found
        have kept : (key != name) = true := bne_iff_ne.mpr (Ne.symm same)
        rw [sortKeysFields, ih distinct.2 found, List.filter_cons_of_pos (by exact kept),
          sortKeysFields]
        exact insertField_comm _ _ _ (Ne.symm same)

/-- Two dictionaries are equal up to key order if they agree on one entry and on
what is left without it. -/
theorem sortKeys_eq_of_erase {left right value other : Json} {name : String}
    (leftDictionary : left.isDictionary = true) (rightDictionary : right.isDictionary = true)
    (leftFound : left.get? name = some value) (rightFound : right.get? name = some other)
    (entry : sortKeys value = sortKeys other)
    (rest : sortKeys (left.erase name) = sortKeys (right.erase name)) :
    sortKeys left = sortKeys right := by
  cases left with
  | obj leftFields =>
      cases right with
      | obj rightFields =>
          simp only [Json.isDictionary, decide_eq_true_eq] at leftDictionary rightDictionary
          simp only [Json.get?] at leftFound rightFound
          simp only [Json.erase, sortKeys, Json.obj.injEq] at rest ⊢
          rw [sortKeysFields_extract _ _ _ leftDictionary leftFound,
            sortKeysFields_extract _ _ _ rightDictionary rightFound, entry, rest]
      | _ => simp [Json.get?] at rightFound
  | _ => simp [Json.get?] at leftFound

/-! ## Writer -/

def hexDigit (value : Nat) : Char :=
  if value < 10 then Char.ofNat (48 + value) else Char.ofNat (87 + value)

/-- String escapes of the writer; every other character stands for itself. -/
def escapeChar (char : Char) : List Char :=
  if char = '"' then ['\\', '"']
  else if char = '\\' then ['\\', '\\']
  else if char = '\n' then ['\\', 'n']
  else if char = '\r' then ['\\', 'r']
  else if char = '\t' then ['\\', 't']
  else if char = '\x08' then ['\\', 'b']
  else if char = '\x0c' then ['\\', 'f']
  else if char.toNat < 32 then
    ['\\', 'u', '0', '0', hexDigit (char.toNat / 16), hexDigit (char.toNat % 16)]
  else [char]

def writeString (text : List Char) : List Char :=
  '"' :: text.flatMap escapeChar ++ ['"']

def writeInt : Int → List Char
  | .ofNat value => Nat.toDigits 10 value
  | .negSucc value => '-' :: Nat.toDigits 10 (value + 1)

mutual
def write : Json → List Char
  | .null => ['n', 'u', 'l', 'l']
  | .bool true => ['t', 'r', 'u', 'e']
  | .bool false => ['f', 'a', 'l', 's', 'e']
  | .int value => writeInt value
  | .float value => value.chars
  | .str value => writeString value.toList
  | .arr [] => ['[', ']']
  | .arr (item :: rest) => '[' :: write item ++ writeItems rest
  | .obj [] => ['{', '}']
  | .obj ((key, value) :: rest) =>
      '{' :: writeString key.toList ++ ':' :: write value ++ writeFields rest

/-- The rest of a list after its first item, with the closing bracket. -/
def writeItems : List Json → List Char
  | [] => [']']
  | item :: rest => ',' :: write item ++ writeItems rest

def writeFields : List (String × Json) → List Char
  | [] => ['}']
  | (key, value) :: rest =>
      ',' :: writeString key.toList ++ ':' :: write value ++ writeFields rest
end

/-- Compact text with sorted keys. -/
def canonicalJson (document : Json) : String :=
  String.ofList (write (sortKeys document))

/-! ## Reader -/

def hexValue (char : Char) : Nat :=
  if char.isDigit then char.toNat - 48 else char.toNat - 87

def readEscape : Char → Option Char
  | '"' => some '"'
  | '\\' => some '\\'
  | 'n' => some '\n'
  | 'r' => some '\r'
  | 't' => some '\t'
  | 'b' => some '\x08'
  | 'f' => some '\x0c'
  | _ => none

/-- The characters of a string up to its closing quote, and what follows it. -/
def readString : List Char → Option (List Char × List Char)
  | [] => none
  | '"' :: rest => some ([], rest)
  | '\\' :: 'u' :: '0' :: '0' :: high :: low :: rest =>
      (readString rest).map fun (chars, after) =>
        (Char.ofNat (16 * hexValue high + hexValue low) :: chars, after)
  | '\\' :: escaped :: rest =>
      (readEscape escaped).bind fun char =>
        (readString rest).map fun (chars, after) => (char :: chars, after)
  | char :: rest =>
      (readString rest).map fun (chars, after) => (char :: chars, after)

def readInt : List Char → Int
  | '-' :: digits => - (Nat.ofDigitChars 10 digits 0 : Int)
  | digits => (Nat.ofDigitChars 10 digits 0 : Int)

def readNumberToken (token : List Char) : Option Json :=
  if numeric : token.all isNumberChar = true then
    if headed : startsNumber token = true then
      if marked : token.any isFloatMark = true then
        some (.float ⟨token, numeric, marked, headed⟩)
      else some (.int (readInt token))
    else none
  else none

def readNumber (chars : List Char) : Option (Json × List Char) :=
  (readNumberToken (chars.takeWhile isNumberChar)).map fun number =>
    (number, chars.dropWhile isNumberChar)

mutual
def readValue : Nat → List Char → Option (Json × List Char)
  | 0, _ => none
  | _ + 1, 'n' :: 'u' :: 'l' :: 'l' :: rest => some (.null, rest)
  | _ + 1, 't' :: 'r' :: 'u' :: 'e' :: rest => some (.bool true, rest)
  | _ + 1, 'f' :: 'a' :: 'l' :: 's' :: 'e' :: rest => some (.bool false, rest)
  | _ + 1, '"' :: rest =>
      (readString rest).map fun (chars, after) => (.str (String.ofList chars), after)
  | _ + 1, '[' :: ']' :: rest => some (.arr [], rest)
  | fuel + 1, '[' :: rest =>
      (readValue fuel rest).bind fun (item, after) =>
        (readItems fuel after).map fun (items, last) => (.arr (item :: items), last)
  | _ + 1, '{' :: '}' :: rest => some (.obj [], rest)
  | fuel + 1, '{' :: rest =>
      (readField fuel rest).bind fun (field, after) =>
        (readFields fuel after).map fun (fields, last) => (.obj (field :: fields), last)
  | _ + 1, other => readNumber other

def readItems : Nat → List Char → Option (List Json × List Char)
  | 0, _ => none
  | _ + 1, ']' :: rest => some ([], rest)
  | fuel + 1, ',' :: rest =>
      (readValue fuel rest).bind fun (item, after) =>
        (readItems fuel after).map fun (items, last) => (item :: items, last)
  | _ + 1, _ => none

def readField : Nat → List Char → Option ((String × Json) × List Char)
  | 0, _ => none
  | fuel + 1, '"' :: rest =>
      (readString rest).bind fun (key, after) =>
        match after with
        | ':' :: value =>
            (readValue fuel value).map fun (document, last) =>
              ((String.ofList key, document), last)
        | _ => none
  | _ + 1, _ => none

def readFields : Nat → List Char → Option (List (String × Json) × List Char)
  | 0, _ => none
  | _ + 1, '}' :: rest => some ([], rest)
  | fuel + 1, ',' :: rest =>
      (readField fuel rest).bind fun (field, after) =>
        (readFields fuel after).map fun (fields, last) => (field :: fields, last)
  | _ + 1, _ => none
end

/-- Read one document that is the whole text. -/
def loads (text : String) : Option Json :=
  match readValue (text.toList.length + 1) text.toList with
  | some (document, []) => some document
  | _ => none

/-! ## Reading back what was written -/

private theorem hexValue_hexDigit_pair :
    ∀ value < 32, 16 * hexValue (hexDigit (value / 16)) + hexValue (hexDigit (value % 16)) =
      value := by
  decide

private theorem readString_plain (char : Char) (rest : List Char) (quote : char ≠ '"')
    (slash : char ≠ '\\') :
    readString (char :: rest) =
      (readString rest).map fun (chars, after) => (char :: chars, after) := by
  rw [readString.eq_def]
  split <;> simp_all

private theorem readString_escapeChar (char : Char) (rest : List Char) :
    readString (escapeChar char ++ rest) =
      (readString rest).map fun (chars, after) => (char :: chars, after) := by
  unfold escapeChar
  split_ifs with quote slash newline carriage tab backspace formfeed control
  · subst quote; rfl
  · subst slash; rfl
  · subst newline; rfl
  · subst carriage; rfl
  · subst tab; rfl
  · subst backspace; rfl
  · subst formfeed; rfl
  · have value := hexValue_hexDigit_pair char.toNat control
    change (readString rest).map (fun (chars, after) =>
      (Char.ofNat (16 * hexValue (hexDigit (char.toNat / 16)) +
        hexValue (hexDigit (char.toNat % 16))) :: chars, after)) = _
    rw [value, Char.ofNat_toNat]
  · exact readString_plain char rest quote slash

theorem readString_writeString (text rest : List Char) :
    readString (text.flatMap escapeChar ++ '"' :: rest) = some (text, rest) := by
  induction text with
  | nil => rfl
  | cons char tail ih =>
      rw [List.flatMap_cons, List.append_assoc, readString_escapeChar, ih]
      rfl

/-- No character of a number starts the text, so a number before it ends here. -/
def endsNumber : List Char → Bool
  | [] => true
  | char :: _ => !isNumberChar char

private theorem span_number (token rest : List Char) (numeric : token.all isNumberChar = true)
    (ends : endsNumber rest = true) :
    (token ++ rest).takeWhile isNumberChar = token ∧
      (token ++ rest).dropWhile isNumberChar = rest := by
  have members : ∀ char ∈ token, isNumberChar char = true := List.all_eq_true.mp numeric
  rw [List.takeWhile_append_of_pos members, List.dropWhile_append_of_pos members]
  cases rest with
  | nil => simp
  | cons char tail =>
      simp only [endsNumber, Bool.not_eq_true'] at ends
      simp [ends]

private theorem readNumber_append (token rest : List Char) (number : Json)
    (numeric : token.all isNumberChar = true) (ends : endsNumber rest = true)
    (read : readNumberToken token = some number) :
    readNumber (token ++ rest) = some (number, rest) := by
  obtain ⟨taken, dropped⟩ := span_number token rest numeric ends
  rw [readNumber, taken, dropped, read]
  rfl

private theorem isNumberChar_of_isDigit (char : Char) (digit : char.isDigit = true) :
    isNumberChar char = true ∧ isFloatMark char = false ∧ char ≠ '-' := by
  have range : 48 ≤ char.toNat ∧ char.toNat ≤ 57 := by
    simp only [Char.isDigit, Bool.and_eq_true, decide_eq_true_eq, ge_iff_le,
      UInt32.le_iff_toNat_le] at digit
    exact digit
  have differs : ∀ other : Char, other.toNat < 48 ∨ 57 < other.toNat → char ≠ other := by
    rintro other bound rfl
    omega
  refine ⟨by simp [isNumberChar, digit], ?_, differs '-' (by decide)⟩
  simp [isFloatMark, differs '.' (by decide), differs 'e' (by decide),
    differs 'E' (by decide)]

private theorem toDigits_chars (value : Nat) :
    ∀ char ∈ Nat.toDigits 10 value, char.isDigit = true := fun char member =>
  Nat.isDigit_of_mem_toDigits (by decide) (by decide) member

private theorem toDigits_cons (value : Nat) :
    ∃ char rest, Nat.toDigits 10 value = char :: rest ∧ char.isDigit = true := by
  cases digits : Nat.toDigits 10 value with
  | nil => exact absurd digits Nat.toDigits_ne_nil
  | cons char rest =>
      exact ⟨char, rest, rfl, toDigits_chars value char (by simp [digits])⟩

private theorem toDigits_numeric (value : Nat) :
    (Nat.toDigits 10 value).all isNumberChar = true ∧
      (Nat.toDigits 10 value).any isFloatMark = false := by
  constructor
  · exact List.all_eq_true.mpr fun char member =>
      (isNumberChar_of_isDigit char (toDigits_chars value char member)).1
  · refine List.any_eq_false.mpr fun char member => ?_
    simp [(isNumberChar_of_isDigit char (toDigits_chars value char member)).2.1]

theorem readNumberToken_writeInt (value : Int) :
    (writeInt value).all isNumberChar = true ∧
      startsNumber (writeInt value) = true ∧
      readNumberToken (writeInt value) = some (.int value) := by
  cases value with
  | ofNat value =>
      obtain ⟨numeric, unmarked⟩ := toDigits_numeric value
      obtain ⟨char, rest, digits, digit⟩ := toDigits_cons value
      have headed : startsNumber (Nat.toDigits 10 value) = true := by
        simp [digits, startsNumber, digit]
      have unsigned : readInt (Nat.toDigits 10 value) = value := by
        rw [digits, readInt.eq_def]
        split
        · next minus => exact absurd (List.cons.inj minus).1 (isNumberChar_of_isDigit char digit).2.2
        · rw [← digits, Nat.ofDigitChars_ten_toDigits]
      refine ⟨numeric, headed, ?_⟩
      simp [writeInt, readNumberToken, numeric, headed, unmarked, unsigned]
  | negSucc value =>
      obtain ⟨numeric, unmarked⟩ := toDigits_numeric (value + 1)
      have all : ('-' :: Nat.toDigits 10 (value + 1)).all isNumberChar = true := by
        rw [List.all_cons, numeric]; decide
      have none : ('-' :: Nat.toDigits 10 (value + 1)).any isFloatMark = false := by
        rw [List.any_cons, unmarked]; decide
      have signed : readInt ('-' :: Nat.toDigits 10 (value + 1)) = Int.negSucc value := by
        rw [readInt, Nat.ofDigitChars_ten_toDigits]; omega
      refine ⟨all, rfl, ?_⟩
      rw [writeInt, readNumberToken, dif_pos all, dif_pos (by rfl), dif_neg (by simp [none]), signed]

/-- A number text is read by the number branch whatever follows it. -/
private theorem readValue_number (fuel : Nat) (token rest : List Char)
    (headed : startsNumber token = true) :
    readValue (fuel + 1) (token ++ rest) = readNumber (token ++ rest) := by
  cases token with
  | nil => simp [startsNumber] at headed
  | cons char tail =>
      have marks : ∀ other : Char, startsNumber [other] = false → char ≠ other := by
        rintro other letter rfl
        simp [startsNumber] at headed letter
        rcases headed with digit | minus
        · simp [digit] at letter
        · exact letter.2 minus
      have n := marks 'n' (by decide)
      have t := marks 't' (by decide)
      have f := marks 'f' (by decide)
      have quote := marks '"' (by decide)
      have bracket := marks '[' (by decide)
      have brace := marks '{' (by decide)
      rw [List.cons_append, readValue.eq_def]
      split <;> simp_all

private theorem startsNumber_ne_bracket (token : List Char) (headed : startsNumber token = true) :
    ∃ char rest, token = char :: rest ∧ char ≠ ']' := by
  cases token with
  | nil => simp [startsNumber] at headed
  | cons char tail =>
      refine ⟨char, tail, rfl, ?_⟩
      rintro rfl
      simp [startsNumber] at headed

/-- No written document starts with a closing bracket. -/
private theorem write_cons (document : Json) :
    ∃ char rest, write document = char :: rest ∧ char ≠ ']' := by
  match document with
  | .null => exact ⟨_, _, rfl, by decide⟩
  | .bool true => exact ⟨_, _, rfl, by decide⟩
  | .bool false => exact ⟨_, _, rfl, by decide⟩
  | .int value =>
      simp only [write]
      exact startsNumber_ne_bracket _ (readNumberToken_writeInt value).2.1
  | .float value =>
      simp only [write]
      exact startsNumber_ne_bracket _ value.headed
  | .str value => exact ⟨_, _, rfl, by decide⟩
  | .arr [] => exact ⟨_, _, rfl, by decide⟩
  | .arr (item :: rest) => exact ⟨'[', write item ++ writeItems rest, by simp [write], by decide⟩
  | .obj [] => exact ⟨_, _, rfl, by decide⟩
  | .obj ((key, value) :: rest) =>
      exact ⟨'{', writeString key.toList ++ ':' :: write value ++ writeFields rest,
        by simp [write], by decide⟩

private theorem endsNumber_writeItems (items : List Json) (rest : List Char) :
    endsNumber (writeItems items ++ rest) = true := by
  cases items <;> simp [writeItems, endsNumber] <;> decide

private theorem endsNumber_writeFields (fields : List (String × Json)) (rest : List Char) :
    endsNumber (writeFields fields ++ rest) = true := by
  cases fields <;> simp [writeFields, endsNumber] <;> decide

private theorem readValue_arr (fuel : Nat) (char : Char) (rest : List Char) (open_ : char ≠ ']') :
    readValue (fuel + 1) ('[' :: char :: rest) =
      (readValue fuel (char :: rest)).bind fun (item, after) =>
        (readItems fuel after).map fun (items, last) => (.arr (item :: items), last) := by
  rw [readValue.eq_def]
  split <;> simp_all

-- Induction over the document; the fuel only has to cover the text, since every
-- nested call stands behind at least one consumed character.
mutual
theorem readValue_write : (document : Json) → (fuel : Nat) → (rest : List Char) →
    (write document).length ≤ fuel → endsNumber rest = true →
    readValue fuel (write document ++ rest) = some (document, rest)
  | document, 0, _, bound, _ => by
      obtain ⟨char, tail, same, _⟩ := write_cons document
      simp [same] at bound
  | .null, fuel + 1, _, _, _ => rfl
  | .bool true, fuel + 1, _, _, _ => rfl
  | .bool false, fuel + 1, _, _, _ => rfl
  | .int value, fuel + 1, rest, _, ends => by
      obtain ⟨numeric, headed, read⟩ := readNumberToken_writeInt value
      rw [write, readValue_number fuel _ rest headed]
      exact readNumber_append _ _ _ numeric ends read
  | .float value, fuel + 1, rest, _, ends => by
      rw [write, readValue_number fuel _ rest value.headed]
      refine readNumber_append _ _ _ value.numeric ends ?_
      simp [readNumberToken, value.numeric, value.headed, value.marked]
  | .str value, fuel + 1, rest, _, _ => by
      have read := readString_writeString value.toList rest
      simp only [write, writeString, List.cons_append, List.append_assoc, List.nil_append]
      simp only [readValue, read, Option.map_some, String.ofList_toList]
  | .arr [], fuel + 1, _, _, _ => rfl
  | .arr (item :: items), fuel + 1, rest, bound, ends => by
      simp only [write, List.cons_append, List.length_cons, List.length_append] at bound ⊢
      obtain ⟨char, tail, same, notClosing⟩ := write_cons item
      have first := readValue_write item fuel (writeItems items ++ rest) (by omega)
        (endsNumber_writeItems items rest)
      rw [same] at first
      rw [same, List.append_assoc, List.cons_append, readValue_arr fuel char _ notClosing]
      rw [← List.cons_append, first]
      simp only [Option.bind_some, readItems_writeItems items fuel rest (by omega),
        Option.map_some]
  | .obj [], fuel + 1, _, _, _ => rfl
  | .obj ((key, value) :: fields), fuel + 1, rest, bound, ends => by
      have first := readField_write key value fuel (writeFields fields ++ rest)
      have others := readFields_writeFields fields fuel rest
      simp only [write, writeString, List.cons_append, List.length_cons, List.length_append,
        List.append_assoc, List.nil_append] at bound first ⊢
      rw [readValue, first (by omega) (endsNumber_writeFields fields rest)]
      · simp only [Option.bind_some, others (by omega), Option.map_some]
      · simp

theorem readItems_writeItems : (items : List Json) → (fuel : Nat) → (rest : List Char) →
    (writeItems items).length ≤ fuel →
    readItems fuel (writeItems items ++ rest) = some (items, rest)
  | [], 0, _, bound => by simp [writeItems] at bound
  | _ :: _, 0, _, bound => by simp [writeItems] at bound
  | [], fuel + 1, _, _ => rfl
  | item :: items, fuel + 1, rest, bound => by
      simp only [writeItems, List.cons_append, List.append_assoc, List.length_cons,
        List.length_append] at bound ⊢
      rw [readItems, readValue_write item fuel _ (by omega) (endsNumber_writeItems items rest)]
      simp only [Option.bind_some, readItems_writeItems items fuel rest (by omega),
        Option.map_some]

theorem readField_write : (key : String) → (value : Json) → (fuel : Nat) → (rest : List Char) →
    (writeString key.toList ++ ':' :: write value).length ≤ fuel → endsNumber rest = true →
    readField fuel (writeString key.toList ++ ':' :: write value ++ rest) =
      some ((key, value), rest)
  | key, value, 0, _, bound, _ => by simp [writeString] at bound
  | key, value, fuel + 1, rest, bound, ends => by
      have read := readString_writeString key.toList (':' :: (write value ++ rest))
      simp only [writeString, List.cons_append, List.append_assoc, List.nil_append,
        List.length_cons, List.length_append] at bound ⊢
      simp only [readField, read, Option.bind_some,
        readValue_write value fuel rest (by omega) ends, Option.map_some, String.ofList_toList]

theorem readFields_writeFields : (fields : List (String × Json)) → (fuel : Nat) →
    (rest : List Char) → (writeFields fields).length ≤ fuel →
    readFields fuel (writeFields fields ++ rest) = some (fields, rest)
  | [], 0, _, bound => by simp [writeFields] at bound
  | _ :: _, 0, _, bound => by simp [writeFields] at bound
  | [], fuel + 1, _, _ => rfl
  | (key, value) :: fields, fuel + 1, rest, bound => by
      have first := readField_write key value fuel (writeFields fields ++ rest)
      simp only [writeFields, writeString, List.cons_append, List.append_assoc, List.length_cons,
        List.length_append, List.nil_append] at bound first ⊢
      rw [readFields, first (by omega) (endsNumber_writeFields fields rest)]
      simp only [Option.bind_some, readFields_writeFields fields fuel rest (by omega),
        Option.map_some]
end

/-- Reading the canonical text of a document with ordered keys gives the document. -/
@[simp] theorem loads_canonicalJson (document : Json) (ordered : document.ordered = true) :
    loads (canonicalJson document) = some document := by
  have read := readValue_write document ((write document).length + 1) [] (by omega) rfl
  rw [List.append_nil] at read
  simp only [loads, canonicalJson, sortKeys_of_ordered document ordered, String.toList_ofList, read]

theorem canonicalJson_injective (left right : Json) (orderedLeft : left.ordered = true)
    (orderedRight : right.ordered = true) (same : canonicalJson left = canonicalJson right) :
    left = right := by
  have read := loads_canonicalJson left orderedLeft
  rw [same, loads_canonicalJson right orderedRight] at read
  exact (Option.some.inj read).symm

/-! ## Stored text -/

/-- A text that was written by `canonicalJson`, held as the document it reads back as. -/
structure CanonicalText where
  document : Json
  ordered : document.ordered = true
deriving DecidableEq

namespace CanonicalText

def write (document : Json) : CanonicalText where
  document := sortKeys document
  ordered := sortKeys_ordered document

def text (stored : CanonicalText) : String := canonicalJson stored.document

@[simp] theorem text_write (document : Json) : (write document).text = canonicalJson document := by
  simp only [text, write, canonicalJson, sortKeys_of_ordered _ (sortKeys_ordered document)]

theorem write_document (document : Json) (ordered : document.ordered = true) :
    (write document).document = document :=
  sortKeys_of_ordered document ordered

@[simp] theorem text_inj (left right : CanonicalText) : left.text = right.text ↔ left = right := by
  refine ⟨fun same => ?_, fun same => by rw [same]⟩
  have documents := canonicalJson_injective _ _ left.ordered right.ordered same
  cases left
  cases right
  simp_all

end CanonicalText

/-- Two documents have the same text when they are equal up to key order. -/
theorem canonicalJson_eq_iff (left right : Json) :
    canonicalJson left = canonicalJson right ↔ sortKeys left = sortKeys right := by
  rw [← CanonicalText.text_write left, ← CanonicalText.text_write right, CanonicalText.text_inj]
  exact ⟨fun same => congrArg CanonicalText.document same, fun same => by
    simp only [CanonicalText.write, same]⟩

end JsonText
