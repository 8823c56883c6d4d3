import Evidrun.Contracts.Revisions
import Evidrun.Contracts.Runtime

/-!
# The read tool of the Subject

`ReadArtifactTextToolAdapter` of `runs/adapters/tool_read_text.py`: a bounded window of the
numbered lines of an input that the envelope lists.
-/

namespace Evidrun.Runs

open JsonText DocumentSchema Evidrun.Contracts

set_option autoImplicit false

/-! ## Lines of a text -/

/-- The characters at which `str.splitlines` ends a line. -/
def isLineBreak (char : Char) : Bool :=
  let code := char.toNat
  (10 ≤ code && code ≤ 13) || (0x1C ≤ code && code ≤ 0x1E) || code == 0x85 || code == 0x2028 ||
    code == 0x2029

/-- The lines of a text, after the characters of the line that is being read. -/
def splitlinesFrom (line : List Char) : List Char → List String
  | [] => if line.isEmpty then [] else [String.ofList line.reverse]
  | '\r' :: '\n' :: rest => String.ofList line.reverse :: splitlinesFrom [] rest
  | char :: rest =>
      if isLineBreak char then String.ofList line.reverse :: splitlinesFrom [] rest
      else splitlinesFrom (char :: line) rest

def splitlines (text : String) : List String := splitlinesFrom [] text.toList

example : splitlines "one\r\ntwo\n\nfour" = ["one", "two", "", "four"] := by decide +kernel

/-- `lines[start - 1 : start - 1 + count]` for a positive start. -/
def window (start count : Int) (lines : List String) : List String :=
  (lines.drop (start - 1).toNat).take count.toNat

/-- The selected lines with their numbers. -/
def numberedFrom (start : Int) (selected : List String) : List (Int × String) :=
  selected.zipIdx.map fun (text, index) => (start + index, text)

theorem mem_numberedFrom {start : Int} {selected : List String} {number : Int} {text : String} :
    (number, text) ∈ numberedFrom start selected ↔
      start ≤ number ∧ selected[(number - start).toNat]? = some text := by
  simp only [numberedFrom, List.mem_map, Prod.mk.injEq, Prod.exists, List.mem_zipIdx_iff_getElem?]
  constructor
  · rintro ⟨found, index, held, rfl, rfl⟩
    have position : (start + index - start).toNat = index := by omega
    exact ⟨by omega, by rw [position, held]⟩
  · rintro ⟨reached, held⟩
    exact ⟨text, (number - start).toNat, held, by omega, rfl⟩

/-- A line of a window is the line of the text that has its number. -/
theorem mem_window {start count number : Int} {lines : List String} {text : String}
    (positive : 1 ≤ start) :
    (number, text) ∈ numberedFrom start (window start count lines) ↔
      start ≤ number ∧ number < start + count ∧ lines[(number - 1).toNat]? = some text := by
  rw [mem_numberedFrom, window, List.getElem?_take]
  constructor
  · rintro ⟨reached, held⟩
    split_ifs at held with inside
    rw [List.getElem?_drop] at held
    have index : (start - 1).toNat + (number - start).toNat = (number - 1).toNat := by omega
    exact ⟨reached, by omega, index ▸ held⟩
  · rintro ⟨reached, inside, held⟩
    have index : (start - 1).toNat + (number - start).toNat = (number - 1).toNat := by omega
    rw [if_pos (by omega), List.getElem?_drop, index]
    exact ⟨reached, held⟩

/-! ## The tool -/

structure ReadToolResult where
  output : String
  evidence : String
  classification : String

/-- The materialized inputs by their id. -/
abbrev MaterializedInputs : Type := List (String × String)

def maxLinesPerCall : Int := 80

/-- Whether a dictionary has exactly these keys. -/
def hasExactly (keys : List String) (fields : List (String × Json)) : Bool :=
  fields.all (fun field => decide (field.1 ∈ keys)) &&
    keys.all fun key => decide (key ∈ fields.map Prod.fst)

def outsideEnvelope : Raised := .permissionError "requested input is outside the SubjectEnvelope"

/-- `_allowed_range`; a boolean is not a line number. -/
def allowedRange : Option Json → Option Json → Except Raised (Int × Int)
  | some (.int start), some (.int count) =>
      if 1 ≤ start ∧ 1 ≤ count ∧ count ≤ maxLinesPerCall then .ok (start, count)
      else .error (.permissionError "requested line range is outside the read tool limits")
  | _, _ => .error (.permissionError "requested line range is outside the read tool limits")

def lineDocument (line : Int × String) : Json :=
  .obj [("line", .int line.1), ("text", .str line.2)]

/-- The fields of a result. -/
def resultFields (inputId : String) (start : Int) (lines selected : List String) :
    List (String × Json) :=
  [("input_id", .str inputId),
    ("lines", .arr ((numberedFrom start selected).map lineDocument)),
    ("returned_lines", .int selected.length),
    ("start_line", .int start),
    ("total_lines", .int lines.length),
    ("truncated", .bool (decide (start - 1 + selected.length < lines.length)))]

/-- The result of a read that is allowed. -/
def readResult (binding : Json) (inputId text : String) (start count : Int) : ReadToolResult :=
  let lines := splitlines text
  let selected := window start count lines
  { output := canonicalJson (.obj (resultFields inputId start lines selected))
    evidence := "\n".intercalate selected
    classification := ((binding.field "source").field "classification").asString }

def execute (envelope : Json) (materialized : MaterializedInputs)
    (arguments : List (String × Json)) : Except Raised ReadToolResult := do
  raiseWhen (!hasExactly ["input_id", "start_line", "max_lines"] arguments)
    (.permissionError "tool arguments do not match the closed read schema")
  match (Json.obj arguments).get? "input_id" with
  | some (.str inputId) => match materialized.lookup inputId with
      | some text => do
          let (start, count) ← allowedRange ((Json.obj arguments).get? "start_line")
            ((Json.obj arguments).get? "max_lines")
          match (envelope.items "inputs").find? fun item => item.field "id" == .str inputId with
          | some binding => .ok (readResult binding inputId text start count)
          | none => .error outsideEnvelope
      | none => .error outsideEnvelope
  | _ => .error outsideEnvelope

/-- What a call asks for, if it is allowed. -/
structure Allowed (envelope : Json) (materialized : MaterializedInputs)
    (arguments : List (String × Json)) (inputId text : String) (start count : Int)
    (binding : Json) : Prop where
  keys : hasExactly ["input_id", "start_line", "max_lines"] arguments = true
  input : (Json.obj arguments).get? "input_id" = some (.str inputId)
  start_line : (Json.obj arguments).get? "start_line" = some (.int start)
  max_lines : (Json.obj arguments).get? "max_lines" = some (.int count)
  materialized : materialized.lookup inputId = some text
  positive : 1 ≤ start
  some_lines : 1 ≤ count
  bounded : count ≤ maxLinesPerCall
  listed : ((envelope.items "inputs").find? fun item => item.field "id" == .str inputId) =
    some binding

theorem allowedRange_ok {given asked : Option Json} {start count : Int} :
    allowedRange given asked = .ok (start, count) ↔
      given = some (.int start) ∧ asked = some (.int count) ∧
        1 ≤ start ∧ 1 ≤ count ∧ count ≤ maxLinesPerCall := by
  unfold allowedRange
  split
  · split_ifs with inside
    · simp only [ok_pair, Option.some.injEq, Json.int.injEq]
      constructor
      · rintro ⟨rfl, rfl⟩
        exact ⟨rfl, rfl, inside⟩
      · rintro ⟨rfl, rfl, _⟩
        exact ⟨rfl, rfl⟩
    · simp only [Option.some.injEq, Json.int.injEq, false_iff]
      rintro ⟨rfl, rfl, allowed⟩
      exact inside allowed
  · rename_i other
    simp only [reduceCtorEq, false_iff]
    rintro ⟨rfl, rfl, _⟩
    exact other _ _ rfl rfl

/-- A read returns exactly when it is allowed. -/
theorem execute_ok {envelope : Json} {materialized : MaterializedInputs}
    {arguments : List (String × Json)} {result : ReadToolResult} :
    execute envelope materialized arguments = .ok result ↔
      ∃ inputId text start count binding,
        Allowed envelope materialized arguments inputId text start count binding ∧
          result = readResult binding inputId text start count := by
  unfold execute
  constructor
  · intro returned
    obtain ⟨_, keys, returned⟩ := (bind_ok _ _ _).mp returned
    rw [raiseWhen_ok, Bool.not_eq_false'] at keys
    split at returned
    next inputId input =>
      split at returned
      next text found =>
        obtain ⟨⟨start, count⟩, range, returned⟩ := (bind_ok _ _ _).mp returned
        obtain ⟨startLine, maxLines, positive, lines, bounded⟩ := allowedRange_ok.mp range
        dsimp only at returned
        split at returned
        next binding listed =>
          exact ⟨inputId, text, start, count, binding,
            ⟨keys, input, startLine, maxLines, found, positive, lines, bounded, listed⟩,
            (Except.ok.inj returned).symm⟩
        next => cases returned
      next => cases returned
    next => cases returned
  · rintro ⟨inputId, text, start, count, binding, allowed, rfl⟩
    have range := allowedRange_ok.mpr ⟨allowed.start_line, allowed.max_lines, allowed.positive,
      allowed.some_lines, allowed.bounded⟩
    simp only [allowed.keys, allowed.input, allowed.materialized, range, allowed.listed,
      Bool.not_true, raiseWhen, bind, Except.bind]
    rfl

end Evidrun.Runs
