import TagSearch.Schema.Issue
import TagSearch.Json.Reader
import TagSearch.Text.Utf8
import TagSearch.Text.Quoted

/-!
# Faults

Everything that can keep an operation from giving its answer, as one type of causes.
-/

namespace TagSearch

/-- Why an operation gives no answer. -/
inductive Fault
  /-- A value does not fit its type. -/
  | rejected (r : Rejection)
  /-- A value of this kind has no elements. -/
  | notIterable (kind : String)
  /-- A value of this kind has no sign. -/
  | notOrdered (kind : String)
  /-- A value of this kind cannot be the element of a set. -/
  | notHashable (kind : String)
  /-- What stands in for a predicate is none. -/
  | unsupportedNode (shown : String)
  /-- A page size of zero. -/
  | zeroPageSize
  /-- The number of pages is beyond the floating-point range. -/
  | pageCountOverflow
  | fileNotFound (path : String)
  | isDirectory (path : String)
  /-- A path leads on from something that is no folder. -/
  | notDirectory (path : String)
  | nameTooLong (path : String)
  /-- A path with a null character in it, which no file can have. -/
  | nullInPath
  /-- The bytes of a file are not UTF-8. -/
  | undecodable (f : Utf8Fault)
  /-- A text is not read as JSON. -/
  | unreadableJson (e : Json.ReadError)
  /-- A text has no encoding. -/
  | unencodable (f : EncodingFault)
  /-- An answer cannot be written, as a text in it has no encoding. -/
  | unwritable (f : EncodingFault)
  /-- A whole number has too many digits to be written. -/
  | numberTooLong
  /-- An answer cannot be written, as too many values stand inside each other. -/
  | tooDeepToWrite
  /-- Two predicates are not compared, as too many nodes stand inside each other. -/
  | tooDeepToCompare
  /-- Criteria were to be read from an option without a value. -/
  | noCriteriaText
  /-- Items were to be read from the file of an option without a value. -/
  | noItemsPath
  /-- An items file holds a value of another kind than a list. -/
  | notItems (path kind : String)
  /-- A value of this kind cannot be rounded. -/
  | notRoundable (kind : String)
  /-- A field of a log record that cannot be overwritten. -/
  | reservedField (name : String)
  deriving DecidableEq, Repr

/-- A fault in words. -/
def Fault.message : Fault → String
  | .rejected r => r.summary
  | .notIterable kind => s!"'{kind}' object is not iterable"
  | .notOrdered kind => s!"'>=' not supported between instances of '{kind}' and 'int'"
  | .notHashable kind => s!"unhashable type: '{kind}'"
  | .unsupportedNode shown => "Unsupported predicate node: " ++ shown
  | .zeroPageSize => "division by zero"
  | .pageCountOverflow => "integer division result too large for a float"
  | .fileNotFound path => "[Errno 2] No such file or directory: " ++ quoted path
  | .isDirectory path => "[Errno 21] Is a directory: " ++ quoted path
  | .notDirectory path => "[Errno 20] Not a directory: " ++ quoted path
  | .nameTooLong path => "[Errno 36] File name too long: " ++ quoted path
  | .nullInPath => "embedded null byte"
  | .undecodable f => f.message
  | .unreadableJson e => e.message
  | .unencodable f => f.message
  | .unwritable f => "Error serializing to JSON: UnicodeEncodeError: " ++ f.message
  | .numberTooLong =>
    s!"Exceeds the limit ({maxDigits} digits) for integer string conversion; "
      ++ "use sys.set_int_max_str_digits() to increase the limit"
  | .tooDeepToWrite => "Error serializing to JSON: ValueError: Maximum serialization depth exceeded"
  | .tooDeepToCompare => "maximum recursion depth exceeded in comparison"
  | .noCriteriaText => "the JSON object must be str, bytes or bytearray, not list"
  | .noItemsPath => "'list' object has no attribute 'exists'"
  | .notItems path kind => path ++ ": expected a JSON list of items, got " ++ kind
  | .notRoundable kind => s!"type {kind} doesn't define __round__ method"
  | .reservedField name => s!"Attempt to overwrite '{name}' in LogRecord"

/-- What is made of whole numbers that are all written in it. -/
def ifFitting {α : Type} (numbers : List Int) (made : α) : Except Fault α :=
  if numbers.all fitsText then .ok made else .error .numberTooLong

/-- It is made exactly if all of them have few enough digits. -/
theorem ifFitting_eq_ok_iff {α : Type} {numbers : List Int} {made a : α} :
    ifFitting numbers made = .ok a ↔ (∀ n ∈ numbers, fitsText n = true) ∧ made = a := by
  rw [ifFitting, ← List.all_eq_true]
  cases numbers.all fitsText <;> simp

/-- Only the limit stands in the way. -/
theorem ifFitting_eq_error_iff {α : Type} {numbers : List Int} {made : α} {f : Fault} :
    ifFitting numbers made = .error f ↔ (∃ n ∈ numbers, fitsText n = false) ∧ f = .numberTooLong := by
  have hsome : (∃ n ∈ numbers, fitsText n = false) ↔ numbers.all fitsText = false := by simp
  rw [ifFitting, hsome]
  cases numbers.all fitsText <;> simp [eq_comm]

/-- Whether a fault means that nothing stands at a path. -/
def Fault.isAbsence : Fault → Bool
  | .fileNotFound _ | .notDirectory _ | .nullInPath => true
  | _ => false

/-- Whether a fault lies in the content of a file.  One that is nested too deeply is not told from
one that cannot be read at all. -/
def Fault.isContent : Fault → Bool
  | .rejected _ | .undecodable _ | .notItems .. => true
  | .unreadableJson e => e != .tooDeep
  | _ => false

end TagSearch
