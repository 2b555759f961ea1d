import TagSearch.Number.Binary64

/-!
# Why a value does not fit

Reading a typed value from JSON collects every fault it meets.  An `Issue` is one of them: where it
is, as a path of names and positions, and its cause.  The wording of a cause depends a little on
whether the value came as data or as JSON text.
-/

namespace TagSearch

/-- One step from a value to a part of it. -/
inductive Step
  | name (s : String)
  | position (i : Nat)
  deriving DecidableEq, Repr

/-- Where a value to be read came from. -/
inductive Source
  /-- It was handed over as data. -/
  | data
  /-- It was written as JSON text. -/
  | text
  deriving DecidableEq, Repr

/-- Why a value does not fit. -/
inductive Cause
  /-- A required member is absent. -/
  | missing
  /-- A member has a name that is not known. -/
  | unknownName
  /-- Not an object, where a record is wanted. -/
  | notRecord (record : String)
  /-- Not an object, where the `kind` decides which record is wanted. -/
  | notTagged
  /-- No `kind`. -/
  | noTag
  /-- A `kind` that is none of the expected ones. -/
  | unknownTag (shown : String) (expected : List String)
  /-- A `kind` other than the record's own. -/
  | wrongTag (expected : String)
  /-- No whole number, nor anything that counts as one. -/
  | notInteger
  /-- A number with a fraction. -/
  | fractional
  /-- An infinity or NaN. -/
  | notFinite
  /-- A whole number that is too large for its notation: a floating-point one of 64 bits or more, or
  thousands of digits. -/
  | oversized
  /-- A text that is no whole number. -/
  | unreadableInteger
  | below (least : Int)
  | above (greatest : Int)
  | notAbove (bound : Int)
  | notString
  /-- A text with surrogates, where characters are wanted. -/
  | notUnicode
  | notBoolean
  /-- A number or text that is no truth value. -/
  | unreadableBoolean
  | notNumber
  /-- A text that is no number. -/
  | unreadableNumber
  | notList
  | notSet
  | notTuple
  /-- None of a few texts. -/
  | notOneOf (choices : List String)
  | notUuid
  /-- A text that is no UUID. -/
  | unreadableUuid
  /-- A port outside the valid range. -/
  | portOutOfRange (port : Int)
  /-- A log level that does not exist, as messages show it. -/
  | unknownLevel (shown : String)
  /-- The text is not JSON. -/
  | unreadableJson
  /-- Too many records stand inside each other. -/
  | tooDeep
  deriving DecidableEq, Repr

namespace Cause

/-- The short name of a cause. -/
def code (source : Source) : Cause → String
  | .missing => "missing"
  | .unknownName => "extra_forbidden"
  | .notRecord _ => "model_type"
  | .notTagged =>
    match source with
    | .data => "model_attributes_type"
    | .text => "dict_type"
  | .noTag => "union_tag_not_found"
  | .unknownTag .. => "union_tag_invalid"
  | .wrongTag _ => "literal_error"
  | .notInteger => "int_type"
  | .fractional => "int_from_float"
  | .notFinite => "finite_number"
  | .oversized => "int_parsing_size"
  | .unreadableInteger => "int_parsing"
  | .below _ => "greater_than_equal"
  | .above _ => "less_than_equal"
  | .notAbove _ => "greater_than"
  | .notString => "string_type"
  | .notUnicode => "string_unicode"
  | .notBoolean => "bool_type"
  | .unreadableBoolean => "bool_parsing"
  | .notNumber => "float_type"
  | .unreadableNumber => "float_parsing"
  | .notList => "list_type"
  | .notSet => "frozen_set_type"
  | .notTuple => "tuple_type"
  | .notOneOf _ => "enum"
  | .notUuid => "uuid_type"
  | .unreadableUuid => "uuid_parsing"
  | .portOutOfRange _ | .unknownLevel _ => "value_error"
  | .unreadableJson => "json_invalid"
  | .tooDeep => "recursion_depth_exceeded"

/-- Texts in single quotes, set apart. -/
def alternatives (between : String) (texts : List String) : String :=
  between.intercalate (texts.map fun t => "'" ++ t ++ "'")

/-- The wording for a value that should have been a sequence. -/
def sequenceText (source : Source) (kind : String) : String :=
  match source with
  | .data => "Input should be a valid " ++ kind
  | .text => "Input should be a valid array"

/-- A cause in words. -/
def message (source : Source) : Cause → String
  | .missing => "Field required"
  | .unknownName => "Extra inputs are not permitted"
  | .notRecord record =>
    match source with
    | .data => "Input should be a valid dictionary or instance of " ++ record
    | .text => "Input should be an object"
  | .notTagged =>
    match source with
    | .data => "Input should be a valid dictionary or object to extract fields from"
    | .text => "Input should be an object"
  | .noTag => "Unable to extract tag using discriminator 'kind'"
  | .unknownTag shown expected =>
    "Input tag '" ++ shown ++ "' found using 'kind' does not match any of the expected tags: "
      ++ alternatives ", " expected
  | .wrongTag expected => "Input should be " ++ alternatives " or " [expected]
  | .notInteger => "Input should be a valid integer"
  | .fractional => "Input should be a valid integer, got a number with a fractional part"
  | .notFinite => "Input should be a finite number"
  | .oversized => "Unable to parse input string as an integer, exceeded maximum size"
  | .unreadableInteger => "Input should be a valid integer, unable to parse string as an integer"
  | .below least => s!"Input should be greater than or equal to {least}"
  | .above greatest => s!"Input should be less than or equal to {greatest}"
  | .notAbove bound => s!"Input should be greater than {bound}"
  | .notString => "Input should be a valid string"
  | .notUnicode => "Input should be a valid string, unable to parse raw data as a unicode string"
  | .notBoolean => "Input should be a valid boolean"
  | .unreadableBoolean => "Input should be a valid boolean, unable to interpret input"
  | .notNumber => "Input should be a valid number"
  | .unreadableNumber => "Input should be a valid number, unable to parse string as a number"
  | .notList => sequenceText source "list"
  | .notSet => sequenceText source "frozenset"
  | .notTuple => sequenceText source "tuple"
  | .notOneOf choices => "Input should be " ++ alternatives " or " choices
  | .notUuid => "UUID input should be a string, bytes or UUID object"
  | .unreadableUuid => "Input should be a valid UUID"
  | .portOutOfRange port => s!"Value error, qdrant_port must be 1-65535, got {port}"
  | .unknownLevel shown =>
    "Value error, log_level must be a standard logging level, got " ++ shown
  | .unreadableJson => "Invalid JSON"
  | .tooDeep => "Recursion error - maximum validation depth exceeded"

end Cause

/-- A fault of a value, and where in the value it is. -/
structure Issue where
  path : List Step
  cause : Cause
  deriving DecidableEq, Repr

/-- An issue of a part, seen from the whole. -/
def Issue.under (step : Step) (i : Issue) : Issue := { i with path := step :: i.path }

/-- All that is wrong with a value that was to be read as the named type. -/
structure Rejection where
  subject : String
  source : Source
  issues : List Issue
  deriving DecidableEq, Repr

/-- The messages of the issues, in order. -/
def Rejection.messages (r : Rejection) : List String :=
  r.issues.map fun i => i.cause.message r.source

/-- One line that counts the issues. -/
def Rejection.summary (r : Rejection) : String :=
  let n := r.issues.length
  s!"{n} validation error" ++ (if n = 1 then "" else "s") ++ " for " ++ r.subject

end TagSearch
