import TagSearch.Json.Basic

/-!
# Log events
-/

namespace TagSearch

/-- How important an event is. -/
inductive Severity
  | debug
  | info
  | warning
  | error
  | critical
  deriving DecidableEq, Repr

/-- The name of a severity. -/
def Severity.name : Severity → String
  | .debug => "DEBUG"
  | .info => "INFO"
  | .warning => "WARNING"
  | .error => "ERROR"
  | .critical => "CRITICAL"

/-- All severities, the least one first. -/
def Severity.list : List Severity := [.debug, .info, .warning, .error, .critical]

/-- Something that happened, with what is to be known about it. -/
structure Event where
  severity : Severity
  name : String
  fields : Json.Members

end TagSearch
