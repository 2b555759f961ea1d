import TagSearch.Command.Basic
import TagSearch.Criterion.Validation
import TagSearch.World
import TagSearch.Tools

/-!
# Running commands

A command ends with an exit code, what it printed, and its messages on the error channel; or it
gives up with a fault.  Bad arguments end with code 2, a bad items file with code 1.
-/

namespace TagSearch

/-- How a command ended. -/
structure Outcome where
  exit : Nat := 0
  stdout : String := ""
  /-- The lines on the error channel. -/
  stderr : List String := []
  deriving DecidableEq, Repr

namespace Outcome

/-- A text printed with a line feed behind it. -/
def printed (text : String) : Outcome := { stdout := text ++ "\n" }

/-- Lines on the error channel before everything else. -/
def after (lines : List String) (o : Outcome) : Outcome := { o with stderr := lines ++ o.stderr }

/-- An end with error messages. -/
def failed (exit : Nat) (messages : List String) : Outcome :=
  { exit, stderr := messages.map ("Error: " ++ ·) }

end Outcome

/-- What was given for an option, in place of a member of a request: null if it was not given, and a
list without anything in it if it has no value. -/
def Argument.toJson {α : Type} (write : α → Json) : Argument α → Json
  | .absent => .null
  | .blank => .arr []
  | .value a => write a

namespace Command

/-- Warnings as lines on the error channel. -/
def warningLines (r : Report) : List String := r.warnings.map ("Warning: " ++ ·)

/-- Why a command stops before it is done. -/
inductive Stop
  /-- It ends with messages about its arguments or files. -/
  | ended (o : Outcome)
  /-- It gives up. -/
  | gaveUp (f : Fault)

/-- A stop with messages printed before. -/
def Stop.after (lines : List String) : Stop → Stop
  | .ended o => .ended (o.after lines)
  | .gaveUp f => .gaveUp f

/-- How a command that may have stopped comes out. -/
def settle : Except Stop Outcome → Except Fault Outcome
  | .ok o | .error (.ended o) => .ok o
  | .error (.gaveUp f) => .error f

/-- The criteria on the command line, with the report on them. -/
def parseTags (text : String) : Except Stop (Json × Report) :=
  match Json.read text with
  | .error (.malformed e) =>
    .error (.ended (.failed 2 ["tags must be JSON, e.g. '[5, [3, -7]]': " ++ e.message]))
  | .error e => .error (.gaveUp (.unreadableJson e))
  | .ok tags =>
    match (TagSearch.validate tags).report with
    | .error f => .error (.gaveUp f)
    | .ok report =>
      if report.valid then .ok (tags, report)
      else .error (.ended ((Outcome.failed 2 report.errors).after (warningLines report)))

/-- Compiles criteria and prints the predicate. -/
def runCompile (text : String) (asText : Bool) : Except Fault Outcome :=
  settle do
    let (tags, report) ← parseTags text
    let p ← (compileJson tags).mapError .gaveUp
    let output ←
      if asText then p.describeText.mapError .gaveUp else .ok (p.toJson.indented .unicode)
    return (Outcome.printed output).after (warningLines report)

/-- Prints a report on criteria. -/
def printReport (report : Report) : Outcome :=
  { Outcome.printed (report.toJson.indented .ascii) with exit := if report.valid then 0 else 2 }

/-- Validates criteria and prints the report. -/
def runValidate (text : String) : Except Fault Outcome :=
  match Json.read text with
  | .error (.malformed e) =>
    .ok (printReport { valid := false, errors := ["invalid JSON: " ++ e.message] })
  | .error e => .error (.unreadableJson e)
  | .ok tags => (TagSearch.validate tags).report.map printReport

/-- The messages of a request that does not fit, each behind its place. -/
def requestErrors (r : Rejection) : List String :=
  r.issues.map fun i =>
    let place := i.path.map fun step =>
      match step with
      | .name s => s
      | .position n => toString n
    ".".intercalate place ++ ": " ++ i.cause.message r.source

/-- The criteria among the options, with the warnings about them. -/
def parseTagsArgument : Argument String → Except Stop (Json × List String)
  | .absent => .ok (.null, [])
  | .blank => .error (.gaveUp .noCriteriaText)
  | .value text => (parseTags text).map fun t => (t.1, warningLines t.2)

/-- The page among the options: the first one unless it was given. -/
def pageJson : Argument Int → Json
  | .absent => .int 1
  | page => page.toJson .int

/-- The request on the command line, with the warnings about it. -/
def parseRequest (tags : Argument String) (title : Argument Text) (page size : Argument Int) :
    Except Stop (SearchRequest × List String) := do
  let (criteria, warnings) ← parseTagsArgument tags
  match SearchRequest.ofParts criteria (title.toJson .str) (pageJson page)
      (size.toJson .int) with
  | .ok request => return (request, warnings)
  | .error r => .error (.ended ((Outcome.failed 2 (requestErrors r)).after warnings))

section

variable {m : Type → Type} [Monad m]

/-- How a command stops when the file at a path gives no items. -/
def stopOfFile (path : String) (f : Fault) : Stop :=
  if f.isAbsence then .ended (.failed 1 ["items file not found: " ++ path])
  else if f.isContent then
    .ended (.failed 1 ["invalid items file " ++ path ++ ": " ++ f.message])
  else .gaveUp f

/-- The items of a file. -/
def loadItems (w : World m) (path : String) : ExceptT Stop m (List Item) := do
  match ← w.loadItems path with
  | .ok items => return items
  | .error f => throw (stopOfFile path f)

/-- A step that may give up. -/
def attempt {α : Type} (step : m (Except Fault α)) : ExceptT Stop m α := do
  match ← step with
  | .ok a => return a
  | .error f => throw (.gaveUp f)

/-- What is left of a command when messages were printed before. -/
def withLines (lines : List String) (rest : ExceptT Stop m Outcome) : ExceptT Stop m Outcome :=
  .mk do
    match ← rest.run with
    | .ok o => return .ok (o.after lines)
    | .error stop => return .error (stop.after lines)

/-- Searches in an open store and prints the response. -/
def searchIn (w : World m) (s : Settings) (store : OpenStore) (r : SearchRequest) :
    ExceptT Stop m Outcome := do
  let done ← w.search s store r
  let text ← attempt (pure (done.answer >>= SearchResponse.write))
  return .printed text

/-- The store to search in: the items of a file, or else the configured one. -/
def storeToSearch (w : World m) (s : Settings) : Argument String → ExceptT Stop m OpenStore
  | .value path => return .catalog (.ofList (← loadItems w (normalPath path)))
  | .absent | .blank => attempt (w.openStore s)

/-- Searches in the items of a file, or else in the configured store. -/
def runSearch (w : World m) (s : Settings) (tags : Argument String) (title : Argument Text)
    (page size : Argument Int) (file : Argument String) : ExceptT Stop m Outcome := do
  let (request, warnings) ← ExceptT.mk (pure (parseRequest tags title page size))
  withLines warnings do
    searchIn w s (← storeToSearch w s file) request

/-- The path of the file to load items from. -/
def pathToLoad : Argument String → Except Stop String
  | .value path => .ok (normalPath path)
  | .absent | .blank => .error (.gaveUp .noItemsPath)

/-- Loads the items of a file into the configured store. -/
def runSeed (w : World m) (s : Settings) (file : Argument String) : ExceptT Stop m Outcome := do
  let path ← ExceptT.mk (pure (pathToLoad file))
  let items ← loadItems w path
  let store ← attempt (w.openStore s)
  let count ← attempt (w.upsert items store)
  return .printed s!"Adding {items.length} items from {path}...\nSuccessfully added {count} items."

/-- Makes sure that the collection exists. -/
def runCreate (w : World m) (s : Settings) : ExceptT Stop m Outcome := do
  let done ← w.ensure (← attempt (w.openStore s))
  let what := if done.created then "Created collection: " else "Collection already exists: "
  return .printed (what ++ done.name)

/-- Deletes the collection. -/
def runDelete (w : World m) (s : Settings) : ExceptT Stop m Outcome := do
  w.clear (← attempt (w.openStore s))
  return .printed "Deleted collection."

/-- Runs a command. -/
def run (w : World m) (s : Settings) : Command → m (Except Fault Outcome)
  | .compile tags asText => return runCompile tags asText
  | .validate tags => return runValidate tags
  | .create => return settle (← (runCreate w s).run)
  | .delete => return settle (← (runDelete w s).run)
  | .seed file => return settle (← (runSeed w s file).run)
  | .search tags title page size file => return settle (← (runSearch w s tags title page size file).run)

/-- Carries out a command line.  The settings are loaded, and have to be right, before anything but
help. -/
def runLine (w : World m) (env : Environment) (args : List String) : m (Except Fault Outcome) :=
  match parse args with
  | .help page => return .ok { stdout := page }
  | .misuse => return .ok { exit := 2 }
  | .nothing => do
    match ← w.loadSettings [] env with
    | .error f => return .error f
    | .ok _ => return .ok { stdout := helpPage }
  | .command c => do
    match ← w.loadSettings [] env with
    | .error f => return .error f
    | .ok s => run w s c

end

end Command

end TagSearch
