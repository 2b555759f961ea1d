import TagSearch.Command.Help
import TagSearch.Text.Blank
import TagSearch.Schema.Scalar

/-!
# Commands

The commands of the program, and how they are read from a command line.
-/

namespace TagSearch

/-- A command with its arguments. -/
inductive Command
  /-- Compile criteria, to JSON or to compact text. -/
  | compile (tags : String) (asText : Bool)
  /-- Validate criteria. -/
  | validate (tags : String)
  /-- Create the collection. -/
  | create
  /-- Delete the collection. -/
  | delete
  /-- Load items from a file into the collection. -/
  | seed (file : Argument String)
  /-- Search items, in the configured store or in those of a file. -/
  | search (tags : Argument String) (title : Argument Text) (page size : Argument Int)
    (file : Argument String)
  deriving DecidableEq, Repr

/-- What a command line asks for. -/
inductive CommandLine
  | command (c : Command)
  /-- No command at all. -/
  | nothing
  /-- The given help page. -/
  | help (page : String)
  /-- Arguments that do not fit. -/
  | misuse
  deriving DecidableEq, Repr

/-- The whole number that an argument denotes: digits of any script with single underscores between
them, a sign before them, and blanks around all. -/
def integerOfArgument? (s : String) : Option Int := do
  let (negative, unsigned) := Notation.splitSign (trim isBlank s.toList)
  let ascii ← unsigned.mapM fun c =>
    if c = '_' then some c else (decimalDigit? c).map Nat.digitChar
  let digits ← Notation.dropUnderscores? ascii
  if digits.isEmpty || maxDigits < digits.length then none
  else return Binary64.signed negative (Json.digitsValue digits)

namespace Command

/-- The program's name. -/
def program : String := "tagquery"

/-- What criteria on the command line look like. -/
def tagsOperand : String × String := ("tags", "JSON criteria, e.g. '[5, [3, -7]]'")

/-- An option whose value is a whole number. -/
def integerOption (name metavar help : String) : OptionSpec :=
  { name, metavar := some metavar, help, admits := fun s => (integerOfArgument? s).isSome }

/-- The commands, in the order the help page lists them. -/
def grammars : List Grammar :=
  [{ name := "compile", help := "Compile tag criteria into a predicate", operand := some tagsOperand
     options :=
      [{ name := "--text", metavar := none, help := "Print compact text instead of JSON" }] },
   { name := "validate", help := "Validate tag criteria", operand := some tagsOperand },
   { name := "create", help := "Create the items collection" },
   { name := "delete", help := "Delete the items collection" },
   { name := "seed", help := "Load items from a JSON file into the collection"
     options :=
      [{ name := "--file", metavar := some "FILE", required := true
         help := "JSON list of \x7bitem_id, title, tag_ids\x7d" }] },
   { name := "search", help := "Search items by tag criteria"
     options :=
      [{ name := "--tags", metavar := some "TAGS", help := "JSON criteria; omit for no tag filter" },
       { name := "--title", metavar := some "TITLE", help := "Title substring" },
       integerOption "--page" "PAGE" "1-based page number (default: 1)",
       integerOption "--size" "SIZE" "Page size (default: DEFAULT_PAGE_SIZE setting)",
       { name := "--file", metavar := some "FILE"
         help := "Search an items JSON file in memory instead of the configured store" }] }]

/-- The help page of the program. -/
def helpPage : String :=
  Help.programPage program "Compile tag criteria and search tagged items" grammars

/-- What was given for an option whose value is a whole number. -/
def integerArgument (given : Given) (name : String) : Argument Int :=
  match given.argument name with
  | .absent => .absent
  | .blank => .blank
  | .value text => ((integerOfArgument? text).map Argument.value).getD .absent

/-- The command of a name, from what was given. -/
def ofGiven? (name : String) (given : Given) : Option Command :=
  match name with
  | "compile" => given.operand.map fun tags => .compile tags (given.hasFlag "--text")
  | "validate" => given.operand.map .validate
  | "create" => some .create
  | "delete" => some .delete
  | "seed" => some (.seed (given.argument "--file"))
  | "search" =>
    some (.search (given.argument "--tags") ((given.argument "--title").map Text.ofString)
      (integerArgument given "--page") (integerArgument given "--size") (given.argument "--file"))
  | _ => none

/-- Reads the arguments behind the name of a command.  Arguments left over before the name do not
keep the command's help from being shown. -/
def parseNamed (leftOver : Bool) (name : String) (args : List String) : CommandLine :=
  match grammars.find? (·.name = name) with
  | none => .misuse
  | some g =>
    match g.parse args with
    | .error .help => .help (Help.commandPage program g)
    | .error .misuse => .misuse
    | .ok given =>
      if leftOver then .misuse else ((ofGiven? name given).map CommandLine.command).getD .misuse

/-- Reads the arguments up to the name of a command, which is the first plain one. -/
def parseSenses (leftOver : Bool) : List (String × Sense) → CommandLine
  | [] => if leftOver then .misuse else .nothing
  | (_, .help none) :: _ => .help helpPage
  | (_, .shortHelp tail) :: _ =>
    match Sense.haltOfTail tail with
    | .help => .help helpPage
    | .misuse => .misuse
  | (_, .unknown) :: rest => parseSenses true rest
  | (name, .plain) :: rest => parseNamed leftOver name (rest.map (·.1))
  | (_, .help (some _)) :: _ | (_, .option ..) :: _ | (_, .separator) :: _ => .misuse

/-- Reads a command line. -/
def parse (args : List String) : CommandLine :=
  match Sense.ofLine [] args with
  | .ok senses => parseSenses false senses
  | .error _ => .misuse

end Command

end TagSearch
