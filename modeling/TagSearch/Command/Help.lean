import TagSearch.Command.Grammar

/-!
# Help pages

A help page has a usage line, which is broken before an option that does not fit, and sections of
names with their descriptions in a second column.  A line has 78 characters at most.
-/

namespace TagSearch

namespace Help

/-- The characters of a line. -/
def lineWidth : Nat := 78

/-- Words put on lines of a limited width, with one blank between two of them. -/
def fill (width : Nat) : (line : List String) → (used : Nat) → List String → List (List String)
  | line, _, [] => if line.isEmpty then [] else [line.reverse]
  | line, used, word :: rest =>
    if line.isEmpty then fill width [word] word.length rest
    else if used + 1 + word.length ≤ width then
      fill width (word :: line) (used + 1 + word.length) rest
    else line.reverse :: fill width [word] word.length rest

/-- Blanks. -/
def blanks (n : Nat) : String := String.ofList (List.replicate n ' ')

/-- A name with its description, moved in by some blanks. -/
structure Entry where
  indent : Nat := 2
  name : String
  text : String

/-- Where descriptions start: two blanks behind the longest name, but not too far out. -/
def column (entries : List Entry) : Nat :=
  min 24 ((entries.map fun e => e.indent + e.name.length).foldl max 0 + 2)

/-- The lines of an entry. -/
def entryLines (column : Nat) (e : Entry) : List String :=
  let lines := (fill (lineWidth - column) [] 0 (e.text.splitOn " ")).map (" ".intercalate ·)
  let head := blanks e.indent ++ e.name
  let indented := lines.map (blanks column ++ ·)
  if head.length + 2 ≤ column then
    match lines with
    | first :: _ => (head ++ blanks (column - head.length) ++ first) :: indented.drop 1
    | [] => [head]
  else head :: indented

/-- The usage of a command: its name and its parts, broken before a part that does not fit. -/
def usage (command : String) (parts : List String) : String :=
  let head := "usage: " ++ command
  let margin := head.length + 1
  let lines := (fill (lineWidth - margin) [] 0 parts).map (" ".intercalate ·)
  head ++ " " ++ ("\n" ++ blanks margin).intercalate lines

/-- A section with its title. -/
def sectionText (column : Nat) (title : String) (entries : List Entry) : String :=
  "\n" ++ title ++ ":\n"
    ++ "\n".intercalate (entries.flatMap (entryLines column)) ++ "\n"

/-- The entry for help itself. -/
def helpEntry : Entry := { name := "-h, --help", text := "show this help message and exit" }

/-- An option with its value. -/
def optionText (spec : OptionSpec) : String :=
  match spec.metavar with
  | some value => spec.name ++ " " ++ value
  | none => spec.name

/-- An option in the usage: in brackets unless it is required. -/
def optionUsage (spec : OptionSpec) : String :=
  if spec.required then optionText spec else "[" ++ optionText spec ++ "]"

/-- The help page of a command of a program. -/
def commandPage (program : String) (g : Grammar) : String :=
  let operands := g.operand.toList
  let operandEntries := operands.map fun o => ({ name := o.1, text := o.2 } : Entry)
  let optionEntries :=
    helpEntry :: g.options.map fun spec => { name := optionText spec, text := spec.help }
  let c := column (operandEntries ++ optionEntries)
  usage (program ++ " " ++ g.name)
      ("[-h]" :: g.options.map optionUsage ++ operands.map fun o => o.1) ++ "\n"
    ++ (if operandEntries.isEmpty then "" else sectionText c "positional arguments" operandEntries)
    ++ sectionText c "options" optionEntries

/-- The help page of a program with commands. -/
def programPage (program description : String) (commands : List Grammar) : String :=
  let choices := "\x7b" ++ ",".intercalate (commands.map (·.name)) ++ "\x7d"
  let commandEntries :=
    { name := choices, text := "Available commands" }
      :: commands.map fun g => ({ indent := 4, name := g.name, text := g.help } : Entry)
  let c := column (helpEntry :: commandEntries)
  usage program ["[-h]", choices, "..."] ++ "\n\n" ++ description ++ "\n"
    ++ sectionText c "positional arguments" commandEntries
    ++ sectionText c "options" [helpEntry]

end Help

end TagSearch
