import TagSearch.Text.DecimalDigit

/-!
# The grammar of a command line

A command has options and at most one operand.  An option is given by its name or by the beginning
of it, as long as that is the beginning of no other; its value follows as the next argument or
behind an equals sign.  Two dashes alone end the options.  An argument that looks like an option but
is none is left over, unless it looks like a negative number or has a blank in it: then it is a
value.  `-h` and `--help` ask for help and take effect as soon as they are reached.

Two dashes behind an equals sign are dropped like those that stand alone, so that the option is
given without a value; whether it can do without is left to the command.
-/

namespace TagSearch

/-- An option of a command. -/
structure OptionSpec where
  /-- The name with its two dashes. -/
  name : String
  /-- What the value is called, if the option takes one. -/
  metavar : Option String
  help : String
  required : Bool := false
  /-- Whether a text can be the value. -/
  admits : String → Bool := fun _ => true

/-- The arguments that a command takes. -/
structure Grammar where
  name : String
  help : String
  /-- The operand's name and what it is. -/
  operand : Option (String × String) := none
  options : List OptionSpec := []

/-- Why a command line is not carried out. -/
inductive Halt
  /-- Help was asked for. -/
  | help
  /-- The arguments do not fit. -/
  | misuse
  deriving DecidableEq, Repr

/-- What was given for an option. -/
inductive Argument (α : Type)
  /-- The option was not given. -/
  | absent
  /-- It was given without a value. -/
  | blank
  /-- It was given with a value. -/
  | value (a : α)
  deriving DecidableEq, Repr

/-- What was given, with its value changed. -/
def Argument.map {α β : Type} (f : α → β) : Argument α → Argument β
  | .absent => .absent
  | .blank => .blank
  | .value a => .value (f a)

/-- What was given on a command line. -/
structure Given where
  operand : Option String := none
  /-- The options with their values, in order; a flag has none. -/
  options : List (String × Option String) := []
  /-- Whether arguments were left over. -/
  leftOver : Bool := false

/-- How an argument is understood before its place is known. -/
inductive Sense
  /-- A value. -/
  | plain
  /-- The two dashes that end the options. -/
  | separator
  /-- An option, with the value behind its equals sign. -/
  | option (spec : OptionSpec) (attached : Option String)
  /-- Help, with the value behind its equals sign. -/
  | help (attached : Option String)
  /-- Help as a single letter, with the letters behind it. -/
  | shortHelp (tail : List Char)
  /-- An option that does not exist. -/
  | unknown

namespace Sense

/-- A decimal digit of any script. -/
def isDigit (c : Char) : Bool := (decimalDigit? c).isSome

/-- A minus and digits, with or without a point; a line feed may follow. -/
def isNumberLike : List Char → Bool
  | '-' :: rest =>
    let body := if rest.getLast? = some '\n' then rest.dropLast else rest
    let whole := body.takeWhile isDigit
    match body.dropWhile isDigit with
    | [] => !whole.isEmpty
    | '.' :: decimals => !decimals.isEmpty && decimals.all isDigit
    | _ => false
  | _ => false

/-- An argument with two dashes that is no option's full name. -/
def ofPrefix (specs : List OptionSpec) (beginning : List Char) (attached : Option String) :
    Except Halt (Option Sense) :=
  let matching := specs.filter fun spec => beginning.isPrefixOf spec.name.toList
  match beginning.isPrefixOf "--help".toList, matching with
  | true, [] => .ok (some (.help attached))
  | false, [spec] => .ok (some (.option spec attached))
  | false, [] => .ok none
  | _, _ => .error .misuse

/-- The name and the value of an argument with an equals sign. -/
def splitAttached (arg : List Char) : List Char × Option String :=
  match arg.span (· != '=') with
  | (name, _ :: value) => (name, some (String.ofList value))
  | (name, []) => (name, none)

/-- What an argument with a dash means that is no option. -/
def ofOther (arg : List Char) : Sense :=
  if isNumberLike arg || arg.contains ' ' then .plain else .unknown

/-- How an argument is understood. -/
def ofArgument (specs : List OptionSpec) (arg : String) : Except Halt Sense :=
  match arg.toList with
  | '-' :: '-' :: rest =>
    let (name, attached) := splitAttached ('-' :: '-' :: rest)
    match specs.find? (·.name.toList = name) with
    | some spec => .ok (.option spec attached)
    | none => do
      match ← ofPrefix specs name attached with
      | some sense => return sense
      | none => return ofOther ('-' :: '-' :: rest)
  | '-' :: 'h' :: tail => .ok (.shortHelp tail)
  | '-' :: c :: rest => .ok (ofOther ('-' :: c :: rest))
  | _ => .ok .plain

/-- How the arguments of a line are understood: behind two dashes all are plain. -/
def ofLine (specs : List OptionSpec) : List String → Except Halt (List (String × Sense))
  | [] => .ok []
  | arg :: rest =>
    if arg = "--" then .ok ((arg, .separator) :: rest.map (·, .plain))
    else do
      let sense ← ofArgument specs arg
      return (arg, sense) :: (← ofLine specs rest)

/-- What comes of help as a letter with a tail behind it: the same letter any number of times, behind
an equals sign at least once, asks for help as well. -/
def haltOfTail (tail : List Char) : Halt :=
  let letters :=
    match tail with
    | '=' :: value => if value.isEmpty then tail else value
    | _ => tail
  if letters.all (· == 'h') then .help else .misuse

end Sense

namespace Grammar

/-- Whether the operand is still to come. -/
def awaitsOperand (g : Grammar) (given : Given) : Bool := g.operand.isSome && given.operand.isNone

/-- One more option with its value. -/
def addOption (given : Given) (spec : OptionSpec) (value : Option String) : Given :=
  { given with options := given.options ++ [(spec.name, value)] }

/-- One more option with the value behind its equals sign. -/
def addAttached (given : Given) (spec : OptionSpec) (value : String) : Except Halt Given :=
  if spec.metavar.isNone then .error .misuse
  else if value = "--" then .ok (addOption given spec none)
  else if spec.admits value then .ok (addOption given spec (some value))
  else .error .misuse

/-- The arguments from left to right.  Two dashes belong to an operand that comes right before or
behind them. -/
def scan (g : Grammar) : (afterOperand : Bool) → Given → List (String × Sense) → Except Halt Given
  | _, given, [] => .ok given
  | _, _, (_, .help none) :: _ => .error .help
  | _, _, (_, .help (some _)) :: _ => .error .misuse
  | _, _, (_, .shortHelp tail) :: _ => .error (Sense.haltOfTail tail)
  | _, given, (_, .unknown) :: rest => scan g false { given with leftOver := true } rest
  | _, given, (_, .option spec (some value)) :: rest =>
    match addAttached given spec value with
    | .ok given => scan g false given rest
    | .error halt => .error halt
  | _, given, (_, .option spec none) :: rest =>
    if spec.metavar.isNone then scan g false (addOption given spec none) rest
    else
      match rest with
      | (value, .plain) :: more =>
        if spec.admits value then scan g false (addOption given spec (some value)) more
        else .error .misuse
      | _ => .error .misuse
  | _, given, (value, .plain) :: rest =>
    if g.awaitsOperand given then scan g true { given with operand := some value } rest
    else scan g false { given with leftOver := true } rest
  | afterOperand, given, (_, .separator) :: rest =>
    if afterOperand || (g.awaitsOperand given && !rest.isEmpty) then scan g false given rest
    else scan g false { given with leftOver := true } rest

/-- Whether everything that is required was given, and nothing else. -/
def isComplete (g : Grammar) (given : Given) : Bool :=
  !given.leftOver && !g.awaitsOperand given
    && g.options.all fun spec => !spec.required || (given.options.lookup spec.name).isSome

/-- Reads the arguments of a command. -/
def parse (g : Grammar) (args : List String) : Except Halt Given := do
  let given ← g.scan false {} (← Sense.ofLine g.options args)
  if g.isComplete given then return given else .error .misuse

end Grammar

namespace Given

/-- What was given for an option; the last time counts. -/
def argument (given : Given) (name : String) : Argument String :=
  match given.options.reverse.lookup name with
  | none => .absent
  | some none => .blank
  | some (some value) => .value value

/-- Whether a flag was given. -/
def hasFlag (given : Given) (name : String) : Bool := (given.options.lookup name).isSome

end Given

end TagSearch
