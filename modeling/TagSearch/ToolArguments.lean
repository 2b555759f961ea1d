import TagSearch.Json.Reader
import TagSearch.Schema.Scalar
import TagSearch.Tools

/-!
# Arguments of tools

A tool is called by its name with an object of arguments, and `Tools` is what the tools do with them.  This
module is the layer around it, which is not part of the library: how a function with named parameters is
called (`ToolCall.direct`), and what the server package that the tools are registered with does to the
arguments of a remote call before it calls the function (`ToolCall.served`).  Called directly, the arguments
go to the tool as they are.  The server has them fit first: the criteria a list, pages whole numbers, the
title a text; and it takes a text for the list, object or null that it is the JSON of.
-/

namespace TagSearch

/-- Why a call does not reach its tool. -/
inductive CallFault
  | unknownTool (name : String)
  /-- An argument that has to be given is not. -/
  | missingArgument (tool argument : String)
  /-- An argument that the tool does not have. -/
  | unexpectedArgument (tool argument : String)
  /-- The arguments do not fit. -/
  | unfit
  deriving DecidableEq, Repr

namespace ToolCall

/-- The arguments of a tool, and whether each has to be given. -/
def parameters? (tool : String) : Option (List (String × Bool)) :=
  if tool = "tags_compile" || tool = "tags_validate" then some [("tags", true)]
  else if tool = "tags_search" then
    some [("tags", false), ("title", false), ("page", false), ("size", false)]
  else none

/-- Whether an argument is one of a tool's. -/
def hasParameter (parameters : List (String × Bool)) (argument : Text) : Bool :=
  parameters.any fun p => argument = p.1

/-- The call of a tool whose arguments are all there. -/
def ofArguments (tool : String) (arguments : Json.Members) : ToolCall :=
  let argument (name : String) (absent : Json) : Json := (Json.lookup name arguments).getD absent
  if tool = "tags_compile" then .compile (argument "tags" .null)
  else if tool = "tags_validate" then .validate (argument "tags" .null)
  else
    .search (argument "tags" .null) (argument "title" .null) (argument "page" (.int 1))
      (argument "size" .null)

/-- A direct call. -/
def direct (tool : String) (arguments : Json.Members) : Except CallFault ToolCall :=
  match parameters? tool with
  | none => .error (.unknownTool tool)
  | some parameters =>
    match arguments.find? fun a => !hasParameter parameters a.1,
        parameters.find? fun p => p.2 && (Json.lookup p.1 arguments).isNone with
    | some a, _ => .error (.unexpectedArgument tool a.1.shown)
    | none, some p => .error (.missingArgument tool p.1)
    | none, none => .ok (ofArguments tool arguments)

/-- What the server takes an argument for: a text that is the JSON of a list, an object or null counts as
that value.  A text beyond the limits of the reader is not let through at all. -/
def unwrapText : Json → Except CallFault Json
  | .str t =>
    match t.toString?.map Json.read with
    | some (.ok (.arr items)) => .ok (.arr items)
    | some (.ok (.obj members)) => .ok (.obj members)
    | some (.ok .null) => .ok .null
    | some (.error .tooDeep) | some (.error (.longNumber _)) => .error .unfit
    | _ => .ok (.str t)
  | v => .ok v

/-- A list, passed on as it is. -/
def listArgument : Json → Checked Json
  | .arr items => .accepted (.arr items)
  | _ => .fail .notList

/-- A whole number or what counts as one, passed on as the number. -/
def integerArgument (v : Json) : Checked Json := .map .int (.integer v)

/-- A text, passed on as it is. -/
def textArgument (v : Json) : Checked Json := .map .str (.text v)

/-- Null, or else what the reader lets through. -/
def orNull (read : Json → Checked Json) : Json → Checked Json
  | .null => .accepted .null
  | v => read v

/-- The arguments of the two tools that take criteria alone. -/
def criteriaArgument (members : Json.Members) : Checked Json :=
  .required "tags" listArgument members

/-- The call of the tool that searches. -/
def searchArguments (members : Json.Members) : Checked ToolCall :=
  search <$> .defaulted "tags" .null (orNull listArgument) members
    <*> .defaulted "title" .null (orNull textArgument) members
    <*> .defaulted "page" (.int 1) integerArgument members
    <*> .defaulted "size" .null (orNull integerArgument) members

/-- The arguments that a tool has, as the server takes them; it drops all others. -/
def unwrapAll (parameters : List (String × Bool)) (arguments : Json.Members) :
    Except CallFault Json.Members :=
  (arguments.filter fun a => hasParameter parameters a.1).mapM fun a => do
    return (a.1, ← unwrapText a.2)

/-- A call through the server: which call of a tool it makes of the arguments, if it makes any. -/
def served (tool : String) (arguments : Json.Members) : Except CallFault ToolCall :=
  match parameters? tool with
  | none => .error (.unknownTool tool)
  | some parameters => do
    let members ← unwrapAll parameters arguments
    let checked : Checked ToolCall :=
      if tool = "tags_compile" then .map compile (criteriaArgument members)
      else if tool = "tags_validate" then .map validate (criteriaArgument members)
      else searchArguments members
    match checked with
    | .accepted call => return call
    | .refused _ => .error .unfit

end ToolCall

end TagSearch
