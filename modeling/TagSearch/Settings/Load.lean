import TagSearch.Settings.Basic
import TagSearch.Settings.EnvFile
import TagSearch.Fault
import TagSearch.Store.Folder
import TagSearch.Text.Lowercase

/-!
# Loading settings

Settings are gathered from three places: values given directly, the environment, and the file `.env`
in the working folder, in this order of precedence.  Names match without regard to letter case.
Names of the environment that are no settings are ignored; those of the file and of the values
given are not.
-/

namespace TagSearch

/-- The variables of the environment. -/
abbrev Environment := List (String × String)

namespace Settings

/-- Named values, the later ones of a name taking the place of the earlier. -/
def merge (base added : Json.Members) : Json.Members :=
  added.foldl (fun members m => Json.setMember m.1 m.2 members) base

/-- The settings that the environment names. -/
def ofEnvironment (env : Environment) : Json.Members :=
  (merge [] (env.map fun v => ((Text.ofString v.1).lower, .str v.2))).filter (isName ·.1)

/-- What the text of an environment file names.  Of several bindings of one name the last counts, in
the place of the first; only then are names taken without regard to letter case, and the later one
counts.  A name bound to nothing is left out, and so is a name that is no setting and bound to an
empty text. -/
def ofEnvText (env : Environment) (text : List Char) : Json.Members :=
  let environment := env.map fun v => (v.1.toList, v.2.toList)
  let bound := merge [] <| (EnvFile.read environment text).map fun b =>
    (String.ofList b.1, .ofOption (b.2.map fun v => .str (String.ofList v)))
  let members := merge [] (bound.map fun m => (m.1.lower, m.2))
  let named := members.filter fun m => !m.2 matches .null
  named.filter (isName ·.1) ++ named.filter fun m => !isName m.1 && !m.2.isText ""

/-- What the file `.env` names. -/
def ofEnvFile (env : Environment) : Entry → Except Fault (Json.Members)
  | .file bytes =>
    match decodeUtf8 bytes with
    | .error f => .error (.undecodable f)
    | .ok text => .ok (ofEnvText env (unifyLineEnds (EnvFile.dropByteOrderMark text)))
  | _ => .ok []

/-- Values given directly, under the names of the settings they are meant for; the first one of
several for a setting counts. -/
def ofGiven (given : Json.Members) : Json.Members :=
  given.foldl
    (fun taken m =>
      let name := m.1.lower
      if !isName name then taken ++ [m]
      else if (Json.lookup name taken).isSome then taken
      else taken ++ [(name, m.2)])
    []

/-- Gathers the settings. -/
def load (given : Json.Members) (env : Environment) (envFile : Entry) :
    Except Fault Settings := do
  let fromFile ← ofEnvFile env envFile
  let members := merge (merge fromFile (ofEnvironment env)) (ofGiven given)
  (ofMembers members).mapError .rejected

end Settings

end TagSearch
