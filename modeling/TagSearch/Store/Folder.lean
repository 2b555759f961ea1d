/-!
# Files and their paths

What can stand at a path, and the two ways of reading one.  `normalPath` is how messages name a
path: without empty components and without dots that stand for the current folder.  `Folder.entry`
also follows the pairs of dots that lead upwards.
-/

namespace TagSearch

/-- What stands at a path, or why nothing does. -/
inductive Entry
  | file (bytes : List UInt8)
  | directory
  | absent
  /-- The path leads on from a file. -/
  | behindFile
  /-- The path, or a name in it, is longer than any can be. -/
  | tooLong
  /-- The path holds a null character. -/
  | impossible
  deriving DecidableEq, Repr

/-- The components of a path, without the empty ones and the single dots. -/
def pathParts (path : String) : List String :=
  (path.splitOn "/").filter fun part => part ≠ "" && part ≠ "."

/-- The slashes that an absolute path starts with: one, but two if there are exactly two. -/
def pathRoot (path : String) : String :=
  match (path.toList.takeWhile (· == '/')).length with
  | 0 => ""
  | 2 => "//"
  | _ => "/"

/-- A path as messages name it. -/
def normalPath (path : String) : String :=
  let text := pathRoot path ++ "/".intercalate (pathParts path)
  if text.isEmpty then "." else text

/-- The files below the working folder, by their paths. -/
abbrev Folder := List (String × List UInt8)

namespace Folder

/-- Whether the components lead to a folder: the working folder itself, or one above a file. -/
def isDirectory (folder : Folder) (parts : List String) : Bool :=
  parts.isEmpty || folder.any fun file =>
    let whole := pathParts file.1
    parts.isPrefixOf whole && parts.length < whole.length

/-- Where a walk through a path has come to. -/
inductive Position
  /-- Below the working folder, at components given from the last to the first. -/
  | inside (stack : List String)
  /-- In a folder above the working folder. -/
  | above
  deriving DecidableEq, Repr

/-- The most bytes that a name may have. -/
def maxNameBytes : Nat := 255

/-- The most bytes that a path may have. -/
def maxPathBytes : Nat := 4095

/-- The file that the components lead to. -/
def file? (folder : Folder) (parts : List String) : Option (List UInt8) :=
  (folder.find? fun file => pathParts file.1 == parts).map (·.2)

/-- What stands where the components lead to. -/
def stands (folder : Folder) (parts : List String) : Entry :=
  match folder.file? parts with
  | some bytes => .file bytes
  | none => if folder.isDirectory parts then .directory else .absent

/-- One step of a walk, from a folder only.  Two dots lead up. -/
def step (folder : Folder) (part : String) (position : Position) : Except Entry Position :=
  let up := part = ".."
  let long := maxNameBytes < part.utf8ByteSize
  match position with
  | .above => if up then .ok .above else .error (if long then .tooLong else .absent)
  | .inside stack =>
    match folder.stands stack.reverse with
    | .directory =>
      if long then .error .tooLong
      else if !up then .ok (.inside (part :: stack))
      else
        match stack with
        | [] => .ok .above
        | _ :: rest => .ok (.inside rest)
    | .file _ => .error .behindFile
    | missing => .error missing

/-- The walk through the components of a path. -/
def walk (folder : Folder) (start : Position) (parts : List String) : Except Entry Position :=
  parts.foldlM (fun position part => folder.step part position) start

/-- What stands at a path. -/
def entry (folder : Folder) (path : String) : Entry :=
  if path.contains '\x00' then .impossible
  else if maxPathBytes < (normalPath path).utf8ByteSize then .tooLong
  else
    match folder.walk (if pathRoot path = "" then .inside [] else .above) (pathParts path) with
    | .ok (.inside stack) => folder.stands stack.reverse
    | .ok .above => .directory
    | .error reason => reason

end Folder

end TagSearch
