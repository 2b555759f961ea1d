import TagSearch.Text.Blank

/-!
# Environment files

An environment file holds one binding a line: a name, and behind an equals sign a value in single
quotes, in double quotes or plain.  A quoted value may run over several lines, `export` may stand
before the name, and a `#` starts a comment.  A name without an equals sign is bound to nothing.
A line that fits none of this is skipped.

Values may refer to others: `${NAME}` stands for the value of a name, and `${NAME:-other}` names
a value to fall back on.
-/

namespace TagSearch

namespace EnvFile

/-- A binding of a name to a value, or to nothing. -/
abbrev Binding := List Char × Option (List Char)

/-- A text without the byte order mark that it may start with. -/
def dropByteOrderMark : List Char → List Char
  | '\ufeff' :: rest => rest
  | cs => cs

/-- A blank that does not end the line. -/
def isInlineBlank (c : Char) : Bool := isSpacing c && c != '\n' && c != '\r'

/-- The text behind the blanks of the line. -/
def skipInline (cs : List Char) : List Char := cs.dropWhile isInlineBlank

/-- The text behind `export` and the blanks after it, if it starts so. -/
def skipExport (cs : List Char) : List Char :=
  if "export".toList.isPrefixOf cs then
    let rest := cs.drop 6
    if rest.head?.any isInlineBlank then skipInline rest else cs
  else cs

/-- A character that a plain name may have. -/
def isNameChar (c : Char) : Bool := c != '=' && c != '#' && !isSpacing c

/-- The name at the start of a text; a comment has none. -/
def name? : List Char → Option (Option (List Char) × List Char)
  | '#' :: rest => some (none, '#' :: rest)
  | '\'' :: rest =>
    match rest.span (· != '\'') with
    | (c :: cs, '\'' :: more) => some (some (c :: cs), more)
    | _ => none
  | cs =>
    match cs.span isNameChar with
    | ([], _) => none
    | (name, rest) => some (some name, rest)

/-- The text up to a closing quote, and the rest.  A backslash takes the next character with it, be
that the quote. -/
def quotedBody (quote : Char) : List Char → Option (List Char × List Char)
  | [] => none
  | ['\\'] => none
  | '\\' :: c :: rest => (quotedBody quote rest).map fun (body, more) => ('\\' :: c :: body, more)
  | c :: rest =>
    if c = quote then some ([], rest)
    else (quotedBody quote rest).map fun (body, more) => (c :: body, more)

/-- The characters that a backslash may stand before, and what they mean then. -/
def escapes : List (Char × Char) :=
  [('\\', '\\'), ('\'', '\''), ('"', '"'), ('a', '\x07'), ('b', '\x08'), ('f', '\x0c'),
    ('n', '\n'), ('r', '\r'), ('t', '\t'), ('v', '\x0b')]

/-- A text with the allowed escapes replaced. -/
def unescape (allowed : List (Char × Char)) : List Char → List Char
  | '\\' :: c :: rest =>
    match allowed.lookup c with
    | some meant => meant :: unescape allowed rest
    | none => '\\' :: unescape allowed (c :: rest)
  | c :: rest => c :: unescape allowed rest
  | [] => []

/-- The characters of a plain value up to its comment, which is a `#` behind a blank and all that
follows it.  The blanks are those read just before. -/
def dropComment : (blanks : List Char) → List Char → List Char
  | blanks, [] => blanks.reverse
  | blanks, c :: rest =>
    if isSpacing c then dropComment (c :: blanks) rest
    else if c = '#' && !blanks.isEmpty then []
    else blanks.reverse ++ c :: dropComment [] rest

/-- The value at the start of a text, which may be a blank. -/
def value? (cs : List Char) : Option (List Char × List Char) :=
  match skipInline cs with
  | '\'' :: rest =>
    (quotedBody '\'' rest).map fun (body, more) => (unescape (escapes.take 2) body, more)
  | '"' :: rest => (quotedBody '"' rest).map fun (body, more) => (unescape escapes body, more)
  | _ =>
    let (line, rest) := cs.span fun c => c != '\n' && c != '\r'
    some (trim isSpacing (dropComment [] line), rest)

/-- The text behind the end of the line, if nothing but a comment stands before it. -/
def endLine? (cs : List Char) : Option (List Char) :=
  let rest :=
    match skipInline cs with
    | '#' :: comment => comment.dropWhile fun c => c != '\n' && c != '\r'
    | other => other
  match rest with
  | [] => some []
  | '\r' :: '\n' :: more => some more
  | '\n' :: more | '\r' :: more => some more
  | _ => none

/-- The text behind the next end of a line. -/
def skipLine (cs : List Char) : List Char := (cs.dropWhile fun c => c != '\n' && c != '\r').drop 1

/-- One binding or comment, and the text behind it.  When it cannot be read, the text left is that
behind the last part that could. -/
def binding? (cs : List Char) : Except (List Char) (Option Binding × List Char) :=
  let cs := skipExport cs
  match name? cs with
  | none => .error cs
  | some (name, rest) =>
    let rest := skipInline rest
    let bound : Except (List Char) (Option (List Char) × List Char) :=
      match rest with
      | '=' :: more =>
        match value? more with
        | some (value, after) => .ok (some value, after)
        | none => .error (skipInline more)
      | _ => .ok (none, rest)
    match bound with
    | .error left => .error left
    | .ok (value, after) =>
      match endLine? after with
      | some more => .ok (name.map fun n => (n, value), more)
      | none => .error after

/-- The bindings of a text, of at most `fuel` lines. -/
def bindingsUpTo : (fuel : Nat) → List Char → List Binding
  | 0, _ => []
  | fuel + 1, cs =>
    match cs.dropWhile isSpacing with
    | [] => []
    | text =>
      match binding? text with
      | .ok (some b, rest) => b :: bindingsUpTo fuel rest
      | .ok (none, rest) => bindingsUpTo fuel rest
      | .error left => bindingsUpTo fuel (skipLine left)

/-- The bindings of a text, in order. -/
def bindings (text : List Char) : List Binding := bindingsUpTo (text.length + 1) text

/-- A reference at the start of a text: the name, the value to fall back on, and the rest. -/
def reference? : List Char → Option (List Char × List Char × List Char)
  | '$' :: '\x7b' :: rest =>
    match rest.span fun c => c != '\x7d' && c != ':' with
    | (name, '\x7d' :: more) => some (name, [], more)
    | (name, ':' :: '-' :: other) =>
      match other.span (· != '\x7d') with
      | (fallback, '\x7d' :: more) => some (name, fallback, more)
      | _ => none
    | _ => none
  | _ => none

/-- A value with its references replaced; `value` gives a name's value, and `some none` where it is
bound to nothing. -/
def expandUpTo (value : List Char → Option (Option (List Char))) :
    (fuel : Nat) → List Char → List Char
  | 0, _ => []
  | _ + 1, [] => []
  | fuel + 1, c :: rest =>
    match reference? (c :: rest) with
    | some (name, fallback, more) =>
      (match value name with
        | none => fallback
        | some bound => bound.getD []) ++ expandUpTo value fuel more
    | none => c :: expandUpTo value fuel rest

/-- The value that the last binding of a name gives, or that of the environment.  The bindings so far
are given from the last to the first. -/
def valueOf (environment : List (List Char × List Char)) (before : List Binding)
    (name : List Char) : Option (Option (List Char)) :=
  match before.lookup name with
  | some value => some value
  | none => (environment.lookup name).map some

/-- Bindings with the references in their values replaced, each by what was bound before it. -/
def expandAll (environment : List (List Char × List Char)) :
    (before : List Binding) → List Binding → List Binding
  | _, [] => []
  | before, (name, value) :: rest =>
    let binding := (name, value.map fun v => expandUpTo (valueOf environment before) v.length v)
    binding :: expandAll environment (binding :: before) rest

/-- What an environment file binds, given the environment it is read in. -/
def read (environment : List (List Char × List Char)) (text : List Char) : List Binding :=
  expandAll environment [] (bindings text)

end EnvFile

end TagSearch
