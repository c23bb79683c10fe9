import EntityScaffold.Xml.Scan

/-!
# Tokens of content

The content of an element is a sequence of tags and texts; comments, processing instructions and
character data sections are checked and leave no token. `content?` cuts a text into tokens until
the end tag that closes the level on which it started, or to the end of the text. References in
texts and attribute values are left as they are.
-/

namespace EntityScaffold.Xml

/-- An attribute as written: its name and the text between the quotes. -/
abbrev RawAttribute := QualifiedName × List Char

/-- How a start tag ends. -/
inductive TagEnd where
  /-- With `>`: content follows. -/
  | opening
  /-- With `/>`: there is no content. -/
  | empty
  /-- With the end of the text, directly after the name or an attribute. -/
  | unfinished
  deriving DecidableEq

/-- A token of content. -/
inductive Token where
  | startTag (name : QualifiedName) (attributes : List RawAttribute) (ending : TagEnd)
  | endTag (name : QualifiedName)
  | text (chars : List Char)
  deriving DecidableEq

variable {s : List Char}

/-! ## Comments, instructions, character data -/

/-- Reads a comment: no two hyphens inside, and none at the end. -/
def comment? (s : List Char) : Option (Scan s Unit) := do
  let start ← literal? ['<', '!', '-', '-'] s
  let body ← upTo? ['-', '-', '>'] start
  if body.value.all isAllowed && (cutAt ['-', '-'] body.value).isNone &&
      body.value.getLast? != some '-' then
    return body.map fun _ => ()
  else none

/-- Reads a processing instruction. A declaration of the document is none. -/
def instruction? (s : List Char) : Option (Scan s Unit) := do
  if "<?xml ".toList.isPrefixOf s then none
  else
    let start ← literal? ['<', '?'] s
    let target ← name? start.rest
    let body ← upTo? ['?', '>'] (start.andThen target)
    if body.value.all isAllowed then return body.map fun _ => () else none

/-- Reads a section of character data. -/
def characterData? (s : List Char) : Option (Scan s Unit) := do
  let start ← literal? "<![CDATA[".toList s
  let body ← upTo? [']', ']', '>'] start
  if body.value.all isAllowed then return body.map fun _ => () else none

/-- The text after white space, comments and instructions. -/
def skipMisc? (s : List Char) : Option (List Char) :=
  let r := skipSpaces s
  if ['<', '!', '-', '-'].isPrefixOf r then
    match comment? r with
    | some a => skipMisc? a.rest
    | none => none
  else if ['<', '?'].isPrefixOf r then
    match instruction? r with
    | some a => skipMisc? a.rest
    | none => none
  else some r
termination_by s.length
decreasing_by all_goals exact Nat.lt_of_lt_of_le a.shorter (length_skipSpaces_le s)

/-! ## Tags -/

/-- Reads an attribute. -/
def attribute? (s : List Char) : Option (Scan s RawAttribute) := do
  let name ← qualifiedName? s
  let equals ← literal? ['='] name.skipSpaces.rest
  let value ← quoted? equals.skipSpaces.rest
  if value.value.all fun c => isAllowed c && c != '<' then
    return name.skipSpaces.andThen (equals.skipSpaces.andThen (value.map fun v => (name.value, v)))
  else none

/-- Reads the attributes of a start tag and its end; `a` holds the attributes read so far, the
latest first. -/
def attributes? (a : Scan s (List RawAttribute)) : Option (Scan s (List RawAttribute × TagEnd)) :=
  if a.rest.isEmpty then some (a.map fun found => (found.reverse, .unfinished))
  else
    let b := a.skipSpaces
    match b.rest.head? with
    | some '/' => (literal? ['/', '>'] b.rest).map fun stop =>
        b.andThen (stop.map fun _ => (b.value.reverse, .empty))
    | some '>' => (literal? ['>'] b.rest).map fun stop =>
        b.andThen (stop.map fun _ => (b.value.reverse, .opening))
    | _ =>
      if startsWithSpace a.rest then
        match attribute? b.rest with
        | some next => attributes? (b.andThen (next.map fun v => v :: a.value))
        | none => none
      else none
termination_by a.rest.length
decreasing_by exact Nat.lt_of_lt_of_le next.shorter (length_skipSpaces_le a.rest)

/-- Reads a start tag. -/
def startTag? (s : List Char) : Option (Scan s Token) := do
  let start ← literal? ['<'] s
  let name ← qualifiedName? start.rest
  let tail ← attributes? (start.andThen (name.map fun _ => []))
  return tail.map fun (attributes, ending) => .startTag name.value attributes ending

/-- Reads an end tag. -/
def endTag? (s : List Char) : Option (Scan s Token) := do
  let start ← literal? ['<', '/'] s
  let name ← qualifiedName? start.rest
  let stop ← literal? ['>'] name.skipSpaces.rest
  return start.andThen (name.skipSpaces.andThen (stop.map fun _ => .endTag name.value))

/-- Reads the text before the next markup. -/
def text? (s : List Char) : Option (Scan s Token) :=
  let chars := s.takeWhile (· != '<')
  if h : chars ≠ [] then
    if chars.all isAllowed && (cutAt [']', ']', '>'] chars).isNone then
      some ⟨.text chars, s.dropWhile (· != '<'), length_dropWhile_lt h⟩
    else none
  else none

/-- Reads one item of content, which may leave no token. -/
def item? (s : List Char) : Option (Scan s (Option Token)) :=
  match s with
  | '<' :: '!' :: '-' :: _ => (comment? _).map (·.map fun _ => none)
  | '<' :: '!' :: _ => (characterData? _).map (·.map fun _ => none)
  | '<' :: '?' :: _ => (instruction? _).map (·.map fun _ => none)
  | '<' :: '/' :: _ => (endTag? _).map (·.map some)
  | '<' :: _ => (startTag? _).map (·.map some)
  | _ => (text? _).map (·.map some)

/-- The tokens of content that is nested `level` deep, and the rest of the text after the end tag
that closes the outermost level. -/
def content? (level : Nat) (s : List Char) : Option (List Token × List Char) :=
  if s.isEmpty then some ([], [])
  else
    match item? s with
    | none => none
    | some item =>
      match item.value with
      | none => content? level item.rest
      | some token =>
        let after : Option (List Token × List Char) :=
          match token with
          | .endTag _ =>
            match level with
            | 0 => some ([], item.rest)
            | outer + 1 => content? outer item.rest
          | .startTag _ _ .opening => content? (level + 1) item.rest
          | _ => content? level item.rest
        after.map fun (tokens, rest) => (token :: tokens, rest)
termination_by s.length
decreasing_by all_goals exact item.shorter

/-- The tokens of one element at the start of a text, and the rest of the text after it. -/
def element? (s : List Char) : Option (List Token × List Char) :=
  match startTag? s with
  | none => none
  | some tag =>
    match tag.value with
    | .startTag _ _ .opening =>
      (content? 0 tag.rest).map fun (tokens, rest) => (tag.value :: tokens, rest)
    | _ => some ([tag.value], tag.rest)

end EntityScaffold.Xml
