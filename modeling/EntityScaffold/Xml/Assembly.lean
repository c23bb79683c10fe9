import EntityScaffold.Xml.Element
import EntityScaffold.Xml.Value

/-!
# From tokens to elements

A `Builder` holds the elements that are open and those that are complete. Start and end tags act on
it one after another (`openTag?`, `closeTag?`); a reference to an entity in a text is followed by
reading the value of the entity as content of its own (`assemble?`), so an entity may contribute
whole elements, and may also close an element opened outside of it once it has opened one itself.

Attributes and namespaces collect in the builder until their tag ends. A tag that the text of an
entity leaves unfinished opens nothing, and what it declared goes to the next tag.
-/

namespace EntityScaffold.Xml

/-- Prefixes with the namespaces they stand for; the first one of a prefix counts. -/
abbrev Scope := List (List Char × String)

/-- The namespace that the prefix `xml` always stands for. -/
def xmlSpace : String :=
  "http://www.w3.org/XML/1998/namespace"

/-- The namespace of namespace declarations, which no prefix stands for. -/
def xmlnsSpace : String :=
  "http://www.w3.org/2000/xmlns/"

/-- An element whose end tag is still to come. -/
structure OpenElement where
  tag : QualifiedName
  scope : Scope
  attributes : List Attribute
  /-- The complete child elements, the latest first. -/
  children : List Element

namespace OpenElement

/-- The complete element. -/
def close (o : OpenElement) : Element :=
  .mk (String.ofList o.tag.base) o.attributes o.children.reverse

end OpenElement

/-- Elements under construction. -/
structure Builder where
  /-- The open elements, the innermost first. -/
  opened : List OpenElement := []
  /-- The complete elements outside all open ones, the latest first. -/
  complete : List Element := []
  /-- The attributes of the tag that is being read, in order. -/
  attributes : List (QualifiedName × String) := []
  /-- The namespaces declared by the tag that is being read, in order. -/
  declared : Scope := []
  /-- How many references may still follow inside the current entity. -/
  spare : Nat := 0

namespace Builder

/-- The namespaces visible to the tag that is being read. -/
def scope (b : Builder) : Scope :=
  b.declared ++ ((b.opened.head?.map (·.scope)).getD [])

/-- The builder with one more complete element. -/
def add (b : Builder) (e : Element) : Builder :=
  match b.opened with
  | [] => { b with complete := e :: b.complete }
  | o :: outer => { b with opened := { o with children := e :: o.children } :: outer }

/-- Takes in an attribute with its final value: a namespace declaration or an attribute proper. A
prefix is declared once in a tag. -/
def declare? (b : Builder) (name : QualifiedName) (value : String) : Option Builder :=
  if name.qualifier = "xmlns".toList then
    if value == xmlnsSpace || (name.base == "xml".toList) != (value == xmlSpace) ||
        (b.declared.lookup name.base).isSome then
      none
    else if name.base = "xml".toList then some b
    else some { b with declared := b.declared ++ [(name.base, value)] }
  else if name.base = "xmlns".toList then
    if value == xmlSpace || value == xmlnsSpace then none else some b
  else some { b with attributes := b.attributes ++ [(name, value)] }

/-- The attribute with its prefix replaced by the namespace it stands for. -/
def resolve? (scope : Scope) (name : QualifiedName) (value : String) : Option Attribute :=
  let inSpace (space? : Option String) : Attribute := ⟨space?, String.ofList name.base, value⟩
  if name.qualifier = "xml".toList then some (inSpace (some xmlSpace))
  else if name.qualifier.isEmpty then some (inSpace none)
  else (scope.lookup name.qualifier).map fun space => inSpace (some space)

/-- The attributes with their namespaces; no two may agree in namespace and name. -/
def resolveAll? (scope : Scope) : List (QualifiedName × String) → List Attribute →
    Option (List Attribute)
  | [], done => some done
  | (name, value) :: more, done => do
    let a ← resolve? scope name value
    if done.any fun d => d.space? == a.space? && d.name == a.name then none
    else resolveAll? scope more (done ++ [a])

/-- Ends the tag that is being read: its attributes, and the builder without them. -/
def settle? (b : Builder) : Option (List Attribute × Builder) :=
  (resolveAll? b.scope b.attributes []).map fun attributes =>
    (attributes, { b with attributes := [], declared := [] })

/-- Takes in the end of a start tag. The prefix of the tag must be declared. -/
def openTag? (b : Builder) (tag : QualifiedName) (ending : TagEnd) : Option Builder :=
  if ending = .unfinished then some b
  else if !tag.qualifier.isEmpty && (b.scope.lookup tag.qualifier).isNone then none
  else do
    let (attributes, settled) ← b.settle?
    let o : OpenElement := ⟨tag, b.scope, attributes, []⟩
    if ending = .empty then return settled.add o.close
    else return { settled with opened := o :: settled.opened }

/-- Takes in an end tag, which must match the innermost open element. -/
def closeTag? (b : Builder) (tag : QualifiedName) : Option Builder := do
  let (_, settled) ← b.settle?
  match settled.opened with
  | [] => none
  | o :: outer => if o.tag = tag then some ({ settled with opened := outer }.add o.close) else none

/-- Takes in the attributes of a start tag, each with its references replaced. -/
def declareAll? (entities : Entities) (depth : Nat) (inEntity : Bool) :
    List RawAttribute → Builder → Option Builder
  | [], b => some b
  | (name, raw) :: more, b => do
    let (value, left) ← expandValue entities depth inEntity raw b.spare
    let b ← { b with spare := left }.declare? name (String.ofList value)
    declareAll? entities depth inEntity more b

/-- Takes in a whole start tag. No element has the prefix `xmlns`. -/
def startTag? (entities : Entities) (depth : Nat) (inEntity : Bool) (tag : QualifiedName)
    (attributes : List RawAttribute) (ending : TagEnd) (b : Builder) : Option Builder := do
  if tag.qualifier = "xmlns".toList then none
  else
    let b ← declareAll? entities depth inEntity attributes b
    b.openTag? tag ending

end Builder

/-- The names of the entities that a text refers to. -/
def entityNames? (text : List Char) : Option (List (List Char)) :=
  (pieces? text).map fun pieces => pieces.filterMap fun
    | .entity name => some name
    | _ => none

/-- Takes in the tokens of a content, where `enter` reads the content of an entity and `depth`
bounds entities in attribute values. Inside an entity an end tag must come after a start tag. -/
def assembleTokens? (entities : Entities) (enter : List Char → Builder → Option Builder)
    (depth : Nat) (inEntity : Bool) : (started : Bool) → List Token → Builder → Option Builder
  | _, [], b => some b
  | _, .startTag tag attributes ending :: tokens, b => do
    let b ← b.startTag? entities depth inEntity tag attributes ending
    assembleTokens? entities enter depth inEntity true tokens b
  | started, .endTag tag :: tokens, b => do
    if !started then none
    else
      let b ← b.closeTag? tag
      assembleTokens? entities enter depth inEntity started tokens b
  | started, .text chars :: tokens, b => do
    let names ← entityNames? chars
    let b ← names.foldlM (fun b name => enter name b) b
    assembleTokens? entities enter depth inEntity started tokens b

/-- Takes in the tokens of a content, where entities may nest `depth` deep. -/
def assemble? (entities : Entities) : (depth : Nat) → (inEntity : Bool) → List Token → Builder →
    Option Builder
  | 0, inEntity, tokens, b =>
    assembleTokens? entities (fun _ _ => none) 0 inEntity false tokens b
  | depth + 1, inEntity, tokens, b =>
    let enter (name : List Char) (b : Builder) : Option Builder := do
      let left ← spend inEntity b.spare
      let value ← entities.lookup name
      let (tokens, _) ← content? 0 value
      assemble? entities depth true tokens { b with spare := left }
    assembleTokens? entities enter (depth + 1) inEntity false tokens b

end EntityScaffold.Xml
