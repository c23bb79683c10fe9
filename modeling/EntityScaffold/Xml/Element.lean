/-!
# Elements

The part of a document that its readers look at: elements with their attributes and the elements
inside them, in order. Names are local names; an attribute keeps the namespace of its prefix,
because only attributes without one are looked up.
-/

namespace EntityScaffold.Xml

/-- An attribute: the namespace of its prefix if it has one, its local name and its value. -/
structure Attribute where
  space? : Option String
  name : String
  value : String
  deriving DecidableEq, Repr

/-- An element: its local name, its attributes and its child elements. -/
inductive Element where
  | mk (name : String) (attributes : List Attribute) (children : List Element)

namespace Element

/-- The local name. -/
def name : Element → String
  | mk name _ _ => name

/-- The attributes in the order of writing. -/
def attributes : Element → List Attribute
  | mk _ attributes _ => attributes

/-- The child elements in order. -/
def children : Element → List Element
  | mk _ _ children => children

/-- The value of the attribute of this name that has no namespace. -/
def attr? (e : Element) (name : String) : Option String :=
  (e.attributes.find? fun a => a.space?.isNone && a.name == name).map (·.value)

/-- The child elements of this local name, in any namespace. -/
def childrenNamed (e : Element) (name : String) : List Element :=
  e.children.filter (·.name == name)

/-- The first child element of this local name. -/
def child? (e : Element) (name : String) : Option Element :=
  e.children.find? (·.name == name)

end Element

/-- What finds the root element of a text, if the text is a well-formed document. -/
abbrev Parser := String → Option Element

end EntityScaffold.Xml
