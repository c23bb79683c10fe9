import EntityScaffold.Path
import EntityScaffold.Schema.ConfigurationDtd
import EntityScaffold.Schema.MappingDtd

/-!
# Document type definitions

Two document types are known by their public identifiers. Each has a bundled definition and a place
below the root of a schema where a definition of the schema's own overrides it.
-/

namespace EntityScaffold.Schema

/-- A document type that is known by its public identifier. -/
inductive KnownDtd where
  | mapping
  | configuration
  deriving DecidableEq, Repr

namespace KnownDtd

/-- All known document types. -/
def all : List KnownDtd :=
  [mapping, configuration]

/-- The public identifier. -/
def publicId : KnownDtd → String
  | mapping => "-//Hibernate/Hibernate Mapping DTD 3.0//EN"
  | configuration => "-//Hibernate/Hibernate Configuration DTD 3.0//EN"

/-- The place of an overriding definition below the root of a schema. -/
def overridePath : KnownDtd → Path
  | mapping => ⟨"org/hibernate/hibernate-mapping-3.0.dtd"⟩
  | configuration => ⟨"org/hibernate/hibernate-configuration-3.0.dtd"⟩

/-- The bundled definition. -/
def text : KnownDtd → String
  | mapping => mappingDtd
  | configuration => configurationDtd

/-- The document type with a public identifier, if it is known. -/
def ofPublicId? (publicId : String) : Option KnownDtd :=
  all.find? (·.publicId == publicId)

theorem ofPublicId?_publicId (d : KnownDtd) : ofPublicId? d.publicId = some d := by
  cases d <;> rfl

end KnownDtd

/-- Where the definition of a document's type comes from. -/
inductive DtdSource where
  | file (location : Path)
  | bundled (dtd : KnownDtd)
  deriving DecidableEq, Repr

namespace DtdSource

/-- The source in the words of the log. -/
def description : DtdSource → String
  | file location => location.text
  | bundled _ => "bundled"

end DtdSource

end EntityScaffold.Schema
