import EntityScaffold.Host
import EntityScaffold.Mapping.Resource
import EntityScaffold.Schema.Doctype
import EntityScaffold.Schema.Dtd
import EntityScaffold.Xml.Element

/-!
# Reading the documents of a schema

The documents of a schema lie below a root directory. Reading one (`Reader.read`) gives its text
and the source of its document type definition. An overriding definition is read as well, although
only its length is logged, so that one that cannot be read is found out. Whether the text is a
well-formed document shows only when its content is asked for (`Document.root`), which is up to the
parser that is used.
-/

namespace EntityScaffold.Schema

open Mapping (Configuration Resource)

/-- A document that was read. -/
structure Document where
  /-- The name under which the document was asked for. -/
  name : String
  path : Path
  text : String
  dtd? : Option DtdSource

namespace Document

/-- A document that is given by its text. -/
def ofText (name text : String) : Document :=
  ⟨name, ⟨name⟩, text, none⟩

variable (parse : Xml.Parser)

/-- The root element. -/
def root (d : Document) : Except Failure Xml.Element :=
  match parse d.text with
  | some element => .ok element
  | none => .error (.malformed d.path)

/-- The document as a configuration document. -/
def configuration (d : Document) : Except Failure Configuration := do
  Configuration.read d.name (← d.root parse)

/-- The document as a mapping document, with the lines that say what was left out. -/
def resource (d : Document) : List Log.Line × Except Failure Resource :=
  match d.root parse with
  | .error failure => ([], .error failure)
  | .ok root =>
    let reading := Resource.read d.name root
    (reading.notices.map (·.toLine d.name), reading.outcome.mapError (·.toFailure d.name))

end Document

/-- Which definitions a reader looks for. -/
inductive DtdLookup where
  /-- None at all. -/
  | off
  /-- The bundled ones only. -/
  | bundled
  /-- Overriding ones below a directory, else the bundled ones. -/
  | overriding (directory : Path)
  deriving DecidableEq, Repr

/-- A reader of documents below a root directory. -/
structure Reader where
  root : Path
  lookup : DtdLookup

namespace Reader

/-- The reader of a schema: overriding definitions lie below the root, too. -/
def ofRoot (root : Path) : Reader :=
  ⟨root, .overriding root⟩

/-- The path of a document. -/
def locate (r : Reader) (name : String) : Path :=
  r.root.join ⟨name⟩

variable {m : Type → Type} [Monad m] [Host m]

/-- The source of the definition with a public identifier. -/
def source? (lookup : DtdLookup) (publicId : String) : m (Option DtdSource) :=
  match lookup, KnownDtd.ofPublicId? publicId with
  | .off, _ | _, none => return none
  | .bundled, some dtd => return some (.bundled dtd)
  | .overriding directory, some dtd => do
    let location := directory.join dtd.overridePath
    return some (if ← Host.holds location then .file location else .bundled dtd)

/-- The length of a definition in bytes. An overriding one has to be readable. -/
def dtdLength (publicId : String) : DtdSource → Attempt m Nat
  | .bundled dtd => return dtd.text.utf8ByteSize
  | .file location => ExceptT.mk do
    match ← Attempt.readText location with
    | .ok text => return .ok text.utf8ByteSize
    | .error cause => return .error (.unreadableDtd publicId location cause)

/-- Looks up the definition of a document's type and logs the outcome. -/
def resolveDtd (r : Reader) (name : String) (ids : DoctypeIds) : Attempt m (Option DtdSource) := do
  let about := [("resource", name), ("public_id", ids.publicId)]
  match ← ExceptT.lift (source? r.lookup ids.publicId) with
  | none =>
    Attempt.log ⟨.debug, "DOCTYPE left unresolved", about⟩
    return none
  | some source =>
    let bytes ← dtdLength ids.publicId source
    Attempt.log ⟨.debug, "DOCTYPE resolved",
      about ++ [("dtd", source.description), ("bytes", toString bytes)]⟩
    return some source

/-- Reads a document. -/
def read (r : Reader) (name : String) : Attempt m Document := do
  let path := r.locate name
  let text ← Attempt.file path (Attempt.readText path)
  match identifiers? text.toList with
  | none => return ⟨name, path, text, none⟩
  | some ids => return ⟨name, path, text, ← r.resolveDtd name ids⟩

variable (parse : Xml.Parser)

/-- Reads the configuration document. -/
def configuration (r : Reader) (name : String) : Attempt m Configuration := do
  let d ← r.read name
  ExceptT.mk (return d.configuration parse)

/-- Reads a mapping document and logs what was left out. -/
def resource (r : Reader) (name : String) : Attempt m Resource := do
  let d ← r.read name
  let (lines, outcome) := d.resource parse
  Attempt.logAll lines
  ExceptT.mk (return outcome)

end Reader

end EntityScaffold.Schema
