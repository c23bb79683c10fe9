import EntityScaffold.Failure
import EntityScaffold.Log
import EntityScaffold.Xml.Element

/-!
# Reading parts of a mapping document

A part of a mapping document is read with two kinds of trouble. A mandatory attribute that is
missing (`Omission`) ends the reading. A member that cannot be generated is left out, and a
`Notice` says so. A `Reading` holds the notices given so far and how it ended, so that nothing is
left out without a notice and the notices before an omission are kept.
-/

namespace EntityScaffold.Mapping

open Xml (Element)

/-- A mandatory attribute that an element lacks. -/
structure Omission where
  element : String
  name : String
  deriving DecidableEq, Repr

namespace Omission

/-- The failure to read `document` because of the omission. -/
def toFailure (document : String) (o : Omission) : Failure :=
  .missingAttribute document o.element o.name

end Omission

/-- Something that was left out of the result; members go by their accessor names. -/
inductive Notice where
  /-- A composite key next to a simple one. -/
  | compositeKeyIgnored
  /-- A composite key without components. -/
  | emptyCompositeKey
  | propertyWithoutType (name : String)
  /-- A property with neither column nor formula. -/
  | propertyWithoutSource (name : String)
  /-- An association with neither column nor formula. -/
  | associationWithoutSource (name : String)
  /-- A set whose elements are of no known kind. -/
  | unknownCollection (name : String)
  deriving DecidableEq, Repr

namespace Notice

/-- The notice as a line of the log. -/
def toLine (document : String) (notice : Notice) : Log.Line :=
  let line (message : String) (fields : List (String × String)) : Log.Line :=
    ⟨.warn, message, ("document", document) :: fields⟩
  match notice with
  | compositeKeyIgnored =>
    line "<id> and <composite-id> on the same class, composite key ignored" []
  | emptyCompositeKey =>
    line "<composite-id> without key components, entity has no identifier" []
  | propertyWithoutType name => line "property without type, skipped" [("property", name)]
  | propertyWithoutSource name =>
    line "property with neither column nor formula, skipped" [("property", name)]
  | associationWithoutSource name =>
    line "many-to-one with neither column nor formula, skipped" [("association", name)]
  | unknownCollection name => line "unknown type of set, skipped" [("collection", name)]

end Notice

/-- What reading a part gives: notices, and the part or the omission that ended it. -/
structure Reading (α : Type) where
  notices : List Notice
  outcome : Except Omission α

namespace Reading

variable {α β : Type}

/-- A reading that follows another one, after its notices. -/
def andThen (r : Reading α) (next : α → Reading β) : Reading β :=
  match r.outcome with
  | .ok value => ⟨r.notices ++ (next value).notices, (next value).outcome⟩
  | .error omission => ⟨r.notices, .error omission⟩

instance : Monad Reading where
  pure value := ⟨[], .ok value⟩
  bind := andThen

/-- A reading that only gives a notice. -/
def notice (n : Notice) : Reading Unit :=
  ⟨[n], .ok ()⟩

/-- A mandatory attribute of an element. -/
def required (e : Element) (name : String) : Reading String :=
  match e.attr? name with
  | some value => pure value
  | none => ⟨[], .error ⟨e.name, name⟩⟩

/-- Reads element after element and collects what is not left out. -/
def collect (read : Element → Reading (Option α)) : List Element → Reading (List α)
  | [] => pure []
  | e :: es => do
    let first ← read e
    let rest ← collect read es
    return first.toList ++ rest

theorem andThen_assoc {γ : Type} (r : Reading α) (f : α → Reading β) (g : β → Reading γ) :
    (r.andThen f).andThen g = r.andThen fun value => (f value).andThen g := by
  unfold andThen
  cases r.outcome with
  | error omission => rfl
  | ok value =>
    cases h : (f value).outcome <;> simp [h]

instance : LawfulMonad Reading :=
  LawfulMonad.mk' Reading
    (fun r => by
      simp only [Functor.map, andThen]
      cases h : r.outcome <;> simp [← h])
    (fun value f => by simp [bind, andThen, pure])
    (fun r f g => andThen_assoc r f g)

end Reading

end EntityScaffold.Mapping
