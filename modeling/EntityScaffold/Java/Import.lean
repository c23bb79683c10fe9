import EntityScaffold.Java.TypeName
import EntityScaffold.Text.NameSet

/-!
# Imports

While a file is put together, names and types are asked for one by one, and some of them more than
once (`ImportRequest`). Those that live in a package are imported, each once (`importsAfter`).
-/

namespace EntityScaffold.Java

open Text (NameSet)

/-- One of the times that something is to be imported. -/
inductive ImportRequest where
  /-- A qualified name is given. -/
  | name (qualified : String)
  /-- A type is given, whether it lives in a package or not. -/
  | type (t : TypeName)
  deriving DecidableEq, Repr

namespace ImportRequest

/-- The qualified name that a request is about. -/
def qualified : ImportRequest → String
  | name qualified => qualified
  | type t => t.qualified

/-- The names to import after one more request. Names without a dot are not imported. -/
def addTo (names : NameSet) : ImportRequest → NameSet
  | name qualified => if '.' ∈ qualified.toList then names.insert qualified else names
  | type t =>
    match t.import? with
    | some qualified => names.insert qualified
    | none => names

theorem mem_addTo {names : NameSet} {request : ImportRequest} {name : String} :
    name ∈ (request.addTo names).names ↔
      name ∈ names.names ∨ '.' ∈ name.toList ∧ request.qualified = name := by
  have hinsert (qualified : String) :
      name ∈ (if '.' ∈ qualified.toList then names.insert qualified else names).names ↔
        name ∈ names.names ∨ '.' ∈ name.toList ∧ qualified = name := by
    split
    · next hdot =>
      rw [NameSet.mem_insert, or_comm]
      refine or_congr_right ⟨?_, fun h => h.2.symm⟩
      rintro rfl
      exact ⟨hdot, rfl⟩
    · next hdot =>
      refine ⟨.inl, ?_⟩
      rintro (hmem | ⟨hname, rfl⟩)
      · exact hmem
      · exact absurd hname hdot
  cases request with
  | name qualified => exact hinsert qualified
  | type t =>
    have htype : addTo names (.type t) =
        if '.' ∈ t.qualified.toList then names.insert t.qualified else names := by
      by_cases hdot : '.' ∈ t.qualified.toList <;> simp [addTo, TypeName.import?, hdot]
    rw [htype]
    exact hinsert t.qualified

end ImportRequest

/-- The names to import after several requests in order. -/
def importsAfter (requests : List ImportRequest) : NameSet :=
  requests.foldl ImportRequest.addTo .empty

theorem mem_importsAfter {requests : List ImportRequest} {name : String} :
    name ∈ (importsAfter requests).names ↔
      '.' ∈ name.toList ∧ ∃ request ∈ requests, request.qualified = name := by
  have hfold (names : NameSet) : name ∈ (requests.foldl ImportRequest.addTo names).names ↔
      name ∈ names.names ∨ '.' ∈ name.toList ∧ ∃ request ∈ requests, request.qualified = name := by
    induction requests generalizing names with
    | nil => simp
    | cons request requests ih =>
      rw [List.foldl_cons, ih, ImportRequest.mem_addTo, or_assoc, ← and_or_left]
      simp only [List.mem_cons, exists_eq_or_imp]
  rw [importsAfter, hfold]
  simp [NameSet.empty]

end EntityScaffold.Java
