import EntityScaffold.Emission
import EntityScaffold.Scaffold.Files

/-!
# Generation

A generator emits the four artifacts of entity after entity, in the order of the documents, every
entity before the ones derived from it. It keeps a tally of what it did and, for each class, the
names shown in debugging, from which derived classes inherit (`Progress`). A failure ends the
document at hand; what was done before it stays done, and the generator can go on with another
document.
-/

namespace EntityScaffold

open Mapping (Placed Resource)
open Text (NameSet)

/-- How much was generated. -/
structure Tally where
  entities : Nat := 0
  written : Nat := 0
  unchanged : Nat := 0
  preserved : Nat := 0
  deriving DecidableEq, Repr

namespace Tally

/-- The number of artifacts that were emitted. -/
def files (t : Tally) : Nat :=
  t.written + t.unchanged + t.preserved

/-- The tally with one more artifact. -/
def record (t : Tally) : Outcome → Tally
  | .written => { t with written := t.written + 1 }
  | .unchanged => { t with unchanged := t.unchanged + 1 }
  | .preserved => { t with preserved := t.preserved + 1 }

/-- The line that reports the tally of a whole run. -/
def summary (t : Tally) : Log.Line :=
  ⟨.info, "All done.",
    [("entities", toString t.entities), ("written", toString t.written),
      ("unchanged", toString t.unchanged), ("preserved", toString t.preserved)]⟩

theorem files_record (t : Tally) (outcome : Outcome) : (t.record outcome).files = t.files + 1 := by
  cases outcome <;> simp only [record, files] <;> omega

end Tally

/-- What a generator has done so far. -/
structure Progress where
  tally : Tally := {}
  /-- The names shown for each class that is complete, the latest first. -/
  shown : List (String × NameSet) := []

namespace Progress

/-- The names shown for a class, if it is complete. -/
def shown? (progress : Progress) (className : String) : Option NameSet :=
  progress.shown.lookup className

/-- The names to show for an entity: its own, and those of the class it is derived from. -/
def shownFor (progress : Progress) (p : Placed) : NameSet :=
  ((p.parent?.bind fun parent => progress.shown? parent.className).getD .empty).insertAll
    p.entity.shownNames

/-- The progress after one more artifact. -/
def record (progress : Progress) (outcome : Outcome) : Progress :=
  { progress with tally := progress.tally.record outcome }

/-- The progress after the last artifact of a class. -/
def finish (progress : Progress) (className : String) (shown : NameSet) : Progress where
  tally := { progress.tally with entities := progress.tally.entities + 1 }
  shown := (className, shown) :: progress.shown

end Progress

/-- What a generator works with. -/
structure Generator where
  hierarchy : Hierarchy
  /-- The directory below which artifacts are emitted. -/
  output : Path
  /-- A text to put in front of every artifact. -/
  header? : Option String

/-- Computations on a host that may fail and that make progress, even when they fail. -/
abbrev Generation (m : Type → Type) := ExceptT Failure (StateT Progress m)

namespace Generator

variable {m : Type → Type} [Monad m] [Host m]

/-- An attempt as a part of a generation; it makes no progress by itself. -/
def attempt {α : Type} (x : Attempt m α) : Generation m α :=
  ExceptT.mk (StateT.lift x.run)

/-- Emits an artifact and records the outcome. -/
def emit (g : Generator) (a : Artifact) : Generation m Unit := do
  let outcome ← attempt (a.emit g.output)
  modify (·.record outcome)

/-- The lines that announce an entity. -/
def announcement (p : Placed) : List Log.Line :=
  (p.parent?.toList.map fun parent =>
    ⟨.debug, "subclass",
      [("parent", parent.className), ("child", p.entity.className),
        ("kind", p.entity.kind.label)]⟩) ++
    [.info ("  " ++ p.entity.className ++ " ...")]

/-- Generates the classes of an entity. -/
def entity (g : Generator) (p : Placed) : Generation m Unit := do
  attempt (Attempt.logAll (announcement p))
  let shown := (← get).shownFor p
  ((Scaffold.ofPlaced g.hierarchy shown p).artifacts g.header?).forM g.emit
  modify (·.finish p.entity.className shown)

/-- Generates the classes of all entities of a document. -/
def resource (g : Generator) (r : Resource) : Generation m Unit :=
  r.placed.forM g.entity

end Generator

end EntityScaffold
