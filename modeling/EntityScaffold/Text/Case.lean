import EntityScaffold.Text.CaseTable

/-!
# Upper and lower case

`upper` and `lower` give the full case mapping of one character, which may be several characters
(`ß` becomes `SS`). `capitalize` and `decapitalize` apply it to the first character of a name
only; that is how attribute names become accessor names and back.
-/

namespace EntityScaffold.Text

/-- The mapping described by a table: the expansion if there is one, else the run that covers the
character, else the character itself. -/
def mapCase (expansions : List (Nat × List Nat)) (runs : List CaseRun) (c : Char) : List Char :=
  match expansions.lookup c.toNat with
  | some codes => codes.map Char.ofNat
  | none =>
    match runs.find? (·.covers c.toNat) with
    | some r => [Char.ofNat (r.apply c.toNat)]
    | none => [c]

/-- The full upper-case mapping of a character. -/
def upper (c : Char) : List Char :=
  mapCase upperExpansions upperRuns c

/-- The full lower-case mapping of a character. -/
def lower (c : Char) : List Char :=
  mapCase lowerExpansions lowerRuns c

/-- The text with its first character in upper case. -/
def capitalize (s : String) : String :=
  match s.toList with
  | [] => ""
  | c :: cs => String.ofList (upper c ++ cs)

/-- The text with its first character in lower case. -/
def decapitalize (s : String) : String :=
  match s.toList with
  | [] => ""
  | c :: cs => String.ofList (lower c ++ cs)

/-- The text with every character in upper case. -/
def upperAll (s : String) : String :=
  String.ofList (s.toList.flatMap upper)

@[simp]
theorem capitalize_empty : capitalize "" = "" := rfl

@[simp]
theorem decapitalize_empty : decapitalize "" = "" := rfl

theorem toList_capitalize (s : String) :
    (capitalize s).toList = (s.toList.head?.map upper).getD [] ++ s.toList.tail := by
  unfold capitalize
  cases h : s.toList <;> simp

theorem toList_decapitalize (s : String) :
    (decapitalize s).toList = (s.toList.head?.map lower).getD [] ++ s.toList.tail := by
  unfold decapitalize
  cases h : s.toList <;> simp

end EntityScaffold.Text
