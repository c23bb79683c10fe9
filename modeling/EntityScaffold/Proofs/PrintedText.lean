import EntityScaffold.Scaffold.Files

/-!
# Code in the text of a file

A generated file is code before it is text. What stands in a class stands in the text of its file
(`occurs_member`, `occurs_head`), so a statement about the text follows from one about the code. The
written form of a type mentions its simple name, which for a generated class is the class name
(`simple_type_concrete`).
-/

namespace EntityScaffold

namespace Text

/-- The text `part` stands somewhere in `whole`. -/
def Occurs (part whole : String) : Prop :=
  part.toList <:+: whole.toList

theorem Occurs.refl (s : String) : Occurs s s :=
  List.infix_rfl

theorem Occurs.trans {a b c : String} (hab : Occurs a b) (hbc : Occurs b c) : Occurs a c :=
  List.IsInfix.trans hab hbc

@[grind ←]
theorem Occurs.append_left {part whole : String} (h : Occurs part whole) (before : String) :
    Occurs part (before ++ whole) := by
  unfold Occurs
  rw [String.toList_append]
  exact List.infix_append_of_infix_right h

@[grind ←]
theorem Occurs.append_right {part whole : String} (h : Occurs part whole) (after : String) :
    Occurs part (whole ++ after) := by
  unfold Occurs
  rw [String.toList_append]
  exact List.infix_append_of_infix_left h

theorem occurs_join {part : String} {parts : List String} (h : part ∈ parts) :
    Occurs part (String.join parts) := by
  induction parts with
  | nil => exact absurd h List.not_mem_nil
  | cons first rest ih =>
    rw [String.join_cons]
    rcases List.mem_cons.mp h with rfl | h
    · exact (Occurs.refl part).append_right _
    · exact (ih h).append_left first

theorem occurs_intercalate {part : String} (glue : String) {parts : List String}
    (h : part ∈ parts) : Occurs part (String.intercalate glue parts) := by
  induction parts with
  | nil => exact absurd h List.not_mem_nil
  | cons first rest ih =>
    cases rest with
    | nil =>
      rw [List.mem_singleton.mp h, String.intercalate_singleton]
      exact .refl first
    | cons second rest =>
      rw [String.intercalate_cons_cons]
      rcases List.mem_cons.mp h with rfl | h
      · exact ((Occurs.refl part).append_right glue).append_right _
      · exact (ih h).append_left _

end Text

namespace Java

open Text

/-- A name without a dot is the simple name of the type that it names in a package. -/
theorem simple_qualify {package name : String} (h : '.' ∉ name.toList) :
    (⟨qualify package name⟩ : TypeName).simple = name := by
  unfold TypeName.simple qualify
  by_cases hp : package.isEmpty
  · simp only [hp, if_true]
    rw [cutLast_eq_none_iff.mpr h]
  · simp only [hp, Bool.false_eq_true, if_false]
    have hcut : cutLast '.' (package ++ "." ++ name).toList =
        some (package.toList, name.toList) := by
      rw [cutLast_eq_some_iff]
      exact ⟨by simp, h⟩
    rw [hcut]
    simp

/-- What a class has as a member stands in its text. -/
theorem occurs_member {c : ClassDeclaration} {m : Member} (h : m ∈ c.members) :
    Occurs m.render c.render := by
  obtain ⟨group, hgroup, hm⟩ := List.mem_flatten.mp h
  have hkept : group ∈ c.groups.filter fun group => !group.isEmpty := by
    refine List.mem_filter.mpr ⟨hgroup, ?_⟩
    cases group with
    | nil => exact absurd hm List.not_mem_nil
    | cons first rest => rfl
  have hgroupText : Occurs m.render (String.join (group.map (·.render))) :=
    occurs_join (List.mem_map_of_mem hm)
  have hgroups : Occurs m.render (String.intercalate "\n"
      ((c.groups.filter fun group => !group.isEmpty).map fun group =>
        String.join (group.map (·.render)))) :=
    hgroupText.trans (occurs_intercalate "\n" (List.mem_map.mpr ⟨group, hkept, rfl⟩))
  unfold ClassDeclaration.render
  exact ((hgroups.append_left _).append_right _).append_right _

theorem occurs_head (c : ClassDeclaration) : Occurs c.renderHead c.render := by
  unfold ClassDeclaration.render
  exact ((((Occurs.refl c.renderHead).append_right _).append_right _).append_right _).append_right _

theorem occurs_declaration (f : SourceFile) : Occurs f.declaration.render f.render :=
  (Occurs.refl _).append_left _

end Java

namespace Scaffold

open Java Text

/-- The class of a generated file stands in the artifact. -/
theorem occurs_artifact (s : Scaffold) (header? : Option String) (kind : ArtifactKind) :
    Occurs (s.sourceFile kind).declaration.render (s.artifact header? kind).contents :=
  (occurs_declaration _).append_left _

theorem dot_not_mem_className (s : Scaffold) : '.' ∉ s.className.toList :=
  s.entity.type.dot_not_mem_simple

theorem simple_type_concrete (s : Scaffold) : (s.type .concrete).simple = s.className :=
  simple_qualify s.dot_not_mem_className

end Scaffold

end EntityScaffold
