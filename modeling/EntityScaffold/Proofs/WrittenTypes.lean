import EntityScaffold.Proofs.PrintedText

/-!
# Types in the text of a file

Code mentions types by their canonical names, and the text of the code has their simple names
(`ClassDeclaration.occurs_simple`). For each name that a file imports there is a line in its text
(`occurs_importLine`).
-/

namespace EntityScaffold.Java

open Text

variable {t : TypeName}

/-! ## Simple names -/

theorem TypeUse.occurs_simple {use : TypeUse} (h : t ∈ use.mentioned) :
    Occurs t.simple use.render := by
  cases use with
  | full name => exact absurd h List.not_mem_nil
  | named type arguments =>
    cases arguments with
    | nil =>
      rw [List.mem_singleton.mp h]
      exact .refl _
    | cons first rest =>
      unfold render
      rcases List.mem_cons.mp h with rfl | h
      · exact (((Occurs.refl t.simple).append_right _).append_right _).append_right _
      · exact ((occurs_intercalate "," (List.mem_map_of_mem h)).append_left _).append_right _

theorem occurs_asReceiver {part text : String} (receiver : Expr) (h : Occurs part text) :
    Occurs part (receiver.asReceiver text) := by
  unfold Expr.asReceiver
  split
  · exact (h.append_left _).append_right _
  · exact h

mutual

theorem Expr.occurs_simple : ∀ e : Expr, t ∈ e.mentioned → Occurs t.simple e.render
  | .name _, h | .text _, h => absurd h List.not_mem_nil
  | .call method arguments, h => by
    obtain ⟨part, hpart, hoccurs⟩ := occurs_simple_renderAll arguments h
    have harguments := hoccurs.trans (occurs_intercalate ", " hpart)
    grind [Expr.render]
  | .invoke receiver method arguments, h => by
    rcases List.mem_append.mp h with h | h
    · have hreceiver := occurs_asReceiver receiver (receiver.occurs_simple h)
      have hname : Occurs t.simple (receiver.asReceiver receiver.render ++ "." ++ method) := by
        grind
      grind [Expr.render]
    · obtain ⟨part, hpart, hoccurs⟩ := occurs_simple_renderAll arguments h
      have harguments := hoccurs.trans (occurs_intercalate ", " hpart)
      grind [Expr.render]
  | .new type, h => by
    have htype := TypeUse.occurs_simple h
    grind [Expr.render]
  | .classOf type, h => by
    have htype := TypeUse.occurs_simple h
    grind [Expr.render]
  | .cast type value, h => by
    have hparts := (List.mem_append.mp h).imp TypeUse.occurs_simple value.occurs_simple
    grind [Expr.render]
  | .isNull value, h => by
    have hvalue := value.occurs_simple h
    grind [Expr.render]
  | .not value, h => by
    have hvalue := value.occurs_simple h
    grind [Expr.render]
  | .isInstance value type, h => by
    have hparts := (List.mem_append.mp h).imp value.occurs_simple TypeUse.occurs_simple
    grind [Expr.render]
  | .joined operator operands, h => by
    obtain ⟨part, hpart, hoccurs⟩ := occurs_simple_renderAll operands h
    rw [Expr.render]
    exact hoccurs.trans (occurs_intercalate operator.glue hpart)

/-- A type that one of several expressions mentions is written in one of them. -/
theorem occurs_simple_renderAll :
    ∀ es : List Expr, t ∈ mentionedInAll es → ∃ part ∈ renderAll es, Occurs t.simple part
  | [], h => absurd h List.not_mem_nil
  | e :: es, h => by
    rw [renderAll]
    rcases List.mem_append.mp h with h | h
    · exact ⟨e.render, List.mem_cons_self, e.occurs_simple h⟩
    · obtain ⟨part, hpart, hoccurs⟩ := occurs_simple_renderAll es h
      exact ⟨part, List.mem_cons_of_mem _ hpart, hoccurs⟩

end

theorem Statement.occurs_simple {s : Statement} (h : t ∈ s.mentioned) :
    Occurs t.simple s.render := by
  induction s with
  | run value =>
    have hvalue := value.occurs_simple h
    grind [Statement.render]
  | assign name value =>
    have hvalue := value.occurs_simple h
    grind [Statement.render]
  | declare type name value =>
    rcases List.mem_append.mp h with h | h
    · have htype : Occurs t.simple (type.render ++ " " ++ name) :=
        ((TypeUse.occurs_simple h).append_right _).append_right _
      grind [Statement.render]
    · have hvalue := value.occurs_simple h
      grind [Statement.render]
  | giveBack value =>
    have hvalue := value.occurs_simple h
    grind [Statement.render]
  | onlyIf condition body ih =>
    have hparts := (List.mem_append.mp h).imp condition.occurs_simple ih
    grind [Statement.render]

theorem occurs_renderWords {word : String} {words : List String} (h : word ∈ words) :
    Occurs word (renderWords words) :=
  ((Occurs.refl word).append_right " ").trans (occurs_join (List.mem_map_of_mem h))

theorem occurs_renderBody {part : String} {m : Method} {s : Statement} (hs : s ∈ m.body)
    (h : Occurs part s.render) : Occurs part m.renderBody := by
  unfold Method.renderBody
  split
  · have hline : "\t\t" ++ s.render ++ "\n" ∈ m.body.map fun s => "\t\t" ++ s.render ++ "\n" :=
      List.mem_map_of_mem hs
    have hlines := ((h.append_left "\t\t").append_right "\n").trans (occurs_join hline)
    grind
  split
  · next hempty =>
    rw [List.isEmpty_iff.mp hempty] at hs
    exact absurd hs List.not_mem_nil
  · have hwords := h.trans (occurs_renderWords (List.mem_map_of_mem hs))
    grind

theorem Annotation.occurs_simple (a : Annotation) : Occurs a.type.simple a.render := by
  unfold render
  exact ((((Occurs.refl _).append_left "@").append_right "(").append_right _).append_right ")"

theorem Method.occurs_simple {m : Method} (h : t ∈ m.mentioned) : Occurs t.simple m.render := by
  unfold mentioned at h
  rw [List.mem_append, List.mem_append, List.mem_append] at h
  unfold render
  rcases h with ((h | h) | h) | h
  · obtain ⟨a, ha, rfl⟩ := List.mem_map.mp h
    have hmem : "\t" ++ a.render ++ "\n" ∈
        m.annotation?.toList.map fun a => "\t" ++ a.render ++ "\n" := List.mem_map_of_mem ha
    have hline := ((a.occurs_simple.append_left "\t").append_right "\n").trans (occurs_join hmem)
    grind
  · obtain ⟨result, hresult, h⟩ := List.mem_flatMap.mp h
    have hwords := (TypeUse.occurs_simple h).trans (occurs_renderWords
      (List.mem_append_right m.modifiers (List.mem_map_of_mem hresult)))
    have hname : Occurs t.simple (renderWords (m.modifiers ++ m.result?.toList.map (·.render)) ++
        m.name ++ "(") := by grind
    grind
  · obtain ⟨parameter, hparameter, h⟩ := List.mem_flatMap.mp h
    have hmem : parameter.type.render ++ " " ++ parameter.name ∈
        m.parameters.map fun p => p.type.render ++ " " ++ p.name :=
      List.mem_map_of_mem hparameter
    have hparameters := (((TypeUse.occurs_simple h).append_right " ").append_right
      parameter.name).trans (occurs_intercalate ", " hmem)
    grind
  · obtain ⟨s, hs, h⟩ := List.mem_flatMap.mp h
    have hbody := occurs_renderBody hs (Statement.occurs_simple h)
    grind

theorem Field.occurs_simple {f : Field} (h : t ∈ f.mentioned) : Occurs t.simple f.render := by
  unfold render
  rcases List.mem_append.mp h with h | h
  · have htype := TypeUse.occurs_simple h
    grind
  · obtain ⟨value, hvalue, h⟩ := List.mem_flatMap.mp h
    have hmem : " = " ++ value.render ∈ f.value?.toList.map fun e => " = " ++ e.render :=
      List.mem_map_of_mem hvalue
    have hvalues := ((value.occurs_simple h).append_left " = ").trans (occurs_join hmem)
    grind

theorem Member.occurs_simple {m : Member} (h : t ∈ m.mentioned) : Occurs t.simple m.render := by
  cases m with
  | field f => exact Field.occurs_simple h
  | method m => exact Method.occurs_simple h

theorem ClassDeclaration.occurs_simple_head {c : ClassDeclaration}
    (h : t ∈ c.superclass?.toList.flatMap (·.mentioned) ++ c.interfaces.flatMap (·.mentioned)) :
    Occurs t.simple c.renderHead := by
  unfold renderHead
  rcases List.mem_append.mp h with h | h
  · obtain ⟨superclass, hsuperclass, h⟩ := List.mem_flatMap.mp h
    have hmem : " extends " ++ superclass.render ∈
        c.superclass?.toList.map fun t => " extends " ++ t.render :=
      List.mem_map_of_mem hsuperclass
    have hextends := ((TypeUse.occurs_simple h).append_left " extends ").trans (occurs_join hmem)
    grind
  · obtain ⟨interface, hinterface, h⟩ := List.mem_flatMap.mp h
    have hmem : " implements " ++ interface.render ∈
        c.interfaces.map fun t => " implements " ++ t.render :=
      List.mem_map_of_mem hinterface
    have himplements := ((TypeUse.occurs_simple h).append_left " implements ").trans
      (occurs_join hmem)
    grind

/-- A class has all types that it mentions in its text, by their simple names. -/
theorem ClassDeclaration.occurs_simple {c : ClassDeclaration} (h : t ∈ c.mentioned) :
    Occurs t.simple c.render := by
  rcases List.mem_append.mp h with h | h
  · exact (occurs_simple_head h).trans (occurs_head c)
  · obtain ⟨m, hm, h⟩ := List.mem_flatMap.mp h
    exact (Member.occurs_simple h).trans (occurs_member hm)

/-! ## Imports -/

/-- The line that imports a qualified name. -/
def importLine (name : String) : String :=
  "import " ++ name ++ ";\n"

theorem TypeName.import?_eq_some_iff {name : String} :
    t.import? = some name ↔ t.package?.isSome ∧ t.qualified = name := by
  rw [t.package?_isSome_iff, import?]
  simp

theorem occurs_renderImports {name : String} {names : List String} (h : name ∈ names)
    (last? : Option String) : Occurs (importLine name) (renderImports last? names) := by
  induction names generalizing last? with
  | nil => exact absurd h List.not_mem_nil
  | cons first rest ih =>
    rcases List.mem_cons.mp h with rfl | h
    · have hlines : renderImports last? (name :: rest) =
          (if last?.any (· != topPackage name) then "\n" else "") ++ importLine name ++
            renderImports (some (topPackage name)) rest := by
        rw [renderImports, importLine, ← String.toList_inj]
        simp
      rw [hlines]
      exact ((Occurs.refl _).append_left _).append_right _
    · rw [renderImports]
      exact (ih h _).append_left _

theorem occurs_importLine {f : SourceFile} {name : String} (h : name ∈ f.imports.names) :
    Occurs (importLine name) f.render := by
  have hline := occurs_renderImports h none
  unfold SourceFile.render
  grind

end EntityScaffold.Java
