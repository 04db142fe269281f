import TypedSheets.Proofs.DeclarationLines
import TypedSheets.Proofs.Validity

/-!
# Reading a declaration back

A declaration from a built-in template begins with a few fixed lines and the marker lines of its
descriptor (`Generator.builtIn_renderEntity`). Reading the marker lines gives the descriptor back,
and the schema, if it was compiled from a workbook.

Main statement: `Generator.extract?_renderEntity`.
-/

namespace TypedSheets

open Text

/-- The preamble consists of lines without a marker. -/
theorem Language.preamble_unmarked (l : Language) : ∀ line ∈ l.preamble.map String.toList,
    IsLine line ∧ ∀ m ∈ Marker.all, valueOnLine? m.toList line = none := by
  intro line hline
  refine ⟨⟨l.not_mem_preamble (by decide) line hline,
    l.not_mem_preamble (by decide) line hline⟩, ?_⟩
  intro m hm
  have hcolon : ':' ∉ line := l.not_mem_preamble (by decide) line hline
  rw [valueOnLine?, after?_eq_none (Marker.colon_mem m hm) hcolon]

/-- The lines before the fields begin with the preamble and, for the names and types of a schema,
the marker lines of its descriptor. -/
theorem Language.exists_headLines (l : Language) (entity : String) (names types : List String) :
    ∃ rest, (l.headLines entity (quoteStrings names) (quoteStrings types)).map String.toList =
      l.preamble.map String.toList ++ (Descriptor.mk entity names types).markerLines ++ rest := by
  have hquote : ∀ items, (quoteStrings items).toList = quoteList (items.map String.toList) :=
    fun items => String.toList_ofList
  unfold Language.headLines
  rw [List.map_append, List.map_append]
  refine ⟨_, congrArg₂ (· ++ ·) (congrArg₂ (· ++ ·) rfl ?_) rfl⟩
  simp only [List.map_cons, List.map_nil, String.toList_append, hquote]
  rfl

namespace Generator

/-- The text of a declaration from a built-in template begins with the preamble of the language and
the marker lines of the descriptor. -/
theorem builtIn_renderEntity {l : Language} {s : TableSchema} {entity text : String}
    (h : (builtIn l).renderEntity s entity = .ok text) :
    ∃ rest, text.toList = textLines (l.preamble.map String.toList ++
      (Descriptor.mk entity s.names s.types).markerLines) ++ rest := by
  obtain ⟨rest, hhead⟩ := l.exists_headLines entity s.names s.types
  rw [renderEntity_eq_lines h, Language.declarationLines, textOfLines_append, textOfLines_append,
    String.toList_append, String.toList_append, toList_textOfLines, hhead, textLines_append,
    List.append_assoc, List.append_assoc]
  exact ⟨_, rfl⟩

theorem extract?_of_renderEntity {l : Language} {s : TableSchema} {entity text : String}
    (h : (builtIn l).renderEntity s entity = .ok text) :
    Descriptor.extract? text = some ⟨entity, s.names, s.types⟩ := by
  obtain ⟨hentity, hcols, -⟩ := renderEntity_eq_ok_iff.mp h
  obtain ⟨rest, htext⟩ := builtIn_renderEntity h
  exact Descriptor.extract?_of_lines (isPlain_of_isDeclarable hentity hcols)
    l.preamble_unmarked htext

/-- What a built-in template renders gives the descriptor of its schema back, also if there are no
columns. The descriptor of a schema compiled from a workbook gives the schema back. -/
theorem extract?_renderEntity (l : Language) (s : TableSchema) (entity text : String)
    (h : (builtIn l).renderEntity s entity = .ok text) :
    Descriptor.extract? text = some ⟨entity, s.names, s.types⟩ ∧
      ∀ (source : String) (w : Workbook), (Compilation.run source entity w).schema = some s →
        (Descriptor.mk entity s.names s.types).toSchema = .ok s := by
  refine ⟨extract?_of_renderEntity h, fun source w hs => ?_⟩
  obtain ⟨-, hcols, -⟩ := renderEntity_eq_ok_iff.mp h
  obtain ⟨rfl, -⟩ := (Compilation.schema_eq_some_iff source entity w).mp hs
  have hnames : ∀ c ∈ s.columns, c.name ≠ "" :=
    fun c hc => ne_empty_of_isIdentifier (hcols c hc).name
  exact Compilation.toSchema_ofSchema hs (Compilation.validate_of_schema hs hnames)

theorem extract?_threeSheets :
    ∃ text, (builtIn .rust).renderEntity
        ⟨"Entity_Test", [⟨"id", .int⟩, ⟨"kind", .enum ["red", "green"]⟩]⟩
          "Entity_Test" = .ok text ∧
      Descriptor.extract? text =
        some ⟨"Entity_Test", ["id", "kind"], ["int", "enum|red,green"]⟩ ∧
      (Descriptor.mk "Entity_Test" ["id", "kind"] ["int", "enum|red,green"]).toSchema =
        .ok ⟨"Entity_Test", [⟨"id", .int⟩, ⟨"kind", .enum ["red", "green"]⟩]⟩ := by
  have hschema : (Compilation.run "Test.json" "Entity_Test" Compilation.threeSheets).schema =
      some ⟨"Entity_Test", [⟨"id", .int⟩, ⟨"kind", .enum ["red", "green"]⟩]⟩ := rfl
  have hrender : (builtIn .rust).renderEntity
      ⟨"Entity_Test", [⟨"id", .int⟩, ⟨"kind", .enum ["red", "green"]⟩]⟩ "Entity_Test" =
        .ok _ := rfl
  have h := extract?_renderEntity _ _ _ _ hrender
  exact ⟨_, hrender, h.1, h.2 _ _ hschema⟩

end Generator

end TypedSheets
