import TypedSheets.Declaration.Compile
import TypedSheets.Proofs.Declaration
import TypedSheets.Record.Load

/-!
# Registering a compiled schema

A compilation that renders a declaration registers the descriptor of its schema, and no other
changes the registry (`Generator.Compiles`). What is rendered has identifiers for names, whatever
the template, so no name is empty and the descriptor gives the schema back. Loading under the
registered descriptor is then loading under the schema itself (`Registry.load_of_get?`).

Main statement: `Generator.registers_of_compile`.
-/

namespace TypedSheets

/-- Rows are loaded under the schema that the registered descriptor gives. -/
theorem Registry.load_of_get? {r : Registry} {entity : String} {d : Descriptor} {s : TableSchema}
    (hget : r.get? entity = some d) (hschema : d.toSchema = .ok s) (source : String) (v : Workbook)
    (policy : Policy) :
    r.load entity source v policy = (Loader.mk s source policy).loadWorkbook v := by
  simp only [Registry.load, hget, hschema]

namespace Generator

/-- All that compiling a declaration can do to a registry, and what it returns. -/
inductive Compiles (g : Generator) (r : Registry) (source entity : String) (w : Workbook) :
    Registry → Except InvalidIdentifier (Compilation × Option String) → Prop
  | rejected (rejected : (Compilation.run source entity w).success = false) :
      Compiles g r source entity w r (.ok (Compilation.run source entity w, none))
  | empty (schema : (Compilation.run source entity w).schema = none) :
      Compiles g r source entity w r (.ok (Compilation.run source entity w, none))
  | undeclarable {s : TableSchema} {e : InvalidIdentifier}
      (compiled : (Compilation.run source entity w).schema = some s)
      (render : g.renderEntity s entity = .error e) : Compiles g r source entity w r (.error e)
  | declared {s : TableSchema} {text : String}
      (compiled : (Compilation.run source entity w).schema = some s)
      (render : g.renderEntity s entity = .ok text) :
      Compiles g r source entity w (r.put (.ofSchema s))
        (.ok (Compilation.run source entity w, some text))

theorem compile_compiles (g : Generator) (r : Registry) (source entity : String) (w : Workbook) :
    Compiles g r source entity w (g.compile r source entity w).registry
      (g.compile r source entity w).result := by
  cases success : (Compilation.run source entity w).success with
  | false =>
    simp only [compile, success, Bool.not_false, if_true]
    exact .rejected success
  | true =>
    cases compiled : (Compilation.run source entity w).schema with
    | none =>
      simp only [compile, success, compiled, Bool.not_true, Bool.false_eq_true, if_false]
      exact .empty compiled
    | some s =>
      cases render : g.renderEntity s entity with
      | error e =>
        simp only [compile, success, compiled, render, Bool.not_true, Bool.false_eq_true, if_false]
        exact .undeclarable compiled render
      | ok text =>
        simp only [compile, success, compiled, render, Bool.not_true, Bool.false_eq_true, if_false]
        exact .declared compiled render

/-- The descriptor of a compiled schema that can be declared gives the schema back. -/
theorem toSchema_of_renderEntity {g : Generator} {source entity text : String} {w : Workbook}
    {s : TableSchema} (compiled : (Compilation.run source entity w).schema = some s)
    (render : g.renderEntity s entity = .ok text) : (Descriptor.ofSchema s).toSchema = .ok s := by
  obtain ⟨-, hcols, -⟩ := renderEntity_eq_ok_iff.mp render
  have hnames : ∀ c ∈ s.columns, c.name ≠ "" :=
    fun c hc => ne_empty_of_isIdentifier (hcols c hc).name
  exact Compilation.toSchema_ofSchema compiled (Compilation.validate_of_schema compiled hnames)

/-- A compilation that renders a declaration puts the descriptor of its schema in the place of the
entity and leaves all other descriptors. The descriptor gives the schema back, and every workbook is
loaded under it just as under the schema. Any other compilation leaves the registry as it is. -/
theorem registers_of_compile (g : Generator) (r : Registry) (source entity : String)
    (w : Workbook) :
    let declared := g.compile r source entity w
    (∀ c text, declared.result = .ok (c, some text) →
      ∃ s, c.schema = some s ∧ g.renderEntity s entity = .ok text ∧
        (∀ other, declared.registry.get? other =
          if other = entity then some (.ofSchema s) else r.get? other) ∧
        (Descriptor.ofSchema s).toSchema = .ok s ∧
        ∀ (name : String) (v : Workbook) (policy : Policy),
          declared.registry.load entity name v policy =
            (Loader.mk s name policy).loadWorkbook v) ∧
    ((∀ c text, declared.result ≠ .ok (c, some text)) → declared.registry = r) := by
  intro declared
  have hcompiles : Compiles g r source entity w declared.registry declared.result :=
    g.compile_compiles r source entity w
  generalize declared.registry = r', declared.result = result at hcompiles
  cases hcompiles with
  | rejected => exact ⟨by simp, fun _ => rfl⟩
  | empty => exact ⟨by simp, fun _ => rfl⟩
  | undeclarable => exact ⟨by simp, fun _ => rfl⟩
  | @declared s text compiled render =>
    refine ⟨fun c text' h => ?_, fun h => absurd rfl (h _ _)⟩
    obtain ⟨rfl, rfl⟩ : _ = c ∧ text = text' := by simpa using h
    obtain ⟨hentity, -⟩ := (Compilation.schema_eq_some_iff source entity w).mp compiled
    have hget : ∀ other, (r.put (.ofSchema s)).get? other =
        if other = entity then some (.ofSchema s) else r.get? other := by
      intro other
      rw [Registry.get?_put, Descriptor.ofSchema, hentity]
    have hschema := toSchema_of_renderEntity compiled render
    refine ⟨s, compiled, render, hget, hschema, fun name v policy => ?_⟩
    exact Registry.load_of_get? ((hget entity).trans (if_pos rfl)) hschema name v policy

/-- A declaration from a template of one placeholder, registered over another descriptor of its
entity. -/
theorem registers_threeSheets :
    let g : Generator := ⟨.rust, "#ENTITYNAME#", ""⟩
    let r := (Registry.empty.put ⟨"Entity_Test", ["id"], ["int"]⟩).put ⟨"Other", [], []⟩
    let declared := g.compile r "Test.json" "Entity_Test" Compilation.threeSheets
    let s : TableSchema :=
      ⟨"Entity_Test", [⟨"id", .int⟩, ⟨"kind", .enum ["red", "green"]⟩]⟩
    declared.result =
        .ok (Compilation.run "Test.json" "Entity_Test" Compilation.threeSheets,
          some "Entity_Test") ∧
      declared.registry.get? "Entity_Test" =
        some ⟨"Entity_Test", ["id", "kind"], ["int", "enum|red,green"]⟩ ∧
      declared.registry.get? "Other" = some ⟨"Other", [], []⟩ ∧
      (∀ (name : String) (v : Workbook) (policy : Policy),
        declared.registry.load "Entity_Test" name v policy =
          (Loader.mk s name policy).loadWorkbook v) ∧
      (g.compile r "Test.json" "Entity_Test" Compilation.spaceHeader).registry = r := by
  intro g r declared s
  have hresult : declared.result =
      .ok (Compilation.run "Test.json" "Entity_Test" Compilation.threeSheets,
        some "Entity_Test") := by
    decide +kernel
  obtain ⟨s', hs', -, hget, -, hload⟩ :=
    (registers_of_compile g r "Test.json" "Entity_Test" Compilation.threeSheets).1 _ _ hresult
  obtain rfl : s = s' := Option.some.inj hs'
  refine ⟨hresult, hget "Entity_Test", hget "Other", hload, ?_⟩
  refine (registers_of_compile g r "Test.json" "Entity_Test" Compilation.spaceHeader).2 ?_
  intro c text h
  have herror : ((g.compile r "Test.json" "Entity_Test" Compilation.spaceHeader).result).toOption =
      none := by decide +kernel
  rw [h] at herror
  cases herror

end Generator

end TypedSheets
