import Mathlib.Data.List.Nodup
import TypedSheets.Proofs.DeclarationLines

/-!
# The names in a declaration

What a declaration declares is found by reading it line by line: a line of a certain form
(`NameForm`) declares one name in a scope. The scopes of a class with nested enumerations are one,
those of a structure beside its enumerations are two (`Language.scopes`), and the names in them are
those of the columns, of the entity and of the enumerations (`Generator.names_renderEntity`). Where
the names of enumerations start with that of the entity, no name is declared twice in a scope; where
they are nested, the name of an enumeration can be that of another column.

Main statement: `Generator.nodup_scopes_iff`.
-/

namespace TypedSheets

open Text

/-- How a name is declared on a line: what the line begins with, whether a word stands between that
and the name, and what ends the name. -/
structure NameForm where
  opening : String
  afterWord : Bool
  ending : Char

namespace NameForm

/-- The name that a line declares in the form. -/
def name? (form : NameForm) (line : String) : Option String :=
  if form.opening.toList.isPrefixOf line.toList then
    let rest := line.toList.drop form.opening.toList.length
    let rest := if form.afterWord then (rest.dropWhile (· ≠ ' ')).drop 1 else rest
    some (String.ofList (rest.takeWhile (· ≠ form.ending)))
  else none

/-- The names that a text declares in the form, line by line. -/
def names (form : NameForm) (text : String) : List String :=
  ((lines text.toList).map String.ofList).filterMap form.name?

/-- A field or an enumeration in the body of a class. -/
def classMember : NameForm :=
  ⟨"\tpublic ", true, ';'⟩

/-- A field of a structure. -/
def structField : NameForm :=
  ⟨"    pub ", false, ':'⟩

/-- A structure or an enumeration beside it. -/
def typeItem : NameForm :=
  ⟨"pub ", true, ' '⟩

end NameForm

namespace Language

/-- The scopes of a declaration, by the form in which names are declared in them. -/
def scopes : Language → List NameForm
  | .csharp => [.classMember]
  | .rust => [.structField, .typeItem]

/-- The names of the enumerations of a schema. -/
def enumNames (l : Language) (s : TableSchema) (entity : String) : List String :=
  s.columns.filterMap fun c => c.type.domain?.map fun _ => l.enumName entity c.name

/-- The names in each of the scopes of the declaration of a schema. -/
def declaredNames (l : Language) (s : TableSchema) (entity : String) : List (List String) :=
  match l with
  | .csharp => [s.names ++ l.enumNames s entity]
  | .rust => [s.names, entity :: l.enumNames s entity]

end Language

/-! ## Lines that declare a name -/

namespace NameForm

variable {form : NameForm} {word name rest : String}

theorem name?_append (form : NameForm) (s : String) : form.name? (form.opening ++ s) =
    some (String.ofList ((if form.afterWord then (s.toList.dropWhile (· ≠ ' ')).drop 1
      else s.toList).takeWhile (· ≠ form.ending))) := by
  have hprefix : form.opening.toList.isPrefixOf (form.opening.toList ++ s.toList) = true :=
    List.isPrefixOf_iff_prefix.mpr (List.prefix_append _ _)
  rw [name?, String.toList_append, if_pos hprefix, List.drop_left]

theorem name?_eq (hform : form.afterWord = false) (hname : form.ending ∉ name.toList)
    (hrest : rest.toList.takeWhile (· ≠ form.ending) = []) :
    form.name? (form.opening ++ name ++ rest) = some name := by
  rw [String.append_assoc, name?_append, String.toList_append, if_neg (by simp [hform]),
    takeWhile_ne_append hname hrest, String.ofList_toList]

theorem name?_after_word (hform : form.afterWord = true) (hword : ' ' ∉ word.toList)
    (hname : form.ending ∉ name.toList)
    (hrest : rest.toList.takeWhile (· ≠ form.ending) = []) :
    form.name? (form.opening ++ word ++ " " ++ name ++ rest) = some name := by
  have hall : ∀ c ∈ word.toList, decide (c ≠ ' ') = true := fun c hc =>
    decide_eq_true fun heq => hword (heq ▸ hc)
  have hdrop : ((word.toList ++ (" ".toList ++ (name.toList ++ rest.toList))).dropWhile
      (· ≠ ' ')).drop 1 =
      name.toList ++ rest.toList := by
    rw [List.dropWhile_append_of_pos hall]
    rfl
  simp only [String.append_assoc]
  rw [name?_append, if_pos hform]
  simp only [String.toList_append]
  rw [hdrop, takeWhile_ne_append hname hrest, String.ofList_toList]

end NameForm

namespace Language

variable {entity : String} {c : Column}

/-! ### Fields -/

theorem classMember_fieldLine (hentity : IsWord entity) (hc : IsWord c.name) :
    NameForm.classMember.name? (csharp.fieldLine entity c) = some c.name :=
  NameForm.name?_after_word (by rfl) ((isWord_fieldType _ hentity hc).not_mem (by decide))
    (hc.not_mem (by decide)) (by decide)

theorem structField_fieldLine (hc : IsWord c.name) :
    NameForm.structField.name? (rust.fieldLine entity c) = some c.name := by
  have hline : rust.fieldLine entity c =
      "    pub " ++ c.name ++ (": " ++ (rust.fieldType entity c ++ ",")) := by
    unfold fieldLine
    simp only [String.append_assoc]
  rw [hline]
  refine NameForm.name?_eq (by rfl) (hc.not_mem (by decide)) ?_
  rw [String.toList_append]
  rfl

theorem typeItem_fieldLine : NameForm.typeItem.name? (rust.fieldLine entity c) = none := by
  unfold fieldLine
  simp only [String.append_assoc, NameForm.name?, String.toList_append]
  rfl

/-! ### Enumerations -/

variable {domain : List String}

theorem classMember_enumLines (hentity : IsWord entity) (hc : IsWord c.name) :
    (csharp.enumLines entity c.name domain).filterMap NameForm.classMember.name? =
      [csharp.enumName entity c.name] := by
  have hword := isWord_enumName csharp hentity hc
  have hname : NameForm.classMember.name? ("\tpublic enum " ++ csharp.enumName entity c.name) =
      some (csharp.enumName entity c.name) := by
    have h := @NameForm.name?_after_word .classMember "enum" (csharp.enumName entity c.name) "" rfl
      (by decide) (hword.not_mem (by decide)) rfl
    rwa [String.append_empty] at h
  have hvalue : ∀ value : String, NameForm.classMember.name? ("\t\t" ++ value) = none := by
    intro value
    rw [NameForm.name?, String.toList_append]
    rfl
  have hvalues : ∀ line ∈ joinedLines "," (domain.map ("\t\t" ++ ·)),
      NameForm.classMember.name? line = none := by
    refine forall_mem_joinedLines (by rfl)
      (List.forall_mem_map.mpr fun value _ => ⟨hvalue value, ?_⟩)
    rw [String.append_assoc]
    exact hvalue _
  have hbrace : NameForm.classMember.name? "\t\x7b" = none := rfl
  have hclose : NameForm.classMember.name? "\t\x7d" = none := rfl
  have hempty : NameForm.classMember.name? "" = none := rfl
  unfold enumLines
  simp only [List.filterMap_append, List.filterMap_cons, List.filterMap_nil, hempty, hname,
    hbrace, hclose, List.filterMap_eq_nil_iff.mpr hvalues, List.append_nil]

/-- Of the lines of an enumeration with its attributes, the one with its name alone can declare a
name. -/
theorem filterMap_enumLines_rust {α : Type} {f : String → Option α}
    (hfixed : ∀ line ∈ ["", "#[allow(non_camel_case_types)]",
      "#[derive(Debug, Clone, Copy, Default, PartialEq, Eq)]", "    #[default]",
      "\x7d"], f line = none)
    (hvalues : ∀ value ∈ domain, f ("    " ++ value ++ ",") = none) :
    (rust.enumLines entity c.name domain).filterMap f =
      (f ("pub enum " ++ rust.enumName entity c.name ++ " \x7b")).toList := by
  simp only [List.forall_mem_cons] at hfixed
  obtain ⟨hempty, hallow, hderive, hdefault, hclose, -⟩ := hfixed
  have hdefaults : (if domain = [] then [] else ["    #[default]"]).filterMap f = [] := by
    split
    · rfl
    · rw [List.filterMap_cons, hdefault, List.filterMap_nil]
  have hvariants : (domain.map fun value => "    " ++ value ++ ",").filterMap f = [] :=
    List.filterMap_eq_nil_iff.mpr (List.forall_mem_map.mpr hvalues)
  unfold enumLines
  cases hname : f ("pub enum " ++ rust.enumName entity c.name ++ " \x7b") <;>
    simp only [List.filterMap_append, List.filterMap_cons, List.filterMap_nil, hempty, hallow,
      hderive, hname, hdefaults, hvariants, hclose, List.append_nil, Option.toList_none,
      Option.toList_some]

theorem typeItem_enumLines (hentity : IsWord entity) (hc : IsWord c.name) :
    (rust.enumLines entity c.name domain).filterMap NameForm.typeItem.name? =
      [rust.enumName entity c.name] := by
  have hname : NameForm.typeItem.name? ("pub enum " ++ rust.enumName entity c.name ++ " \x7b") =
      some (rust.enumName entity c.name) :=
    @NameForm.name?_after_word .typeItem "enum" (rust.enumName entity c.name) " \x7b" rfl
      (by decide) ((isWord_enumName rust hentity hc).not_mem (by decide)) rfl
  have hvariant : ∀ value ∈ domain, NameForm.typeItem.name? ("    " ++ value ++ ",") =
      none := by
    intro value _
    rw [String.append_assoc, NameForm.name?, String.toList_append]
    rfl
  rw [filterMap_enumLines_rust (by decide) hvariant, hname]
  rfl

theorem structField_enumLines (hdomain : ∀ value ∈ domain, IsWord value) :
    (rust.enumLines entity c.name domain).filterMap NameForm.structField.name? = [] := by
  have hname : NameForm.structField.name? ("pub enum " ++ rust.enumName entity c.name ++ " \x7b") =
      none := by
    rw [String.append_assoc, NameForm.name?, String.toList_append]
    rfl
  have hvariant : ∀ value ∈ domain, NameForm.structField.name? ("    " ++ value ++ ",") =
      none := by
    refine fun value hvalue => if_neg fun hstarts => ?_
    -- after the indentation a field goes on with a word and a blank, and a variant has none
    have hblank : ' ' ∉ value.toList ++ [','] := by
      simpa using (hdomain value hvalue).not_mem (c := ' ') (by decide)
    have hopening : NameForm.structField.opening.toList = "    ".toList ++ "pub ".toList := rfl
    rw [List.isPrefixOf_iff_prefix, hopening, String.append_assoc, String.toList_append,
      List.prefix_append_right_inj, String.toList_append] at hstarts
    exact hblank (hstarts.subset (by decide))
  rw [filterMap_enumLines_rust (by decide) hvariant, hname]
  rfl

/-! ### Heads -/

theorem classMember_headLines {names types : String} :
    (csharp.headLines entity names types).filterMap NameForm.classMember.name? = [] := by
  unfold headLines
  simp only [preamble, List.filterMap_append, List.filterMap_cons, List.filterMap_nil,
    NameForm.name?, String.toList_append]
  rfl

theorem structField_headLines {names types : String} :
    (rust.headLines entity names types).filterMap NameForm.structField.name? = [] := by
  unfold headLines
  simp only [preamble, List.filterMap_append, List.filterMap_cons, List.filterMap_nil,
    NameForm.name?, String.toList_append]
  rfl

theorem typeItem_headLines {names types : String} (hentity : IsWord entity) :
    (rust.headLines entity names types).filterMap NameForm.typeItem.name? = [entity] := by
  have hname : NameForm.typeItem.name? ("pub struct " ++ entity ++ " \x7b") = some entity :=
    @NameForm.name?_after_word .typeItem "struct" entity " \x7b" rfl (by decide)
      (hentity.not_mem (by decide)) rfl
  unfold headLines
  simp only [preamble, List.filterMap_append, List.filterMap_cons, List.filterMap_nil, hname]
  simp only [NameForm.name?, String.toList_append]
  rfl

/-! ### Declarations -/

/-- The names in a declaration are those in its head, in the lines of its fields and in those of its
enumerations. -/
theorem filterMap_declarationLines {l : Language} {s : TableSchema} {f : String → Option String}
    {head : List String} {field enum : Column → Option String} (hempty : f "" = none)
    (hclose : f "\x7d" = none)
    (hhead : (l.headLines entity (quoteStrings s.names) (quoteStrings s.types)).filterMap f = head)
    (hfields : ∀ c ∈ s.columns, f (l.fieldLine entity c) = field c)
    (henums : ∀ c ∈ s.columns, ∀ domain, c.type.domain? = some domain →
      (l.enumLines entity c.name domain).filterMap f = (enum c).toList) :
    (l.declarationLines s entity).filterMap f = head ++ s.columns.filterMap field ++
      s.columns.filterMap fun c => c.type.domain?.bind fun _ => enum c := by
  have hfield : (s.columns.map (l.fieldLine entity)).filterMap f = s.columns.filterMap field := by
    rw [List.filterMap_map]
    exact List.filterMap_congr hfields
  have henum : (s.columns.flatMap (l.columnEnumLines entity)).filterMap f =
      s.columns.filterMap fun c => c.type.domain?.bind fun _ => enum c := by
    rw [List.filterMap_flatMap, List.filterMap_eq_flatMap_toList]
    refine List.flatMap_congr fun c hc => ?_
    rw [columnEnumLines]
    cases hdomain : c.type.domain? with
    | none => rfl
    | some domain => exact henums c hc domain hdomain
  have htail : ∀ lines : List String, (l.tailLines lines).filterMap f = lines.filterMap f := by
    intro lines
    cases l <;> simp [tailLines, hclose]
  rw [declarationLines, List.filterMap_append, List.filterMap_append, hhead,
    filterMap_joinedLines hempty, hfield, htail, henum]

end Language

namespace Generator

variable {l : Language} {s : TableSchema} {entity text : String}

theorem names_eq_filterMap (h : (builtIn l).renderEntity s entity = .ok text) (form : NameForm) :
    form.names text = (l.declarationLines s entity).filterMap form.name? := by
  have hid : ∀ ls : List String, (ls.map String.toList).map String.ofList = ls := by simp
  rw [NameForm.names, lines_renderEntity h, hid]

/-- What is rendered from a built-in template declares the names of the columns and of the
enumerations, and that of the entity where this is in the same scope as the latter. -/
theorem names_renderEntity (h : (builtIn l).renderEntity s entity = .ok text) :
    l.scopes.map (·.names text) = l.declaredNames s entity := by
  obtain ⟨hentity, hcols, -⟩ := renderEntity_eq_ok_iff.mp h
  have hword := IsWord.of_isIdentifier hentity
  have hname : ∀ c ∈ s.columns, IsWord c.name := fun c hc => .of_isIdentifier (hcols c hc).name
  have hdomain : ∀ c ∈ s.columns, ∀ domain, c.type.domain? = some domain →
      ∀ value ∈ domain, IsWord value := by
    intro c hc domain hdomain value hvalue
    have hvalues := (hcols c hc).domain
    rw [hdomain] at hvalues
    exact .of_isIdentifier (hvalues value hvalue)
  have hnames : s.columns.filterMap (fun c => some c.name) = s.names :=
    congrFun List.filterMap_eq_map s.columns
  have henums : (s.columns.filterMap fun c => c.type.domain?.bind fun _ =>
      some (l.enumName entity c.name)) =
      l.enumNames s entity := by
    simp only [Language.enumNames, Option.map_eq_bind, Function.comp_def]
  cases l with
  | csharp =>
    have hmembers : NameForm.classMember.names text =
        [] ++ (s.columns.filterMap fun c => some c.name) ++ s.columns.filterMap fun c =>
          c.type.domain?.bind fun _ => some (Language.csharp.enumName entity c.name) :=
      (names_eq_filterMap h _).trans (Language.filterMap_declarationLines (by rfl) (by rfl)
        Language.classMember_headLines
          (fun c hc => Language.classMember_fieldLine hword (hname c hc))
        fun c hc domain _ => Language.classMember_enumLines hword (hname c hc))
    rw [hnames, henums] at hmembers
    exact congrArg ([·]) hmembers
  | rust =>
    have hfields : NameForm.structField.names text =
        [] ++ (s.columns.filterMap fun c => some c.name) ++ s.columns.filterMap fun c =>
          c.type.domain?.bind fun _ => none :=
      (names_eq_filterMap h _).trans (Language.filterMap_declarationLines (by rfl) (by rfl)
        Language.structField_headLines (fun c hc => Language.structField_fieldLine (hname c hc))
        fun c hc domain hdom => Language.structField_enumLines (hdomain c hc domain hdom))
    have htypes : NameForm.typeItem.names text =
        [entity] ++ (s.columns.filterMap fun c => none) ++ s.columns.filterMap fun c =>
          c.type.domain?.bind fun _ => some (Language.rust.enumName entity c.name) :=
      (names_eq_filterMap h _).trans (Language.filterMap_declarationLines (by rfl) (by rfl)
        (Language.typeItem_headLines hword) (fun c _ => Language.typeItem_fieldLine)
        fun c hc domain _ => Language.typeItem_enumLines hword (hname c hc))
    rw [hnames] at hfields
    rw [henums] at htypes
    simp only [Option.bind_fun_none, List.filterMap_none, List.append_nil, List.nil_append]
      at hfields htypes
    exact congrArg₂ ([·, ·]) hfields htypes

end Generator

/-! ## Distinct names -/

namespace Language

variable {l : Language} {s : TableSchema} {entity : String}

theorem enumName_injective (l : Language) (entity : String) :
    Function.Injective (l.enumName entity) := by
  intro column other h
  cases l <;> exact (String.append_right_inj _).mp h

theorem mem_enumNames_iff {name : String} : name ∈ l.enumNames s entity ↔
    ∃ c ∈ s.columns, c.type.domain? ≠ none ∧ l.enumName entity c.name = name := by
  simp only [enumNames, List.mem_filterMap, Option.map_eq_some_iff, exists_and_right,
    Option.ne_none_iff_exists']

theorem enumNames_sublist (l : Language) (s : TableSchema) (entity : String) :
    (l.enumNames s entity).Sublist (s.names.map (l.enumName entity)) := by
  obtain ⟨name, cols⟩ := s
  unfold enumNames TableSchema.names
  dsimp only
  induction cols with
  | nil => exact .slnil
  | cons c rest ih =>
    rw [List.filterMap_cons, List.map_cons, List.map_cons]
    cases c.type.domain? with
    | none => exact ih.cons _
    | some domain => exact ih.cons_cons _

theorem nodup_enumNames (h : s.names.Nodup) : (l.enumNames s entity).Nodup :=
  (enumNames_sublist l s entity).nodup (List.Nodup.map (l.enumName_injective entity) h)

/-- Where the names of enumerations start with that of the entity, none of them is that of the
entity. -/
theorem entity_not_mem_enumNames : entity ∉ Language.rust.enumNames s entity := by
  intro h
  obtain ⟨c, -, -, hname⟩ := mem_enumNames_iff.mp h
  have hlength : entity.length + "_".length + c.name.length = entity.length := by
    simpa [enumName] using congrArg String.length hname
  have hbar : "_".length = 1 := rfl
  omega

theorem nodup_declaredNames_iff (h : s.names.Nodup) :
    (∀ names ∈ l.declaredNames s entity, names.Nodup) ↔
    (l = .csharp → ∀ c ∈ s.columns, c.type.domain? ≠ none →
      "enum_" ++ c.name ∉ s.names) := by
  cases l with
  | csharp =>
    rw [declaredNames, List.forall_mem_singleton, List.nodup_append]
    constructor
    · rintro ⟨-, -, hne⟩ - c hc hdomain hmem
      exact hne _ hmem _ (mem_enumNames_iff.mpr ⟨c, hc, hdomain, rfl⟩) rfl
    · intro hclash
      refine ⟨h, nodup_enumNames h, ?_⟩
      rintro _ hmem _ henum rfl
      obtain ⟨c, hc, hdomain, rfl⟩ := mem_enumNames_iff.mp henum
      exact hclash rfl c hc hdomain hmem
  | rust =>
    refine iff_of_true ?_ fun hl => nomatch hl
    rw [declaredNames, List.forall_mem_cons, List.forall_mem_singleton, List.nodup_cons]
    exact ⟨h, entity_not_mem_enumNames, nodup_enumNames h⟩

end Language

/-- A schema with an enumeration, and a column whose name looks like that of an enumeration. -/
def TableSchema.paints : TableSchema :=
  ⟨"Entity_Paints", [⟨"color", .enum ["red", "blue"]⟩, ⟨"enum_coat", .int⟩]⟩

/-- A schema with an enumeration, and a column with the name that the enumeration gets in a
class. -/
def TableSchema.shadowed : TableSchema :=
  ⟨"Entity_Items", [⟨"a", .enum ["x"]⟩, ⟨"enum_a", .int⟩]⟩

namespace Generator

/-- What is rendered from a built-in template, for columns with distinct names, declares no name
twice in one scope, unless the enumeration of a column, where it is nested, has the name of another
column. -/
theorem nodup_scopes_iff (l : Language) (s : TableSchema) (entity text : String)
    (hnames : s.names.Nodup) (h : (builtIn l).renderEntity s entity = .ok text) :
    (∀ form ∈ l.scopes, (form.names text).Nodup) ↔
      (l = .csharp → ∀ c ∈ s.columns, c.type.domain? ≠ none →
        "enum_" ++ c.name ∉ s.names) := by
  rw [← Language.nodup_declaredNames_iff hnames, ← names_renderEntity h, List.forall_mem_map]

theorem nodup_scopes_paints : ∃ text,
    (builtIn .csharp).renderEntity TableSchema.paints "Entity_Paints" = .ok text ∧
      TableSchema.paints.names.Nodup ∧
      ∀ form ∈ Language.csharp.scopes, (form.names text).Nodup := by
  have hrender : (builtIn .csharp).renderEntity TableSchema.paints "Entity_Paints" = .ok _ := rfl
  have hnames : TableSchema.paints.names.Nodup := by decide
  exact ⟨_, hrender, hnames, (nodup_scopes_iff _ _ _ _ hnames hrender).mpr fun _ => by decide⟩

/-- The class declares a name twice, although the columns have distinct names. -/
theorem names_shadowed : ∃ text,
    (builtIn .csharp).renderEntity TableSchema.shadowed "Entity_Items" = .ok text ∧
      TableSchema.shadowed.names.Nodup ∧
        NameForm.classMember.names text = ["a", "enum_a", "enum_a"] := by
  have hrender : (builtIn .csharp).renderEntity TableSchema.shadowed "Entity_Items" = .ok _ := rfl
  have hnames : [NameForm.classMember.names _] = [["a", "enum_a", "enum_a"]] :=
    names_renderEntity hrender
  exact ⟨_, hrender, by decide, (List.cons.inj hnames).1⟩

end Generator

end TypedSheets
