import TypedSheets.Proofs.Identifier
import TypedSheets.Proofs.Template

/-!
# The lines of a declaration

A template is filled line by line (`fillString_lines`). A declaration from a built-in template
therefore is a list of lines: the preamble and the marker lines, those that open the declaration of
the type, a line for every field, and the lines of the enumerations.

Main statement: `Generator.lines_renderEntity`.
-/

namespace TypedSheets

open Text

/-! ## Lines -/

theorem textOfLines_append (ls ms : List String) :
    textOfLines (ls ++ ms) = textOfLines ls ++ textOfLines ms := by
  rw [textOfLines, List.map_append, String.join_append]
  rfl

theorem toList_textOfLines (ls : List String) :
    (textOfLines ls).toList = textLines (ls.map String.toList) := by
  simp only [textOfLines, textLines, String.toList_join, List.flatMap_def,
    List.map_map, Function.comp_def, String.toList_append]
  rfl

/-- Lines are filled one by one. -/
theorem Text.fill_lines {subs : List (List Char × List Char)}
    (hkeys : ∀ sub ∈ subs, '\n' ∉ sub.1) (rest : List Char) :
    ∀ ls : List (List Char), fill subs (textLines ls ++ rest) =
      textLines (ls.map (fill subs)) ++ fill subs rest
  | [] => rfl
  | line :: ls => by
    rw [textLines_cons, List.append_assoc, List.cons_append, fill_append_cons hkeys (by decide),
      fill_lines hkeys rest ls, List.map_cons, textLines_cons, List.append_assoc, List.cons_append]

theorem fillString_lines {subs : List (String × String)}
    (hkeys : ∀ sub ∈ subs, '\n' ∉ sub.1.toList) (ls : List String) (rest : String) :
    fillString subs (textOfLines ls ++ rest) =
      textOfLines (ls.map (fillString subs)) ++ fillString subs rest := by
  rw [← String.toList_inj, String.toList_append, toList_textOfLines]
  simp only [toList_fillString, String.toList_append, toList_textOfLines, List.map_map,
    Function.comp_def]
  rw [fill_lines (List.forall_mem_map.mpr hkeys), List.map_map]
  rfl

theorem textOfLines_cons (line : String) (ls : List String) :
    textOfLines (line :: ls) = line ++ "\n" ++ textOfLines ls := by
  rw [textOfLines, List.map_cons, String.join_cons]
  rfl

@[simp] theorem textOfLines_nil : textOfLines [] = "" :=
  rfl

/-- Lines of which all but the last end in a separator. If there are none, an empty line stands for
them. -/
def joinedLines (sep : String) : List String → List String
  | [] => [""]
  | [line] => [line]
  | line :: next :: rest => (line ++ sep) :: joinedLines sep (next :: rest)

theorem textOfLines_joinedLines (sep : String) : ∀ ls : List String,
    textOfLines (joinedLines sep ls) = (sep ++ "\n").intercalate ls ++ "\n"
  | [] => rfl
  | [line] => by
    rw [joinedLines, textOfLines_cons, textOfLines_nil, String.append_empty,
      String.intercalate_singleton]
  | line :: next :: rest => by
    rw [joinedLines, textOfLines_cons, textOfLines_joinedLines sep (next :: rest),
      String.intercalate_cons_cons]
    simp only [String.append_assoc]

/-- What holds of lines with and without the separator, and of the empty line, holds of joined
lines. -/
theorem forall_mem_joinedLines {p : String → Prop} {sep : String} (hempty : p "") :
    ∀ {ls : List String}, (∀ line ∈ ls, p line ∧ p (line ++ sep)) →
      ∀ line ∈ joinedLines sep ls, p line
  | [], _ => List.forall_mem_singleton.mpr hempty
  | [line], h => List.forall_mem_singleton.mpr (h line List.mem_cons_self).1
  | line :: next :: rest, h => by
    obtain ⟨hline, hrest⟩ := List.forall_mem_cons.mp h
    exact List.forall_mem_cons.mpr ⟨hline.2, forall_mem_joinedLines hempty hrest⟩

/-- Joined without a separator, lines are as they were, up to the empty line. -/
theorem filterMap_joinedLines {α : Type} {f : String → Option α} (hempty : f "" = none) :
    ∀ ls : List String, (joinedLines "" ls).filterMap f = ls.filterMap f
  | [] => by simp [joinedLines, hempty]
  | [line] => rfl
  | line :: next :: rest => by
    rw [joinedLines, String.append_empty, List.filterMap_cons, List.filterMap_cons,
      filterMap_joinedLines hempty (next :: rest)]

/-! ## Enumerations -/

namespace Language

/-- The lines of the declaration of an enumeration. -/
def enumLines (l : Language) (entity column : String) (domain : List String) : List String :=
  match l with
  | .csharp =>
    ["", "\tpublic enum " ++ l.enumName entity column, "\t\x7b"] ++
      (joinedLines "," (domain.map ("\t\t" ++ ·)) ++ ["\t\x7d"])
  | .rust =>
    ["", "#[allow(non_camel_case_types)]", "#[derive(Debug, Clone, Copy, Default, PartialEq, Eq)]",
        "pub enum " ++ l.enumName entity column ++ " \x7b"] ++
      ((if domain = [] then [] else ["    #[default]"]) ++
        (domain.map (fun value => "    " ++ value ++ ",") ++ ["\x7d"]))

theorem enumBlock_eq (l : Language) (entity column : String) (domain : List String) :
    l.enumBlock entity column domain = textOfLines (l.enumLines entity column domain) := by
  cases l with
  | csharp =>
    have hopen : "\n\tpublic enum " = "\n" ++ "\tpublic enum " := rfl
    have hbrace : "\n\t\x7b\n" = "\n" ++ ("\t\x7b" ++ "\n") := rfl
    have hclose : "\n\t\x7d\n" = "\n" ++ ("\t\x7d" ++ "\n") := rfl
    have hcomma : ",\n" = "," ++ "\n" := rfl
    unfold enumBlock
    dsimp only
    rw [enumLines, textOfLines_append, textOfLines_append, textOfLines_joinedLines, hopen,
      hbrace, hclose, hcomma]
    simp only [textOfLines_cons, textOfLines_nil, String.append_assoc, String.empty_append,
      String.append_empty]
  | rust =>
    have hdefault : (if domain = [] then "" else "    #[default]\n") =
        textOfLines (if domain = [] then [] else ["    #[default]"]) := by
      split <;> rfl
    have hvalues : String.join (domain.map fun value => "    " ++ value ++ ",\n") =
        textOfLines (domain.map fun value => "    " ++ value ++ ",") := by
      rw [textOfLines, List.map_map]
      have hcomma : ",\n" = "," ++ "\n" := rfl
      simp only [Function.comp_def, hcomma, String.append_assoc]
    unfold enumBlock
    dsimp only
    rw [enumLines, textOfLines_append, textOfLines_append, textOfLines_append, hdefault, hvalues]
    have hallow : "\n#[allow(non_camel_case_types)]\n" =
        "\n" ++ ("#[allow(non_camel_case_types)]" ++ "\n") := rfl
    have hderive : "#[derive(Debug, Clone, Copy, Default, PartialEq, Eq)]\n" =
        "#[derive(Debug, Clone, Copy, Default, PartialEq, Eq)]" ++ "\n" := rfl
    have hbrace : " \x7b\n" = " \x7b" ++ "\n" := rfl
    have hclose : "\x7d\n" = "\x7d" ++ "\n" := rfl
    rw [hallow, hderive, hbrace, hclose]
    simp only [textOfLines_cons, textOfLines_nil, String.append_assoc, String.empty_append,
      String.append_empty]

/-- The lines for the enumeration in a column; none if its type is no enumeration. -/
def columnEnumLines (l : Language) (entity : String) (c : Column) : List String :=
  (c.type.domain?.map (l.enumLines entity c.name)).getD []

theorem join_enumBlocks (l : Language) (entity : String) (cols : List Column) :
    String.join (cols.filterMap fun c => c.type.domain?.map (l.enumBlock entity c.name)) =
      textOfLines (cols.flatMap (l.columnEnumLines entity)) := by
  induction cols with
  | nil => rfl
  | cons c rest ih =>
    rw [List.filterMap_cons, List.flatMap_cons, textOfLines_append, columnEnumLines]
    cases c.type.domain? with
    | none =>
      rw [Option.map_none, Option.map_none, Option.getD_none, textOfLines_nil, String.empty_append]
      exact ih
    | some domain =>
      rw [Option.map_some, Option.map_some, Option.getD_some, ← enumBlock_eq]
      dsimp only
      rw [String.join_cons, ih]

/-! ## Declarations -/

/-- The lines that a declaration begins with. -/
def preamble : Language → List String
  | .csharp => [
      "// ======================================================",
      "//      Auto-generated by tablec. Do not modify.",
      "// ======================================================"]
  | .rust => ["// Auto-generated by tablec. Do not modify."]

theorem not_mem_preamble (l : Language) {c : Char} (h : c ∈ ['#', '\n', '\r', ':', '"']) :
    ∀ line ∈ l.preamble.map String.toList, c ∉ line := by
  have hlines : ((l.preamble.map String.toList).all fun line =>
      ['#', '\n', '\r', ':', '"'].all fun d => !line.contains d) = true := by
    cases l <;> decide +kernel
  intro line hline hc
  have hline := List.all_eq_true.mp (List.all_eq_true.mp hlines line hline) c h
  simp [hc] at hline

/-- A preamble has no placeholder. -/
theorem fill_preamble (l : Language) (subs : List (String × String)) :
    l.preamble.map (fillString subs) = l.preamble := by
  refine (List.map_congr_left fun line hline => ?_).trans (List.map_id l.preamble)
  exact fillString_text (l.not_mem_preamble (by decide) _ (List.mem_map_of_mem hline))

/-- The lines of a declaration before the fields, from the texts for the entity, the names and the
types. -/
def headLines (l : Language) (entity names types : String) : List String :=
  l.preamble ++ [
    "// tablec:entity " ++ entity,
    "// tablec:fieldnames " ++ names,
    "// tablec:fieldtypes " ++ types] ++
  match l with
  | .csharp => [
    "using System;",
    "using System.Collections.Generic;",
    "",
    "[Serializable]",
    "[TableEntity(FieldNames = new string[] \x7b " ++ names ++
      (" \x7d, FieldTypes = new string[] \x7b " ++ types ++ " \x7d)]"),
    "public class " ++ entity,
    "\x7b"]
  | .rust => [
    "",
    "#[allow(non_camel_case_types)]",
    "#[derive(Debug, Clone, Default, PartialEq)]",
    "pub struct " ++ entity ++ " \x7b"]

/-- The lines after the fields, from those of the enumerations. -/
def tailLines (l : Language) (enums : List String) : List String :=
  match l with
  | .csharp => enums ++ ["\x7d"]
  | .rust => "\x7d" :: enums

/-- The lines of the declaration of a schema. -/
def declarationLines (l : Language) (s : TableSchema) (entity : String) : List String :=
  l.headLines entity (quoteStrings s.names) (quoteStrings s.types) ++
    joinedLines "" (s.columns.map (l.fieldLine entity)) ++
      l.tailLines (s.columns.flatMap (l.columnEnumLines entity))

theorem entityTemplate_eq (l : Language) : l.entityTemplate =
    textOfLines (l.headLines Placeholder.entity Placeholder.names Placeholder.types) ++
      match l with
      | .csharp => Placeholder.fields ++ ("\n" ++ (Placeholder.enums ++ "\x7d\n"))
      | .rust => Placeholder.fields ++ ("\n\x7d\n" ++ Placeholder.enums) := by
  cases l <;> decide +kernel

end Language

namespace Generator

variable {l : Language} {s : TableSchema} {entity key value : String}

theorem fills_entitySubstitutions (h : (key, value) ∈ entitySubstitutions l s entity) :
    Fills (entitySubstitutions l s entity) key value := by
  simp only [entitySubstitutions, List.mem_cons, Prod.mk.injEq, List.not_mem_nil, or_false] at h
  intro rest
  rcases h with ⟨rfl, rfl⟩ | ⟨rfl, rfl⟩ | ⟨rfl, rfl⟩ | ⟨rfl, rfl⟩ |
    ⟨rfl, rfl⟩ <;> exact fill_key rfl

theorem keys_entitySubstitutions : (entitySubstitutions l s entity).map Prod.fst =
    [Placeholder.entity, Placeholder.names, Placeholder.types, Placeholder.fields,
      Placeholder.enums] :=
  rfl

theorem fill_headLines (l : Language) (s : TableSchema) (entity : String) :
    (l.headLines Placeholder.entity Placeholder.names Placeholder.types).map
        (fillString (entitySubstitutions l s entity)) =
      l.headLines entity (quoteStrings s.names) (quoteStrings s.types) := by
  have hentity : Fills (entitySubstitutions l s entity) Placeholder.entity entity :=
    fills_entitySubstitutions (by simp [entitySubstitutions])
  have hnames : Fills (entitySubstitutions l s entity) Placeholder.names (quoteStrings s.names) :=
    fills_entitySubstitutions (by simp [entitySubstitutions])
  have htypes : Fills (entitySubstitutions l s entity) Placeholder.types (quoteStrings s.types) :=
    fills_entitySubstitutions (by simp [entitySubstitutions])
  unfold Language.headLines
  rw [List.map_append, List.map_append, l.fill_preamble]
  cases l with
  | csharp =>
    simp (disch := decide) only [List.map_cons, List.map_nil, String.append_assoc,
      fillString_append, hnames.fillString_append, htypes.fillString_append, hentity.fillString_eq,
      hnames.fillString_eq, htypes.fillString_eq]
    simp (disch := decide) only [fillString_text]
  | rust =>
    have hallow : fillString (entitySubstitutions .rust s entity) "#[allow(non_camel_case_types)]" =
        "#[allow(non_camel_case_types)]" :=
      fillString_eq_self (by rw [keys_entitySubstitutions]; decide +kernel)
    have hderive : fillString (entitySubstitutions .rust s entity)
        "#[derive(Debug, Clone, Default, PartialEq)]" =
          "#[derive(Debug, Clone, Default, PartialEq)]" :=
      fillString_eq_self (by rw [keys_entitySubstitutions]; decide +kernel)
    simp (disch := decide) only [List.map_cons, List.map_nil, String.append_assoc,
      fillString_append, hentity.fillString_append, hentity.fillString_eq, hnames.fillString_eq,
      htypes.fillString_eq, fillString_text, hallow, hderive]

/-- A declaration from a built-in template consists of lines. -/
theorem renderEntity_eq_lines {text : String} (h : (builtIn l).renderEntity s entity = .ok text) :
    text = textOfLines (l.declarationLines s entity) := by
  obtain ⟨-, -, rfl⟩ := renderEntity_eq_ok_iff.mp h
  have hfields : Fills (entitySubstitutions l s entity) Placeholder.fields
      ("\n".intercalate (s.columns.map (l.fieldLine entity))) :=
    fills_entitySubstitutions (by simp [entitySubstitutions])
  have henums : Fills (entitySubstitutions l s entity) Placeholder.enums
      (textOfLines (s.columns.flatMap (l.columnEnumLines entity))) := by
    rw [← Language.join_enumBlocks]
    exact fills_entitySubstitutions (by simp [entitySubstitutions])
  have hkeys : ∀ sub ∈ entitySubstitutions l s entity, '\n' ∉ sub.1.toList := by
    simp only [entitySubstitutions, List.forall_mem_cons]
    exact ⟨by decide, by decide, by decide, by decide, by decide, by simp⟩
  have hbody : textOfLines (joinedLines "" (s.columns.map (l.fieldLine entity))) =
      "\n".intercalate (s.columns.map (l.fieldLine entity)) ++ "\n" :=
    textOfLines_joinedLines "" _
  change fillString (entitySubstitutions l s entity) l.entityTemplate = _
  rw [Language.entityTemplate_eq, fillString_lines hkeys, fill_headLines, Language.declarationLines,
    textOfLines_append, textOfLines_append, hbody]
  cases l with
  | csharp =>
    have hbrace : "\x7d" ++ "\n" = "\x7d\n" := rfl
    rw [Language.tailLines, textOfLines_append, textOfLines_cons, textOfLines_nil]
    simp (disch := decide) only [hfields.fillString_append, henums.fillString_append,
      fillString_append, fillString_text, String.append_assoc, String.append_empty, hbrace]
  | rust =>
    have hbrace : "\n\x7d\n" = "\n" ++ ("\x7d" ++ "\n") := rfl
    rw [Language.tailLines, textOfLines_cons]
    simp (disch := decide) only [hfields.fillString_append, henums.fillString_eq, fillString_append,
      String.append_assoc, hbrace]

end Generator

/-! ## No line is broken -/

instance (s : List Char) : Decidable (IsLine s) :=
  decidable_of_iff ('\n' ∉ s ∧ '\r' ∉ s) ⟨fun ⟨hf, hr⟩ => ⟨hf, hr⟩,
    fun ⟨hf, hr⟩ => ⟨hf, hr⟩⟩

theorem isLine_append_iff {s t : String} :
    IsLine (s ++ t).toList ↔ IsLine s.toList ∧ IsLine t.toList := by
  rw [String.toList_append]
  constructor
  · intro h
    exact ⟨⟨mt (List.mem_append_left _) h.no_feed, mt (List.mem_append_left _) h.no_return⟩,
      ⟨mt (List.mem_append_right _) h.no_feed, mt (List.mem_append_right _) h.no_return⟩⟩
  · exact fun ⟨hs, ht⟩ => hs.append ht

theorem isLine_quoteStrings {items : List String}
    (h : ∀ item ∈ items, ∀ c ∈ item.toList, IsPlain c) :
    IsLine (quoteStrings items).toList := by
  rw [quoteStrings, String.toList_ofList]
  exact isLine_quoteList h

theorem isLine_joinedLines {sep : String} (hsep : IsLine sep.toList) {ls : List String}
    (h : ∀ line ∈ ls, IsLine line.toList) :
    ∀ line ∈ joinedLines sep ls, IsLine line.toList :=
  forall_mem_joinedLines (by decide) fun line hline =>
    ⟨h line hline, isLine_append_iff.mpr ⟨h line hline, hsep⟩⟩

namespace Language

variable {l : Language} {entity : String} {c : Column}

theorem isLine_headLines {names types : String} (hentity : IsLine entity.toList)
    (hnames : IsLine names.toList) (htypes : IsLine types.toList) :
    ∀ line ∈ l.headLines entity names types, IsLine line.toList := by
  unfold headLines
  cases l <;>
    simp only [preamble, List.forall_mem_append, List.forall_mem_cons, List.not_mem_nil,
      false_imp_iff, implies_true, isLine_append_iff, hentity, hnames, htypes, and_true] <;>
    decide +kernel

theorem isLine_fieldLine (hentity : IsWord entity) (hc : IsWord c.name) :
    IsLine (l.fieldLine entity c).toList := by
  have htype := (isWord_fieldType l hentity hc).isLine
  unfold fieldLine
  cases l <;> simp only [isLine_append_iff, htype, hc.isLine, and_true] <;> decide

theorem isLine_enumLines (hentity : IsWord entity) (hc : IsWord c.name) {domain : List String}
    (hdomain : ∀ value ∈ domain, IsWord value) :
    ∀ line ∈ l.enumLines entity c.name domain, IsLine line.toList := by
  have hname := (isWord_enumName l hentity hc).isLine
  unfold enumLines
  cases l with
  | csharp =>
    have hvalues : ∀ line ∈ joinedLines "," (domain.map ("\t\t" ++ ·)), IsLine line.toList :=
      isLine_joinedLines (by decide) (List.forall_mem_map.mpr fun value hvalue =>
        isLine_append_iff.mpr ⟨by decide, (hdomain value hvalue).isLine⟩)
    simp only [List.forall_mem_append, List.forall_mem_cons, List.not_mem_nil, false_imp_iff,
      implies_true, isLine_append_iff, hname, and_true]
    exact ⟨by decide, hvalues, by decide⟩
  | rust =>
    have hdefault : ∀ line ∈ if domain = [] then [] else ["    #[default]"],
        IsLine line.toList := by
      split <;> decide
    have hvalues : ∀ line ∈ domain.map fun value => "    " ++ value ++ ",",
        IsLine line.toList :=
      List.forall_mem_map.mpr fun value hvalue => by
        simp only [isLine_append_iff, (hdomain value hvalue).isLine, and_true]
        decide
    simp only [List.forall_mem_append, List.forall_mem_cons, List.not_mem_nil, false_imp_iff,
      implies_true, isLine_append_iff, hname, and_true]
    exact ⟨by decide, hdefault, hvalues, by decide⟩

theorem isLine_columnEnumLines (hentity : IsWord entity) (hc : c.IsDeclarable) :
    ∀ line ∈ l.columnEnumLines entity c, IsLine line.toList := by
  have hdomain := hc.domain
  unfold columnEnumLines
  cases h : c.type.domain? with
  | none => exact fun line hline => nomatch hline
  | some domain =>
    rw [h] at hdomain
    exact isLine_enumLines hentity (.of_isIdentifier hc.name) fun value hvalue =>
      .of_isIdentifier (hdomain value hvalue)

end Language

namespace Generator

variable {l : Language} {s : TableSchema} {entity text : String}

theorem isLine_declarationLines (hentity : isIdentifier entity = true)
    (hcols : ∀ c ∈ s.columns, c.IsDeclarable) :
    ∀ line ∈ l.declarationLines s entity, IsLine line.toList := by
  have hword := IsWord.of_isIdentifier hentity
  have hplain := isPlain_of_isDeclarable hentity hcols
  have hhead : ∀ line ∈ l.headLines entity (quoteStrings s.names) (quoteStrings s.types),
      IsLine line.toList :=
    Language.isLine_headLines hword.isLine (isLine_quoteStrings hplain.names)
      (isLine_quoteStrings hplain.types)
  have hfields : ∀ line ∈ joinedLines "" (s.columns.map (l.fieldLine entity)),
      IsLine line.toList :=
    isLine_joinedLines (by decide) (List.forall_mem_map.mpr fun c hc =>
      Language.isLine_fieldLine hword (.of_isIdentifier (hcols c hc).name))
  have henums : ∀ line ∈ s.columns.flatMap (l.columnEnumLines entity), IsLine line.toList := by
    intro line hline
    obtain ⟨c, hc, hline⟩ := List.mem_flatMap.mp hline
    exact Language.isLine_columnEnumLines hword (hcols c hc) line hline
  have hbrace : IsLine "\x7d".toList := by decide
  rw [Language.declarationLines, List.forall_mem_append, List.forall_mem_append]
  refine ⟨⟨hhead, hfields⟩, ?_⟩
  cases l with
  | csharp => exact List.forall_mem_append.mpr ⟨henums, List.forall_mem_singleton.mpr hbrace⟩
  | rust => exact List.forall_mem_cons.mpr ⟨hbrace, henums⟩

/-- The lines of what is rendered from a built-in template. -/
theorem lines_renderEntity (h : (builtIn l).renderEntity s entity = .ok text) :
    lines text.toList = (l.declarationLines s entity).map String.toList := by
  obtain ⟨hentity, hcols, -⟩ := renderEntity_eq_ok_iff.mp h
  have hlines : ∀ line ∈ (l.declarationLines s entity).map String.toList, IsLine line :=
    List.forall_mem_map.mpr (isLine_declarationLines hentity hcols)
  have hread : lines (textLines ((l.declarationLines s entity).map String.toList) ++ []) =
      (l.declarationLines s entity).map String.toList ++ [] := lines_textLines [] hlines
  rwa [List.append_nil, List.append_nil, ← toList_textOfLines, ← renderEntity_eq_lines h]
    at hread

end Generator

end TypedSheets
