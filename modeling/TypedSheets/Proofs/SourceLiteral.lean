import TypedSheets.Proofs.DeclarationLines

/-!
# The source in the declaration of a container

The declaration of a container names the source of its records in a string literal, which ends at
the next double quote. It is found by what stands before its opening quote, which stands nowhere
earlier (`Text.after?_append`). The text of the path, with slashes in place of backslashes, is put
there as it is: the literal is the whole of it just when the path has no double quote.

Main statement: `Generator.sourceLiteral?_renderContainer`.
-/

namespace TypedSheets

open Text

namespace Text

theorem after?_self {word : List Char} (hne : word ≠ []) (rest : List Char) :
    after? word (word ++ rest) = some rest := by
  obtain ⟨c, word, rfl⟩ := List.exists_cons_of_ne_nil hne
  have hprefix : (c :: word).isPrefixOf (c :: (word ++ rest)) = true :=
    List.isPrefixOf_iff_prefix.mpr (List.prefix_append (c :: word) rest)
  rw [List.cons_append, after?, if_pos hprefix, ← List.cons_append, List.drop_left]

/-- A word that ends in the first of a character in a text does not begin earlier. -/
theorem after?_append {word : List Char} {c : Char} (hword : c ∉ word) (rest : List Char) :
    ∀ {before : List Char}, c ∉ before →
      after? (word ++ [c]) (before ++ (word ++ [c] ++ rest)) = some rest
  | [], _ => after?_self (List.concat_ne_nil c word) rest
  | d :: before, h => by
    have hprefix : ¬(word ++ [c]).isPrefixOf (d :: (before ++ (word ++ [c] ++ rest))) = true := by
      rw [List.isPrefixOf_iff_prefix]
      rintro ⟨t, ht⟩
      -- up to the first `c` stands the word, or more than it
      have hmore : c ∉ d :: before ++ word := fun hc => (List.mem_append.mp hc).elim h hword
      have htake : (word ++ c :: t).takeWhile (· ≠ c) =
          (d :: before ++ word ++ c :: rest).takeWhile (· ≠ c) := by
        have heq : word ++ c :: t = d :: before ++ word ++ c :: rest := by simpa using ht
        rw [heq]
      rw [takeWhile_ne_append_cons, takeWhile_ne_append_cons, takeWhile_ne_eq_self_iff.mpr hword,
        takeWhile_ne_eq_self_iff.mpr hmore] at htake
      have hlength := congrArg List.length htake
      simp only [List.length_append, List.length_cons] at hlength
      omega
    rw [List.cons_append, after?, if_neg hprefix,
      after?_append hword rest (List.not_mem_of_not_mem_cons h)]

end Text

/-! ## Lines -/

namespace Language

/-- The lines of the declaration of a container before that with the source. -/
def containerHead (l : Language) (container entity : String) : List String :=
  l.preamble ++
  match l with
  | .csharp => [
    "using System;",
    "using System.Collections.Generic;",
    ""]
  | .rust => [
    "",
    "#[allow(non_camel_case_types)]",
    "#[derive(Debug, Clone, Default)]",
    "pub struct " ++ container ++ " \x7b",
    "    pub entities: Vec<" ++ entity ++ ">,",
    "\x7d",
    "",
    "impl " ++ container ++ " \x7b"]

/-- What stands before the source on its line, up to the quotes. -/
def sourceAssignment : Language → String × String
  | .csharp => ("[TableContainer(", "SourcePath = ")
  | .rust => ("    pub const ", "SOURCE_PATH: &'static str = ")

/-- What ends the line with the source. -/
def sourceEnd : Language → String
  | .csharp => ")]"
  | .rust => ";"

/-- The line with the source. -/
def sourceLine (l : Language) (source : String) : String :=
  l.sourceAssignment.1 ++ (l.sourceAssignment.2 ++ ("\"" ++ (source ++ ("\"" ++ l.sourceEnd))))

theorem exists_containerTemplate (l : Language) : ∃ rest, l.containerTemplate =
    textOfLines (l.containerHead Placeholder.container Placeholder.entity ++
      l.sourceLine Placeholder.source :: rest) := by
  cases l
  · exact ⟨_, rfl⟩
  · exact ⟨_, rfl⟩

end Language

namespace Generator

variable {container entity : String} {source : Path} {key value : String}

/-- The values for the declaration of a container. -/
def containerSubstitutions (container entity : String) (source : Path) :
    List (String × String) := [
  (Placeholder.container, container),
  (Placeholder.entity, entity),
  (Placeholder.source, sourceText source)]

theorem keys_containerSubstitutions :
    (containerSubstitutions container entity source).map Prod.fst =
    [Placeholder.container, Placeholder.entity, Placeholder.source] :=
  rfl

theorem renderContainer_eq_ok (g : Generator) (hcontainer : isIdentifier container = true)
    (hentity : isIdentifier entity = true) (source : Path) :
    g.renderContainer container entity source =
      .ok (fillString (containerSubstitutions container entity source) g.containerTemplate) := by
  simp [renderContainer, checkIdentifier, hcontainer, hentity, containerSubstitutions]

theorem fills_containerSubstitutions
    (h : (key, value) ∈ containerSubstitutions container entity source) :
    Fills (containerSubstitutions container entity source) key value := by
  simp only [containerSubstitutions, List.mem_cons, Prod.mk.injEq, List.not_mem_nil, or_false] at h
  intro rest
  rcases h with ⟨rfl, rfl⟩ | ⟨rfl, rfl⟩ | ⟨rfl, rfl⟩ <;> exact fill_key rfl

theorem fill_containerHead (l : Language) (container entity : String) (source : Path) :
    (l.containerHead Placeholder.container Placeholder.entity).map
        (fillString (containerSubstitutions container entity source)) =
          l.containerHead container entity := by
  have hcontainer : Fills (containerSubstitutions container entity source) Placeholder.container
      container :=
    fills_containerSubstitutions (by simp [containerSubstitutions])
  have hentity : Fills (containerSubstitutions container entity source) Placeholder.entity entity :=
    fills_containerSubstitutions (by simp [containerSubstitutions])
  unfold Language.containerHead
  rw [List.map_append, l.fill_preamble]
  cases l with
  | csharp => simp (disch := decide) only [List.map_cons, List.map_nil, fillString_text]
  | rust =>
    have hallow : fillString (containerSubstitutions container entity source)
        "#[allow(non_camel_case_types)]" = "#[allow(non_camel_case_types)]" :=
      fillString_eq_self (by rw [keys_containerSubstitutions]; decide +kernel)
    have hderive : fillString (containerSubstitutions container entity source)
        "#[derive(Debug, Clone, Default)]" = "#[derive(Debug, Clone, Default)]" :=
      fillString_eq_self (by rw [keys_containerSubstitutions]; decide +kernel)
    simp (disch := decide) only [List.map_cons, List.map_nil, String.append_assoc,
      fillString_append, hcontainer.fillString_append, hentity.fillString_append, fillString_text,
      hallow, hderive]

theorem fill_sourceLine (l : Language) (container entity : String) (source : Path) :
    fillString (containerSubstitutions container entity source) (l.sourceLine Placeholder.source) =
      l.sourceLine (sourceText source) := by
  have hsource : Fills (containerSubstitutions container entity source) Placeholder.source
      (sourceText source) :=
    fills_containerSubstitutions (by simp [containerSubstitutions])
  unfold Language.sourceLine
  cases l <;> simp (disch := decide) only [fillString_append, hsource.fillString_append,
    fillString_text]

/-- The line with the source in the declaration of a container. -/
theorem renderContainer_eq_lines (l : Language) (hcontainer : isIdentifier container = true)
    (hentity : isIdentifier entity = true) (source : Path) : ∃ rest,
      (builtIn l).renderContainer container entity source =
        .ok (textOfLines
          (l.containerHead container entity ++ l.sourceLine (sourceText source) :: rest)) := by
  obtain ⟨rest, hrest⟩ := l.exists_containerTemplate
  have hkeys : ∀ sub ∈ containerSubstitutions container entity source,
      '\n' ∉ sub.1.toList := by
    simp only [containerSubstitutions, List.forall_mem_cons]
    exact ⟨by decide, by decide, by decide, by simp⟩
  refine ⟨rest.map (fillString (containerSubstitutions container entity source)), ?_⟩
  have hlines := fillString_lines hkeys (l.containerHead Placeholder.container Placeholder.entity ++
      l.sourceLine Placeholder.source :: rest) ""
  rw [String.append_empty, fillString_empty, String.append_empty, List.map_append, List.map_cons,
    fill_containerHead, fill_sourceLine] at hlines
  rw [renderContainer_eq_ok _ hcontainer hentity, builtIn, hrest, hlines]

end Generator

/-! ## The literal -/

/-- What stands in the literal for the source in a declaration: what follows its opening quote, up
to the next double quote. -/
def sourceLiteral? (l : Language) (text : String) : Option (List Char) :=
  (after? (l.sourceAssignment.2.toList ++ ['"']) text.toList).map (·.takeWhile (· ≠ '"'))

namespace Generator

variable {container entity : String}

theorem quote_not_mem_containerHead (l : Language) (hcontainer : IsWord container)
    (hentity : IsWord entity) :
    ∀ line ∈ l.containerHead container entity, '"' ∉ line.toList := by
  have hcontainer := hcontainer.not_mem (c := '"') (by decide)
  have hentity := hentity.not_mem (c := '"') (by decide)
  unfold Language.containerHead
  refine List.forall_mem_append.mpr ⟨fun line hline =>
    l.not_mem_preamble (by decide) _ (List.mem_map_of_mem hline), ?_⟩
  cases l <;>
    simp only [List.forall_mem_cons, List.not_mem_nil, false_imp_iff, implies_true,
      String.toList_append, List.mem_append, not_or, hcontainer, hentity, not_false_eq_true,
      and_true] <;>
    decide +kernel

theorem sourceLiteral?_eq (l : Language) (hcontainer : IsWord container) (hentity : IsWord entity)
    (source : String) (rest : List String) :
    sourceLiteral? l
      (textOfLines (l.containerHead container entity ++ l.sourceLine source :: rest)) =
      some (source.toList.takeWhile (· ≠ '"')) := by
  have hhead : '"' ∉ textLines ((l.containerHead container entity).map String.toList) := by
    intro h
    rcases mem_textLines h with h | ⟨_, hmem, h⟩
    · exact absurd h (by decide)
    · obtain ⟨line, hline, rfl⟩ := List.mem_map.mp hmem
      exact quote_not_mem_containerHead l hcontainer hentity line hline h
  have hassignment : '"' ∉ l.sourceAssignment.1.toList ∧
      '"' ∉ l.sourceAssignment.2.toList := by
    cases l <;> decide
  have htext :
      (textOfLines (l.containerHead container entity ++ l.sourceLine source :: rest)).toList =
      textLines ((l.containerHead container entity).map String.toList) ++
        l.sourceAssignment.1.toList ++
        (l.sourceAssignment.2.toList ++ ['"'] ++ (source.toList ++ '"' :: (l.sourceEnd.toList ++
          '\n' :: textLines (rest.map String.toList)))) := by
    have hquote : "\"".toList = ['"'] := rfl
    rw [toList_textOfLines, List.map_append, List.map_cons, textLines_append, textLines_cons,
      Language.sourceLine]
    simp only [String.toList_append, List.append_assoc, List.cons_append, List.nil_append, hquote]
  have hbefore : '"' ∉ textLines ((l.containerHead container entity).map String.toList) ++
      l.sourceAssignment.1.toList :=
    fun h => (List.mem_append.mp h).elim hhead hassignment.1
  rw [sourceLiteral?, htext, after?_append hassignment.2 _ hbefore, Option.map_some,
    takeWhile_ne_append_cons]

theorem mem_sourceText {source : Path} {c : Char} (hslash : c ≠ '/') (hbackslash : c ≠ '\\') :
    c ∈ (sourceText source).toList ↔ c ∈ source.text.toList := by
  rw [sourceText, onChars, String.toList_ofList, List.mem_map]
  constructor
  · rintro ⟨d, hd, rfl⟩
    split at hslash
    · exact absurd rfl hslash
    · next hne => rwa [if_neg hne]
  · exact fun hc => ⟨c, hc, if_neg hbackslash⟩

/-- The declaration of a container from a built-in template has the path of the source in its
literal, with slashes in place of backslashes, up to the first double quote of the path. It is the
whole path, and without a line break, just when the path has neither. -/
theorem sourceLiteral?_renderContainer (l : Language) (container entity : String) (source : Path)
    (hcontainer : isIdentifier container = true) (hentity : isIdentifier entity = true) :
    ∃ text, (builtIn l).renderContainer container entity source = .ok text ∧
      sourceLiteral? l text = some ((sourceText source).toList.takeWhile (· ≠ '"')) ∧
      (sourceLiteral? l text = some (sourceText source).toList ∧
          IsLine (sourceText source).toList ↔
        '"' ∉ source.text.toList ∧ IsLine source.text.toList) := by
  obtain ⟨rest, hrender⟩ := renderContainer_eq_lines l hcontainer hentity source
  have hliteral := sourceLiteral?_eq l (.of_isIdentifier hcontainer) (.of_isIdentifier hentity)
    (sourceText source) rest
  have hwhole : (sourceText source).toList.takeWhile (· ≠ '"') = (sourceText source).toList ↔
      '"' ∉ source.text.toList := by
    rw [takeWhile_ne_eq_self_iff, mem_sourceText (by decide) (by decide)]
  have hline : IsLine (sourceText source).toList ↔ IsLine source.text.toList := by
    have hfeed := @mem_sourceText source '\n' (by decide) (by decide)
    have hreturn := @mem_sourceText source '\r' (by decide) (by decide)
    exact ⟨fun h => ⟨mt hfeed.mpr h.no_feed, mt hreturn.mpr h.no_return⟩,
      fun h => ⟨mt hfeed.mp h.no_feed, mt hreturn.mp h.no_return⟩⟩
  exact ⟨_, hrender, hliteral, by rw [hliteral, Option.some.injEq, hwhole, hline]⟩

/-- A path with the text of a placeholder in it is quoted as it is, but for its backslashes. -/
theorem sourceLiteral?_placeholder : ∃ text,
    (builtIn .rust).renderContainer "Scriptable_Items" "Entity_Items"
      ⟨"tables\\#ENTITYNAME#\\items.json"⟩ = .ok text ∧
      sourceLiteral? .rust text = some "tables/#ENTITYNAME#/items.json".toList := by
  obtain ⟨text, hrender, hliteral, -⟩ := sourceLiteral?_renderContainer .rust "Scriptable_Items"
    "Entity_Items" ⟨"tables\\#ENTITYNAME#\\items.json"⟩ (by decide) (by decide)
  exact ⟨text, hrender, hliteral.trans (by decide +kernel)⟩

/-- A double quote in a path ends the literal. -/
theorem sourceLiteral?_quote : ∃ text,
    (builtIn .csharp).renderContainer "Scriptable_Items" "Entity_Items"
      ⟨"tables/5\" nails.json"⟩ = .ok text ∧
      sourceLiteral? .csharp text = some "tables/5".toList ∧
      sourceLiteral? .csharp text ≠ some "tables/5\" nails.json".toList := by
  obtain ⟨rest, hrender⟩ :=
    @renderContainer_eq_lines "Scriptable_Items" "Entity_Items" .csharp (by decide)
    (by decide) ⟨"tables/5\" nails.json"⟩
  have hliteral :=
    @sourceLiteral?_eq "Scriptable_Items" "Entity_Items" .csharp (by decide) (by decide)
    (sourceText ⟨"tables/5\" nails.json"⟩) rest
  have htake : (sourceText ⟨"tables/5\" nails.json"⟩).toList.takeWhile (· ≠ '"') =
      "tables/5".toList := by
    decide +kernel
  rw [htake] at hliteral
  exact ⟨_, hrender, hliteral, by rw [hliteral]; decide⟩

end Generator

end TypedSheets
