import TypedSheets.Descriptor.Marker
import TypedSheets.Proofs.QuotedList
import TypedSheets.Proofs.Split

/-!
# Reading marker lines back

The lines of a text that is written line by line are these lines (`lines_textLines`), and the word
that follows a marker on its line is found if the marker begins nowhere before (`after?_append`). A
text whose first lines are without markers, and are followed by the three marker lines of a
descriptor, therefore gives this descriptor.

Main statement: `Descriptor.extract?_of_lines`.
-/

namespace TypedSheets

open Text

namespace Text

/-! ## Lines -/

/-- The characters of lines that each end with a line feed. -/
def textLines (ls : List (List Char)) : List Char :=
  (ls.map (· ++ ['\n'])).flatten

theorem textLines_append (ls ms : List (List Char)) :
    textLines (ls ++ ms) = textLines ls ++ textLines ms := by
  simp [textLines]

theorem textLines_cons (line : List Char) (ls : List (List Char)) :
    textLines (line :: ls) = line ++ '\n' :: textLines ls := by
  simp [textLines]

theorem mem_textLines {c : Char} {ls : List (List Char)} (h : c ∈ textLines ls) :
    c = '\n' ∨ ∃ line ∈ ls, c ∈ line := by
  obtain ⟨_, hpiece, hc⟩ := List.mem_flatten.mp h
  obtain ⟨line, hline, rfl⟩ := List.mem_map.mp hpiece
  rcases List.mem_append.mp hc with hc | hc
  · exact .inr ⟨line, hline, hc⟩
  · exact .inl (List.mem_singleton.mp hc)

/-- The text has no line break. -/
structure IsLine (s : List Char) : Prop where
  no_feed : '\n' ∉ s
  no_return : '\r' ∉ s

theorem IsLine.append {s t : List Char} (hs : IsLine s) (ht : IsLine t) : IsLine (s ++ t) where
  no_feed h := (List.mem_append.mp h).elim hs.no_feed ht.no_feed
  no_return h := (List.mem_append.mp h).elim hs.no_return ht.no_return

theorem IsLine.of_not_blank {s : List Char} (h : ∀ c ∈ s, isBlank c = false) : IsLine s where
  no_feed hc := absurd (h _ hc) (by decide)
  no_return hc := absurd (h _ hc) (by decide)

theorem IsLine.dropReturn {s : List Char} (h : IsLine s) : dropReturn s = s := by
  have hlast : s.getLast? ≠ some '\r' := fun hlast => h.no_return (List.mem_of_getLast? hlast)
  rw [Text.dropReturn, if_neg hlast]

theorem lines_cons {line : List Char} (h : IsLine line) (rest : List Char) :
    lines (line ++ '\n' :: rest) = line :: lines rest := by
  have hsplit : splitOn '\n' (line ++ '\n' :: rest) = line :: splitOn '\n' rest := by
    rw [splitOn_eq, splitOn_eq, List.splitOn_append_cons_self_of_not_mem h.no_feed]
  obtain ⟨piece, pieces, hpieces⟩ := List.exists_cons_of_ne_nil (splitOn_ne_nil '\n' rest)
  simp only [lines, hsplit, hpieces, List.dropLast_cons_cons, List.map_cons, h.dropReturn,
    List.length_cons, Nat.add_sub_cancel, List.drop_succ_cons, List.cons_append]

theorem lines_textLines (rest : List Char) :
    ∀ {ls : List (List Char)}, (∀ line ∈ ls, IsLine line) →
    lines (textLines ls ++ rest) = ls ++ lines rest
  | [], _ => rfl
  | line :: ls, h => by
    obtain ⟨hline, hls⟩ := List.forall_mem_cons.mp h
    rw [textLines_cons, List.append_assoc, List.cons_append, lines_cons hline,
      lines_textLines rest hls, List.cons_append]

/-! ## Words -/

theorem after?_eq_none {word : List Char} {c : Char} (hc : c ∈ word) :
    ∀ {s : List Char}, c ∉ s →
    after? word s = none
  | [], _ => by rw [after?, if_neg (List.ne_nil_of_mem hc)]
  | d :: s, h => by
    have hprefix : ¬word.isPrefixOf (d :: s) = true := by
      rw [List.isPrefixOf_iff_prefix]
      exact fun hword => h (hword.subset hc)
    rw [after?, if_neg hprefix, after?_eq_none hc fun hs => h (List.mem_cons_of_mem d hs)]

/-! ## Plain characters -/

/-- A character that belongs to a word, but neither to a marker nor to the quotes of a list. -/
structure IsPlain (c : Char) : Prop where
  not_blank : isBlank c = false
  ne_quote : c ≠ '"'
  ne_colon : c ≠ ':'

instance (c : Char) : Decidable (IsPlain c) :=
  decidable_of_iff (isBlank c = false ∧ c ≠ '"' ∧ c ≠ ':')
    ⟨fun ⟨hb, hq, hc⟩ => ⟨hb, hq, hc⟩, fun ⟨hb, hq, hc⟩ => ⟨hb, hq, hc⟩⟩

theorem isPlain_of_all {s : List Char} (h : s.all (fun c => decide (IsPlain c)) = true) :
    ∀ c ∈ s, IsPlain c := by
  simpa using h

section

variable {items : List String} (h : ∀ item ∈ items, ∀ c ∈ item.toList, IsPlain c)

include h

theorem not_mem_quoteList {c : Char} (hc : c ∉ ['"', ',', ' ']) (hplain : ¬IsPlain c) :
    c ∉ quoteList (items.map String.toList) := by
  intro hmem
  rcases mem_quoteList hmem with hsep | ⟨item, hitem, hmem⟩
  · exact hc hsep
  · obtain ⟨s, hs, rfl⟩ := List.mem_map.mp hitem
    exact hplain (h s hs c hmem)

theorem isLine_quoteList : IsLine (quoteList (items.map String.toList)) where
  no_feed := not_mem_quoteList h (by decide) fun hplain => absurd hplain.not_blank (by decide)
  no_return := not_mem_quoteList h (by decide) fun hplain => absurd hplain.not_blank (by decide)

theorem colon_not_mem_quoteList : ':' ∉ quoteList (items.map String.toList) :=
  not_mem_quoteList h (by decide) fun hplain => hplain.ne_colon rfl

end

end Text

/-! ## Descriptors -/

/-- The three markers. -/
def Marker.all : List String :=
  [entity, names, types]

theorem Marker.colon_mem : ∀ m ∈ Marker.all, ':' ∈ m.toList := by
  decide

/-- The line of a declaration that gives the value of a marker. -/
def markerLine (marker value : List Char) : List Char :=
  "// ".toList ++ (marker ++ ' ' :: value)

/-- The marker lines of a descriptor. -/
def Descriptor.markerLines (d : Descriptor) : List (List Char) := [
  markerLine Marker.entity.toList d.entity.toList,
  markerLine Marker.names.toList (quoteList (d.names.map String.toList)),
  markerLine Marker.types.toList (quoteList (d.types.map String.toList))]

/-- The descriptor can be written in marker lines. -/
structure Descriptor.IsPlain (d : Descriptor) : Prop where
  entity_ne : d.entity ≠ ""
  lengths : d.names.length = d.types.length
  entity : ∀ c ∈ d.entity.toList, Text.IsPlain c
  names : ∀ name ∈ d.names, ∀ c ∈ name.toList, Text.IsPlain c
  types : ∀ type ∈ d.types, ∀ c ∈ type.toList, Text.IsPlain c

/-! ## Finding values -/

/-- The marker of a line is found on it, with the value behind it. -/
theorem valueOnLine?_own {marker : String} (h : marker ∈ Marker.all) (value : List Char) :
    valueOnLine? marker.toList (markerLine marker.toList value) = some (trim value) := by
  have hafter : after? marker.toList (markerLine marker.toList value) = some (' ' :: value) := by
    simp only [Marker.all, List.mem_cons, List.not_mem_nil, or_false] at h
    rcases h with rfl | rfl | rfl <;> rfl
  rw [valueOnLine?, hafter, ← trim_cons (c := ' ') (by decide) value]
  rfl

/-- No other marker is found on the line of a marker: markers differ, and the value has no colon. -/
theorem valueOnLine?_other {marker other : String} (h : marker ∈ Marker.all)
    (ho : other ∈ Marker.all) (hne : marker ≠ other) {value : List Char}
    (hcolon : ':' ∉ value) :
    valueOnLine? marker.toList (markerLine other.toList value) = none := by
  have hafter : after? marker.toList (markerLine other.toList value) =
      after? marker.toList value := by
    simp only [Marker.all, List.mem_cons, List.not_mem_nil, or_false] at h ho
    rcases h with rfl | rfl | rfl <;> rcases ho with rfl | rfl | rfl <;>
      first | exact absurd rfl hne | rfl
  rw [valueOnLine?, hafter, after?_eq_none (Marker.colon_mem marker h) hcolon]

namespace Descriptor

variable {d : Descriptor} {text : String} {before : List (List Char)} {rest : List Char}

theorem IsPlain.isLine_markerLines (h : d.IsPlain) : ∀ line ∈ d.markerLines, IsLine line := by
  have hline : ∀ {marker value : List Char}, IsLine marker → IsLine value →
      IsLine (markerLine marker value) := by
    intro marker value hmarker hvalue
    have hblank : IsLine [' '] := ⟨by decide, by decide⟩
    exact .append ⟨by decide, by decide⟩ (hmarker.append (hblank.append hvalue))
  simp only [markerLines, List.mem_cons, List.not_mem_nil, or_false]
  rintro line (rfl | rfl | rfl)
  · exact hline ⟨by decide, by decide⟩ (.of_not_blank fun c hc => (h.entity c hc).not_blank)
  · exact hline ⟨by decide, by decide⟩ (isLine_quoteList h.names)
  · exact hline ⟨by decide, by decide⟩ (isLine_quoteList h.types)

/-- The values found in a text whose first lines have no marker and are followed by the marker lines
of a descriptor. -/
theorem markerValue?_of_lines (h : d.IsPlain)
    (hbefore : ∀ line ∈ before, IsLine line ∧ ∀ m ∈ Marker.all,
      valueOnLine? m.toList line = none)
        (htext : text.toList = textLines (before ++ d.markerLines) ++ rest) :
    markerValue? Marker.entity text = some d.entity ∧
      markerValue? Marker.names text = some (quoteStrings d.names) ∧
        markerValue? Marker.types text = some (quoteStrings d.types) := by
  have hlines : lines text.toList = before ++ d.markerLines ++ lines rest := by
    rw [htext]
    refine lines_textLines rest fun line hline => ?_
    exact (List.mem_append.mp hline).elim (fun hb => (hbefore line hb).1)
      (h.isLine_markerLines line)
  have hskip : ∀ m ∈ Marker.all, markerValue? m text =
      ((d.markerLines ++ lines rest).findSome? (valueOnLine? m.toList)).map String.ofList := by
    intro m hm
    have hnone : before.findSome? (valueOnLine? m.toList) = none :=
      List.findSome?_eq_none_iff.mpr fun line hline => (hbefore line hline).2 m hm
    rw [markerValue?, hlines, List.append_assoc, List.findSome?_append, hnone, Option.none_or]
  obtain ⟨he, hn, ht⟩ : Marker.entity ∈ Marker.all ∧ Marker.names ∈ Marker.all ∧
    Marker.types ∈ Marker.all := by decide
  have hentity : trim d.entity.toList = d.entity.toList :=
    trim_of_not_blank fun c hc => (h.entity c hc).not_blank
  have hcolon : ':' ∉ d.entity.toList := fun hc => (h.entity _ hc).ne_colon rfl
  have hcolons := colon_not_mem_quoteList h.names
  refine ⟨?_, ?_, ?_⟩
  · rw [hskip _ he, markerLines, List.cons_append, List.findSome?_cons, valueOnLine?_own he,
      hentity]
    simp
  · rw [hskip _ hn, markerLines, List.cons_append, List.findSome?_cons,
      valueOnLine?_other hn he (by decide) hcolon, List.cons_append, List.findSome?_cons,
      valueOnLine?_own hn, trim_quoteList]
    rfl
  · rw [hskip _ ht, markerLines, List.cons_append, List.findSome?_cons,
      valueOnLine?_other ht he (by decide) hcolon, List.cons_append, List.findSome?_cons,
      valueOnLine?_other ht hn (by decide) hcolons, List.cons_append, List.findSome?_cons,
      valueOnLine?_own ht, trim_quoteList]
    rfl

/-- A descriptor is read back from a text whose first lines have no marker and are followed by the
marker lines of the descriptor, whatever comes after them. -/
theorem extract?_of_lines (h : d.IsPlain)
    (hbefore : ∀ line ∈ before, IsLine line ∧ ∀ m ∈ Marker.all,
      valueOnLine? m.toList line = none)
        (htext : text.toList = textLines (before ++ d.markerLines) ++ rest) :
    extract? text = some d := by
  obtain ⟨hentity, hnames, htypes⟩ := markerValue?_of_lines h hbefore htext
  have hreadNames := unquoteStrings?_quoteStrings fun name hname hc =>
    (h.names name hname _ hc).ne_quote rfl
  have hreadTypes := unquoteStrings?_quoteStrings fun type htype hc =>
    (h.types type htype _ hc).ne_quote rfl
  simp [extract?, hentity, hnames, htypes, hreadNames, hreadTypes, h.entity_ne, h.lengths]

end Descriptor

end TypedSheets
