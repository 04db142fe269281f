import TypedSheets.Proofs.Separator
import TypedSheets.Proofs.TypeCell

/-!
# The grammar of type cells

A type cell declares a type just when its normal form is the written form of the type, and the
values, if the type is an enumeration, can be listed: there are some, they differ, and none is empty
or has a separator in it (`ColumnType.IsListable`). So every type has at most one normal form, its
written form, and no two types share one. What is no type is an ill-formed enumeration if the tag
before the first bar is the one of enumerations, and not supported otherwise
(`ColumnType.parsePieces_eq_error`).

Main statement: `ColumnType.parse_iff_canonical`.
-/

namespace TypedSheets

open Text

namespace ColumnType

/-- The values can be listed in a type cell. -/
structure IsListable (domain : List String) : Prop where
  ne_nil : domain ≠ []
  ne_empty : ∀ value ∈ domain, value ≠ ""
  nodup : domain.Nodup
  no_comma : ∀ value ∈ domain, ',' ∉ value.toList
  no_bar : ∀ value ∈ domain, '|' ∉ value.toList

/-- The values of an enumeration between commas. -/
def listText (domain : List String) : List Char :=
  [','].intercalate (domain.map String.toList)

theorem toList_canonical_enum (domain : List String) :
    (canonical (.enum domain)).toList = ['|'].intercalate ["enum".toList, listText domain] := by
  rw [canonical, String.toList_append, String.toList_intercalate, List.intercalate_cons_cons,
    List.intercalate_singleton]
  rfl

section

variable {domain : List String}

theorem IsListable.splitOn_listText (h : IsListable domain) :
    splitOn ',' (listText domain) = domain.map String.toList := by
  refine splitOn_intercalate (fun piece hpiece => ?_) (by simpa using h.ne_nil)
  obtain ⟨value, hvalue, rfl⟩ := List.mem_map.mp hpiece
  exact h.no_comma value hvalue

theorem IsListable.listText_ne_nil (h : IsListable domain) : listText domain ≠ [] := by
  obtain ⟨value, rest, rfl⟩ := List.exists_cons_of_ne_nil h.ne_nil
  intro hnil
  -- an empty list would be one empty value
  have hsplit := h.splitOn_listText
  rw [hnil] at hsplit
  obtain ⟨hvalue, -⟩ := List.cons.inj hsplit
  exact h.ne_empty value List.mem_cons_self (String.toList_eq_nil_iff.mp hvalue.symm)

theorem IsListable.bar_not_mem (h : IsListable domain) : '|' ∉ listText domain := by
  intro hmem
  rcases mem_intercalate hmem with hsep | ⟨piece, hpiece, hmem⟩
  · exact absurd hsep (by decide)
  · obtain ⟨value, hvalue, rfl⟩ := List.mem_map.mp hpiece
    exact h.no_bar value hvalue hmem

/-- A list of values that can be listed is read as these values. -/
theorem IsListable.parseDomain_listText (h : IsListable domain) :
    parseDomain (listText domain) = .ok domain := by
  have hvalues : (splitOn ',' (listText domain)).map String.ofList = domain := by
    rw [h.splitOn_listText, List.map_map]
    simp [Function.comp_def]
  have hcheck : checkValues [] domain = .ok () :=
    checkValues_eq_ok_iff.mpr
      ⟨h.nodup, fun value hvalue => ⟨h.ne_empty value hvalue, List.not_mem_nil⟩⟩
  rw [parseDomain, if_neg h.listText_ne_nil]
  simp only [hvalues, hcheck]
  rfl

/-- The values read from a list without bars can be listed. -/
theorem isListable_of_parseDomain {list : List Char} (hbar : '|' ∉ list)
    (h : parseDomain list = .ok domain) : IsListable domain := by
  obtain ⟨rfl, hcheck⟩ := parseDomain_eq_ok h
  obtain ⟨hnodup, hvalues⟩ := checkValues_eq_ok_iff.mp hcheck
  have hpiece : ∀ value ∈ (splitOn ',' list).map String.ofList,
      value.toList ∈ splitOn ',' list := by
    intro value hvalue
    obtain ⟨piece, hpiece, rfl⟩ := List.mem_map.mp hvalue
    rwa [String.toList_ofList]
  exact {
    ne_nil := by simp [splitOn_ne_nil]
    ne_empty := fun value hvalue => (hvalues value hvalue).1
    nodup := hnodup
    no_comma := fun value hvalue => not_mem_of_mem_splitOn (hpiece value hvalue)
    no_bar := fun value hvalue hmem => hbar (mem_of_mem_splitOn (hpiece value hvalue) hmem) }

end

variable {raw : String} {t : ColumnType}

theorem isListable_of_parse (h : parse raw = .ok t) {domain : List String}
    (hdomain : t.domain? = some domain) : IsListable domain := by
  rcases parsePieces_eq_ok h with ⟨-, hnone⟩ | ⟨list, values, hpieces, hvalues, rfl⟩
  · cases hnone.symm.trans hdomain
  · obtain rfl : values = domain := Option.some.inj hdomain
    refine isListable_of_parseDomain (not_mem_of_mem_splitOn (s := normal raw.toList) ?_) hvalues
    rw [hpieces]
    exact List.mem_cons_of_mem _ List.mem_cons_self

/-- A cell whose normal form is the written form of a type declares the type. -/
theorem parse_of_normal (hnormal : normal raw.toList = t.canonical.toList)
    (hdomain : ∀ domain, t.domain? = some domain → IsListable domain) : parse raw = .ok t := by
  rw [parse, hnormal]
  cases t with
  | enum domain =>
    have h := hdomain domain rfl
    have hpieces : splitOn '|' (canonical (.enum domain)).toList =
        ["enum".toList, listText domain] := by
      rw [toList_canonical_enum]
      refine splitOn_intercalate (fun piece hpiece => ?_) (List.cons_ne_nil _ _)
      simp only [List.mem_cons, List.not_mem_nil, or_false] at hpiece
      rcases hpiece with rfl | rfl
      · decide
      · exact h.bar_not_mem
    have htag : TypeTag.ofName? (String.ofList "enum".toList) = some .enum := by decide
    simp only [hpieces, parsePieces, htag, parseEnum, h.parseDomain_listText]
    rfl
  | _ => rfl

/-- Why a cell declares no type, by the tag before its first bar. -/
theorem parsePieces_eq_error {whole : String} {tag : List Char} {lists : List (List Char)}
    {e : TypeCellError} (h : parsePieces whole (tag :: lists) = .error e) :
    (tag = "enum".toList → ∃ fault, e = .illFormedEnum fault) ∧
      (tag ≠ "enum".toList → ∃ type, e = .unsupported type) := by
  simp only [parsePieces] at h
  cases htag : TypeTag.ofName? (String.ofList tag) with
  | none =>
    have hne : tag ≠ "enum".toList := by
      rintro rfl
      cases htag
    rw [htag] at h
    exact ⟨fun heq => absurd heq hne, fun _ => ⟨_, (Except.error.inj h).symm⟩⟩
  | some kind =>
    have hname : tag = kind.name.toList := by
      rw [TypeTag.name_of_ofName? htag, String.toList_ofList]
    simp only [htag] at h
    cases kind with
    | enum =>
      obtain ⟨fault, -, rfl⟩ := mapError_eq_error_iff.mp h
      exact ⟨fun _ => ⟨fault, rfl⟩, fun hne => absurd hname hne⟩
    | _ =>
      have hne : tag ≠ "enum".toList := by
        rw [hname]
        decide
      dsimp only at h
      split at h
      · exact ⟨fun heq => absurd heq hne, fun _ => ⟨_, (Except.error.inj h).symm⟩⟩
      · cases h

/-- A type cell declares a type just when its normal form is the written form of the type and the
values of an enumeration can be listed. The written form then declares the type again, and no other
type that a cell declares has the same. A cell that declares no type is an ill-formed enumeration if
the tag before its first bar is the one of enumerations, and otherwise not supported. -/
theorem parse_iff_canonical (raw : String) :
    (∀ t, parse raw = .ok t ↔ normal raw.toList = t.canonical.toList ∧
        ∀ domain, t.domain? = some domain → IsListable domain) ∧
      (∀ t, parse raw = .ok t → parse t.canonical = .ok t ∧
        ∀ other u, parse other = .ok u → t.canonical = u.canonical → t = u) ∧
      ∀ e, parse raw = .error e →
        ((normal raw.toList).takeWhile (· ≠ '|') = "enum".toList →
          ∃ fault, e = .illFormedEnum fault) ∧
        ((normal raw.toList).takeWhile (· ≠ '|') ≠ "enum".toList →
          ∃ type, e = .unsupported type) := by
  refine ⟨fun t => ⟨fun h => ?_, fun h => parse_of_normal h.1 h.2⟩, fun t h => ?_,
    fun e h => ?_⟩
  · exact ⟨(canonical_of_parse h).symm, fun domain hdomain => isListable_of_parse h hdomain⟩
  · have hdeclared : t.IsDeclared := ⟨raw, h⟩
    exact ⟨hdeclared.parse_canonical,
      fun other u hu => hdeclared.eq_of_canonical_eq ⟨other, hu⟩⟩
  · obtain ⟨pieces, hpieces⟩ := exists_splitOn_eq_cons '|' (normal raw.toList)
    rw [parse, hpieces] at h
    exact parsePieces_eq_error h

/-- The values that two spellings of a type cell declare. -/
def shades : List String :=
  ["lightblue", "red"]

/-- A cell in capital letters and with blanks declares an enumeration, whose written form declares
it too; a second bar makes an enumeration ill-formed, and a bar another type not supported. -/
theorem parse_shades :
    parse "ENUM | Light Blue , Red" = .ok (.enum shades) ∧
      parse "enum|lightblue,red" = .ok (.enum shades) ∧
      (∃ fault, parse "Enum | red | blue" = .error (.illFormedEnum fault)) ∧
      ∃ type, parse "Int | red" = .error (.unsupported type) := by
  have hshades : IsListable shades :=
    ⟨by decide, by decide, by decide, by decide +kernel, by decide +kernel⟩
  have hparse := ((parse_iff_canonical "ENUM | Light Blue , Red").1 (.enum shades)).mpr
    ⟨by decide +kernel, fun domain hdomain => Option.some.inj hdomain ▸ hshades⟩
  obtain ⟨hcanonical, -⟩ := (parse_iff_canonical "ENUM | Light Blue , Red").2.1 _ hparse
  have hbars : ∃ e, parse "Enum | red | blue" = .error e := ⟨_, rfl⟩
  have hint : ∃ e, parse "Int | red" = .error e := ⟨_, rfl⟩
  obtain ⟨e, he⟩ := hbars
  obtain ⟨e', he'⟩ := hint
  obtain ⟨fault, rfl⟩ :=
    ((parse_iff_canonical "Enum | red | blue").2.2 e he).1 (by decide +kernel)
  obtain ⟨type, rfl⟩ := ((parse_iff_canonical "Int | red").2.2 e' he').2 (by decide +kernel)
  exact ⟨hparse, hcanonical, ⟨fault, he⟩, type, he'⟩

end ColumnType

end TypedSheets
