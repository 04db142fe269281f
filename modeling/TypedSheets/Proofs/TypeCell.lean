import TypedSheets.Proofs.Lowercase
import TypedSheets.Proofs.Results
import TypedSheets.Proofs.Split
import TypedSheets.Schema.TypeCell

/-!
# The written form of a type

A type cell that declares a type is, but for blank characters and letter case, the written form of
that type (`ColumnType.canonical_of_parse`). The written form therefore declares the type again
(`ColumnType.IsDeclared.parse_canonical`), and two types that cells declare differ in their written
forms (`ColumnType.IsDeclared.eq_of_canonical_eq`). An enumeration that a cell declares has values
(`ColumnType.IsDeclared.domain_ne_nil`) and repeats none (`ColumnType.IsDeclared.nodup_domain`).
-/

namespace TypedSheets

open Text

/-- In a list without repetitions a text is found at its position. -/
theorem findIdx?_eq_some_of_nodup {values : List String} (hnodup : values.Nodup) {i : Nat}
    {value : String} (h : values[i]? = some value) : values.findIdx? (· == value) = some i := by
  obtain ⟨hi, rfl⟩ := List.getElem?_eq_some_iff.mp h
  refine List.findIdx?_eq_some_iff_getElem.mpr ⟨hi, beq_self_eq_true _, fun j hj => ?_⟩
  have hne : values[j] ≠ values[i] := List.pairwise_iff_getElem.mp hnodup j i _ hi hj
  simpa using hne

theorem TypeTag.name_of_ofName? {name : String} {tag : TypeTag} (h : ofName? name = some tag) :
    tag.name = name := by
  simpa using List.find?_some h

namespace ColumnType

theorem squeeze_normal (cell : List Char) : squeeze (normal cell) = normal cell :=
  squeeze_lowercase fun c hc => by simpa using (List.mem_filter.mp hc).2

theorem normal_normal (cell : List Char) : normal (normal cell) = normal cell := by
  rw [normal, squeeze_normal, normal, lowercase_lowercase]

theorem parseDomain_eq_ok {list : List Char} {domain : List String}
    (h : parseDomain list = .ok domain) :
    domain = (splitOn ',' list).map String.ofList ∧ checkValues [] domain = .ok () := by
  unfold parseDomain at h
  split at h
  · cases h
  · obtain ⟨_, hcheck, rfl⟩ := map_eq_ok_iff.mp h
    exact ⟨rfl, hcheck⟩

/-- The values of an enumeration pass the check if they differ, none is empty and none was there
before. -/
theorem checkValues_eq_ok_iff :
    ∀ {values seen : List String}, checkValues seen values = .ok () ↔
    values.Nodup ∧ ∀ value ∈ values, value ≠ "" ∧ value ∉ seen
  | [], seen => by simp [checkValues]
  | value :: rest, seen => by
    rw [checkValues, List.nodup_cons, List.forall_mem_cons]
    by_cases hempty : value = ""
    · simp [hempty]
    by_cases hseen : value ∈ seen
    · simp [hempty, hseen]
    rw [if_neg hempty, if_neg hseen, checkValues_eq_ok_iff]
    simp only [List.mem_cons, not_or]
    constructor
    · rintro ⟨hnodup, hrest⟩
      have hnew : value ∉ rest := fun hmem => (hrest value hmem).2.1 rfl
      exact ⟨⟨hnew, hnodup⟩, ⟨hempty, hseen⟩, fun other hother =>
        ⟨(hrest other hother).1, (hrest other hother).2.2⟩⟩
    · rintro ⟨⟨hnew, hnodup⟩, -, hrest⟩
      exact ⟨hnodup, fun other hother => ⟨(hrest other hother).1,
        ne_of_mem_of_not_mem hother hnew, (hrest other hother).2⟩⟩

theorem parseEnum_eq_ok {lists : List (List Char)} {domain : List String}
    (h : parseEnum lists = .ok domain) :
    ∃ list, lists = [list] ∧ parseDomain list = .ok domain := by
  match lists, h with
  | [list], h => exact ⟨list, rfl, h⟩

/-- What a type cell cut at its bars consists of when it declares a type: the tag alone, or for an
enumeration the tag and the values with commas between them. -/
theorem parsePieces_eq_ok {whole : String} {pieces : List (List Char)} {t : ColumnType}
    (h : parsePieces whole pieces = .ok t) :
    (pieces = [t.canonical.toList] ∧ t.domain? = none) ∨
      ∃ list domain, pieces = ["enum".toList, list] ∧ parseDomain list = .ok domain ∧
        t = .enum domain := by
  match pieces, h with
  | tag :: lists, h =>
    simp only [parsePieces] at h
    cases htag : TypeTag.ofName? (String.ofList tag) with
    | none => simp [htag] at h
    | some kind =>
      have hname : tag = kind.name.toList := by
        rw [TypeTag.name_of_ofName? htag, String.toList_ofList]
      simp only [htag] at h
      cases kind with
      | enum =>
        right
        obtain ⟨domain, henum, rfl⟩ := map_eq_ok_iff.mp (mapError_eq_ok_iff.mp h)
        obtain ⟨list, rfl, hdomain⟩ := parseEnum_eq_ok henum
        exact ⟨list, domain, by rw [hname]; rfl, hdomain, rfl⟩
      | _ =>
        left
        dsimp only at h
        split at h
        · cases h
        · next hlists =>
          obtain rfl := Except.ok.inj h
          rw [Decidable.not_not.mp hlists, hname]
          exact ⟨rfl, rfl⟩

theorem canonical_of_parse {cell : String} {t : ColumnType} (h : parse cell = .ok t) :
    t.canonical.toList = normal cell.toList := by
  have hwhole := intercalate_splitOn '|' (normal cell.toList)
  rcases parsePieces_eq_ok h with ⟨hpieces, -⟩ | ⟨list, domain, hpieces, hdomain, rfl⟩
  · rw [hpieces] at hwhole
    simpa using hwhole
  · rw [hpieces] at hwhole
    obtain rfl := (parseDomain_eq_ok hdomain).1
    have hlist : (canonical (.enum ((splitOn ',' list).map String.ofList))).toList =
        "enum|".toList ++ list := by
      simp only [canonical, String.toList_append, String.toList_intercalate, List.map_map,
        Function.comp_def, String.toList_ofList, List.map_id']
      rw [show ",".toList = [','] from rfl, intercalate_splitOn]
    rw [hlist, ← hwhole]
    simp

/-- Some type cell declares the type. -/
def IsDeclared (t : ColumnType) : Prop :=
  ∃ cell, parse cell = .ok t

variable {t u : ColumnType}

/-- The written form of a declared type declares it. -/
theorem IsDeclared.parse_canonical (ht : t.IsDeclared) : parse t.canonical = .ok t := by
  obtain ⟨cell, h⟩ := ht
  have hcanonical := canonical_of_parse h
  unfold parse at h ⊢
  rw [hcanonical, normal_normal]
  exact h

/-- Declared types with one written form are equal. -/
theorem IsDeclared.eq_of_canonical_eq (ht : t.IsDeclared) (hu : u.IsDeclared)
    (h : t.canonical = u.canonical) : t = u :=
  Except.ok.inj (ht.parse_canonical.symm.trans (h ▸ hu.parse_canonical))

/-- A declared enumeration has values. -/
theorem IsDeclared.domain_ne_nil (ht : t.IsDeclared) : t.domain? ≠ some [] := by
  obtain ⟨cell, h⟩ := ht
  rcases parsePieces_eq_ok h with ⟨-, hdomain⟩ | ⟨list, domain, -, hdomain, rfl⟩
  · simp [hdomain]
  · obtain rfl := (parseDomain_eq_ok hdomain).1
    intro hnil
    exact splitOn_ne_nil ',' list (List.map_eq_nil_iff.mp (Option.some.inj hnil))

/-- A declared enumeration repeats no value. -/
theorem IsDeclared.nodup_domain {domain : List String} (ht : t.IsDeclared)
    (hdomain : t.domain? = some domain) : domain.Nodup := by
  obtain ⟨cell, h⟩ := ht
  rcases parsePieces_eq_ok h with ⟨-, hnone⟩ | ⟨list, values, -, hvalues, rfl⟩
  · cases hnone.symm.trans hdomain
  · obtain rfl : values = domain := Option.some.inj hdomain
    exact (checkValues_eq_ok_iff.mp (parseDomain_eq_ok hvalues).2).1

end ColumnType

end TypedSheets
