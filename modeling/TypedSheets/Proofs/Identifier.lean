import TypedSheets.Declaration.Render
import TypedSheets.Proofs.Marker

/-!
# What a declaration names

A schema is rendered if the entity, the columns and the values of their enumerations are identifiers
(`Generator.renderEntity_eq_ok_iff`). The characters of an identifier are plain, so that the
descriptor of the schema can be written in marker lines, and the names that are made from
identifiers are words.
-/

namespace TypedSheets

open Text

/-! ## Identifiers -/

theorem isIdentifierChar_of_start {c : Char} (h : isIdentifierStart c = true) :
    isIdentifierChar c = true := by
  simp only [isIdentifierStart, isIdentifierChar, Char.isAlphanum, Bool.or_eq_true] at h ⊢
  exact h.imp .inl id

theorem isIdentifierChar_of_mem {name : String} (h : isIdentifier name = true) :
    ∀ c ∈ name.toList, isIdentifierChar c = true := by
  unfold isIdentifier at h
  split at h
  · cases h
  · next c rest hname =>
    rw [hname]
    obtain ⟨hc, hrest⟩ := Bool.and_eq_true_iff.mp h
    exact List.forall_mem_cons.mpr ⟨isIdentifierChar_of_start hc, List.all_eq_true.mp hrest⟩

theorem ne_empty_of_isIdentifier {name : String} (h : isIdentifier name = true) : name ≠ "" := by
  rintro rfl
  cases h

/-- The characters of identifiers are letters, digits and underscores of ASCII. -/
theorem toNat_of_isIdentifierChar {c : Char} (h : isIdentifierChar c = true) :
    (65 ≤ c.toNat ∧ c.toNat ≤ 90) ∨ (97 ≤ c.toNat ∧ c.toNat ≤ 122) ∨
      (48 ≤ c.toNat ∧ c.toNat ≤ 57) ∨ c.toNat = 95 := by
  change (((decide (65 ≤ c.val ∧ c.val ≤ 90) || decide (97 ≤ c.val) &&
    decide (c.val ≤ 122)) ||
    decide (48 ≤ c.val) && decide (c.val ≤ 57)) || c == '_') = true at h
  simp only [Bool.or_eq_true, Bool.and_eq_true, decide_eq_true_eq, beq_iff_eq,
    UInt32.le_iff_toNat_le] at h
  change (((65 ≤ c.toNat ∧ c.toNat ≤ 90) ∨ (97 ≤ c.toNat ∧ c.toNat ≤ 122)) ∨
    (48 ≤ c.toNat ∧ c.toNat ≤ 57)) ∨ c = '_' at h
  rcases h with ((h | h) | h) | rfl
  · exact .inl h
  · exact .inr (.inl h)
  · exact .inr (.inr (.inl h))
  · exact .inr (.inr (.inr rfl))

theorem isPlain_of_isIdentifierChar {c : Char} (h : isIdentifierChar c = true) : IsPlain c := by
  have hn := toNat_of_isIdentifierChar h
  refine ⟨?_, ?_, ?_⟩
  · rw [Bool.eq_false_iff]
    intro hblank
    simp only [isBlank, Bool.or_eq_true, Bool.and_eq_true, decide_eq_true_eq, beq_iff_eq] at hblank
    omega
  · rintro rfl
    exact absurd hn (by decide)
  · rintro rfl
    exact absurd hn (by decide)

theorem isPlain_of_isIdentifier {name : String} (h : isIdentifier name = true) :
    ∀ c ∈ name.toList, IsPlain c :=
  fun c hc => isPlain_of_isIdentifierChar (isIdentifierChar_of_mem h c hc)

/-! ## Columns -/

/-- What the declaration of a column names are identifiers. -/
structure Column.IsDeclarable (c : Column) : Prop where
  name : isIdentifier c.name = true
  domain : ∀ value ∈ c.type.domain?.getD [], isIdentifier value = true

theorem Column.IsDeclarable.isPlain_canonical {c : Column} (h : c.IsDeclarable) :
    ∀ d ∈ c.type.canonical.toList, IsPlain d := by
  have hdomain := h.domain
  cases htype : c.type with
  | enum domain =>
    have htag : ∀ d ∈ "enum|".toList, IsPlain d := isPlain_of_all (by decide)
    have hcomma : ∀ d ∈ ",".toList, IsPlain d := isPlain_of_all (by decide)
    rw [htype] at hdomain
    intro d hd
    simp only [ColumnType.canonical, String.toList_append, String.toList_intercalate,
      List.mem_append] at hd
    rcases hd with hd | hd
    · exact htag d hd
    · rcases mem_intercalate hd with hd | ⟨value, hvalue, hd⟩
      · exact hcomma d hd
      · obtain ⟨name, hname, rfl⟩ := List.mem_map.mp hvalue
        exact isPlain_of_isIdentifier (hdomain name hname) d hd
  | _ => exact isPlain_of_all (by decide)

namespace Generator

theorem checkDomain_eq_ok (column : String) : ∀ {domain : List String},
    checkDomain column domain = .ok () ↔ ∀ value ∈ domain, isIdentifier value = true
  | [] => by simp [checkDomain]
  | value :: rest => by
    rw [checkDomain, List.forall_mem_cons, ← checkDomain_eq_ok column]
    by_cases hvalue : isIdentifier value = true <;> simp [checkIdentifier, hvalue]

theorem checkColumns_eq_ok : ∀ {cols : List Column},
    checkColumns cols = .ok () ↔ ∀ c ∈ cols, c.IsDeclarable
  | [] => by simp [checkColumns]
  | c :: rest => by
    have hc : c.IsDeclarable ↔
        isIdentifier c.name = true ∧ checkDomain c.name (c.type.domain?.getD []) = .ok () := by
      rw [checkDomain_eq_ok]
      exact ⟨fun ⟨hname, hdomain⟩ => ⟨hname, hdomain⟩,
        fun ⟨hname, hdomain⟩ => ⟨hname, hdomain⟩⟩
    rw [checkColumns, List.forall_mem_cons, ← checkColumns_eq_ok, hc]
    by_cases hname : isIdentifier c.name = true
    · cases hdomain : checkDomain c.name (c.type.domain?.getD []) <;> simp [checkIdentifier, hname]
    · simp [checkIdentifier, hname]

/-- A schema is rendered under a name if all that its declaration names are identifiers. -/
theorem renderEntity_eq_ok_iff {g : Generator} {s : TableSchema} {entity text : String} :
    g.renderEntity s entity = .ok text ↔
      isIdentifier entity = true ∧ (∀ c ∈ s.columns, c.IsDeclarable) ∧
        fillString (entitySubstitutions g.language s entity) g.entityTemplate = text := by
  rw [← checkColumns_eq_ok, renderEntity]
  by_cases hentity : isIdentifier entity = true
  · cases hcolumns : checkColumns s.columns <;> simp [checkIdentifier, hentity]
  · simp [checkIdentifier, hentity]

/-- A descriptor whose entity and columns can be declared fits in marker lines. -/
theorem isPlain_of_isDeclarable {s : TableSchema} {entity : String}
    (hentity : isIdentifier entity = true) (hcols : ∀ c ∈ s.columns, c.IsDeclarable) :
    (Descriptor.mk entity s.names s.types).IsPlain where
  entity_ne := ne_empty_of_isIdentifier hentity
  lengths := by simp [TableSchema.names, TableSchema.types]
  entity := isPlain_of_isIdentifier hentity
  names name hname := by
    obtain ⟨c, hc, rfl⟩ := List.mem_map.mp hname
    exact isPlain_of_isIdentifier (hcols c hc).name
  types type htype := by
    obtain ⟨c, hc, rfl⟩ := List.mem_map.mp htype
    exact (hcols c hc).isPlain_canonical

end Generator

/-! ## Words -/

/-- The characters of the text may stand in an identifier. -/
def IsWord (s : String) : Prop :=
  ∀ c ∈ s.toList, isIdentifierChar c = true

instance (s : String) : Decidable (IsWord s) :=
  decidable_of_iff (s.toList.all isIdentifierChar = true) List.all_eq_true

namespace IsWord

variable {s t : String}

theorem of_isIdentifier (h : isIdentifier s = true) : IsWord s :=
  isIdentifierChar_of_mem h

theorem append (hs : IsWord s) (ht : IsWord t) : IsWord (s ++ t) := by
  intro c hc
  rw [String.toList_append] at hc
  exact (List.mem_append.mp hc).elim (hs c) (ht c)

theorem not_mem (h : IsWord s) {c : Char} (hc : isIdentifierChar c = false) : c ∉ s.toList :=
  fun hmem => absurd (h c hmem) (by simp [hc])

theorem isLine (h : IsWord s) : IsLine s.toList :=
  ⟨h.not_mem (by decide), h.not_mem (by decide)⟩

end IsWord

namespace Language

variable {entity : String} {c : Column}

theorem isWord_enumName (l : Language) (hentity : IsWord entity) (hc : IsWord c.name) :
    IsWord (l.enumName entity c.name) := by
  cases l with
  | csharp =>
    have hprefix : IsWord "enum_" := by decide
    exact hprefix.append hc
  | rust =>
    have hbar : IsWord "_" := by decide
    exact (hentity.append hbar).append hc

theorem isWord_fieldType (l : Language) (hentity : IsWord entity) (hc : IsWord c.name) :
    IsWord (l.fieldType entity c) := by
  have hkeyword : ∀ word ∈ ["int", "bool", "float", "string", "i64", "f64", "String"],
      IsWord word := by
    decide
  have hname := isWord_enumName l hentity hc
  obtain ⟨name, type⟩ := c
  cases type with
  | enum domain => cases l <;> exact hname
  | _ => cases l <;> exact hkeyword _ (by simp [fieldType])

end Language

end TypedSheets
