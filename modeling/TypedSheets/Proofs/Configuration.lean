import Mathlib.Data.List.Forall2
import TypedSheets.Importer.Config
import TypedSheets.Proofs.FileName
import TypedSheets.Proofs.Results

/-!
# Valid configurations

A configuration is valid if its prefixes are two identifiers and the extensions that it lists are
neither empty nor begin with a dot (`Config.validate_eq_ok_iff`). It handles the paths that have one
of these extensions in any letter case (`Config.handles_eq_true_iff`). No path has an extension with
a dot or a slash in it, whereas a valid configuration may list one. Such an extension is as good as
not listed; every other is one that sources can have.

Main statement: `Config.handles_configured`.
-/

namespace TypedSheets

open FileTree

/-! ## Letter case -/

/-- One text is the other, but for the case of letters of ASCII. -/
def SameLetters (s t : String) : Prop :=
  List.Forall₂ (fun c d => d = c ∨ d = c.toLower ∨ d = c.toUpper) s.toList t.toList

instance (s t : String) : Decidable (SameLetters s t) :=
  inferInstanceAs (Decidable (List.Forall₂ _ _ _))

theorem toNat_toLower (c : Char) :
    c.toLower.toNat = if 65 ≤ c.toNat ∧ c.toNat ≤ 90 then c.toNat + 32 else c.toNat := by
  have hrange : (c.val ≥ 'A'.val ∧ c.val ≤ 'Z'.val) ↔
      65 ≤ c.toNat ∧ c.toNat ≤ 90 := by
    simp only [ge_iff_le, UInt32.le_iff_toNat_le]
    rfl
  unfold Char.toLower
  split
  · next h =>
    obtain ⟨hge, hle⟩ := hrange.mp h
    rw [if_pos ⟨hge, hle⟩]
    change (c.val + 32).toNat = _
    rw [UInt32.toNat_add]
    change (c.toNat + 32) % 2 ^ 32 = _
    omega
  · next h => rw [if_neg (mt hrange.mpr h)]

theorem toNat_toUpper (c : Char) :
    c.toUpper.toNat = if 97 ≤ c.toNat ∧ c.toNat ≤ 122 then c.toNat - 32 else c.toNat := by
  have hrange : ('a'.val ≤ c.val ∧ c.val ≤ 'z'.val) ↔
      97 ≤ c.toNat ∧ c.toNat ≤ 122 := by
    simp only [UInt32.le_iff_toNat_le]
    rfl
  unfold Char.toUpper
  split
  · next h =>
    obtain ⟨hge, hle⟩ := hrange.mp h
    rw [if_pos ⟨hge, hle⟩]
    -- 32 less, the words wrapping around
    change (c.val + 4294967264).toNat = _
    rw [UInt32.toNat_add]
    change (c.toNat + 4294967264) % 2 ^ 32 = _
    omega
  · next h => rw [if_neg (mt hrange.mpr h)]

theorem toLower_eq_toLower_iff {c d : Char} :
    c.toLower = d.toLower ↔ d = c ∨ d = c.toLower ∨ d = c.toUpper := by
  simp only [← Char.toNat_inj, toNat_toLower, toNat_toUpper]
  split <;> split <;> split <;> omega

theorem sameIgnoringCase_iff {s t : String} : sameIgnoringCase s t = true ↔ SameLetters s t := by
  rw [sameIgnoringCase, beq_iff_eq, ← List.forall₂_eq_eq_eq, List.forall₂_map_left_iff,
    List.forall₂_map_right_iff]
  simp only [toLower_eq_toLower_iff]
  rfl

/-- Characters below the letters are in both texts or in neither. -/
theorem SameLetters.mem_iff {s t : String} (h : SameLetters s t) {c : Char} (hc : c.toNat < 65) :
    c ∈ s.toList ↔ c ∈ t.toList := by
  have hfixed : ∀ d : Char, d.toLower = c ↔ d = c := by
    intro d
    rw [← Char.toNat_inj, ← Char.toNat_inj, toNat_toLower]
    split <;> omega
  have hmem : ∀ chars : List Char, c ∈ chars.map Char.toLower ↔ c ∈ chars := by
    simp [List.mem_map, hfixed]
  have hlower : s.toList.map Char.toLower = t.toList.map Char.toLower :=
    beq_iff_eq.mp (sameIgnoringCase_iff.mpr h)
  rw [← hmem, hlower, hmem]

/-! ## Extensions that a path can have -/

/-- The extension has neither a dot nor a slash in it. -/
structure IsExtension (ext : String) : Prop where
  no_dot : '.' ∉ ext.toList
  no_slash : '/' ∉ ext.toList

instance (ext : String) : Decidable (IsExtension ext) :=
  decidable_of_iff ('.' ∉ ext.toList ∧ '/' ∉ ext.toList)
    ⟨fun ⟨hdot, hslash⟩ => ⟨hdot, hslash⟩, fun h => ⟨h.no_dot, h.no_slash⟩⟩

theorem SameLetters.isExtension_iff {s t : String} (h : SameLetters s t) :
    IsExtension s ↔ IsExtension t := by
  have hdot := h.mem_iff (c := '.') (by decide)
  have hslash := h.mem_iff (c := '/') (by decide)
  constructor
  · exact fun hs => ⟨mt hdot.mpr hs.no_dot, mt hslash.mpr hs.no_slash⟩
  · exact fun ht => ⟨mt hdot.mp ht.no_dot, mt hslash.mp ht.no_slash⟩

theorem Path.HasExtension.isExtension {p : Path} {ext : String} (h : p.HasExtension ext) :
    IsExtension ext := by
  obtain ⟨stem, -, hdot, -, -, -, -, -, hname⟩ := h
  exact ⟨hdot, fun hslash => hname.no_slash (by simp [hslash])⟩

theorem isName_stem_extension {stem ext : String} (hstem : stem ≠ "")
    (hslash : '/' ∉ stem.toList) (hext : IsExtension ext) (hne : ext ≠ "") :
    IsName (stem ++ "." ++ ext) := by
  -- neither nothing nor dots only, which have fewer characters
  have hlength : 3 ≤ (stem ++ "." ++ ext).length := by
    have hstem' : 0 < stem.length :=
      Nat.pos_of_ne_zero fun h => hstem (String.length_eq_zero_iff.mp h)
    have hext' : 0 < ext.length := Nat.pos_of_ne_zero fun h => hne (String.length_eq_zero_iff.mp h)
    rw [String.length_append, String.length_append]
    change 3 ≤ stem.length + 1 + ext.length
    omega
  refine ⟨by simp [hslash, hext.no_slash], ?_, ?_, ?_⟩ <;>
  · intro h
    rw [h] at hlength
    exact absurd hlength (by decide)

/-- A file whose name is a stem, a dot and an extension has that extension in any directory. -/
theorem Path.hasExtension_join (dir : Path) {stem ext : String} (hstem : stem ≠ "")
    (hslash : '/' ∉ stem.toList) (hext : IsExtension ext) (hne : ext ≠ "") :
    (dir.join (stem ++ "." ++ ext)).HasExtension ext :=
  ⟨stem, hstem, hext.no_dot,
    fileName?_eq_some_iff.mp (fileName?_join (isName_stem_extension hstem hslash hext hne))⟩

namespace Config

variable {c : Config} {p : Path} {ext : String}

/-! ## Validity -/

theorem checkExtensions_eq_ok_iff : ∀ {exts : List String}, checkExtensions exts = .ok () ↔
    ∀ ext ∈ exts, ext ≠ "" ∧ ext.toList.head? ≠ some '.'
  | [] => by simp [checkExtensions]
  | ext :: rest => by
    rw [checkExtensions, ite_error_eq_ok_iff, checkExtensions_eq_ok_iff,
      List.forall_mem_cons, not_or]

theorem validate_eq_ok_iff : c.validate = .ok () ↔
    isIdentifier c.entityPrefix = true ∧ isIdentifier c.containerPrefix = true ∧
      c.entityPrefix ≠ c.containerPrefix ∧ c.sourceExtensions ≠ [] ∧
      ∀ ext ∈ c.sourceExtensions, ext ≠ "" ∧ ext.toList.head? ≠ some '.' := by
  simp only [validate, ite_error_eq_ok_iff, checkExtensions_eq_ok_iff, Bool.not_eq_true',
    Bool.not_eq_false, ne_eq]

theorem prefixes_of_validate (h : c.validate = .ok ()) :
    isIdentifier c.entityPrefix = true ∧ isIdentifier c.containerPrefix = true ∧
      c.entityPrefix ≠ c.containerPrefix := by
  obtain ⟨hentity, hcontainer, hdiffer, -⟩ := validate_eq_ok_iff.mp h
  exact ⟨hentity, hcontainer, hdiffer⟩

/-! ## Sources -/

/-- A configuration handles the paths that have an extension it lists, in any letter case. -/
theorem handles_eq_true_iff :
    c.handles p = true ↔ ∃ listed ∈ c.sourceExtensions, ∃ ext, p.HasExtension ext ∧
      SameLetters listed ext := by
  simp only [← Path.extension?_eq_some_iff, ← sameIgnoringCase_iff]
  unfold handles
  cases p.extension? <;> simp

/-- The configuration that lists the same extensions less one. -/
def withoutExtension (c : Config) (ext : String) : Config :=
  { c with sourceExtensions := c.sourceExtensions.filter (· ≠ ext) }

/-- An extension that no path can have may be left out. -/
theorem handles_withoutExtension (h : ¬IsExtension ext) :
    (c.withoutExtension ext).handles p = c.handles p := by
  rw [Bool.eq_iff_iff, handles_eq_true_iff, handles_eq_true_iff]
  constructor
  · rintro ⟨listed, hlisted, hhandled⟩
    exact ⟨listed, List.mem_of_mem_filter hlisted, hhandled⟩
  · rintro ⟨listed, hlisted, other, hother, hsame⟩
    have hne : listed ≠ ext := by
      rintro rfl
      exact h (hsame.isExtension_iff.mpr hother.isExtension)
    exact ⟨listed, List.mem_filter.mpr ⟨hlisted, decide_eq_true hne⟩, other, hother, hsame⟩

/-- Every extension that a valid configuration lists and that has neither a dot nor a slash in it is
the extension of sources, in any letter case, after any stem and in any directory. One with a dot or
a slash in it is as good as not listed. A path is handled only if its extension is listed, up to
letter case. -/
theorem handles_configured (hvalid : c.validate = .ok ()) :
    (∀ listed ∈ c.sourceExtensions, IsExtension listed → ∀ (dir : Path) (stem ext : String),
      stem ≠ "" → '/' ∉ stem.toList → SameLetters listed ext →
        c.handles (dir.join (stem ++ "." ++ ext)) = true) ∧
    (∀ listed ∈ c.sourceExtensions, ¬IsExtension listed → ∀ p,
      c.handles p = (c.withoutExtension listed).handles p) ∧
    ∀ p, (∀ listed ∈ c.sourceExtensions, ∀ ext, p.HasExtension ext → ¬SameLetters listed ext) →
      c.handles p = false := by
  refine ⟨fun listed hlisted hext dir stem ext hstem hslash hsame => ?_,
    fun listed _ hnot p => (handles_withoutExtension hnot).symm, fun p hdiffer => ?_⟩
  · obtain ⟨-, -, -, -, hextensions⟩ := validate_eq_ok_iff.mp hvalid
    have hne : ext ≠ "" := by
      rintro rfl
      exact (hextensions listed hlisted).1
        (String.toList_eq_nil_iff.mp (List.forall₂_nil_right_iff.mp hsame))
    exact handles_eq_true_iff.mpr ⟨listed, hlisted, ext,
      dir.hasExtension_join hstem hslash (hsame.isExtension_iff.mp hext) hne, hsame⟩
  · rw [Bool.eq_false_iff]
    intro hhandled
    obtain ⟨listed, hlisted, ext, hext, hsame⟩ := handles_eq_true_iff.mp hhandled
    exact hdiffer listed hlisted ext hext hsame

/-! ## A listed extension with a dot in it -/

/-- Three extensions are listed, one of them with a dot in it. -/
def archivesConfig : Config :=
  { entityDir := ⟨"entity"⟩, containerDir := ⟨"container"⟩, dataDir := ⟨"data"⟩,
    sourceExtensions := ["json", "xlsx", "tar.gz"] }

theorem handles_configured_spreadsheet :
    archivesConfig.validate = .ok () ∧ IsExtension "xlsx" ∧ SameLetters "xlsx" "XLSX" ∧
      archivesConfig.handles ((⟨"tables"⟩ : Path).join ("Items.v2" ++ "." ++ "XLSX")) = true ∧
      ¬IsExtension "tar.gz" ∧ archivesConfig.handles ⟨"tables/Items.tar.gz"⟩ =
        (archivesConfig.withoutExtension "tar.gz").handles ⟨"tables/Items.tar.gz"⟩ ∧
      archivesConfig.handles ⟨"tables/.xlsx"⟩ = false := by
  have hvalid : archivesConfig.validate = .ok () := by decide +kernel
  have hextension : IsExtension "xlsx" ∧ SameLetters "xlsx" "XLSX" ∧
    ¬IsExtension "tar.gz" := by decide
  have hnone : (⟨"tables/.xlsx"⟩ : Path).extension? = none := by decide +kernel
  obtain ⟨husable, hidle, hother⟩ := handles_configured hvalid
  refine ⟨hvalid, hextension.1, hextension.2.1, ?_, hextension.2.2, ?_, ?_⟩
  · exact husable "xlsx" (by decide) hextension.1 ⟨"tables"⟩ "Items.v2" "XLSX" (by decide)
      (by decide)
      hextension.2.1
  · exact hidle "tar.gz" (by decide) hextension.2.2 _
  · refine hother _ fun listed _ ext hext => ?_
    rw [← Path.extension?_eq_some_iff, hnone] at hext
    cases hext

/-- A file that ends in a dot and a listed extension need not be a source. -/
theorem not_handles_dottedExtension :
    archivesConfig.validate = .ok () ∧ "tar.gz" ∈ archivesConfig.sourceExtensions ∧
      SameLetters "tar.gz" "tar.gz" ∧ "Items" ≠ "" ∧ '/' ∉ "Items".toList ∧
      archivesConfig.handles ((⟨"tables"⟩ : Path).join ("Items" ++ "." ++ "tar.gz")) =
        false := by
  decide +kernel

end Config

end TypedSheets
