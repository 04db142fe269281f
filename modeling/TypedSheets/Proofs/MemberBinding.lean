import TypedSheets.Proofs.Compilation
import TypedSheets.Proofs.EntityLoading
import TypedSheets.Proofs.SchemaScan

/-!
# Members named like their columns

The name of a column is the lower-case form of the text in its header, and the column goes to the
member that has this name in some case of ASCII letters. Both notions of letter case agree on the
texts in which lower-casing changes nothing but ASCII letters (`Text.LowersAsAscii`). A column whose
header spells such a member goes to it; a column whose header spells any other member goes to none,
even to none that is named otherwise (`Binding.findIdx?_columnName`).

Main statement: `Binding.byName_of_header`.
-/

namespace TypedSheets

open Text

/-! ## Letters of ASCII -/

namespace Text

instance (c : Char) : Decidable (IsLower c) :=
  decidable_of_iff (c ≠ 'İ' ∧ c ≠ 'Σ' ∧ lowerLetter c = c)
    ⟨fun ⟨hdotted, hsigma, hfixed⟩ => ⟨hdotted, hsigma, hfixed⟩,
      fun h => ⟨h.ne_dotted, h.ne_sigma, h.fixed⟩⟩

/-- Lower-casing changes nothing in the text but ASCII letters. -/
def LowersAsAscii (s : List Char) : Prop :=
  ∀ c ∈ s, c.isUpper = true ∨ IsLower c

instance (s : List Char) : Decidable (LowersAsAscii s) :=
  List.decidableBAll (fun c : Char => c.isUpper = true ∨ IsLower c) s

/-- A capital of ASCII is lower-cased to the small letter of ASCII. -/
theorem lowerAt_of_isUpper {c : Char} (h : c.isUpper = true) (before after : List Char) :
    lowerAt before c after = [c.toLower] ∧ ¬IsLower c := by
  have hall : ∀ n < 91, 65 ≤ n → Char.ofNat n ≠ 'İ' ∧ Char.ofNat n ≠ 'Σ' ∧
      lowerLetter (Char.ofNat n) = (Char.ofNat n).toLower ∧ ¬IsLower (Char.ofNat n) := by
    decide +kernel
  have hrange : 65 ≤ c.toNat ∧ c.toNat < 91 := by
    have hvalue : 'A'.val ≤ c.val ∧ c.val ≤ 'Z'.val := of_decide_eq_true h
    simp only [UInt32.le_iff_toNat_le] at hvalue
    exact ⟨hvalue.1, Nat.lt_succ_of_le hvalue.2⟩
  obtain ⟨hdotted, hsigma, hletter, hlower⟩ := hall c.toNat hrange.2 hrange.1
  rw [Char.ofNat_toNat] at hdotted hsigma hletter hlower
  exact ⟨by rw [lowerAt, if_neg hdotted, if_neg hsigma, hletter], hlower⟩

theorem IsLower.toLower_eq {c : Char} (h : IsLower c) : c.toLower = c := by
  refine Binding.toLower_eq_self (Bool.eq_false_iff.mpr fun hupper => ?_)
  exact (lowerAt_of_isUpper hupper [] []).2 h

theorem lowercaseAfter_of_lowersAsAscii :
    ∀ (before : List Char) {s : List Char}, LowersAsAscii s →
    lowercaseAfter before s = s.map Char.toLower
  | _, [], _ => rfl
  | before, c :: rest, h => by
    obtain ⟨hc, hrest⟩ := List.forall_mem_cons.mp h
    have hhead : lowerAt before c rest = [c.toLower] := by
      rcases hc with hupper | hlower
      · exact (lowerAt_of_isUpper hupper before rest).1
      · rw [hlower.lowerAt_eq, hlower.toLower_eq]
    rw [lowercaseAfter, hhead, lowercaseAfter_of_lowersAsAscii (c :: before) hrest]
    rfl

/-- The two notions of lower case agree on a text just when lower-casing changes nothing in it but
ASCII letters. -/
theorem map_toLower_eq_lowercase_iff {s t : List Char} :
    s.map Char.toLower = lowercase t ↔ LowersAsAscii s ∧ lowercase s = lowercase t := by
  constructor
  · intro h
    have hlowers : LowersAsAscii s := by
      intro c hc
      rw [or_iff_not_imp_left]
      intro hnot
      have hfixed : c.toLower = c := Binding.toLower_eq_self (Bool.eq_false_iff.mpr hnot)
      refine isLower_of_mem_lowercase (s := t) ?_
      rw [← h, ← hfixed]
      exact List.mem_map_of_mem hc
    exact ⟨hlowers, (lowercaseAfter_of_lowersAsAscii [] hlowers).trans h⟩
  · rintro ⟨hlowers, h⟩
    rw [← h, lowercase, lowercaseAfter_of_lowersAsAscii [] hlowers]

end Text

/-! ## Schemas of sheets with given headers -/

/-- Texts with distinct names stand in one place each. -/
theorem eq_of_columnName_eq {texts : List String} {i j : Nat} {text other : String}
    (hnodup : (texts.map columnName).Nodup) (hi : texts[i]? = some text)
    (hj : texts[j]? = some other) (h : columnName text = columnName other) : i = j := by
  have hi' : (texts.map columnName)[i]? = some (columnName other) := by simp [hi, h]
  have hj' : (texts.map columnName)[j]? = some (columnName other) := by simp [hj]
  exact (List.getElem?_inj (List.getElem?_eq_some_iff.mp hi').1 hnodup).mp (hi'.trans hj'.symm)

namespace Sheet

variable {sheet : Sheet} {texts : List String} {types : Row}

theorem hasSoundHeader_of_texts (hheader : sheet.header = texts.map .string)
    (hnodup : (texts.map columnName).Nodup) : sheet.HasSoundHeader := by
  intro i cause hfault
  rw [hheader] at hfault
  cases hfault with
  | notString here noString =>
    obtain ⟨text, -, rfl⟩ := List.mem_map.mp (List.mem_of_getElem? here)
    exact noString text rfl
  | @repeated text other j here earlier there sameName =>
    simp only [List.getElem?_map, Option.map_eq_some_iff, Cell.string.injEq, exists_eq_right]
      at here there
    exact absurd (eq_of_columnName_eq hnodup there here sameName) (Nat.ne_of_lt earlier)

theorem exists_schema_of_texts (hheader : sheet.header = texts.map .string) (hne : texts ≠ [])
    (hnodup : (texts.map columnName).Nodup) (htypes : ∀ i < texts.length, ∃ types type,
      sheet.row? 1 = some types ∧ DeclaresType types i type) :
    ∃ cols, sheet.schema = .ok (.columns cols) := by
  have hnames : sheet.headerNames = .ok (texts.map columnName) :=
    headerNames_eq_ok_iff.mpr ⟨hasSoundHeader_of_texts hheader hnodup, texts, hheader, rfl⟩
  obtain ⟨types, -, hrow, -⟩ := htypes 0 (List.length_pos_of_ne_nil hne)
  rw [schema_of_names hnames (by simpa using hne), hrow]
  cases hcols : typeColumns (some types) (texts.map columnName) with
  | ok cols => exact ⟨cols, rfl⟩
  | error fault =>
    obtain ⟨i, cause, hi, hfirst, rfl⟩ := typeColumns_eq_error_iff.mp hcols
    -- a cell at fault declares no type
    obtain ⟨types', type, hrow', htype⟩ := htypes i (by simpa using hi)
    obtain rfl := Option.some.inj (hrow.symm.trans hrow')
    have hcell : typeOfCell ⟨1, i⟩ types[i]? = .ok type := typeOfCell_eq_ok_iff.mpr htype
    cases hcell.symm.trans (typeOfCell_eq_error_iff.mpr ⟨cause, hfirst.here, rfl⟩)

theorem names_of_schema {cols : List Column} (hheader : sheet.header = texts.map .string)
    (h : sheet.schema = .ok (.columns cols)) : cols.map (·.name) = texts.map columnName := by
  have hreads := sheet.readsAs_schema
  rw [h] at hreads
  cases hreads with
  | columns header sound row cells names declared =>
    rwa [texts_inj (hheader.symm.trans cells)]

end Sheet

theorem Compilation.schema_singleton_iff {source entity : String} {sheet : Sheet}
    {s : TableSchema} : (run source entity ⟨[sheet]⟩).schema = some s ↔
      s.entity = entity ∧ sheet.schema = .ok (.columns s.columns) := by
  rw [schema_eq_some_iff]
  simp only [Declare, List.mem_singleton, exists_eq_left, forall_eq]
  exact and_congr_right fun _ => and_iff_left_of_imp .inr

namespace Binding

variable {members : List String} {member text : String} {j : Nat}

/-- A member has the name of a column in some case of ASCII letters just when lower-casing changes
nothing in it but ASCII letters and its own name as a column is that name. -/
theorem sameIgnoringCase_columnName_iff (htrim : trim member.toList = member.toList) :
    sameIgnoringCase member (columnName text) = true ↔
      LowersAsAscii member.toList ∧ columnName member = columnName text := by
  have hname : (columnName text).toList.map Char.toLower = lowercase (trim text.toList) := by
    rw [columnName, onChars, String.toList_ofList]
    refine (List.map_congr_left fun c hc => ?_).trans (List.map_id' _)
    exact (isLower_of_mem_lowercase hc).toLower_eq
  have hmember : columnName member = columnName text ↔
      lowercase member.toList = lowercase (trim text.toList) := by
    rw [columnName, columnName, onChars, onChars, String.ofList_inj, htrim]
  rw [sameIgnoringCase, beq_iff_eq, hname, map_toLower_eq_lowercase_iff, hmember]

/-- Where the member is found that a header cell spells. -/
theorem findIdx?_columnName (htrim : ∀ m ∈ members, trim m.toList = m.toList)
    (hnodup : (members.map columnName).Nodup) (hj : members[j]? = some text) :
    members.findIdx? (sameIgnoringCase · (columnName text)) =
      if LowersAsAscii text.toList then some j else none := by
  -- the only member with the name of the column is the one that the header spells
  have honly : ∀ i m, members[i]? = some m → sameIgnoringCase m (columnName text) = true →
      LowersAsAscii text.toList ∧ i = j := by
    intro i m hi hsame
    obtain ⟨hlowers, hname⟩ :=
      (sameIgnoringCase_columnName_iff (htrim m (List.mem_of_getElem? hi))).mp hsame
    obtain rfl := eq_of_columnName_eq hnodup hi hj hname
    obtain rfl := Option.some.inj (hi.symm.trans hj)
    exact ⟨hlowers, rfl⟩
  split
  · next hlowers =>
    obtain ⟨hlt, rfl⟩ := List.getElem?_eq_some_iff.mp hj
    refine List.findIdx?_eq_some_iff_getElem.mpr ⟨hlt, ?_, fun i hi => ?_⟩
    · exact (sameIgnoringCase_columnName_iff (htrim _ (List.getElem_mem hlt))).mpr
        ⟨hlowers, rfl⟩
    · intro hsame
      exact absurd (honly i _ (List.getElem?_eq_getElem _) hsame).2 (Nat.ne_of_lt hi)
  · next hlowers =>
    refine List.findIdx?_eq_none_iff.mpr fun m hm => Bool.eq_false_iff.mpr fun hsame => ?_
    obtain ⟨i, hi⟩ := List.getElem?_of_mem hm
    exact hlowers (honly i m hi hsame).1

/-- The slots of columns, by the texts in their header. -/
theorem slots_of_names {s : TableSchema} {texts : List String}
    (hs : s.names = texts.map columnName) : (byName s members).slots =
      texts.map fun text => members.findIdx? (sameIgnoringCase · (columnName text)) := by
  have hslots : (byName s members).slots =
      s.names.map fun name => members.findIdx? (sameIgnoringCase · name) := by
    simp [byName, TableSchema.names, Function.comp_def]
  rw [hslots, hs, List.map_map]
  rfl

theorem boundCount_of_names {s : TableSchema} {texts : List String}
    (hs : s.names = texts.map columnName) (htrim : ∀ m ∈ members, trim m.toList = m.toList)
    (hnodup : (members.map columnName).Nodup) (htexts : texts ⊆ members) :
    (byName s members).boundCount = texts.countP (LowersAsAscii ·.toList) := by
  rw [boundCount, slots_of_names hs, List.countP_map]
  refine List.countP_congr fun text htext => ?_
  obtain ⟨j, hj⟩ := List.getElem?_of_mem (htexts htext)
  rw [Function.comp_apply, findIdx?_columnName htrim hnodup hj]
  split <;> simp [*]

/-- If the header of a sheet spells some members whose names as columns are distinct, each of them
once, then each column goes to the member that its header cell spells if lower-casing changes
nothing in that but ASCII letters, and to no member if not. -/
theorem byName_of_header (source entity : String) {members texts : List String} {sheet : Sheet}
    (htrim : ∀ m ∈ members, trim m.toList = m.toList) (hnodup : (members.map columnName).Nodup)
    (hheader : sheet.header = texts.map .string) (hperm : texts.Perm members)
    (htypes : ∀ i < texts.length, ∃ types type, sheet.row? 1 = some types ∧
      DeclaresType types i type) :
    (members ≠ [] → ∃ s, (Compilation.run source entity ⟨[sheet]⟩).schema = some s) ∧
    ∀ s, (Compilation.run source entity ⟨[sheet]⟩).schema = some s →
      s.names = texts.map columnName ∧
      (∀ i j text, texts[i]? = some text → members[j]? = some text →
        (byName s members).slot? i = if LowersAsAscii text.toList then some j else none) ∧
      (byName s members).boundCount = texts.countP (LowersAsAscii ·.toList) ∧
      ((byName s members).boundCount = s.columns.length ↔
        ∀ m ∈ members, LowersAsAscii m.toList) := by
  have htexts : (texts.map columnName).Nodup := (hperm.map _).nodup_iff.mpr hnodup
  refine ⟨fun hne => ?_, fun s hs => ?_⟩
  · have hne' : texts ≠ [] := fun hnil => hne (hnil ▸ hperm).symm.eq_nil
    obtain ⟨cols, hcols⟩ := Sheet.exists_schema_of_texts hheader hne' htexts htypes
    exact ⟨⟨entity, cols⟩, Compilation.schema_singleton_iff.mpr ⟨rfl, hcols⟩⟩
  · have hnames : s.names = texts.map columnName :=
      Sheet.names_of_schema hheader (Compilation.schema_singleton_iff.mp hs).2
    have hcount := boundCount_of_names hnames htrim hnodup hperm.subset
    refine ⟨hnames, fun i j text hi hj => ?_, hcount, ?_⟩
    · rw [slot?, slots_of_names hnames, List.getElem?_map, hi, Option.map_some, Option.join_some,
        findIdx?_columnName htrim hnodup hj]
    · have hlength : s.columns.length = texts.length := by
        simpa [TableSchema.names] using congrArg List.length hnames
      rw [hcount, hlength, List.countP_eq_length]
      simp [hperm.mem_iff]

/-! ## Members with other letters -/

/-- A sheet with a column for each of some texts, all of integers. -/
def spellingSheet (texts : List String) : Sheet :=
  ⟨"S", [some (texts.map .string), some (texts.map fun _ => .string "int")]⟩

/-- Capitals of ASCII and small letters of any kind do not matter, other capitals do. -/
theorem byName_of_header_mixed :
    let members := ["Price", "größe", "Ärger"]
    let texts := ["größe", "Ärger", "Price"]
    let s : TableSchema :=
      ⟨"Entity_Test", [⟨"größe", .int⟩, ⟨"ärger", .int⟩, ⟨"price", .int⟩]⟩
    texts.Perm members ∧ (members.map columnName).Nodup ∧
      (Compilation.run "Test.json" "Entity_Test" ⟨[spellingSheet texts]⟩).schema = some s ∧
      (byName s members).slot? 0 = some 1 ∧ (byName s members).slot? 1 = none ∧
      (byName s members).slot? 2 = some 0 ∧ (byName s members).boundCount = 2 := by
  intro members texts s
  have hperm : texts.Perm members := by decide
  have hnodup : (members.map columnName).Nodup := by decide +kernel
  have hschema : (Compilation.run "Test.json" "Entity_Test" ⟨[spellingSheet texts]⟩).schema =
      some s := by
    decide +kernel
  have htypes : ∀ i < texts.length, ∃ types type,
      (spellingSheet texts).row? 1 = some types ∧ DeclaresType types i type := by
    intro i hi
    have hcell : ∀ i < 3, (texts.map fun _ => Cell.string "int")[i]? = some (.string "int") := by
      decide
    exact ⟨_, .int, rfl, "int", hcell i hi, by decide +kernel⟩
  obtain ⟨-, hslot, hcount, -⟩ :=
    (byName_of_header "Test.json" "Entity_Test" (by decide +kernel) hnodup rfl
    hperm htypes).2 s hschema
  have hlowers : LowersAsAscii "größe".toList ∧ ¬LowersAsAscii "Ärger".toList ∧
      LowersAsAscii "Price".toList := by decide +kernel
  refine ⟨hperm, hnodup, hschema, ?_, ?_, ?_, ?_⟩
  · rw [hslot 0 1 "größe" rfl rfl, if_pos hlowers.1]
  · rw [hslot 1 2 "Ärger" rfl rfl, if_neg hlowers.2.1]
  · rw [hslot 2 0 "Price" rfl rfl, if_pos hlowers.2.2]
  · rw [hcount]
    decide +kernel

/-- A column whose header spells a member as it is written need not go to it. -/
theorem member_unbound :
    let s : TableSchema := ⟨"Entity_Test", [⟨"ärger", .int⟩]⟩
    trim "Ärger".toList = "Ärger".toList ∧ columnName "Ärger" ≠ "" ∧
      (spellingSheet ["Ärger"]).header = ["Ärger"].map .string ∧
      (Compilation.run "Test.json" "Entity_Test" ⟨[spellingSheet ["Ärger"]]⟩).schema =
        some s ∧
      (byName s ["Ärger"]).slot? 0 = none ∧ (byName s ["Ärger"]).boundCount = 0 := by
  decide +kernel

end Binding

end TypedSheets
