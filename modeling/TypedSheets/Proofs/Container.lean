import TypedSheets.Proofs.JsonRecord
import TypedSheets.Proofs.Results
import TypedSheets.Workbook.Reader

/-!
# Workbooks in the JSON container

A document spells a workbook (`Workbook.Spelled`) if it has an object for each sheet and in that an
item for each row slot and each cell. Objects may have further members. Those of a cell are read all
the same, since what kind of cell it is shows only when all of it is read: they must not hold
numbers that are too large, strings that are no text, or too many levels (`Json.Legible`). Members
of other objects are passed over.

A document that spells a workbook is read as this workbook if its cells are legible
(`Workbook.Spelled.ofJson?`), however numerals are read as numbers (`NumberReading`). A document
with a cell that is not legible or is no cell at all is not read (`Workbook.cell_of_ofJson?`,
`legible_of_ofJson?`).

Main statement: `WorkbookReader.json_decode`.
-/

namespace TypedSheets

variable {read : NumberReading}

/-! ## Cells of documents -/

namespace Json

/-- Some row of a sheet has the cell. -/
def SheetHasCell (sheet cell : Json) : Prop :=
  ∃ rows cells, Gives ["name", "rows"] "rows" (.array rows) sheet ∧ .array cells ∈ rows ∧
    cell ∈ cells

/-- Some sheet of a document has the cell. -/
def HasCell (doc cell : Json) : Prop :=
  ∃ sheets sheet, Gives ["sheets"] "sheets" (.array sheets) doc ∧ sheet ∈ sheets ∧
    sheet.SheetHasCell cell

/-- If the cell is an object, all that it holds can be read. -/
def Legible (read : NumberReading) : Json → Prop
  | .object members =>
    (Json.object members).sound (Numeral.inRange read) = true ∧
      (Json.object members).depth ≤ cellDepth
  | _ => True

/-- The value may be given as the stored result of a formula. -/
inductive IsCached : Json → Prop
  | null : IsCached .null
  | bool (b : Bool) : IsCached (.bool b)
  | number (n : Numeral) : IsCached (.number n)
  | string (s : String) : IsCached (.string s)
  | error {members : List (String × Json)} {s : String}
      (error : valuesOf members "error" = [.string s]) : IsCached (.object members)

/-- The object has a formula, and at most one stored result. -/
def IsFormula (members : List (String × Json)) : Prop :=
  (∃ text, valuesOf members "formula" = [.string text]) ∧
    (valuesOf members "cached").length ≤ 1 ∧ ∀ v ∈ valuesOf members "cached", v.IsCached

/-- The object has an error. -/
def IsUnknown (members : List (String × Json)) : Prop :=
  ∃ text, valuesOf members "error" = [.string text]

/-- An array or an object that is neither a formula nor an unknown cell, or what stands for no
text. -/
inductive IsNoCell : Json → Prop
  | array (items : List Json) : IsNoCell (.array items)
  | object {members : List (String × Json)} (formula : ¬IsFormula members)
      (unknown : ¬IsUnknown members) : IsNoCell (.object members)
  | garbled : IsNoCell .garbled

theorem IsReadable.legible {j : Json} (h : j.IsReadable read cellDepth) : j.Legible read := by
  cases j with
  | object members => exact ⟨h.inRange, h.depth_le⟩
  | _ => trivial

/-- The cells of a document with 127 levels are legible if all of it can be read. -/
theorem IsReadable.legible_of_hasCell {doc cell : Json} (h : doc.IsReadable read (cellDepth + 5))
    (hcell : doc.HasCell cell) : cell.Legible read := by
  obtain ⟨sheets, sheet, hsheets, hsheet, rows, cells, hrows, hcells, hmem⟩ := hcell
  have hsheetDoc := (h.of_gives hsheets).of_array _ hsheet
  exact (((hsheetDoc.of_gives hrows).of_array _ hcells).of_array _ hmem).legible

end Json

/-! ## Spelling -/

/-- The names that members of a cell can have. -/
def cellFields : List String := ["formula", "cached", "error"]

/-- A stored result is a literal, or an object with an error. -/
inductive CachedResult.Spelled (read : NumberReading) : CachedResult → Json → Prop
  | string (s : String) : Spelled read (.string s) (.string s)
  | boolean (b : Bool) : Spelled read (.boolean b) (.bool b)
  | numeric {x : Binary64} {n : Numeral} (number : read n = some x) :
      Spelled read (.numeric x) (.number n)
  | error {members : List (String × Json)} {s : String}
      (fields : Json.HasFields members ["error"] [("error", .string s)]) :
      Spelled read .error (.object members)

/-- A cell is null, a literal, an object with a formula or an object with an error. -/
inductive Cell.Spelled (read : NumberReading) : Cell → Json → Prop
  | blank : Spelled read .blank .null
  | string (s : String) : Spelled read (.string s) (.string s)
  | boolean (b : Bool) : Spelled read (.boolean b) (.bool b)
  | numeric {x : Binary64} {n : Numeral} (number : read n = some x) :
      Spelled read (.numeric x) (.number n)
  | formula {members : List (String × Json)} {text : String}
      (fields : Json.HasFields members cellFields [("formula", .string text)]) :
      Spelled read (.formula text none) (.object members)
  | formulaNull {members : List (String × Json)} {text : String}
      (fields : Json.HasFields members cellFields [("formula", .string text), ("cached", .null)]) :
      Spelled read (.formula text none) (.object members)
  | formulaCached {members : List (String × Json)} {text : String} {r : CachedResult} {j : Json}
      (cached : r.Spelled read j)
      (fields : Json.HasFields members cellFields [("formula", .string text), ("cached", j)]) :
      Spelled read (.formula text (some r)) (.object members)
  | unknown {members : List (String × Json)} {s : String}
      (fields : Json.HasFields members cellFields [("error", .string s)]) :
      Spelled read .unknown (.object members)

/-- A row slot is null if it is empty, and else an array of cells. -/
inductive RowSpelled (read : NumberReading) : Option Row → Json → Prop
  | absent : RowSpelled read none .null
  | cells {row : Row} {items : List Json} (cells : List.Forall₂ (Cell.Spelled read) row items) :
      RowSpelled read (some row) (.array items)

/-- A sheet is an object with its name and its row slots. -/
inductive Sheet.Spelled (read : NumberReading) : Sheet → Json → Prop
  | mk {name : String} {rows : List (Option Row)} {items : List Json}
      {members : List (String × Json)}
      (slots : List.Forall₂ (RowSpelled read) rows items)
      (fields : Json.HasFields members ["name", "rows"] [("name", .string name),
        ("rows", .array items)]) :
      Spelled read ⟨name, rows⟩ (.object members)

/-- A workbook is an object with its sheets. -/
inductive Workbook.Spelled (read : NumberReading) : Workbook → Json → Prop
  | mk {sheets : List Sheet} {items : List Json} {members : List (String × Json)}
      (each : List.Forall₂ (Sheet.Spelled read) sheets items)
      (fields : Json.HasFields members ["sheets"] [("sheets", .array items)]) :
      Spelled read ⟨sheets⟩ (.object members)

/-! ## Reading cells -/

section

variable {members : List (String × Json)} {cell : Cell} {j : Json}

theorem unknownOf?_eq_some_iff :
    Cell.unknownOf? members = some cell ↔ Json.IsUnknown members ∧ cell = .unknown := by
  constructor
  · intro h
    simp only [Cell.unknownOf?, Option.bind_eq_bind, Option.bind_eq_some_iff, Json.str?_eq_some_iff]
      at h
    obtain ⟨field, hrecord, v, hv, text, rfl, hcell⟩ := h
    obtain ⟨hlength, rfl⟩ := Json.length_le_of_record? hrecord
    exact ⟨⟨text, Json.valuesOf_eq_singleton (hlength "error" (by decide)) hv⟩,
      (Option.some.inj hcell).symm⟩
  · rintro ⟨⟨text, htext⟩, rfl⟩
    have hrecord : Json.record? ["error"] (.object members) = _ :=
      Json.record?_object _ (by simp [htext])
    simp [Cell.unknownOf?, hrecord, htext, Json.str?]

theorem formulaOf?_eq_some_iff : Cell.formulaOf? read members = some cell ↔
    ∃ text cached, Json.valuesOf members "formula" = [.string text] ∧
      (Json.valuesOf members "cached").length ≤ 1 ∧
      CachedResult.ofField? read (Json.valuesOf members "cached").head? = some cached ∧
      cell = .formula text cached := by
  constructor
  · intro h
    simp only [Cell.formulaOf?, Option.bind_eq_bind, Option.bind_eq_some_iff, Json.str?_eq_some_iff]
      at h
    obtain ⟨field, hrecord, v, hv, text, rfl, cached, hcached, hcell⟩ := h
    obtain ⟨hlength, rfl⟩ := Json.length_le_of_record? hrecord
    exact ⟨text, cached, Json.valuesOf_eq_singleton (hlength "formula" (by decide)) hv,
      hlength "cached" (by decide), hcached, (Option.some.inj hcell).symm⟩
  · rintro ⟨text, cached, htext, hlength, hcached, rfl⟩
    have hrecord : Json.record? ["formula", "cached"] (.object members) = _ :=
      Json.record?_object _ (by simp [htext, hlength])
    simp [Cell.formulaOf?, hrecord, htext, hcached, Json.str?]

theorem isCached_of_ofJson? {r : CachedResult} (h : CachedResult.ofJson? read j = some r) :
    j.IsCached := by
  cases j with
  | bool b => exact .bool b
  | number n => exact .number n
  | string s => exact .string s
  | object members =>
    simp only [CachedResult.ofJson?, Option.bind_eq_bind, Option.bind_eq_some_iff,
      Json.str?_eq_some_iff] at h
    obtain ⟨field, hrecord, v, hv, text, rfl, -⟩ := h
    obtain ⟨hlength, rfl⟩ := Json.length_le_of_record? hrecord
    exact .error (Json.valuesOf_eq_singleton (hlength "error" (by decide)) hv)
  | _ => cases h

theorem ofField?_some (h : j ≠ .null) :
    CachedResult.ofField? read (some j) = (CachedResult.ofJson? read j).map some := by
  cases j <;> first | rfl | exact absurd rfl h

theorem isFormula_of_formulaOf? (h : Cell.formulaOf? read members = some cell) :
    Json.IsFormula members := by
  obtain ⟨text, cached, htext, hlength, hcached, -⟩ := formulaOf?_eq_some_iff.mp h
  refine ⟨⟨text, htext⟩, hlength, fun v hv => ?_⟩
  rw [eq_singleton_of_mem hlength hv, List.head?_cons] at hcached
  by_cases hnull : v = .null
  · exact hnull ▸ .null
  · rw [ofField?_some hnull] at hcached
    obtain ⟨r, hr, -⟩ := Option.map_eq_some_iff.mp hcached
    exact isCached_of_ofJson? hr

/-- What is read as a cell is one, and can be read. -/
theorem legible_of_ofJson? (h : Cell.ofJson? read j = some cell) :
    j.Legible read ∧ ¬j.IsNoCell := by
  cases j with
  | object members =>
    obtain ⟨hlegible, hcell⟩ := Option.ite_none_right_eq_some.mp h
    refine ⟨hlegible, ?_⟩
    rintro (_ | ⟨hformula, hunknown⟩)
    rcases Option.or_eq_some_iff.mp hcell with hcell | ⟨-, hcell⟩
    · exact hformula (isFormula_of_formulaOf? hcell)
    · exact hunknown (unknownOf?_eq_some_iff.mp hcell).1
  | array items => cases h
  | garbled => cases h
  | _ => exact ⟨trivial, nofun⟩

end

/-! ## Reading what is spelled -/

theorem CachedResult.Spelled.ofField? {r : CachedResult} {j : Json} (h : r.Spelled read j) :
    CachedResult.ofField? read (some j) = some (some r) := by
  cases h with
  | string s => rfl
  | boolean b => rfl
  | numeric number => simp [CachedResult.ofField?, CachedResult.ofJson?, number]
  | @error members s fields =>
    have herror : Json.valuesOf members "error" = [.string s] :=
      fields.valuesOf_eq "error" (by decide) (Nat.le_refl 1)
    have hrecord : Json.record? ["error"] (.object members) = _ :=
      Json.record?_object _ (by simp [herror])
    simp [CachedResult.ofField?, CachedResult.ofJson?, hrecord, herror, Json.str?]

namespace Cell

variable {members : List (String × Json)}

theorem ofJson?_object (h : (Json.object members).Legible read) :
    ofJson? read (.object members) = (formulaOf? read members).or (unknownOf? members) :=
  if_pos h

theorem ofJson?_formula {text : String} {fields : List (String × Json)}
    {cached : Option CachedResult} (h : (Json.object members).Legible read)
    (hfields : Json.HasFields members cellFields (("formula", .string text) :: fields))
    (hformula : Json.valuesOf fields "formula" = [])
    (hlength : (Json.valuesOf fields "cached").length ≤ 1)
    (hcached : CachedResult.ofField? read (Json.valuesOf fields "cached").head? = some cached) :
    ofJson? read (.object members) = some (.formula text cached) := by
  have hown : Json.valuesOf (("formula", .string text) :: fields) "formula" = [.string text] :=
    congrArg (Json.string text :: ·) hformula
  have htext : Json.valuesOf members "formula" = [.string text] :=
    (hfields.valuesOf_eq "formula" (by decide) (by simp [hown])).trans hown
  have hvalues : Json.valuesOf members "cached" = Json.valuesOf fields "cached" :=
    hfields.valuesOf_eq "cached" (by decide) hlength
  have hcell : formulaOf? read members = some (.formula text cached) :=
    formulaOf?_eq_some_iff.mpr ⟨text, cached, htext, by rwa [hvalues], by rwa [hvalues], rfl⟩
  rw [ofJson?_object h, hcell, Option.some_or]

/-- A legible cell is read as the cell that it spells. -/
theorem Spelled.ofJson? {cell : Cell} {j : Json} (h : cell.Spelled read j)
    (hlegible : j.Legible read) : Cell.ofJson? read j = some cell := by
  cases h with
  | blank => rfl
  | string s => rfl
  | boolean b => rfl
  | numeric number => simp [Cell.ofJson?, number]
  | formula fields => exact ofJson?_formula hlegible fields rfl (Nat.zero_le 1) rfl
  | formulaNull fields => exact ofJson?_formula hlegible fields rfl (Nat.le_refl 1) rfl
  | formulaCached cached fields =>
    exact ofJson?_formula hlegible fields rfl (Nat.le_refl 1) cached.ofField?
  | @unknown members s fields =>
    have herror : Json.valuesOf members "error" = [.string s] :=
      fields.valuesOf_eq "error" (by decide) (Nat.le_refl 1)
    have hformula : Json.valuesOf members "formula" = [] :=
      fields.valuesOf_eq "formula" (by decide) (Nat.zero_le 1)
    have hnone : formulaOf? read members = none := by
      refine Option.eq_none_iff_forall_ne_some.mpr fun cell hcell => ?_
      obtain ⟨text, -, htext, -⟩ := formulaOf?_eq_some_iff.mp hcell
      cases hformula.symm.trans htext
    rw [ofJson?_object hlegible, hnone, Option.none_or]
    exact unknownOf?_eq_some_iff.mpr ⟨⟨s, herror⟩, rfl⟩

end Cell

theorem RowSpelled.ofJson? {row : Option Row} {j : Json} (h : RowSpelled read row j)
    (hlegible : ∀ cells, j = .array cells → ∀ cell ∈ cells, cell.Legible read) :
    rowOfJson? read j = some row := by
  cases h with
  | absent => rfl
  | @cells row items cells =>
    rw [rowOfJson?, mapM_of_forall₂ cells fun cell j hj hcell =>
      hcell.ofJson? (hlegible items rfl j hj)]
    rfl

theorem Sheet.Spelled.ofJson? {sheet : Sheet} {j : Json} (h : sheet.Spelled read j)
    (hlegible : ∀ cell, j.SheetHasCell cell → cell.Legible read) :
    Sheet.ofJson? read j = some sheet := by
  obtain @⟨name, rows, items, members, hslots, hfields⟩ := h
  have hname : Json.valuesOf members "name" = [.string name] :=
    hfields.valuesOf_eq "name" (by decide) (Nat.le_refl 1)
  have hrows : Json.valuesOf members "rows" = [.array items] :=
    hfields.valuesOf_eq "rows" (by decide) (Nat.le_refl 1)
  have hrecord : Json.record? ["name", "rows"] (.object members) = _ :=
    Json.record?_object _ (by simp [hname, hrows])
  have hitems : items.mapM (rowOfJson? read) = some rows := by
    refine mapM_of_forall₂ hslots fun row j hj hrow => hrow.ofJson? ?_
    rintro cells rfl cell hcell
    exact hlegible cell ⟨items, cells, .member (hfields.mem (by simp)), hj, hcell⟩
  simp [Sheet.ofJson?, hrecord, hname, hrows, hitems, Json.str?, Json.array?]

/-- A document whose cells are legible is read as the workbook that it spells. -/
theorem Workbook.Spelled.ofJson? {w : Workbook} {j : Json} (h : w.Spelled read j)
    (hlegible : ∀ cell, j.HasCell cell → cell.Legible read) :
    Workbook.ofJson? read j = some w := by
  obtain @⟨sheets, items, members, heach, hfields⟩ := h
  have hsheets : Json.valuesOf members "sheets" = [.array items] :=
    hfields.valuesOf_eq "sheets" (by decide) (Nat.le_refl 1)
  have hrecord : Json.record? ["sheets"] (.object members) = _ :=
    Json.record?_object _ (by simp [hsheets])
  have hitems : items.mapM (Sheet.ofJson? read) = some sheets := by
    refine mapM_of_forall₂ heach fun sheet j hj hsheet => hsheet.ofJson? fun cell hcell => ?_
    exact hlegible cell ⟨items, j, .member (hfields.mem (by simp)), hj, hcell⟩
  simp [Workbook.ofJson?, hrecord, hsheets, hitems, Json.array?]

/-! ## Places of what is read -/

theorem Sheet.rows_of_ofJson? {sheet : Sheet} {j : Json} {rows : List Json}
    (h : Sheet.ofJson? read j = some sheet)
    (hgives : Json.Gives ["name", "rows"] "rows" (.array rows) j) :
    rows.mapM (rowOfJson? read) = some sheet.rows := by
  simp only [Sheet.ofJson?, Option.bind_eq_bind, Option.bind_eq_some_iff] at h
  obtain ⟨field, hrecord, -, -, name, -, h⟩ := h
  rw [Json.record?_of_gives hrecord (by decide) (by decide) hgives] at h
  obtain ⟨items, hitems, h⟩ := Option.bind_eq_some_iff.mp h
  obtain rfl := Option.some.inj hitems
  obtain ⟨slots, hslots, hsheet⟩ := Option.bind_eq_some_iff.mp h
  rw [hslots, ← Option.some.inj hsheet]

theorem Workbook.sheets_of_ofJson? {w : Workbook} {j : Json} {sheets : List Json}
    (h : Workbook.ofJson? read j = some w)
    (hgives : Json.Gives ["sheets"] "sheets" (.array sheets) j) :
    sheets.mapM (Sheet.ofJson? read) = some w.sheets := by
  simp only [Workbook.ofJson?, Option.bind_eq_bind, Option.bind_eq_some_iff] at h
  obtain ⟨field, hrecord, value, hvalue, items, hitems, others, hothers, hw⟩ := h
  rw [Json.record?_of_gives hrecord (by decide) (by decide) hgives] at hvalue
  obtain rfl := Option.some.inj hvalue
  obtain rfl := Option.some.inj hitems
  rw [hothers, ← Option.some.inj hw]

theorem Sheet.cell_of_ofJson? {sheet : Sheet} {j cell : Json}
    (h : Sheet.ofJson? read j = some sheet) (hcell : j.SheetHasCell cell) :
    ∃ c, Cell.ofJson? read cell = some c := by
  obtain ⟨rows, cells, hgives, hcells, hmem⟩ := hcell
  obtain ⟨slot, hslot⟩ := exists_of_mapM (Sheet.rows_of_ofJson? h hgives) _ hcells
  obtain ⟨row, hrow, -⟩ := Option.map_eq_some_iff.mp hslot
  exact exists_of_mapM hrow cell hmem

/-- Each cell of a document that is read as a workbook is read as a cell. -/
theorem Workbook.cell_of_ofJson? {w : Workbook} {j cell : Json}
    (h : Workbook.ofJson? read j = some w) (hcell : j.HasCell cell) :
    ∃ c, Cell.ofJson? read cell = some c := by
  obtain ⟨sheets, sheet, hgives, hsheet, hmem⟩ := hcell
  obtain ⟨s, hs⟩ := exists_of_mapM (Workbook.sheets_of_ofJson? h hgives) sheet hsheet
  exact Sheet.cell_of_ofJson? hs hmem

/-! ## Workbooks that can be written -/

/-- The numbers in a stored result satisfy `p`. -/
def CachedResult.NumbersAre (p : Binary64 → Prop) : CachedResult → Prop
  | .numeric x => p x
  | _ => True

/-- The numbers in a cell satisfy `p`. -/
def Cell.NumbersAre (p : Binary64 → Prop) : Cell → Prop
  | .numeric x => p x
  | .formula _ (some r) => r.NumbersAre p
  | _ => True

/-- All numbers in the cells of a workbook satisfy `p`. -/
def Workbook.NumbersAre (p : Binary64 → Prop) (w : Workbook) : Prop :=
  ∀ sheet ∈ w.sheets, ∀ row, some row ∈ sheet.rows → ∀ cell ∈ row, cell.NumbersAre p

/-- The number is what some numeral is read as. -/
def Binary64.IsRead (read : NumberReading) (x : Binary64) : Prop :=
  ∃ n : Numeral, n.isPlain = true ∧ read n = some x

theorem Json.isReadable_number {n : Numeral} {x : Binary64} (hplain : n.isPlain = true)
    (hn : read n = some x) (k : Nat) : (Json.number n).IsReadable read k :=
  ⟨by simp [Json.sound, Numeral.inRange, hn], hplain, Nat.zero_le k⟩

theorem CachedResult.exists_spelled {r : CachedResult} (h : r.NumbersAre (Binary64.IsRead read)) :
    ∃ j, r.Spelled read j ∧ j.IsReadable read 1 := by
  cases r with
  | string s => exact ⟨_, .string s, .leaf (fun _ => rfl) rfl⟩
  | boolean b => exact ⟨_, .boolean b, .leaf (fun _ => rfl) rfl⟩
  | numeric x =>
    obtain ⟨n, hplain, hn⟩ := h
    exact ⟨_, .numeric hn, Json.isReadable_number hplain hn 1⟩
  | error =>
    have hfields : Json.HasFields [("error", .string "")] ["error"] [("error", .string "")] :=
      .refl _
    refine ⟨_, .error hfields, .object ?_⟩
    simpa using .leaf (fun _ => rfl) rfl

theorem Cell.exists_spelled {cell : Cell} (h : cell.NumbersAre (Binary64.IsRead read)) :
    ∃ j, cell.Spelled read j ∧ j.IsReadable read 2 := by
  cases cell with
  | blank => exact ⟨_, .blank, .leaf (fun _ => rfl) rfl⟩
  | string s => exact ⟨_, .string s, .leaf (fun _ => rfl) rfl⟩
  | boolean b => exact ⟨_, .boolean b, .leaf (fun _ => rfl) rfl⟩
  | numeric x =>
    obtain ⟨n, hplain, hn⟩ := h
    exact ⟨_, .numeric hn, Json.isReadable_number hplain hn 2⟩
  | formula text cached =>
    cases cached with
    | none =>
      have hfields : Json.HasFields [("formula", .string text)] cellFields
          [("formula", .string text)] := .refl _
      refine ⟨_, .formula hfields, .object ?_⟩
      simpa using .leaf (fun _ => rfl) rfl
    | some r =>
      obtain ⟨j, hj, hreadable⟩ := r.exists_spelled h
      have hfields : Json.HasFields [("formula", .string text), ("cached", j)] cellFields
          [("formula", .string text), ("cached", j)] := .refl _
      refine ⟨_, .formulaCached hj hfields, .object ?_⟩
      simpa using ⟨.leaf (fun _ => rfl) rfl, hreadable⟩
  | unknown =>
    have hfields : Json.HasFields [("error", .string "")] cellFields [("error", .string "")] :=
      .refl _
    refine ⟨_, .unknown hfields, .object ?_⟩
    simpa using .leaf (fun _ => rfl) rfl

theorem Sheet.exists_spelled {sheet : Sheet} (h : ∀ row, some row ∈ sheet.rows →
    ∀ cell ∈ row, cell.NumbersAre (Binary64.IsRead read)) :
    ∃ j, sheet.Spelled read j ∧ j.IsReadable read 5 := by
  have hslot : ∀ slot ∈ sheet.rows, ∃ j, RowSpelled read slot j ∧ j.IsReadable read 3 := by
    intro slot hslot
    cases slot with
    | none => exact ⟨_, .absent, .leaf (fun _ => rfl) rfl⟩
    | some row =>
      obtain ⟨cells, hcells, hreadable⟩ :=
        exists_forall₂ fun cell hcell => Cell.exists_spelled (h row hslot cell hcell)
      exact ⟨_, .cells hcells, .array hreadable⟩
  obtain ⟨rows, hrows, hreadable⟩ := exists_forall₂ hslot
  have hfields : Json.HasFields [("name", .string sheet.name), ("rows", .array rows)]
      ["name", "rows"]
      [("name", .string sheet.name), ("rows", .array rows)] := .refl _
  refine ⟨_, .mk hrows hfields, .object ?_⟩
  simpa using ⟨.leaf (fun _ => rfl) rfl, .array hreadable⟩

/-- Every workbook whose numbers can be read is spelled by some document that can be read. -/
theorem Workbook.exists_spelled {w : Workbook} (h : w.NumbersAre (Binary64.IsRead read)) :
    ∃ j, w.Spelled read j ∧ j.IsReadable read 7 := by
  obtain ⟨sheets, hsheets, hreadable⟩ :=
    exists_forall₂ fun sheet hsheet => Sheet.exists_spelled (h sheet hsheet)
  have hfields : Json.HasFields [("sheets", .array sheets)] ["sheets"]
      [("sheets", .array sheets)] :=
    .refl _
  refine ⟨_, .mk hsheets hfields, .object ?_⟩
  simpa using .array hreadable

namespace WorkbookReader

/-- A text whose document is read is decoded as the workbook. -/
theorem decode_of_ofJson? {text : String} {j : Json} {w : Workbook} (h : Json.parse? text = some j)
    (hj : Workbook.ofJson? read j = some w) (origin : Path) :
    (jsonBy read).decode origin (.text text) = .ok w := by
  have hparse : Workbook.parseBy? read text = some w := by rw [Workbook.parseBy?, h]; exact hj
  rw [jsonBy, ofText_decode, hparse]

/-- A text is malformed if its document is not read. -/
theorem malformed_of_ofJson? {text : String} {j : Json} (h : Json.parse? text = some j)
    (hj : Workbook.ofJson? read j = none) (origin : Path) :
    ∃ reason, (jsonBy read).decode origin (.text text) = .error (.malformed origin reason) := by
  have hparse : Workbook.parseBy? read text = none := by rw [Workbook.parseBy?, h]; exact hj
  refine ⟨"Invalid JSON: " ++ Json.faultText, ?_⟩
  rw [jsonBy, ofText_decode, hparse]

/-- However numerals are read as numbers: every workbook whose numbers can be read is spelled by the
document of some text, with legible cells. A text is read as the workbook that its document spells,
if the cells are legible. A text with a cell that is not legible or is no cell is malformed. -/
theorem json_decode (read : NumberReading) (origin : Path) :
    (∀ w : Workbook, w.NumbersAre (Binary64.IsRead read) →
      ∃ text j, Json.parse? text = some j ∧ w.Spelled read j ∧
        ∀ cell, j.HasCell cell → cell.Legible read) ∧
    (∀ (w : Workbook) (text : String) (j : Json), Json.parse? text = some j →
      w.Spelled read j → (∀ cell, j.HasCell cell → cell.Legible read) →
        (jsonBy read).decode origin (.text text) = .ok w) ∧
    ∀ (text : String) (j cell : Json), Json.parse? text = some j → j.HasCell cell →
      cell.IsNoCell ∨ ¬cell.Legible read →
        ∃ reason, (jsonBy read).decode origin (.text text) =
          .error (.malformed origin reason) := by
  refine ⟨fun w hw => ?_, fun w text j h hw hlegible => ?_, fun text j cell h hcell hbad => ?_⟩
  · obtain ⟨j, hj, hreadable⟩ := Workbook.exists_spelled hw
    have hdeep : j.IsReadable read (cellDepth + 5) :=
      ⟨hreadable.inRange, hreadable.isPlain, Nat.le_trans hreadable.depth_le (by decide)⟩
    exact ⟨j.pretty, j, Json.parse?_pretty hreadable.isPlain, hj,
      fun cell => hdeep.legible_of_hasCell⟩
  · exact decode_of_ofJson? h (hw.ofJson? hlegible) origin
  · cases hread : Workbook.ofJson? read j with
    | none => exact malformed_of_ofJson? h hread origin
    | some w =>
      obtain ⟨c, hc⟩ := Workbook.cell_of_ofJson? hread hcell
      obtain ⟨hlegible, hiscell⟩ := legible_of_ofJson? hc
      exact absurd hbad (not_or.mpr ⟨hiscell, not_not.mpr hlegible⟩)

/-- A sheet of one row and an empty slot. -/
def rowSheet (cells : List Json) : Json :=
  .object [("rows", .array [.array cells, .null]), ("name", .string "Items")]

/-- The document of a workbook with this sheet. -/
def oneRow (cells : List Json) : Json :=
  .object [("sheets", .array [rowSheet cells])]

theorem spelled_oneRow {row : Row} {cells : List Json}
    (h : List.Forall₂ (Cell.Spelled read) row cells) :
    Workbook.Spelled read ⟨[⟨"Items", [some row, none]⟩]⟩ (oneRow cells) := by
  have hsheet : Sheet.Spelled read ⟨"Items", [some row, none]⟩ (rowSheet cells) :=
    .mk (.cons (.cells h) (.cons .absent .nil)) (.swap _ _ _)
  exact .mk (.cons hsheet .nil) (.refl _)

theorem hasCell_oneRow {cell : Json} {cells : List Json} (h : cell ∈ cells) :
    (oneRow cells).HasCell cell :=
  ⟨_, _, .member List.mem_cons_self, List.mem_cons_self, _, cells, .member List.mem_cons_self,
    List.mem_cons_self, h⟩

/-- A cell of each kind, some with further members. -/
def mixedCells : List Json :=
  [.null, .string "id", .bool true, .number (.ofInt 2),
    .object [("cached", .number (.ofInt 2)), ("by", .null), ("formula", .string "A3*2")],
    .object [("error", .string "#REF!"), ("by", .null)]]

/-- The cells as they are read. -/
def mixedRow : Row :=
  [.blank, .string "id", .boolean true, .numeric (.ofInt 2),
    .formula "A3*2" (some (.numeric (.ofInt 2))), .unknown]

theorem ofNumeral?_two : Binary64.ofNumeral? (.ofInt 2) = some (.ofInt 2) := by
  decide +kernel

theorem spelled_mixedRow :
    List.Forall₂ (Cell.Spelled Binary64.ofNumeral?) mixedRow mixedCells := by
  have hformula : Cell.Spelled Binary64.ofNumeral? (.formula "A3*2" (some (.numeric (.ofInt 2))))
      (.object [("cached", .number (.ofInt 2)), ("by", .null), ("formula", .string "A3*2")]) :=
    .formulaCached (.numeric ofNumeral?_two) (.swap _ _ _)
  have hunknown : Cell.Spelled Binary64.ofNumeral? .unknown
      (.object [("error", .string "#REF!"), ("by", .null)]) := .unknown (.refl _)
  exact .cons .blank (.cons (.string _) (.cons (.boolean _) (.cons (.numeric ofNumeral?_two)
    (.cons hformula (.cons hunknown .nil)))))

theorem json_decode_mixedCells :
    (∃ text j, Json.parse? text = some j ∧
      Workbook.Spelled Binary64.ofNumeral? ⟨[⟨"Items", [some mixedRow, none]⟩]⟩ j) ∧
      json.decode ⟨"Items.json"⟩ (.text (oneRow mixedCells).pretty) =
        .ok ⟨[⟨"Items", [some mixedRow, none]⟩]⟩ ∧
      ∃ reason, json.decode ⟨"Items.json"⟩ (.text (oneRow [.array []]).pretty) =
        .error (.malformed ⟨"Items.json"⟩ reason) := by
  have hmixed : Json.parse? (oneRow mixedCells).pretty = some (oneRow mixedCells) :=
    Json.parse?_pretty (by decide +kernel)
  have harray : Json.parse? (oneRow [.array []]).pretty = some (oneRow [.array []]) :=
    Json.parse?_pretty (by decide +kernel)
  have hnumbers : Workbook.NumbersAre (Binary64.IsRead Binary64.ofNumeral?)
      ⟨[⟨"Items", [some mixedRow, none]⟩]⟩ := by
    have htwo : Binary64.IsRead Binary64.ofNumeral? (.ofInt 2) := ⟨_, rfl, ofNumeral?_two⟩
    simp [Workbook.NumbersAre, mixedRow, Cell.NumbersAre, CachedResult.NumbersAre, htwo]
  obtain ⟨hexists, hspelled, hbad⟩ := json_decode Binary64.ofNumeral? ⟨"Items.json"⟩
  obtain ⟨text, j, hj, hw, -⟩ := hexists _ hnumbers
  refine ⟨⟨text, j, hj, hw⟩,
    hspelled _ _ _ hmixed (spelled_oneRow spelled_mixedRow) fun cell hcell => ?_,
    hbad _ _ _ harray (hasCell_oneRow List.mem_cons_self) (.inl (.array []))⟩
  exact Json.IsReadable.legible_of_hasCell
    ⟨by decide +kernel, by decide +kernel, by decide +kernel⟩ hcell

/-- A cell with a further member that holds a number beyond the largest. -/
def notedCells : List Json :=
  [.object [("error", .string "#REF!"), ("note", .number ⟨false, 1, [], some 400⟩)]]

/-- The document spells a workbook of finite numbers, and is not read. -/
theorem malformed_notedCells :
    Json.parse? (oneRow notedCells).pretty = some (oneRow notedCells) ∧
      Workbook.NumbersAre (·.isFinite = true) ⟨[⟨"Items", [some [.unknown], none]⟩]⟩ ∧
      Workbook.Spelled Binary64.ofNumeral? ⟨[⟨"Items", [some [.unknown], none]⟩]⟩
        (oneRow notedCells) ∧
      ∃ reason, json.decode ⟨"Items.json"⟩ (.text (oneRow notedCells).pretty) =
        .error (.malformed ⟨"Items.json"⟩ reason) := by
  have hparse : Json.parse? (oneRow notedCells).pretty = some (oneRow notedCells) :=
    Json.parse?_pretty (by decide +kernel)
  have hfields : Json.HasFields [("error", .string "#REF!"),
      ("note", .number ⟨false, 1, [], some 400⟩)]
      cellFields [("error", .string "#REF!")] := .refl _
  have hspelled : List.Forall₂ (Cell.Spelled Binary64.ofNumeral?) [.unknown] notedCells :=
    .cons (.unknown hfields) .nil
  have hnone : Workbook.ofJson? Binary64.ofNumeral? (oneRow notedCells) = none := by decide +kernel
  have hnumbers : Workbook.NumbersAre (·.isFinite = true)
      ⟨[⟨"Items", [some [.unknown], none]⟩]⟩ := by
    simp [Workbook.NumbersAre, Cell.NumbersAre]
  exact ⟨hparse, hnumbers, spelled_oneRow hspelled, malformed_of_ofJson? hparse hnone _⟩

end WorkbookReader

end TypedSheets
