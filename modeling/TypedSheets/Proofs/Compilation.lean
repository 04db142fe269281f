import TypedSheets.Proofs.Agreement
import TypedSheets.Schema.Compilation

/-!
# Compiling sheets in order and on their own

A compilation reads the sheets of a workbook one after the other under one agreement. `Declare` says
without an agreement what some sheets declare together: it only speaks of the sheets as members of a
list that are read on their own, so their order does not count. It decides the result of a
compilation (`Compilation.success_iff_declare`, `Compilation.schema_of_declare`).

Main statement: `Compilation.run_iff_separate`.
-/

namespace TypedSheets

/-- What sheets declare together when each is read on its own: nothing if they are all empty, and
columns if some sheet declares them and no other sheet disagrees. -/
def Declare (sheets : List Sheet) : Option (List Column) → Prop
  | none => ∀ sheet ∈ sheets, sheet.schema = .ok .empty
  | some cols =>
    (∃ sheet ∈ sheets, sheet.schema = .ok (.columns cols)) ∧
      ∀ sheet ∈ sheets, sheet.schema = .ok .empty ∨ sheet.schema = .ok (.columns cols)

namespace Declare

variable {sheets others : List Sheet} {sheet : Sheet} {declared : Option (List Column)}

theorem perm (h : others.Perm sheets) : Declare others declared ↔ Declare sheets declared := by
  cases declared <;> simp only [Declare, h.mem_iff]

theorem ok (h : Declare sheets declared) (hs : sheet ∈ sheets) : ∃ r, sheet.schema = .ok r := by
  cases declared with
  | none => exact ⟨_, h sheet hs⟩
  | some cols => exact (h.2 sheet hs).elim (fun h => ⟨_, h⟩) fun h => ⟨_, h⟩

/-- Columns that a sheet declares are those that all declare. -/
theorem eq_of_columns {cols : List Column} (h : Declare sheets declared) (hs : sheet ∈ sheets)
    (hcols : sheet.schema = .ok (.columns cols)) : declared = some cols := by
  cases declared with
  | none => cases hcols.symm.trans (h sheet hs)
  | some others =>
    rcases h.2 sheet hs with h | h
    · cases hcols.symm.trans h
    · obtain ⟨⟩ := hcols.symm.trans h
      rfl

theorem eq_none_of_empty (h : Declare sheets declared)
    (hempty : ∀ sheet ∈ sheets, sheet.schema = .ok .empty) : declared = none := by
  cases declared with
  | none => rfl
  | some cols =>
    obtain ⟨sheet, hs, hcols⟩ := h.1
    cases hcols.symm.trans (hempty sheet hs)

theorem exists_iff : (∃ declared, Declare sheets declared) ↔
    (∀ sheet ∈ sheets, ∃ r, sheet.schema = .ok r) ∧
      ∀ s ∈ sheets, ∀ t ∈ sheets, ∀ c d, s.schema = .ok (.columns c) →
        t.schema = .ok (.columns d) → c = d := by
  constructor
  · rintro ⟨declared, h⟩
    exact ⟨fun sheet hs => h.ok hs, fun s hs t ht c d hc hd =>
      Option.some.inj ((h.eq_of_columns hs hc).symm.trans (h.eq_of_columns ht hd))⟩
  · rintro ⟨hok, hsame⟩
    by_cases hsome : ∃ sheet ∈ sheets, ∃ cols, sheet.schema = .ok (.columns cols)
    · obtain ⟨sheet, hs, cols, hcols⟩ := hsome
      refine ⟨some cols, ⟨sheet, hs, hcols⟩, fun t ht => ?_⟩
      obtain ⟨r, hr⟩ := hok t ht
      cases r with
      | empty => exact .inl hr
      | columns d => exact .inr (hsame sheet hs t ht cols d hcols hr ▸ hr)
    · refine ⟨none, fun t ht => ?_⟩
      obtain ⟨r, hr⟩ := hok t ht
      cases r with
      | empty => exact hr
      | columns d => exact absurd ⟨t, ht, d, hr⟩ hsome

theorem cons_empty (h : sheet.schema = .ok .empty) :
    Declare (sheet :: sheets) declared ↔ Declare sheets declared := by
  cases declared <;> simp [Declare, h]

theorem cons_columns {cols : List Column} (h : sheet.schema = .ok (.columns cols)) :
    Declare (sheet :: sheets) declared ↔ declared = some cols ∧
      ∀ t ∈ sheets, t.schema = .ok .empty ∨ t.schema = .ok (.columns cols) := by
  constructor
  · intro hd
    obtain rfl := hd.eq_of_columns List.mem_cons_self h
    exact ⟨rfl, fun t ht => hd.2 t (List.mem_cons_of_mem _ ht)⟩
  · rintro ⟨rfl, hall⟩
    refine ⟨⟨sheet, List.mem_cons_self, h⟩, fun t ht => ?_⟩
    rcases List.mem_cons.mp ht with rfl | ht
    · exact .inr h
    · exact hall t ht

end Declare

namespace Agreement

/-- The agreement of sheets that declare the given columns or nothing. -/
def ofDeclared : Option (List Column) → Agreement
  | none => fresh
  | some cols => ofColumns cols

theorem readSheets_cons_ok {a b : Agreement} {sheet : Sheet} {declared : SheetSchema}
    (h : a.readSheet sheet = (b, .ok declared)) (sheets : List Sheet) :
    a.readSheets (sheet :: sheets) = b.readSheets sheets := by
  rw [readSheets, h]

theorem readSheets_cons_error {a : Agreement} {sheet : Sheet} {e : SheetFault}
    (h : (a.readSheet sheet).2 = .error e) (sheets : List Sheet) :
    (a.readSheets (sheet :: sheets)).2 ≠ [] := by
  rw [readSheets, show a.readSheet sheet = (_, .error e) from Prod.ext rfl h]
  simp

/-- Once columns are fixed, sheets that are empty or declare them are accepted, and any other is
rejected. -/
theorem ofColumns_readSheets (cols : List Column) : ∀ sheets : List Sheet,
    ((∀ t ∈ sheets, t.schema = .ok .empty ∨ t.schema = .ok (.columns cols)) ∧
        (ofColumns cols).readSheets sheets = (ofColumns cols, [])) ∨
      (¬(∀ t ∈ sheets, t.schema = .ok .empty ∨ t.schema = .ok (.columns cols)) ∧
        ((ofColumns cols).readSheets sheets).2 ≠ [])
  | [] => .inl ⟨fun _ h => (nomatch h), rfl⟩
  | sheet :: sheets => by
    rcases ofColumns_readSheet cols sheet with ⟨hsheet, hfst, r, hsnd⟩ | ⟨hsheet, e, hsnd⟩
    · rw [readSheets_cons_ok (Prod.ext hfst hsnd) sheets]
      rcases ofColumns_readSheets cols sheets with ⟨hall, hread⟩ | ⟨hall, hread⟩
      · exact .inl ⟨List.forall_mem_cons.mpr ⟨hsheet, hall⟩, hread⟩
      · exact .inr ⟨fun h => hall (List.forall_mem_cons.mp h).2, hread⟩
    · exact .inr ⟨fun h => hsheet (h sheet List.mem_cons_self),
        readSheets_cons_error hsnd sheets⟩

/-- Reading sheets one after the other accepts them all just when they declare something together,
which the agreement then holds. The induction is on the sheets up to the first that is not empty. -/
theorem fresh_readSheets : ∀ sheets : List Sheet,
    (∃ declared, Declare sheets declared ∧
      fresh.readSheets sheets = (ofDeclared declared, [])) ∨
      ((¬∃ declared, Declare sheets declared) ∧ (fresh.readSheets sheets).2 ≠ [])
  | [] => .inl ⟨none, fun _ h => (nomatch h), rfl⟩
  | sheet :: sheets => by
    cases h : sheet.schema with
    | error e =>
      refine .inr ⟨fun ⟨declared, hd⟩ => ?_, readSheets_cons_error h sheets⟩
      obtain ⟨r, hr⟩ := hd.ok List.mem_cons_self
      cases h.symm.trans hr
    | ok r =>
      cases r with
      | empty =>
        simp only [Declare.cons_empty h, readSheets_cons_ok (readSheet_of_empty h fresh) sheets]
        exact fresh_readSheets sheets
      | columns cols =>
        simp only [Declare.cons_columns h,
          readSheets_cons_ok (fresh_readSheet_of_columns h) sheets]
        rcases ofColumns_readSheets cols sheets with ⟨hall, hread⟩ | ⟨hall, hread⟩
        · exact .inl ⟨some cols, ⟨rfl, hall⟩, hread⟩
        · exact .inr ⟨fun ⟨_, _, h⟩ => hall h, hread⟩

end Agreement

namespace Compilation

variable (source entity : String) (w : Workbook)

theorem success_iff_declare :
    (run source entity w).success = true ↔ ∃ declared, Declare w.sheets declared := by
  have hsuccess : (run source entity w).success = true ↔
      (Agreement.fresh.readSheets w.sheets).2 = [] := by
    simp [success, run]
  rw [hsuccess]
  rcases Agreement.fresh_readSheets w.sheets with ⟨declared, hd, hread⟩ | ⟨hd, hread⟩
  · simp only [hread, true_iff]
    exact ⟨declared, hd⟩
  · exact iff_of_false hread hd

theorem schema_of_declare {declared : Option (List Column)} (h : Declare w.sheets declared) :
    (run source entity w).schema = declared.map (TableSchema.mk entity) := by
  rcases Agreement.fresh_readSheets w.sheets with ⟨other, ho, hread⟩ | ⟨hd, -⟩
  · have hschema : (run source entity w).schema = (Agreement.ofDeclared other).schema? entity := by
      simp [run, hread]
    rw [hschema]
    cases other with
    | none =>
      obtain rfl := h.eq_none_of_empty ho
      rfl
    | some cols =>
      obtain ⟨sheet, hs, hcols⟩ := ho.1
      obtain rfl := h.eq_of_columns hs hcols
      exact Agreement.schema?_ofColumns cols entity
  · exact absurd ⟨declared, h⟩ hd

theorem schema_of_not_declare (h : ¬∃ declared, Declare w.sheets declared) :
    (run source entity w).schema = none := by
  rcases Agreement.fresh_readSheets w.sheets with ⟨declared, hd, -⟩ | ⟨-, hread⟩
  · exact absurd ⟨declared, hd⟩ h
  · simp [run, hread]

/-- The schema of a compilation are the columns that some sheet declares and no other
contradicts. -/
theorem schema_eq_some_iff {s : TableSchema} :
    (run source entity w).schema = some s ↔
      s.entity = entity ∧ Declare w.sheets (some s.columns) := by
  constructor
  · intro h
    by_cases hd : ∃ declared, Declare w.sheets declared
    · obtain ⟨declared, hd⟩ := hd
      rw [schema_of_declare source entity w hd] at h
      obtain ⟨cols, rfl, rfl⟩ := Option.map_eq_some_iff.mp h
      exact ⟨rfl, hd⟩
    · rw [schema_of_not_declare source entity w hd] at h
      cases h
  · rintro ⟨rfl, hd⟩
    rw [schema_of_declare source s.entity w hd]
    rfl

/-- A compilation succeeds just when every sheet read on its own is accepted and the sheets that
declare columns declare the same. These columns are then its schema, which is missing if all sheets
are empty. So the order of the sheets does not count. -/
theorem run_iff_separate :
    ((run source entity w).success = true ↔
        (∀ sheet ∈ w.sheets, ∃ r, sheet.schema = .ok r) ∧
          ∀ s ∈ w.sheets, ∀ t ∈ w.sheets, ∀ c d, s.schema = .ok (.columns c) →
            t.schema = .ok (.columns d) → c = d) ∧
      ((run source entity w).success = true →
        (∀ sheet ∈ w.sheets, ∀ cols, sheet.schema = .ok (.columns cols) →
            (run source entity w).schema = some ⟨entity, cols⟩) ∧
          ((∀ sheet ∈ w.sheets, sheet.schema = .ok .empty) →
            (run source entity w).schema = none)) ∧
      ∀ v : Workbook, v.sheets.Perm w.sheets →
        (run source entity v).success = (run source entity w).success ∧
          (run source entity v).schema = (run source entity w).schema := by
  refine ⟨(success_iff_declare source entity w).trans Declare.exists_iff, fun h => ?_,
    fun v hv => ⟨?_, ?_⟩⟩
  · obtain ⟨declared, hd⟩ := (success_iff_declare source entity w).mp h
    rw [schema_of_declare source entity w hd]
    refine ⟨fun sheet hs cols hcols => ?_, fun hempty => ?_⟩
    · rw [hd.eq_of_columns hs hcols]
      rfl
    · rw [hd.eq_none_of_empty hempty]
      rfl
  · rw [Bool.eq_iff_iff, success_iff_declare, success_iff_declare]
    exact exists_congr fun declared => Declare.perm hv
  · by_cases hd : ∃ declared, Declare w.sheets declared
    · obtain ⟨declared, hd⟩ := hd
      rw [schema_of_declare source entity w hd,
        schema_of_declare source entity v ((Declare.perm hv).mpr hd)]
    · have hv' : ¬∃ declared, Declare v.sheets declared :=
        fun ⟨declared, h⟩ => hd ⟨declared, (Declare.perm hv).mp h⟩
      rw [schema_of_not_declare source entity w hd, schema_of_not_declare source entity v hv']

/-- Three sheets, of which the second is empty and the third spells the columns of the first in
another way. -/
def threeSheets : Workbook := ⟨[
  ⟨"One", [some [.string " Id ", .string "Kind"],
    some [.string "INT", .string "enum|Red,green"]]⟩,
  ⟨"Two", [some [.blank, .string "x"]]⟩,
  ⟨"Three", [some [.string "id", .string "kind"],
    some [.string "int", .string "Enum | red, green"]]⟩]⟩

theorem schema_threeSheets :
    (run "Test.json" "Entity_Test" threeSheets).success = true ∧
      (run "Test.json" "Entity_Test" threeSheets).schema =
        some ⟨"Entity_Test", [⟨"id", .int⟩, ⟨"kind", .enum ["red", "green"]⟩]⟩ := by
  have hsuccess : (run "Test.json" "Entity_Test" threeSheets).success = true := by decide +kernel
  have h := (run_iff_separate "Test.json" "Entity_Test" threeSheets).2.1 hsuccess
  exact ⟨hsuccess, h.1 threeSheets.sheets[0] List.mem_cons_self _ rfl⟩

end Compilation

end TypedSheets
