import TypedSheets.Proofs.Container
import TypedSheets.Proofs.CorrectRounding
import TypedSheets.Proofs.IntegerCoercion
import TypedSheets.Proofs.RowScan

/-!
# Integers in the JSON container

A numeric cell is a floating-point number, so an integer of 64 bits that is written in a document
(`Numeral.IsInteger`) is loaded by way of the nearest one. This is an integer again
(`Binary64.IsNearest.exists_int`) and lies between `-2 ^ 63` and `2 ^ 63`
(`Binary64.IsNearest.value_bounds`), so a column of integers takes it as it is, but for `2 ^ 63`
itself (`Binary64.IsNearest.coerceInt_cases`). The integer that was written is loaded exactly if it
is a floating-point number (`WorkbookReader.loads_integer`).
-/

namespace TypedSheets

namespace Binary64

variable {x : Binary64} {n : ℤ}

/-! ## The nearest number to an integer -/

/-- There is a number for every integer of at most 53 bits. -/
theorem exists_intCast (h : |n| ≤ 2 ^ 53) :
    ∃ y : Binary64, y.isFinite = true ∧ y.value = n := by
  obtain ⟨hlow, hhigh⟩ := abs_le.mp h
  obtain ⟨y, hfinite, hsign, hmagnitude⟩ :=
    exists_natCast (decide (n < 0)) (show n.natAbs ≤ 2 ^ 53 by omega)
  refine ⟨y, hfinite, ?_⟩
  rw [value_of_natCast hmagnitude, hsign, Int.cast_inj]
  simp only [decide_eq_true_eq]
  split <;> omega

/-- The nearest number is the number itself exactly if there is one. -/
theorem IsNearest.value_eq_iff {v : ℚ} (h : x.IsNearest v) :
    x.value = v ↔ ∃ y : Binary64, y.isFinite = true ∧ y.value = v := by
  refine ⟨fun hx => ⟨x, h.finite, hx⟩, ?_⟩
  rintro ⟨y, hfinite, rfl⟩
  have hle := h.nearest y hfinite
  rw [sub_self, abs_zero, abs_nonpos_iff, sub_eq_zero] at hle
  exact hle.symm

/-- Neither is the nearest number to an integer of more than 53 bits smaller than that. -/
theorem IsNearest.le_abs_value (h : x.IsNearest n) (hn : 2 ^ 53 ≤ |n|) :
    2 ^ 53 ≤ |x.value| := by
  obtain ⟨k, hk, hdist⟩ : ∃ k : ℤ, |k| ≤ 2 ^ 53 ∧ |n - k| = |n| - 2 ^ 53 := by
    obtain hle | hle := le_total 0 n
    · rw [abs_of_nonneg hle] at hn ⊢
      exact ⟨2 ^ 53, by norm_num, abs_of_nonneg (by omega)⟩
    · rw [abs_of_nonpos hle] at hn ⊢
      exact ⟨-2 ^ 53, by norm_num, by rw [abs_of_nonpos (by omega)]; omega⟩
  obtain ⟨y, hfinite, hy⟩ := exists_intCast hk
  have hdist' : |(n : ℚ) - k| = |(n : ℚ)| - 2 ^ 53 := by exact_mod_cast hdist
  have hnearest := h.nearest y hfinite
  rw [hy, hdist'] at hnearest
  have htriangle := abs_sub_abs_le_abs_sub (n : ℚ) x.value
  linarith

/-- The nearest number to an integer is an integer. -/
theorem IsNearest.exists_int (h : x.IsNearest n) : ∃ k : ℤ, x.value = k := by
  obtain hle | hlt := le_or_gt |n| (2 ^ 53)
  · exact ⟨n, h.value_eq_iff.mpr (exists_intCast hle)⟩
  -- a number of more than 53 bits has no bits below one
  have hlarge : (2 : ℚ) ^ (53 : ℤ) < 2 ^ (53 + x.magnitude.exponent) :=
    (h.le_abs_value hlt.le).trans_lt x.abs_value_lt
  have hexponent := (zpow_lt_zpow_iff_right₀ one_lt_two).mp hlarge
  obtain ⟨k, hk⟩ := exists_multiple (show 0 ≤ x.magnitude.exponent by omega)
  exact ⟨k, by rw [hk, zpow_zero, mul_one]⟩

/-- The ends of the range are numbers, so the nearest number does not lie beyond them. -/
theorem IsNearest.value_bounds (h : x.IsNearest n) (hlow : -2 ^ 63 ≤ n) (hhigh : n ≤ 2 ^ 63) :
    -2 ^ 63 ≤ x.value ∧ x.value ≤ 2 ^ 63 := by
  have hlow' : (-2 ^ 63 : ℚ) ≤ n := by exact_mod_cast hlow
  have hhigh' : (n : ℚ) ≤ 2 ^ 63 := by exact_mod_cast hhigh
  obtain ⟨hminFinite, hmin⟩ := ofInt_minValue
  obtain ⟨hmaxFinite, hmax⟩ := ofInt_maxValue
  have hdistLow := h.nearest _ hminFinite
  have hdistHigh := h.nearest _ hmaxFinite
  rw [hmin, abs_of_nonneg (sub_nonneg.mpr hlow')] at hdistLow
  rw [hmax, abs_of_nonpos (sub_nonpos.mpr hhigh')] at hdistHigh
  have hleft := le_abs_self ((n : ℚ) - x.value)
  have hright := neg_le_abs ((n : ℚ) - x.value)
  constructor <;> linarith

/-- The nearest number to an integer of 64 bits is coerced to the integer that it is, unless it is
`2 ^ 63`. -/
theorem IsNearest.coerceInt_cases (h : x.IsNearest n) (hlow : -2 ^ 63 ≤ n)
    (hhigh : n ≤ 2 ^ 63) : (x.value = 2 ^ 63 ∧ coerceInt x = .error (.intRange x)) ∨
      (x.value ≠ 2 ^ 63 ∧ ∃ k : Int64, coerceInt x = .ok k ∧
        (k.toInt : ℚ) = x.value) := by
  obtain ⟨k, hk⟩ := h.exists_int
  obtain ⟨hmin, hmax⟩ := h.value_bounds hlow hhigh
  have hcoerce := coerceInt_of_isNearestEven h.finite (hk ▸ isNearestEven_intCast k)
  rw [hk] at hmin hmax ⊢
  have hmin' : -2 ^ 63 ≤ k := by exact_mod_cast hmin
  have hmax' : k ≤ 2 ^ 63 := by exact_mod_cast hmax
  obtain hlt | rfl := hmax'.lt_or_eq
  · rw [if_pos ⟨hmin', by omega⟩] at hcoerce
    refine .inr ⟨fun heq => hlt.ne (by exact_mod_cast heq), _, hcoerce, ?_⟩
    rw [Int64.toInt_ofInt_of_le (by simpa using hmin') (by omega)]
  · exact .inl ⟨by norm_num, hcoerce⟩

end Binary64

/-! ## Written integers -/

/-- The numeral is an integer written with digits only. -/
structure Numeral.IsInteger (numeral : Numeral) (n : ℤ) : Prop where
  fraction : numeral.fraction = []
  exponent : numeral.exponent = none
  value : (if numeral.negative then -(numeral.whole : ℤ) else numeral.whole) = n

theorem digitsValue_cons (start : Nat) (c : Char) (ds : List Char) :
    digitsValue start (c :: ds) = digitsValue (digitsValue start [c]) ds := by
  simp only [digitsValue, List.foldl_cons, List.foldl_nil]

theorem le_digitsValue : ∀ (start : Nat) (ds : List Char), start ≤ digitsValue start ds
  | _, [] => Nat.le_refl _
  | start, c :: ds => by
    rw [digitsValue_cons]
    refine Nat.le_trans ?_ (le_digitsValue _ ds)
    simp only [digitsValue, List.foldl_cons, List.foldl_nil]
    omega

/-- All digits are taken if their value fits 64 bits. -/
theorem Numeral.takeDigits_of_lt : ∀ {start : Nat} {ds : List Char},
    digitsValue start ds < UInt64.size → takeDigits start ds = (digitsValue start ds, [])
  | _, [], _ => rfl
  | start, c :: ds, h => by
    rw [digitsValue_cons] at h ⊢
    rw [takeDigits, if_pos (Nat.lt_of_le_of_lt (le_digitsValue _ ds) h)]
    exact takeDigits_of_lt h

/-- An integer of 64 bits is taken whole. -/
theorem Numeral.IsInteger.taken {numeral : Numeral} {n : ℤ} (h : numeral.IsInteger n)
    (hwhole : numeral.whole < UInt64.size) :
    numeral.significand = numeral.whole ∧ numeral.power = 0 := by
  have htake : numeral.takeWhole = (numeral.whole, []) := by
    rw [takeWhole, takeDigits_of_lt (by rwa [Json.digitsValue_toDigits]), Json.digitsValue_toDigits]
  simp [significand, power, takeFraction, htake, h.fraction, h.exponent, takeDigits]

/-- An integer of 64 bits is read as the nearest number. -/
theorem Numeral.IsInteger.exists_ofNumeral? {numeral : Numeral} {n : ℤ} (h : numeral.IsInteger n)
    (hlow : -2 ^ 63 ≤ n) (hhigh : n ≤ 2 ^ 63 - 1) :
    ∃ x, Binary64.ofNumeral? numeral = some x ∧ x.IsNearest n := by
  have hvalue := h.value
  have hwhole : numeral.whole ≤ 2 ^ 63 := by
    cases hnegative : numeral.negative <;>
      simp only [hnegative, if_true, Bool.false_eq_true, if_false] at hvalue <;> omega
  obtain ⟨hsignificand, hpower⟩ := h.taken (Nat.lt_of_le_of_lt hwhole (by decide))
  obtain ⟨y, hy⟩ := Binary64.exists_ofDecimal? false hwhole
  have hinteger : Binary64.ofInt numeral.whole = y := by
    rw [Binary64.ofInt, Int.natAbs_natCast, decide_eq_false (by omega), hy, Option.getD_some]
  have hx : Binary64.ofDecimal? numeral.negative numeral.whole 0 =
      some (Binary64.ofSign numeral.negative y.word) := by
    rw [Binary64.ofDecimal?_eq_map, hy, Option.map_some]
  refine ⟨Binary64.ofSign numeral.negative y.word, ?_, ?_⟩
  · rw [Binary64.ofNumeral?, hsignificand, hpower, hinteger, Binary64.scale?, if_pos (.inl rfl),
      Option.map_some]
  · have hnearest := Binary64.isNearest_of_ofDecimal? hx
    rw [zpow_zero, mul_one] at hnearest
    rw [← hvalue]
    cases hnegative : numeral.negative <;> simpa [hnegative] using hnearest

/-- The cell in a column of a row of a sheet, all counted from zero. -/
def Json.CellAt (doc : Json) (i r c : Nat) (cell : Json) : Prop :=
  ∃ sheets sheet rows cells, Gives ["sheets"] "sheets" (.array sheets) doc ∧
    sheets[i]? = some sheet ∧
    Gives ["name", "rows"] "rows" (.array rows) sheet ∧ rows[r]? = some (.array cells) ∧
      cells[c]? = some cell

/-- In a workbook the cells stand where they do in the document. -/
theorem Workbook.cellAt_of_ofJson? {read : NumberReading} {w : Workbook} {doc cell : Json}
    {i r c : Nat} (h : Workbook.ofJson? read doc = some w) (hcell : doc.CellAt i r c cell) :
    ∃ sheet row x, w.sheets[i]? = some sheet ∧ sheet.row? r = some row ∧ row[c]? = some x ∧
      Cell.ofJson? read cell = some x := by
  obtain ⟨sheets, sheetDoc, rows, cells, hsheets, hsheetDoc, hrows, hcells, hcell⟩ := hcell
  obtain ⟨sheet, hsheet, hread⟩ :=
    getElem?_of_mapM (Workbook.sheets_of_ofJson? h hsheets) hsheetDoc
  obtain ⟨slot, hslot, hslotRead⟩ := getElem?_of_mapM (Sheet.rows_of_ofJson? hread hrows) hcells
  obtain ⟨row, hrow, rfl⟩ := Option.map_eq_some_iff.mp hslotRead
  obtain ⟨x, hx, hxRead⟩ := getElem?_of_mapM hrow hcell
  exact ⟨sheet, row, x, hsheet, by rw [Sheet.row?, hslot]; rfl, hx, hxRead⟩

/-! ## Loading -/

/-- The cells of a row coerce in all columns but one. -/
def TableSchema.CoercesBeside (s : TableSchema) (row : Row) (c : Nat) : Prop :=
  ∀ (i : Nat) (column : Column), i ≠ c → s.columns[i]? = some column →
    ∃ value, Cell.coerce column.type row[i]? = .ok value

namespace Loader

variable {l : Loader} {sheet : Sheet} {row : Nat × Row} {c : Nat} {column : Column} {x : Binary64}

theorem coerce_int_numeric (x : Binary64) :
    Cell.coerce .int (some (.numeric x)) = (coerceInt x).map .int :=
  rfl

/-- A row with a number in a column of integers is loaded if the number and all other cells
coerce. -/
theorem exists_loadRow_iff (hcolumn : l.schema.columns[c]? = some column)
    (htype : column.type = .int) (hcell : row.2[c]? = some (.numeric x)) :
    (∃ record, l.loadRow sheet row = .ok record) ↔
      (∃ k, coerceInt x = .ok k) ∧ l.schema.CoercesBeside row.2 c := by
  have hcoerce : Cell.coerce column.type row.2[c]? = (coerceInt x).map .int := by
    rw [htype, hcell]; rfl
  rw [← coerces_iff_loadRow, TableSchema.coerces_eq_true_iff]
  constructor
  · intro h
    obtain ⟨value, hvalue⟩ := h c column hcolumn
    obtain ⟨k, hk, -⟩ := map_eq_ok_iff.mp (hcoerce.symm.trans hvalue)
    exact ⟨⟨k, hk⟩, fun i column' _ hcolumn' => h i column' hcolumn'⟩
  · rintro ⟨⟨k, hk⟩, hbeside⟩ i column' hcolumn'
    by_cases hi : i = c
    · subst hi
      obtain rfl := Option.some.inj (hcolumn.symm.trans hcolumn')
      exact ⟨.int k, by rw [hcoerce, hk]; rfl⟩
    · exact hbeside i column' hi hcolumn'

/-- A record has in a column of integers what the number there is coerced to. -/
theorem value_of_loadRow {record : Record} (hcolumn : l.schema.columns[c]? = some column)
    (htype : column.type = .int) (hcell : row.2[c]? = some (.numeric x))
    (h : l.loadRow sheet row = .ok record) :
    ∃ k, record.values[c]? = some (.int k) ∧ coerceInt x = .ok k := by
  obtain ⟨value, hvalue, hcoerce⟩ := (loadRow_eq_ok_iff.mp h).value hcolumn
  rw [htype, hcell, coerce_int_numeric] at hcoerce
  obtain ⟨k, hk, rfl⟩ := map_eq_ok_iff.mp hcoerce
  exact ⟨k, hvalue, hk⟩

end Loader

namespace WorkbookReader

theorem ofJson?_of_decode {origin : Path} {text : String} {doc : Json} {w : Workbook}
    (hdoc : Json.parse? text = some doc) (h : json.decode origin (.text text) = .ok w) :
    Workbook.ofJson? Binary64.ofNumeral? doc = some w := by
  cases hread : Workbook.ofJson? Binary64.ofNumeral? doc with
  | none =>
    obtain ⟨reason, hmalformed⟩ := malformed_of_ofJson? hdoc hread origin
    cases h.symm.trans hmalformed
  | some w' =>
    exact congrArg some (Except.ok.inj ((decode_of_ofJson? hdoc hread origin).symm.trans h))

/-- An integer of 64 bits that is written in a cell is read as the nearest number, of two equally
near the one with the even significand; an integer of at most 53 bits is a number. Under a column of
integers the row is loaded with the integer that this number is, which is the one that was written
exactly if that is a number at all. Only if the nearest number is `2 ^ 63` the cell does not
coerce. -/
theorem loads_integer {numeral : Numeral} {n : ℤ} (hn : numeral.IsInteger n)
    (hlow : -2 ^ 63 ≤ n) (hhigh : n ≤ 2 ^ 63 - 1) :
    ∃ x : Binary64, Cell.ofJson? Binary64.ofNumeral? (.number numeral) = some (.numeric x) ∧
      x.IsNearest n ∧ (|n| ≤ 2 ^ 53 → x.value = n) ∧
      (x.value = 2 ^ 63 → Cell.coerce .int (some (.numeric x)) = .error (.intRange x)) ∧
      ∀ (origin : Path) (text : String) (doc : Json) (w : Workbook) (i r c : Nat),
        Json.parse? text = some doc → json.decode origin (.text text) = .ok w →
          doc.CellAt i r c (.number numeral) →
          ∃ sheet row, w.sheets[i]? = some sheet ∧ sheet.row? r = some row ∧
            row[c]? = some (.numeric x) ∧
            ∀ (l : Loader) (column : Column), l.schema.columns[c]? = some column →
              column.type = .int →
              ((∃ record, l.loadRow sheet (r, row) = .ok record) ↔
                x.value ≠ 2 ^ 63 ∧ l.schema.CoercesBeside row c) ∧
              ∀ record, l.loadRow sheet (r, row) = .ok record →
                ∃ k : Int64, record.values[c]? = some (.int k) ∧ (k.toInt : ℚ) = x.value ∧
                  (k.toInt = n ↔ ∃ y : Binary64, y.isFinite = true ∧ y.value = n) := by
  obtain ⟨x, hx, hnearest⟩ := hn.exists_ofNumeral? hlow hhigh
  have hread : Cell.ofJson? Binary64.ofNumeral? (.number numeral) = some (.numeric x) := by
    rw [Cell.ofJson?, hx]
    rfl
  have hcases := hnearest.coerceInt_cases hlow (by omega)
  refine ⟨x, hread, hnearest,
    fun hsmall => hnearest.value_eq_iff.mpr (Binary64.exists_intCast hsmall), ?_, ?_⟩
  · intro hmax
    obtain ⟨-, herror⟩ | ⟨hne, -⟩ := hcases
    · rw [Loader.coerce_int_numeric, herror]
      rfl
    · exact absurd hmax hne
  intro origin text doc w i r c hdoc hw hcell
  obtain ⟨sheet, row, cell, hsheet, hrow, hplace, hcellRead⟩ :=
    Workbook.cellAt_of_ofJson? (ofJson?_of_decode hdoc hw) hcell
  obtain rfl := Option.some.inj (hread.symm.trans hcellRead)
  refine ⟨sheet, row, hsheet, hrow, hplace,
    fun l column hcolumn htype => ⟨?_, fun record hrecord => ?_⟩⟩
  · rw [Loader.exists_loadRow_iff hcolumn htype hplace]
    refine and_congr_left fun _ => ?_
    obtain ⟨hmax, herror⟩ | ⟨hne, k, hk, -⟩ := hcases
    · exact iff_of_false (by simp [herror]) (not_not.mpr hmax)
    · exact iff_of_true ⟨k, hk⟩ hne
  · obtain ⟨k, hvalue, hk⟩ := Loader.value_of_loadRow hcolumn htype hplace hrecord
    obtain ⟨-, herror⟩ | ⟨-, k', hk', hinteger⟩ := hcases
    · cases hk.symm.trans herror
    obtain rfl := Except.ok.inj (hk.symm.trans hk')
    refine ⟨k, hvalue, hinteger, ?_⟩
    rw [← hnearest.value_eq_iff, ← hinteger]
    exact Int.cast_inj.symm

/-- The largest integer of 64 bits is read as `2 ^ 63`. -/
example : Cell.ofJson? Binary64.ofNumeral? (.number (.ofInt 9223372036854775807)) =
      some (.numeric ⟨0x43E0000000000000⟩) ∧
    Cell.coerce .int (some (.numeric ⟨0x43E0000000000000⟩)) =
      .error (.intRange ⟨0x43E0000000000000⟩) := by
  decide +kernel

theorem isInteger_ofInt (n : ℤ) : (Numeral.ofInt n).IsInteger n := by
  refine ⟨rfl, rfl, ?_⟩
  simp only [Numeral.ofInt, decide_eq_true_eq]
  split <;> omega

theorem cellAt_oneRow {cell : Json} {cells : List Json} {c : Nat} (h : cells[c]? = some cell) :
    (oneRow cells).CellAt 0 0 c cell :=
  ⟨_, _, _, cells, .member List.mem_cons_self, rfl, .member List.mem_cons_self, rfl, h⟩

/-- The largest integer of 53 bits and the next one but one, in a row. -/
def largeCells : List Json :=
  [.number (.ofInt 9007199254740991), .number (.ofInt 9007199254740993)]

/-- The cells of the row as they are read. -/
def largeRow : Row :=
  [.numeric ⟨0x433FFFFFFFFFFFFF⟩, .numeric ⟨0x4340000000000000⟩]

/-- A sheet with that row and an absent one. -/
def largeSheet : Sheet :=
  ⟨"Items", [some largeRow, none]⟩

/-- A loader for two columns of integers. -/
def pairLoader : Loader where
  schema := ⟨"Entity_Items", [⟨"id", .int⟩, ⟨"next", .int⟩]⟩
  source := "Test.json"

theorem decode_largeCells : Json.parse? (oneRow largeCells).pretty = some (oneRow largeCells) ∧
    json.decode ⟨"Test.json"⟩ (.text (oneRow largeCells).pretty) = .ok ⟨[largeSheet]⟩ := by
  have hdoc : Json.parse? (oneRow largeCells).pretty = some (oneRow largeCells) :=
    Json.parse?_pretty (by decide +kernel)
  exact ⟨hdoc, decode_of_ofJson? hdoc (by decide +kernel) _⟩

theorem coercesBeside_largeRow : pairLoader.schema.CoercesBeside largeRow 0
  | 0, _, hne, _ => absurd rfl hne
  | 1, column, _, hcolumn => by
    obtain rfl : ⟨"next", .int⟩ = column := Option.some.inj hcolumn
    exact ⟨.int 9007199254740992, by decide +kernel⟩
  | _ + 2, _, _, hcolumn => nomatch hcolumn

/-- The first of the two is loaded as it was written. -/
theorem loads_integer_largest :
    ∃ record, pairLoader.loadRow largeSheet (0, largeRow) = .ok record ∧
    record.values[0]? = some (.int 9007199254740991) := by
  obtain ⟨hdoc, hw⟩ := decode_largeCells
  have hsmall : |(9007199254740991 : ℤ)| ≤ 2 ^ 53 := by decide
  obtain ⟨x, -, -, hexact, -, hread⟩ :=
    loads_integer (isInteger_ofInt 9007199254740991) (by decide) (by decide)
  obtain ⟨sheet, row, hsheet, hrow, -, hload⟩ := hread _ _ _ _ 0 0 0 hdoc hw (cellAt_oneRow rfl)
  obtain rfl : largeSheet = sheet := Option.some.inj hsheet
  obtain rfl : largeRow = row := Option.some.inj hrow
  obtain ⟨hloads, hvalue⟩ := hload pairLoader ⟨"id", .int⟩ rfl rfl
  have hne : x.value ≠ 2 ^ 63 := by
    rw [hexact hsmall]
    norm_num
  obtain ⟨record, hrecord⟩ := hloads.mpr ⟨hne, coercesBeside_largeRow⟩
  obtain ⟨k, hk, -, hwritten⟩ := hvalue record hrecord
  obtain rfl : k = 9007199254740991 :=
    Int64.toInt_inj.mp (hwritten.mpr (Binary64.exists_intCast hsmall))
  exact ⟨record, hrecord, hk⟩

/-- The second is loaded as its lower neighbour, so not every integer of 64 bits is loaded as it was
written. -/
theorem not_loads_every_integer :
    ¬∀ (numeral : Numeral) (n : ℤ), numeral.IsInteger n → -2 ^ 63 ≤ n → n ≤ 2 ^ 63 - 1 →
      ∀ (origin : Path) (text : String) (doc : Json) (w : Workbook) (i r c : Nat),
        Json.parse? text = some doc → json.decode origin (.text text) = .ok w →
          doc.CellAt i r c (.number numeral) →
          ∀ (sheet : Sheet) (row : Row) (l : Loader) (column : Column),
            w.sheets[i]? = some sheet → sheet.row? r = some row →
              l.schema.columns[c]? = some column → column.type = .int →
              ∀ record, l.loadRow sheet (r, row) = .ok record →
                record.values[c]? = some (.int (Int64.ofInt n)) := by
  intro h
  obtain ⟨hdoc, hw⟩ := decode_largeCells
  have hwritten :=
    h _ _ (isInteger_ofInt 9007199254740993) (by decide) (by decide) _ _ _ _ 0 0 1 hdoc hw
    (cellAt_oneRow rfl) largeSheet largeRow pairLoader _ rfl rfl rfl rfl
    ⟨["id", "next"], [.int 9007199254740991, .int 9007199254740992]⟩ (by decide +kernel)
  exact absurd hwritten (by decide +kernel)

end WorkbookReader

end TypedSheets
