import TypedSheets.Text.Blank
import TypedSheets.Text.Lowercase

/-!
# Lower-case texts

`IsLower` are the characters that lower-casing leaves alone wherever they stand. Lower-casing only
yields such characters (`isLower_of_mem_lowercase`), so doing it twice is doing it once
(`lowercase_lowercase`). It makes no blank characters either (`squeeze_lowercase`), and leaves those
that are there alone (`isLower_of_isBlank`).

All this rests on the case data: no run of capital letters is mapped into a run of capital letters,
or onto a blank character, and none holds a blank character. It is enough to compare the ends of
runs (`CaseRun.misses`, `CaseRun.isApart`).
-/

namespace TypedSheets.Text

/-! ## The case data -/

/-- No letter of `r` is mapped to a letter of `q`: the images of `r` lie outside `q`, or between its
letters. -/
def CaseRun.misses (r q : CaseRun) : Bool :=
  (r.image r.last).blt q.first || q.last.blt (r.image r.first) ||
    ((r.step == 2 || r.first == r.last) && q.step == 2 && (r.image r.first + q.first) % 2 == 1)

/-- No letter lies in both runs: one ends before the other begins. -/
def CaseRun.isApart (r q : CaseRun) : Bool :=
  r.last.blt q.first || q.last.blt r.first

/-- The images of the run are code points of characters. -/
def CaseRun.isSound (r : CaseRun) : Bool :=
  0 ≤ r.first + r.shift && 0 < r.step &&
    (r.image r.last < 0xD800 || (0xDFFF < r.image r.first && r.image r.last < 0x110000))

/-- The blank characters and the capital `İ`, as runs. -/
def apartRuns : List CaseRun := [
  ⟨9, 13, 1, 0⟩, ⟨0x20, 0x20, 1, 0⟩, ⟨0x85, 0x85, 1, 0⟩, ⟨0xA0, 0xA0, 1, 0⟩,
  ⟨0x1680, 0x1680, 1, 0⟩, ⟨0x2000, 0x200A, 1, 0⟩, ⟨0x2028, 0x2029, 1, 0⟩,
  ⟨0x202F, 0x202F, 1, 0⟩, ⟨0x205F, 0x205F, 1, 0⟩, ⟨0x3000, 0x3000, 1, 0⟩,
  ⟨0x130, 0x130, 1, 0⟩]

theorem lowerRuns_isSound : ∀ r ∈ lowerRuns, r.isSound = true := by
  decide +kernel

theorem lowerRuns_misses {r q : CaseRun} (hr : r ∈ lowerRuns)
    (hq : q ∈ lowerRuns ++ apartRuns) : r.misses q = true := by
  have hall : (lowerRuns.all fun r => (lowerRuns ++ apartRuns).all r.misses) = true := by
    decide +kernel
  exact List.all_eq_true.mp (List.all_eq_true.mp hall r hr) q hq

theorem lowerRuns_isApart {r q : CaseRun} (hr : r ∈ lowerRuns) (hq : q ∈ apartRuns) :
    r.isApart q = true := by
  have hall : (lowerRuns.all fun r => apartRuns.all r.isApart) = true := by
    decide +kernel
  exact List.all_eq_true.mp (List.all_eq_true.mp hall r hr) q hq

namespace CaseRun

variable {r q : CaseRun} {n : Nat}

theorem bounds_of_covers (h : r.covers n = true) :
    r.first ≤ n ∧ n ≤ r.last ∧ (n - r.first) % r.step = 0 := by
  simpa [covers, and_assoc] using h

/-- A code point keeps its distance from the first of its run. -/
theorem image_eq (hr : r.isSound = true) (h : r.covers n = true) :
    r.image n = r.image r.first + (n - r.first) := by
  obtain ⟨hfirst, -, -⟩ := bounds_of_covers h
  simp only [isSound, Bool.and_eq_true, decide_eq_true_eq] at hr
  simp only [image]
  omega

theorem image_le_last (h : r.covers n = true) : r.image n ≤ r.image r.last := by
  obtain ⟨-, hlast, -⟩ := bounds_of_covers h
  simp only [image]
  omega

theorem isValidChar_image (hr : r.isSound = true) (h : r.covers n = true) :
    (r.image n).isValidChar := by
  have heq := image_eq hr h
  have hle := image_le_last h
  simp only [isSound, Bool.and_eq_true, Bool.or_eq_true, decide_eq_true_eq] at hr
  unfold Nat.isValidChar
  omega

theorem not_covers_of_isApart (hapart : r.isApart q = true) (h : q.covers n = true) :
    r.covers n = false := by
  rw [Bool.eq_false_iff]
  intro hr
  obtain ⟨hfirst, hlast, -⟩ := bounds_of_covers hr
  obtain ⟨hqfirst, hqlast, -⟩ := bounds_of_covers h
  simp only [isApart, Bool.or_eq_true, Nat.blt_eq] at hapart
  omega

theorem not_covers_image (hr : r.isSound = true) (hmiss : r.misses q = true)
    (h : r.covers n = true) : q.covers (r.image n) = false := by
  rw [Bool.eq_false_iff]
  intro hq
  obtain ⟨hqfirst, hqlast, hqstep⟩ := bounds_of_covers hq
  obtain ⟨hfirst, hlast, hstep⟩ := bounds_of_covers h
  have heq := image_eq hr h
  have hle := image_le_last h
  simp only [misses, Bool.or_eq_true, Bool.and_eq_true, Nat.blt_eq, beq_iff_eq] at hmiss
  rcases hmiss with (hlt | hlt) | ⟨⟨hr2, hq2⟩, hodd⟩
  · omega
  · omega
  · rw [hq2] at hqstep
    rcases hr2 with hr2 | hsingle
    · rw [hr2] at hstep
      omega
    · omega

end CaseRun

theorem toNat_ofNat {n : Nat} (h : n.isValidChar) : (Char.ofNat n).toNat = n := by
  rw [Char.ofNat, dif_pos h]
  rfl

theorem apartRuns_of_isBlank {c : Char} (h : isBlank c = true) :
    ∃ q ∈ apartRuns, q.covers c.toNat = true := by
  simp only [isBlank, Bool.or_eq_true, Bool.and_eq_true, decide_eq_true_eq, beq_iff_eq] at h
  simp only [apartRuns, List.mem_cons, List.not_mem_nil, or_false, exists_eq_or_imp,
    exists_eq_left, CaseRun.covers, Bool.and_eq_true, decide_eq_true_eq, beq_iff_eq, Nat.mod_one,
    and_true]
  omega

/-! ## Characters -/

/-- Lower-casing leaves the character alone, wherever it stands. -/
structure IsLower (c : Char) : Prop where
  ne_dotted : c ≠ 'İ'
  ne_sigma : c ≠ 'Σ'
  fixed : lowerLetter c = c

theorem lowerLetter_cases (c : Char) :
    (lowerLetter c = c ∧ ∀ r ∈ lowerRuns, r.covers c.toNat = false) ∨
      ∃ r ∈ lowerRuns, r.covers c.toNat = true ∧ (lowerLetter c).toNat = r.image c.toNat := by
  unfold lowerLetter
  cases hfind : lowerRuns.find? (·.covers c.toNat) with
  | none => exact .inl ⟨rfl, by simpa using hfind⟩
  | some r =>
    have hmem := List.mem_of_find?_eq_some hfind
    have hcovers : r.covers c.toNat = true := by simpa using List.find?_some hfind
    exact .inr ⟨r, hmem, hcovers,
      toNat_ofNat (CaseRun.isValidChar_image (lowerRuns_isSound r hmem) hcovers)⟩

theorem lowerLetter_of_not_covered {c : Char} (h : ∀ r ∈ lowerRuns, r.covers c.toNat = false) :
    lowerLetter c = c := by
  rcases lowerLetter_cases c with ⟨heq, -⟩ | ⟨r, hr, hcovers, -⟩
  · exact heq
  · simp [h r hr] at hcovers

theorem isLower_of_not_covered {c : Char} (h : ∀ r ∈ lowerRuns, r.covers c.toNat = false)
    (hdotted : c ≠ 'İ') : IsLower c where
  ne_dotted := hdotted
  ne_sigma := by
    rintro rfl
    have hnone : lowerRuns.any (·.covers 'Σ'.toNat) = false :=
      List.any_eq_false.mpr (by simpa using h)
    exact absurd hnone (by decide +kernel)
  fixed := lowerLetter_of_not_covered h

theorem isLower_of_isBlank {c : Char} (h : isBlank c = true) : IsLower c := by
  obtain ⟨q, hq, hcovers⟩ := apartRuns_of_isBlank h
  refine isLower_of_not_covered (fun r hr => ?_) (by rintro rfl; exact absurd h (by decide))
  exact CaseRun.not_covers_of_isApart (lowerRuns_isApart hr hq) hcovers

theorem isLower_lowerLetter {c : Char} (hdotted : c ≠ 'İ') : IsLower (lowerLetter c) := by
  rcases lowerLetter_cases c with ⟨heq, hnot⟩ | ⟨r, hr, hcovers, himage⟩
  · rw [heq]
    exact isLower_of_not_covered hnot hdotted
  · have hmiss : ∀ q ∈ lowerRuns ++ apartRuns, q.covers (lowerLetter c).toNat = false := by
      intro q hq
      rw [himage]
      exact CaseRun.not_covers_image (lowerRuns_isSound r hr) (lowerRuns_misses hr hq) hcovers
    refine isLower_of_not_covered (fun q hq => hmiss q (List.mem_append_left _ hq)) fun h => ?_
    have hnot := hmiss ⟨0x130, 0x130, 1, 0⟩ (List.mem_append_right _ (by simp [apartRuns]))
    rw [h] at hnot
    exact absurd hnot (by decide)

theorem isBlank_lowerLetter {c : Char} (h : isBlank c = false) :
    isBlank (lowerLetter c) = false := by
  rcases lowerLetter_cases c with ⟨heq, -⟩ | ⟨r, hr, hcovers, himage⟩
  · rwa [heq]
  · rw [Bool.eq_false_iff]
    intro hblank
    obtain ⟨q, hq, hqcovers⟩ := apartRuns_of_isBlank hblank
    rw [himage, CaseRun.not_covers_image (lowerRuns_isSound r hr)
      (lowerRuns_misses hr (List.mem_append_right _ hq)) hcovers] at hqcovers
    exact absurd hqcovers (by decide)

/-! ## Texts -/

theorem mem_lowerAt {before after : List Char} {c d : Char} (h : d ∈ lowerAt before c after) :
    d ∈ ['i', '\u0307', 'ς', 'σ'] ∨ (c ≠ 'İ' ∧ d = lowerLetter c) := by
  unfold lowerAt at h
  split at h
  · simp only [List.mem_cons, List.not_mem_nil, or_false] at h ⊢
    rcases h with rfl | rfl <;> simp
  · next hdotted =>
    split at h
    · obtain rfl := List.mem_singleton.mp h
      left
      split <;> simp
    · exact .inr ⟨hdotted, List.mem_singleton.mp h⟩

theorem mem_lowercaseAfter {d : Char} :
    ∀ {before s : List Char}, d ∈ lowercaseAfter before s →
    ∃ c ∈ s, d ∈ ['i', '\u0307', 'ς', 'σ'] ∨ (c ≠ 'İ' ∧ d = lowerLetter c)
  | before, c :: rest, h => by
    rcases List.mem_append.mp h with h | h
    · exact ⟨c, List.mem_cons_self, mem_lowerAt h⟩
    · obtain ⟨c', hc', hd⟩ := mem_lowercaseAfter h
      exact ⟨c', List.mem_cons_of_mem _ hc', hd⟩

theorem isLower_of_mem_lowercase {s : List Char} {d : Char} (h : d ∈ lowercase s) :
    IsLower d := by
  obtain ⟨c, -, hd | ⟨hdotted, rfl⟩⟩ := mem_lowercaseAfter h
  · simp only [List.mem_cons, List.not_mem_nil, or_false] at hd
    rcases hd with rfl | rfl | rfl | rfl <;> exact ⟨by decide, by decide, by decide +kernel⟩
  · exact isLower_lowerLetter hdotted

theorem IsLower.lowerAt_eq {c : Char} (h : IsLower c) (before after : List Char) :
    lowerAt before c after = [c] := by
  rw [lowerAt, if_neg h.ne_dotted, if_neg h.ne_sigma, h.fixed]

theorem mem_lowercaseAfter_of_isLower {c : Char} (h : IsLower c) :
    ∀ {before s : List Char}, c ∈ s →
    c ∈ lowercaseAfter before s
  | before, d :: rest, hmem => by
    rcases List.mem_cons.mp hmem with rfl | hmem
    · exact List.mem_append_left _ (by simp [h.lowerAt_eq])
    · exact List.mem_append_right _ (mem_lowercaseAfter_of_isLower h hmem)

/-- What lower-casing leaves alone is still there. -/
theorem mem_lowercase_of_isLower {s : List Char} {c : Char} (h : IsLower c) (hmem : c ∈ s) :
    c ∈ lowercase s :=
  mem_lowercaseAfter_of_isLower h hmem

theorem lowercaseAfter_of_isLower :
    ∀ (before : List Char) {s : List Char}, (∀ c ∈ s, IsLower c) →
    lowercaseAfter before s = s
  | _, [], _ => rfl
  | before, c :: rest, h => by
    have hc := h c List.mem_cons_self
    rw [lowercaseAfter, hc.lowerAt_eq,
      lowercaseAfter_of_isLower (c :: before) fun d hd => h d (List.mem_cons_of_mem _ hd)]
    rfl

theorem lowercase_of_isLower {s : List Char} (h : ∀ c ∈ s, IsLower c) : lowercase s = s :=
  lowercaseAfter_of_isLower [] h

theorem lowercase_lowercase (s : List Char) : lowercase (lowercase s) = lowercase s :=
  lowercase_of_isLower fun _ => isLower_of_mem_lowercase

/-- Lower-casing a text without blank characters makes none. -/
theorem squeeze_lowercase {s : List Char} (h : ∀ c ∈ s, isBlank c = false) :
    squeeze (lowercase s) = lowercase s := by
  refine List.filter_eq_self.mpr fun d hd => ?_
  obtain ⟨c, hc, hd | ⟨-, rfl⟩⟩ := mem_lowercaseAfter hd
  · simp only [List.mem_cons, List.not_mem_nil, or_false] at hd
    rcases hd with rfl | rfl | rfl | rfl <;> decide
  · rw [isBlank_lowerLetter (h c hc)]
    rfl

end TypedSheets.Text
