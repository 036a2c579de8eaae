import Mathlib.Tactic.SplitIfs
import PascalTypes.Text.Lower

/-!
# Lowering twice

`lower` looks at a text as a whole, makes two characters of one, and leaves alone some capitals that
have no lower-case form.  Still a text that was lowered once stays as it is (`lower_lower`).  The
reason is a property of single characters, `IsLowered`: such a character stays the same wherever it
stands.  Lowering makes nothing but such characters (`isLowered_of_mem_lowerFrom`), and nothing
happens to a text that is made of them (`lowerFrom_of_isLowered`).

That a lower-case form has no lower-case form of its own is a fact about the table `lowerShifts`.
All that is lowered are capitals and letters in title case, such as the digraph `ǅ` between `Ǆ` and
`ǆ` (`lowerShifts_isUpperOrTitle`), and what they go to is neither (`lowerShifts_images`).  Both are
checked for ranges of code points and not for single ones.

So a character that is not a capital can still be lowered, but then it is one of the 31 letters in
title case (`isLowered_iff_not_isTitle`).
-/

set_option autoImplicit false

namespace PascalTypes.Text

/-! ## Ranges -/

namespace CodeRange

variable {r u : CodeRange} {ranges : List CodeRange} {n : Nat}

theorem covers_iff : r.covers n = true ↔
    r.first ≤ n ∧ n ≤ r.last ∧ (n - r.first) % r.step = 0 := by
  simp [covers, and_assoc]

theorem exists_of_anyCovers (h : anyCovers ranges n = true) : ∃ r ∈ ranges, r.covers n = true := by
  induction ranges with
  | nil => exact absurd h Bool.false_ne_true
  | cons r rest ih =>
    rw [anyCovers] at h
    split at h
    · exact absurd h Bool.false_ne_true
    · rcases Bool.or_eq_true_iff.mp h with h | h
      · exact ⟨r, List.mem_cons_self, h⟩
      · obtain ⟨u, hu, hn⟩ := ih h
        exact ⟨u, List.mem_cons_of_mem r hu, hn⟩

/-- The code points of a range. -/
def codes (r : CodeRange) : List Nat :=
  List.range' r.first ((r.last - r.first) / r.step + 1) r.step

theorem mem_codes_of_covers (h : r.covers n = true) : n ∈ r.codes := by
  obtain ⟨hfirst, hlast, hstep⟩ := covers_iff.mp h
  refine List.mem_range'.mpr ⟨(n - r.first) / r.step, ?_, ?_⟩
  · have : (n - r.first) / r.step ≤ (r.last - r.first) / r.step :=
      Nat.div_le_div_right (by omega)
    omega
  · rw [Nat.mul_div_cancel' (Nat.dvd_of_mod_eq_zero hstep)]
    omega

/-- The code points of `r` are among those of `u`, as far as their ends and steps can tell. -/
def within (r u : CodeRange) : Bool :=
  Nat.ble r.last u.last && Nat.ble u.first r.first && Nat.beq ((r.first - u.first) % u.step) 0 &&
    (Nat.beq r.first r.last || Nat.beq u.step 1 || Nat.beq u.step r.step)

theorem covers_of_within (h : r.within u = true) (hn : r.covers n = true) :
    u.covers n = true := by
  obtain ⟨hfirst, hlast, hstep⟩ := covers_iff.mp hn
  simp only [within, Bool.and_eq_true, Bool.or_eq_true, Nat.ble_eq, Nat.beq_eq] at h
  obtain ⟨⟨⟨hlast', hfirst'⟩, hmod⟩, hsteps⟩ := h
  refine covers_iff.mpr ⟨by omega, by omega, ?_⟩
  rcases hsteps with (hsingle | hone) | hsame
  · have hn : n = r.first := by omega
    rw [hn, hmod]
  · rw [hone, Nat.mod_one]
  · have hsum : n - u.first = (n - r.first) + (r.first - u.first) := by omega
    rw [hsum, hsame, Nat.add_mod, hstep, ← hsame, hmod, Nat.zero_mod]

/-- Whether the table has a range with all code points of `r`.  It is read as far as `anyCovers`
reads it for the first of them. -/
def heldBy (r : CodeRange) : List CodeRange → Bool
  | [] => false
  | u :: rest => Nat.ble u.first r.first && (r.within u || heldBy r rest)

theorem anyCovers_of_heldBy (h : r.heldBy ranges = true) (hn : r.covers n = true) :
    anyCovers ranges n = true := by
  induction ranges with
  | nil => exact absurd h Bool.false_ne_true
  | cons u rest ih =>
    rw [heldBy, Bool.and_eq_true, Bool.or_eq_true, Nat.ble_eq] at h
    have hfirst : ¬n < u.first := by
      have := (covers_iff.mp hn).1
      omega
    rw [anyCovers, if_neg hfirst, Bool.or_eq_true]
    exact h.2.imp (covers_of_within · hn) ih

/-- All code points of the range are even, or all are odd. -/
def hasParity (r : CodeRange) : Bool :=
  Nat.beq r.step 2 || Nat.beq r.first r.last

theorem mod_two_of_hasParity (h : r.hasParity = true) (hn : r.covers n = true) :
    n % 2 = r.first % 2 := by
  obtain ⟨hfirst, hlast, hstep⟩ := covers_iff.mp hn
  rw [hasParity, Bool.or_eq_true, Nat.beq_eq, Nat.beq_eq] at h
  rcases h with htwo | hsingle
  · rw [htwo] at hstep
    omega
  · omega

/-- Whether the table has no code point of `r`, as far as ends and parities can tell. -/
def clearOf (r : CodeRange) : List CodeRange → Bool
  | [] => true
  | u :: rest => Nat.blt r.last u.first ||
      ((Nat.blt u.last r.first ||
        (r.hasParity && u.hasParity && Nat.beq ((r.first + u.first) % 2) 1)) && clearOf r rest)

theorem anyCovers_of_clearOf (h : r.clearOf ranges = true) (hn : r.covers n = true) :
    anyCovers ranges n = false := by
  induction ranges with
  | nil => rfl
  | cons u rest ih =>
    obtain ⟨hfirst, hlast, -⟩ := covers_iff.mp hn
    simp only [clearOf, Bool.and_eq_true, Bool.or_eq_true, Nat.blt_eq, Nat.beq_eq] at h
    rw [anyCovers]
    split
    · rfl
    · rename_i hstarted
      obtain ⟨hu, hrest⟩ := h.resolve_left (by omega)
      rw [ih hrest, Bool.or_false, ← Bool.not_eq_true]
      intro hcovers
      rcases hu with hbefore | ⟨⟨hr, hu⟩, hparity⟩
      · have := (covers_iff.mp hcovers).2.1
        omega
      · have := mod_two_of_hasParity hr hn
        have := mod_two_of_hasParity hu hcovers
        omega

end CodeRange

/-! ## Shifts -/

/-- A code point stays where it is, or is in one of the ranges and goes as far as this range. -/
theorem shiftIn_cases (ranges : List ShiftRange) (n : Nat) : shiftIn ranges n = 0 ∨
    ∃ r ∈ ranges, r.covers n = true ∧ shiftIn ranges n = r.shift := by
  induction ranges with
  | nil => exact Or.inl rfl
  | cons r rest ih =>
    rw [shiftIn]
    split
    · exact Or.inl rfl
    · split
      · rename_i hcovers
        exact Or.inr ⟨r, List.mem_cons_self, hcovers, rfl⟩
      · refine ih.imp_right ?_
        rintro ⟨r', hr', hn⟩
        exact ⟨r', List.mem_cons_of_mem _ hr', hn⟩

/-- A code point that is no character makes the null character. -/
theorem toNat_ofNat_or (n : Nat) : (Char.ofNat n).toNat = n ∨ Char.ofNat n = '\x00' := by
  by_cases hvalid : n.isValidChar
  · have hchar : Char.ofNat n = Char.ofNatAux n hvalid := dif_pos hvalid
    exact Or.inl (congrArg Char.toNat hchar)
  · exact Or.inr (dif_neg hvalid)

/-- A character that no range goes to is the lower-case form of itself at most. -/
theorem eq_of_lowerChar_eq {c d : Char} (hd : d ≠ '\x00')
    (hmiss : ∀ r ∈ lowerShifts,
      (d.toNat : Int) < r.first + r.shift ∨ (r.last : Int) + r.shift < d.toNat)
    (h : lowerChar c = d) : c = d := by
  rw [lowerChar] at h
  rcases toNat_ofNat_or ((c.toNat : Int) + shiftIn lowerShifts c.toNat).toNat with hn | hnull
  · rw [h] at hn
    have hpos : d.toNat ≠ 0 := fun hzero ↦ hd (by rw [← Char.ofNat_toNat d, hzero])
    rcases shiftIn_cases lowerShifts c.toNat with hshift | ⟨r, hr, hcovers, hshift⟩
    · have hc : c.toNat = d.toNat := by omega
      rw [← Char.ofNat_toNat c, hc, Char.ofNat_toNat]
    · obtain ⟨hfirst, hlast, -⟩ := CodeRange.covers_iff.mp hcovers
      have := hmiss r hr
      omega
  · exact absurd (h.symm.trans hnull) hd

/-! ## Case -/

/-- The letters in title case: four digraphs of which the first half is a capital, and Greek
capitals with a small iota beside them. -/
def titleRanges : List CodeRange :=
  [⟨0x1C5, 0x1C5, 1⟩, ⟨0x1C8, 0x1C8, 1⟩, ⟨0x1CB, 0x1CB, 1⟩, ⟨0x1F2, 0x1F2, 1⟩,
   ⟨0x1F88, 0x1F8F, 1⟩, ⟨0x1F98, 0x1F9F, 1⟩, ⟨0x1FA8, 0x1FAF, 1⟩, ⟨0x1FBC, 0x1FBC, 1⟩,
   ⟨0x1FCC, 0x1FCC, 1⟩, ⟨0x1FFC, 0x1FFC, 1⟩]

/-- Whether `c` is a letter in title case. -/
def isTitle (c : Char) : Bool :=
  CodeRange.anyCovers titleRanges c.toNat

/-- Whether `c` is a capital or a letter in title case. -/
def isUpperOrTitle (c : Char) : Bool :=
  isUpper c || isTitle c

/-- Whether the range is part of one range of capitals or of letters in title case. -/
def CodeRange.isUpperOrTitle (r : CodeRange) : Bool :=
  r.heldBy upperRanges || r.heldBy titleRanges

theorem isUpperOrTitle_of_covers {r : CodeRange} {c : Char} (h : r.isUpperOrTitle = true)
    (hc : r.covers c.toNat = true) : isUpperOrTitle c = true :=
  Bool.or_eq_true_iff.mpr ((Bool.or_eq_true_iff.mp h).imp
    (CodeRange.anyCovers_of_heldBy · hc) (CodeRange.anyCovers_of_heldBy · hc))

/-- What the table lowers are capitals and letters in title case.  Most ranges are part of one range
of these, and the code points of the others are among them one by one. -/
theorem lowerShifts_isUpperOrTitle : (lowerShifts.all fun r ↦
    r.isUpperOrTitle || r.codes.all fun n ↦ CodeRange.isUpperOrTitle ⟨n, n, 1⟩) = true := by
  decide +kernel

theorem isUpperOrTitle_of_mem_lowerShifts {r : ShiftRange} {c : Char} (hr : r ∈ lowerShifts)
    (hc : r.covers c.toNat = true) : isUpperOrTitle c = true := by
  have hrow := List.all_eq_true.mp lowerShifts_isUpperOrTitle r hr
  rw [Bool.or_eq_true, List.all_eq_true] at hrow
  rcases hrow with hrow | hrow
  · exact isUpperOrTitle_of_covers hrow hc
  · refine isUpperOrTitle_of_covers (hrow _ (CodeRange.mem_codes_of_covers hc)) ?_
    simp [CodeRange.covers]

/-- Where the code points of a range go. -/
def ShiftRange.image (r : ShiftRange) : CodeRange where
  first := (r.first + r.shift).toNat
  last := (r.last + r.shift).toNat
  step := r.step

theorem ShiftRange.image_covers {r : ShiftRange} {n : Nat} (hr : 0 ≤ r.first + r.shift)
    (h : r.covers n = true) : r.image.covers (n + r.shift).toNat = true := by
  obtain ⟨hfirst, hlast, hstep⟩ := CodeRange.covers_iff.mp h
  have hsub : (n + r.shift).toNat - r.image.first = n - r.first := by
    simp only [image]
    omega
  refine CodeRange.covers_iff.mpr ⟨?_, ?_, ?_⟩
  · simp only [image]
    omega
  · simp only [image]
    omega
  · rw [hsub]
    exact hstep

/-- **What a range goes to has neither capitals nor letters in title case.** -/
theorem lowerShifts_images : (lowerShifts.all fun r ↦ decide (0 ≤ r.first + r.shift) &&
    r.image.clearOf upperRanges && r.image.clearOf titleRanges) = true := by
  decide +kernel

/-- A character stays as it is, or becomes one that is neither a capital nor in title case. -/
theorem lowerChar_cases (c : Char) : lowerChar c = c ∨ isUpperOrTitle (lowerChar c) = false := by
  rcases shiftIn_cases lowerShifts c.toNat with hshift | ⟨r, hr, hcovers, hshift⟩
  · exact Or.inl (by simp [lowerChar, hshift])
  · have hform : lowerChar c = Char.ofNat (c.toNat + r.shift).toNat := by rw [lowerChar, hshift]
    rw [hform]
    rcases toNat_ofNat_or (c.toNat + r.shift).toNat with hn | hnull
    · have hrow := List.all_eq_true.mp lowerShifts_images r hr
      rw [Bool.and_eq_true, Bool.and_eq_true, decide_eq_true_iff] at hrow
      obtain ⟨⟨hnonneg, hupper⟩, htitle⟩ := hrow
      have himage := ShiftRange.image_covers hnonneg hcovers
      rw [isUpperOrTitle, isUpper, isTitle, hn, CodeRange.anyCovers_of_clearOf hupper himage,
        CodeRange.anyCovers_of_clearOf htitle himage]
      exact Or.inr rfl
    · rw [hnull]
      exact Or.inr rfl

/-! ## Characters that stay -/

/-- Lowering leaves the character alone, wherever it stands. -/
def IsLowered (c : Char) : Prop :=
  c ≠ 'İ' ∧ lowerChar c = c

theorem isLowered_of_not_isUpperOrTitle {c : Char} (h : isUpperOrTitle c = false) :
    IsLowered c := by
  refine ⟨?_, ?_⟩
  · rintro rfl
    exact absurd h (by decide)
  · rcases shiftIn_cases lowerShifts c.toNat with hshift | ⟨r, hr, hcovers, -⟩
    · simp [lowerChar, hshift]
    · rw [isUpperOrTitle_of_mem_lowerShifts hr hcovers] at h
      exact Bool.noConfusion h

theorem isLowered_lowerChar {c : Char} (hc : c ≠ 'İ') : IsLowered (lowerChar c) := by
  rcases lowerChar_cases c with hsame | hcase
  · rw [hsame]
    exact ⟨hc, hsame⟩
  · exact isLowered_of_not_isUpperOrTitle hcase

theorem lowerAt_of_isLowered {c : Char} (h : IsLowered c) (before after : List Char) :
    lowerAt before c after = [c] := by
  have hsigma : c ≠ 'Σ' := by
    rintro rfl
    exact absurd h.2 (by decide)
  rw [lowerAt, if_neg h.1, if_neg hsigma, h.2]

theorem lowerFrom_of_isLowered {cs : List Char} (h : ∀ c ∈ cs, IsLowered c) (before : List Char) :
    lowerFrom before cs = cs := by
  induction cs generalizing before with
  | nil => rfl
  | cons c rest ih =>
    have hrest := ih (fun d hd ↦ h d (List.mem_cons_of_mem _ hd)) (c :: before)
    rw [lowerFrom, lowerAt_of_isLowered (h c List.mem_cons_self), hrest]
    rfl

theorem isLowered_of_mem_lowerAt {before after : List Char} {c d : Char}
    (h : d ∈ lowerAt before c after) : IsLowered d := by
  rw [lowerAt] at h
  split_ifs at h with hI
  · rcases List.mem_cons.mp h with rfl | h
    · exact isLowered_of_not_isUpperOrTitle rfl
    · rw [List.mem_singleton.mp h]
      exact isLowered_of_not_isUpperOrTitle rfl
  · rw [List.mem_singleton.mp h]
    exact isLowered_of_not_isUpperOrTitle rfl
  · rw [List.mem_singleton.mp h]
    exact isLowered_of_not_isUpperOrTitle rfl
  · rw [List.mem_singleton.mp h]
    exact isLowered_lowerChar hI

/-- **Lowering makes nothing but characters that stay.** -/
theorem isLowered_of_mem_lowerFrom {before cs : List Char} {d : Char}
    (h : d ∈ lowerFrom before cs) : IsLowered d := by
  induction cs generalizing before with
  | nil => exact absurd h List.not_mem_nil
  | cons c rest ih =>
    rcases List.mem_append.mp h with h | h
    · exact isLowered_of_mem_lowerAt h
    · exact ih h

theorem isLowered_of_mem_lower {s : String} {d : Char} (h : d ∈ (lower s).toList) :
    IsLowered d := by
  rw [lower, String.toList_ofList] at h
  exact isLowered_of_mem_lowerFrom h

/-- A text stays as it is exactly if all its characters do. -/
theorem lower_eq_self_iff {s : String} : lower s = s ↔ ∀ c ∈ s.toList, IsLowered c := by
  constructor
  · intro h c hc
    rw [← h] at hc
    exact isLowered_of_mem_lower hc
  · intro h
    rw [lower, lowerFrom_of_isLowered h, String.ofList_toList]

/-- **Lowering a second time changes nothing.** -/
theorem lower_lower (s : String) : lower (lower s) = lower s :=
  lower_eq_self_iff.mpr fun _ ↦ isLowered_of_mem_lower

/-- Lowering loses no character, so nothing becomes empty. -/
theorem lower_eq_empty_iff {s : String} : lower s = "" ↔ s = "" := by
  constructor
  · intro h
    have hnil : lowerFrom [] s.toList = [] := by
      rw [← String.toList_ofList (l := lowerFrom [] s.toList), ← lower, h]
      rfl
    cases hs : s.toList with
    | nil => exact String.toList_eq_nil_iff.mp hs
    | cons c rest =>
      rw [hs, lowerFrom, List.append_eq_nil_iff, lowerAt] at hnil
      split_ifs at hnil <;> simp at hnil
  · rintro rfl
    rfl

/-! ## Title case -/

/-- Every letter in title case has a lower-case form. -/
theorem titleRanges_lowered :
    ∀ r ∈ titleRanges, ∀ n ∈ r.codes, lowerChar (Char.ofNat n) ≠ Char.ofNat n := by
  decide +kernel

/-- **Apart from capitals, what is lowered are the letters in title case.** -/
theorem isLowered_iff_not_isTitle {c : Char} (hc : isUpper c = false) :
    IsLowered c ↔ isTitle c = false := by
  constructor
  · intro h
    rw [← Bool.not_eq_true]
    intro htitle
    obtain ⟨r, hr, hcovers⟩ := CodeRange.exists_of_anyCovers htitle
    have hne := titleRanges_lowered r hr _ (CodeRange.mem_codes_of_covers hcovers)
    rw [Char.ofNat_toNat] at hne
    exact hne h.2
  · intro htitle
    exact isLowered_of_not_isUpperOrTitle (by rw [isUpperOrTitle, hc, htitle, Bool.false_or])

end PascalTypes.Text
