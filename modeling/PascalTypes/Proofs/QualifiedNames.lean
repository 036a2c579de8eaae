import PascalTypes.RoutineTable

/-!
# Qualified names in ASCII

A qualified name is stored as one name, and like every name it is compared in its folded form.  It
is not clear that this gives unit and routine back.  Folding looks at a name as a whole: a single
capital anywhere makes it lower all of it, and a capital sigma becomes one letter or another
depending on what surrounds it.  And a unit may have dots in its own name.

For names in ASCII there is no such trouble.  Folding takes them character by character
(`toList_fold`), and a dot stays a dot.  If the name of a routine has no dot, then the last dot of
the qualified name is the one in front of it (`afterLastDot?_qualifiedName`), and two qualified
names are the same exactly if both their units and their routines are (`sameName_qualifiedName`).
-/

set_option autoImplicit false

namespace PascalTypes

/-! ## Folding in ASCII -/

/-- Whether a name has ASCII characters only. -/
def isAscii (name : String) : Bool :=
  name.toList.all fun c ↦ c.toNat < 128

namespace Text

/-- What holds of the first 128 code points holds of every character among them. -/
theorem forall_ascii {P : Char → Prop} (h : ∀ n < 128, P (Char.ofNat n)) {c : Char}
    (hc : c.toNat < 128) : P c := by
  rw [← Char.ofNat_toNat c]
  exact h c.toNat hc

theorem lowerChar_of_not_isUpper {c : Char} (hc : c.toNat < 128) (hu : isUpper c = false) :
    lowerChar c = c :=
  forall_ascii (P := fun c ↦ isUpper c = false → lowerChar c = c) (by decide) hc hu

theorem lowerChar_eq_dot {c : Char} (hc : c.toNat < 128) (hdot : lowerChar c = '.') : c = '.' :=
  forall_ascii (P := fun c ↦ lowerChar c = '.' → c = '.') (by decide) hc hdot

theorem lowerAt_of_ascii {c : Char} (hc : c.toNat < 128) (before after : List Char) :
    lowerAt before c after = [lowerChar c] := by
  have hI : c ≠ 'İ' := by
    rintro rfl
    exact absurd hc (by decide)
  have hsigma : c ≠ 'Σ' := by
    rintro rfl
    exact absurd hc (by decide)
  rw [lowerAt, if_neg hI, if_neg hsigma]

theorem lowerFrom_of_ascii {cs : List Char} (h : ∀ c ∈ cs, c.toNat < 128) (before : List Char) :
    lowerFrom before cs = cs.map lowerChar := by
  induction cs generalizing before with
  | nil => rfl
  | cons c rest ih =>
    have hrest := ih (fun d hd ↦ h d (List.mem_cons_of_mem _ hd)) (c :: before)
    rw [lowerFrom, lowerAt_of_ascii (h c List.mem_cons_self), hrest]
    rfl

end Text

variable {a b unit unit' name name' : String}

theorem isAscii_iff : isAscii a = true ↔ ∀ c ∈ a.toList, c.toNat < 128 := by
  simp [isAscii]

/-- **In ASCII, folding takes each character on its own.** -/
theorem toList_fold (h : isAscii a = true) : (fold a).toList = a.toList.map Text.lowerChar := by
  have hascii := isAscii_iff.mp h
  rw [fold]
  split
  · rw [Text.lower, String.toList_ofList, Text.lowerFrom_of_ascii hascii]
  · rename_i hupper
    -- there is no capital, so lowering each character leaves it as it is
    have hsame : ∀ c ∈ a.toList, Text.lowerChar c = id c := by
      intro c hc
      refine Text.lowerChar_of_not_isUpper (hascii c hc) ?_
      simpa using fun hu ↦ hupper (List.any_eq_true.mpr ⟨c, hc, hu⟩)
    rw [List.map_congr_left hsame, List.map_id]

theorem sameName_iff_map (ha : isAscii a = true) (hb : isAscii b = true) :
    sameName a b = true ↔ a.toList.map Text.lowerChar = b.toList.map Text.lowerChar := by
  rw [sameName_iff, ← toList_fold ha, ← toList_fold hb, String.toList_inj]

/-! ## The last dot -/

theorem takeWhile_reverse_append_dot {l r : List Char} (hr : '.' ∉ r) :
    (l ++ '.' :: r).reverse.takeWhile (· ≠ '.') = r.reverse := by
  have hne : ∀ c ∈ r.reverse, decide (c ≠ '.') = true := by
    intro c hc
    rw [decide_eq_true_eq]
    rintro rfl
    exact hr (List.mem_reverse.mp hc)
  rw [List.reverse_append, List.reverse_cons, List.append_assoc,
    List.takeWhile_append_of_pos hne]
  simp

/-- Two texts with a last dot are equal only if they are equal on both sides of it. -/
theorem append_dot_inj {l l' r r' : List Char} (hr : '.' ∉ r) (hr' : '.' ∉ r')
    (h : l ++ '.' :: r = l' ++ '.' :: r') : l = l' ∧ r = r' := by
  have hback := takeWhile_reverse_append_dot (l := l) hr
  rw [h, takeWhile_reverse_append_dot hr'] at hback
  have hright : r' = r := List.reverse_inj.mp hback
  subst hright
  exact ⟨List.append_cancel_right h, rfl⟩

/-! ## Qualified names -/

/-- Whether a name can be told from a qualified one: it is in ASCII and has no dot. -/
def isSimple (name : String) : Bool :=
  isAscii name && !name.toList.contains '.'

theorem isSimple_iff : isSimple name = true ↔ isAscii name = true ∧ '.' ∉ name.toList := by
  simp [isSimple]

theorem toList_qualifiedName (unit name : String) :
    (qualifiedName unit name).toList = unit.toList ++ '.' :: name.toList := by
  rw [qualifiedName, String.toList_append, String.toList_append, List.append_assoc]
  rfl

theorem isAscii_qualifiedName (hu : isAscii unit = true) (hn : isAscii name = true) :
    isAscii (qualifiedName unit name) = true := by
  rw [isAscii] at hu hn ⊢
  rw [toList_qualifiedName, List.all_append, List.all_cons, hu, hn]
  rfl

/-- The routine stands behind the last dot. -/
theorem afterLastDot?_qualifiedName (hn : '.' ∉ name.toList) :
    afterLastDot? (qualifiedName unit name) = some name := by
  have hdot : (qualifiedName unit name).toList.contains '.' = true := by
    simp [toList_qualifiedName]
  rw [afterLastDot?, if_pos hdot, toList_qualifiedName, takeWhile_reverse_append_dot hn,
    List.reverse_reverse, String.ofList_toList]

/-- **Qualified names are the same exactly if their units and their routines are.** -/
theorem sameName_qualifiedName (hu : isAscii unit = true) (hu' : isAscii unit' = true)
    (hn : isSimple name = true) (hn' : isSimple name' = true) :
    sameName (qualifiedName unit name) (qualifiedName unit' name') = true ↔
      sameName unit unit' = true ∧ sameName name name' = true := by
  obtain ⟨hna, hnd⟩ := isSimple_iff.mp hn
  obtain ⟨hna', hnd'⟩ := isSimple_iff.mp hn'
  -- lowering brings no dot into the name of a routine
  have hlowered : ∀ {s : String}, isAscii s = true → '.' ∉ s.toList →
      '.' ∉ s.toList.map Text.lowerChar := by
    intro s hs hdot hmem
    obtain ⟨c, hc, hlower⟩ := List.mem_map.mp hmem
    exact hdot (Text.lowerChar_eq_dot (isAscii_iff.mp hs c hc) hlower ▸ hc)
  have hdot : Text.lowerChar '.' = '.' := by decide
  rw [sameName_iff_map (isAscii_qualifiedName hu hna) (isAscii_qualifiedName hu' hna'),
    sameName_iff_map hu hu', sameName_iff_map hna hna', toList_qualifiedName, toList_qualifiedName,
    List.map_append, List.map_append, List.map_cons, List.map_cons, hdot]
  constructor
  · exact append_dot_inj (hlowered hna hnd) (hlowered hna' hnd')
  · rintro ⟨hunit, hname⟩
    rw [hunit, hname]

end PascalTypes
