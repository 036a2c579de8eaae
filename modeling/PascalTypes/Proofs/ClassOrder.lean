import PascalTypes.Proofs.ClassChains

/-!
# The order of classes

Classes are registered one by one, under parents that may be missing, spelled in another way, or
descendants of the class itself.  Whatever tree comes out, descent orders its classes up to the
spelling of their names.  `ClassTree.Ordered` says what that means, and `ordered_run` proves it for
every tree that can come up.

Transitivity was there already (`descends_trans`).  The rest comes from the depths of classes.  The
chain of an ancestor is the rest of the chain of the class, so an ancestor is never deeper than the
class, and it is equally deep only if it is the class itself (`descends_depth`).  Two classes that
descend from each other are therefore one.

A class whose ancestors run into a cycle has no chain and no depth.  It takes no part in the order,
which is why a class descends from itself exactly if it has a chain.
-/

set_option autoImplicit false

namespace PascalTypes

/-! ## Trees that can come up -/

/-- How the information about a class names the class and its parent. -/
structure ClassNaming (α : Type) where
  name : α → String
  parent? : α → Option String

/-- A call that changes a tree of classes. -/
inductive ClassChange (α : Type)
  /-- Register a class that has no parent. -/
  | register (name : String) (info : α)
  | registerUnder (name : String) (info : α) (parent : String)
  /-- Register a class under the names that its information carries. -/
  | registerSelf (info : α)
  /-- Forget all classes. -/
  | clear

namespace ClassTree

variable {α : Type} {t : ClassTree α} {a b : String}

/-- The tree after one change. -/
def apply (naming : ClassNaming α) (t : ClassTree α) : ClassChange α → ClassTree α
  | .register name info => t.register name info none
  | .registerUnder name info parent => t.register name info (some parent)
  | .registerSelf info => t.register (naming.name info) info (naming.parent? info)
  | .clear => {}

/-- The tree that is left of an empty one after several changes. -/
def run (naming : ClassNaming α) (changes : List (ClassChange α)) : ClassTree α :=
  changes.foldl (apply naming) {}

theorem indexed_register (ht : t.classes.Indexed ClassNode.name) (name : String) (info : α)
    (parent : Option String) : (t.register name info parent).classes.Indexed ClassNode.name :=
  ht.insert name (sameName_refl name)

theorem indexed_apply (ht : t.classes.Indexed ClassNode.name) (naming : ClassNaming α)
    (change : ClassChange α) : (t.apply naming change).classes.Indexed ClassNode.name := by
  cases change with
  | register name info => exact indexed_register ht name info none
  | registerUnder name info parent => exact indexed_register ht name info (some parent)
  | registerSelf info => exact indexed_register ht _ info _
  | clear => exact .empty _

/-- The classes of every tree are found under the names that they carry. -/
theorem indexed_run (naming : ClassNaming α) (changes : List (ClassChange α)) :
    (run naming changes).classes.Indexed ClassNode.name :=
  List.foldlRecOn (motive := fun t : ClassTree α ↦ t.classes.Indexed ClassNode.name) changes _
    (.empty _) fun _ ht change _ ↦ indexed_apply ht naming change

/-! ## Depth -/

/-- The chain of a class starts with the class. -/
theorem exists_head_of_chain (ht : t.classes.Indexed ClassNode.name) {l : List (ClassNode α)}
    (h : t.chain? a = some l) : ∃ e rest, l = e :: rest ∧ sameName e.name a = true := by
  obtain ⟨e, he, hl⟩ := (chain?_eq_some_iff ht).mp h
  obtain ⟨rest, rfl⟩ := hl.exists_tail
  exact ⟨e, rest, rfl, (ht.get?_eq_some_iff.mp he).2⟩

theorem descends_self_iff (ht : t.classes.Indexed ClassNode.name) :
    t.descends a a = true ↔ (t.hierarchy? a).isSome = true := by
  rw [hierarchy?, Option.isSome_map, descends_iff]
  constructor
  · rintro ⟨l, hl, -⟩
    rw [hl]
    rfl
  · intro h
    obtain ⟨l, hl⟩ := Option.isSome_iff_exists.mp h
    obtain ⟨e, rest, rfl, he⟩ := exists_head_of_chain ht hl
    exact ⟨_, hl, e, List.mem_cons_self, he⟩

/-- **An ancestor is never deeper than the class, and equally deep only if it is the class.** -/
theorem descends_depth (ht : t.classes.Indexed ClassNode.name) (h : t.descends a b = true) :
    ∃ m n, t.depth? a = some m ∧ t.depth? b = some n ∧ n ≤ m ∧
      (m = n ↔ sameName a b = true) := by
  obtain ⟨front, back, ha, hb⟩ := descends_suffix ht h
  obtain ⟨e, rest, rfl, heb⟩ := exists_head_of_chain ht hb
  refine ⟨front.length + rest.length, rest.length, ?_, ?_, Nat.le_add_left _ _, ?_⟩
  · rw [depth?, ha]
    simp
  · rw [depth?, hb]
    simp
  constructor
  · intro hlen
    have hfront : front = [] := List.eq_nil_of_length_eq_zero (by omega)
    subst hfront
    -- nothing stands in front of the ancestor, so both chains start with it
    obtain ⟨e', rest', heq, hea⟩ := exists_head_of_chain ht ha
    obtain ⟨rfl, -⟩ := List.cons.inj heq
    exact sameName_trans (sameName_symm hea) heb
  · intro hsame
    have hchain := (t.chain?_congr hsame).symm.trans ha
    have hlen := congrArg List.length (Option.some.inj (hb.symm.trans hchain))
    rw [List.length_append] at hlen
    omega

/-- Two classes that descend from each other are the same class. -/
theorem descends_antisymm (ht : t.classes.Indexed ClassNode.name) (hab : t.descends a b = true)
    (hba : t.descends b a = true) : sameName a b = true := by
  obtain ⟨m, n, hm, hn, hle, hiff⟩ := descends_depth ht hab
  obtain ⟨n', m', hn', hm', hle', -⟩ := descends_depth ht hba
  cases hm.symm.trans hm'
  cases hn.symm.trans hn'
  exact hiff.mp (Nat.le_antisymm hle' hle)

/-! ## The order -/

/-- Descent orders the classes up to the spelling of their names, and goes along with depth. -/
structure Ordered (t : ClassTree α) : Prop where
  refl_iff : ∀ x, t.descends x x = true ↔ (t.hierarchy? x).isSome = true
  trans : ∀ x y z, t.descends x y = true → t.descends y z = true → t.descends x z = true
  antisymm : ∀ x y, t.descends x y = true → t.descends y x = true → sameName x y = true
  depth : ∀ x y, t.descends x y = true → ∃ m n, t.depth? x = some m ∧ t.depth? y = some n ∧
    n ≤ m ∧ (m = n ↔ sameName x y = true)

/-- **Descent is an order on the classes of every tree that can come up.** -/
theorem ordered_run (naming : ClassNaming α) (changes : List (ClassChange α)) :
    (run naming changes).Ordered := by
  have ht := indexed_run naming changes
  exact ⟨fun _ ↦ descends_self_iff ht, fun _ _ _ ↦ descends_trans ht,
    fun _ _ ↦ descends_antisymm ht, fun _ _ ↦ descends_depth ht⟩

/-- A button comes before its ancestors, and the names of parents are spelled in other ways.  Beside
it a class hangs below a cycle of two, and another one has a parent that is not there. -/
def tangled : List (ClassChange String) :=
  [.registerUnder "Button" "" "CONTROL",
    .registerUnder "control" "" "Root",
    .registerSelf "root",
    .registerUnder "left" "" "right",
    .registerUnder "right" "" "Left",
    .registerUnder "below" "" "left",
    .registerUnder "stray" "" "nowhere"]

/-- The information is the name of the class, and names no parent. -/
def plainNaming : ClassNaming String :=
  ⟨id, fun _ ↦ none⟩

theorem ordered_tangled :
    (run plainNaming tangled).descends "button" "Control" = true ∧
      (run plainNaming tangled).descends "Control" "ROOT" = true ∧
      (run plainNaming tangled).descends "below" "below" = false ∧
      (run plainNaming tangled).descends "stray" "Stray" = true ∧
      (run plainNaming tangled).Ordered :=
  ⟨by decide, by decide, by decide, by decide, ordered_run plainNaming tangled⟩

end ClassTree

end PascalTypes
