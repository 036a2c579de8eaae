import PascalTypes.Proofs.HelperLineages

/-!
# Helpers that come late

A new helper is the newest of its target.  It can also be the parent that older helpers, of any
target, have named in vain so far.  Their lineages then go on with it, and may come back to
themselves by way of it.  All this can add members to a type, and it can take precedence over
members that were found before.

But it does so only with members of helpers in the lineage of the new one.  For what a lineage gains
is a beginning of that lineage (`IsLineage.exists_of_push`): it gains something only if it ended for
want of the new helper, and from there on both go the same way, until the longer one comes by a name
that it has met.  So if no helper in the lineage of the new one declares a member, then the member
is found as before, on every type (`onlyProvides_register`).
-/

set_option autoImplicit false

namespace PascalTypes.HelperTable

variable {t : HelperTable} {h g k : TypeHelper} {l l' added front back : List TypeHelper}

/-! ## Lineages with and without the late helper -/

theorem Ascent.push (ha : t.Ascent k l) (h : TypeHelper) : (t.push h).Ascent k l where
  starts := ha.starts
  linked := ha.linked.imp fun _ _ hp ↦ ⟨List.mem_append_left _ hp.1, hp.2⟩
  distinct := ha.distinct

/-- The rest of an ascent is an ascent as well. -/
theorem Ascent.of_append (ha : t.Ascent k (front ++ g :: back)) : t.Ascent g (g :: back) where
  starts := rfl
  linked := ha.linked.right_of_append
  distinct := by
    have hdistinct := ha.distinct
    rw [List.map_append, DistinctNames, List.pairwise_append] at hdistinct
    exact hdistinct.2.1

/-- A lineage that goes on further than before goes on with the late helper. -/
theorem IsLineage.eq_of_push (hl : t.IsLineage k l) (ha : (t.push h).Ascent k (l ++ g :: back)) :
    g = h := by
  have hne : l ≠ [] := by
    rintro rfl
    cases hl.starts
  have hlast := List.getLast?_eq_some_getLast hne
  obtain ⟨hmem, hname⟩ := (List.isChain_append.mp ha.linked).2.2 _ hlast g rfl
  rcases List.mem_append.mp hmem with hmem | hmem
  · -- an older parent would have been part of the lineage before
    obtain ⟨d, hd, hsame⟩ := hl.ends _ g hlast ⟨hmem, hname⟩
    have hdistinct := ha.distinct
    rw [List.map_append, DistinctNames, List.pairwise_append] at hdistinct
    rw [hdistinct.2.2 d.name (List.mem_map_of_mem hd) g.name List.mem_cons_self] at hsame
    cases hsame
  · exact List.mem_singleton.mp hmem

/-- **What a lineage gains from a late helper is a beginning of the lineage of that helper.** -/
theorem IsLineage.exists_of_push (ht : (t.push h).InStep) (hl : t.IsLineage k l)
    (hl' : (t.push h).IsLineage k l') (hadded : (t.push h).IsLineage h added) :
    ∃ rest, l' = l ++ rest ∧ rest <+: added := by
  obtain ⟨rest, rfl⟩ := (hl.toAscent.push h).isPrefix hl' ht
  refine ⟨rest, rfl, ?_⟩
  cases rest with
  | nil => exact List.nil_prefix
  | cons g back =>
    obtain rfl := hl.eq_of_push hl'.toAscent
    exact hl'.toAscent.of_append.isPrefix hadded ht

/-! ## Members with and without the late helper -/

variable {α : Type} {pick : TypeHelper → Option α} {m : α}

theorem mem_push_self (t : HelperTable) (h : TypeHelper) : h ∈ (t.push h).helpers :=
  List.mem_append_right _ (List.mem_singleton_self h)

theorem InStep.isLineage_lineage (ht : t.InStep) (hh : h ∈ t.helpers) :
    t.IsLineage h (t.lineage h) :=
  (isLineage_iff ht hh (Nat.le_succ t.size)).mpr rfl

/-- A helper that declares a member is the nearest that has it. -/
theorem InStep.nearest?_self (ht : t.InStep) (hh : h ∈ t.helpers) (hm : pick h = some m) :
    t.nearest? pick h = some (m, h) := by
  have hl := ht.isLineage_lineage hh
  obtain ⟨back, hback⟩ := List.head?_eq_some_iff.mp hl.starts
  rw [hback] at hl
  exact (nearest?_eq_some_iff ht hh).mpr ⟨[], back, hl, hm, fun _ hk ↦ absurd hk List.not_mem_nil⟩

theorem nearest?_push (ht : t.InStep) (ht' : (t.push h).InStep) (hk : k ∈ t.helpers)
    (hlacks : (t.push h).Lacks pick h) : (t.push h).nearest? pick k = t.nearest? pick k := by
  have hadded := ht'.isLineage_lineage (mem_push_self t h)
  have hl' := ht'.isLineage_lineage (List.mem_append_left [h] hk)
  obtain ⟨rest, hrest, hbegins⟩ := (ht.isLineage_lineage hk).exists_of_push ht' hl' hadded
  have hnone : rest.findSome? (fun g ↦ (pick g).map (·, g)) = none := by
    refine List.findSome?_eq_none_iff.mpr fun g hg ↦ ?_
    rw [hlacks _ hadded g (hbegins.subset hg)]
    rfl
  rw [nearest?, hrest, List.findSome?_append, hnone, Option.or_none]
  rfl

theorem findSome?_congr {β γ : Type} {f f' : β → Option γ} {items : List β}
    (hf : ∀ x ∈ items, f x = f' x) : items.findSome? f = items.findSome? f' := by
  induction items with
  | nil => rfl
  | cons x rest ih =>
    obtain ⟨hx, hrest⟩ := List.forall_mem_cons.mp hf
    rw [List.findSome?_cons, List.findSome?_cons, hx, ih hrest]

/-- The new helper is asked before all others. -/
theorem findMember?_push (ht' : (t.push h).InStep) (target : Handle)
    (pick : TypeHelper → Option α) : (t.push h).findMember? target pick =
      (if h.target == target then (t.push h).nearest? pick h else none).or
        (t.helpers.reverse.findSome? fun k ↦
          if k.target == target then (t.push h).nearest? pick k else none) := by
  have horder : (t.push h).helpers.reverse = [h] ++ t.helpers.reverse := List.reverse_append
  rw [ht'.findMember?_eq, horder, List.findSome?_append, List.findSome?_singleton]

theorem findMember?_push_self (ht' : (t.push h).InStep) (hm : pick h = some m) :
    (t.push h).findMember? h.target pick = some (m, h) := by
  rw [findMember?_push ht', if_pos (beq_self_eq_true h.target),
    ht'.nearest?_self (mem_push_self t h) hm, Option.some_or]

theorem findMember?_push_of_lacks (ht : t.InStep) (ht' : (t.push h).InStep)
    (hlacks : (t.push h).Lacks pick h) (target : Handle) :
    (t.push h).findMember? target pick = t.findMember? target pick := by
  rw [findMember?_push ht', (nearest?_eq_none_iff ht' (mem_push_self t h)).mpr hlacks, ite_self,
    Option.none_or, ht.findMember?_eq]
  refine findSome?_congr fun k hk ↦ ?_
  rw [nearest?_push ht ht' (List.mem_reverse.mp hk) hlacks]

/-! ## After any number of calls -/

/-- The answers to the question for a member, on every type, before and after `h` came into the
table. -/
structure Framed (t : HelperTable) (h : TypeHelper) (pick : TypeHelper → Option α)
    (before after : Handle → Option (α × TypeHelper)) : Prop where
  own : ∀ m, pick h = some m → after h.target = some (m, h)
  other : t.Lacks pick h → ∀ target, after target = before target

theorem framed_push (ht : t.InStep) (ht' : (t.push h).InStep) (pick : TypeHelper → Option α) :
    (t.push h).Framed h pick (t.findMember? · pick) ((t.push h).findMember? · pick) :=
  ⟨fun _ hm ↦ findMember?_push_self ht' hm, fun hlacks ↦ findMember?_push_of_lacks ht ht' hlacks⟩

/-- The second table has one more helper, which provides its members to its target, and changes
nothing but what it and its ancestors provide. -/
structure OnlyProvides (t t' : HelperTable) (h : TypeHelper) : Prop where
  /-- Lineages gain at most a beginning of the lineage of the new helper. -/
  lineages : ∀ k ∈ t.helpers, ∀ l, t.IsLineage k l →
    ∃ rest added, t'.IsLineage k (l ++ rest) ∧ t'.IsLineage h added ∧ rest <+: added
  methods : ∀ name, t'.Framed h (fun g ↦ g.methods.get? name) (t.findMethod? · name)
    (t'.findMethod? · name)
  properties : ∀ name, t'.Framed h (fun g ↦ g.properties.get? name) (t.findProperty? · name)
    (t'.findProperty? · name)
  classVars : ∀ name, t'.Framed h (fun g ↦ g.classVars.get? name) (t.findClassVar? · name)
    (t'.findClassVar? · name)

/-- **Registering a helper changes only what it provides**, also where it is the missing parent of
helpers that are there already. -/
theorem onlyProvides_register (changes : List HelperChange) (h : TypeHelper)
    (hok : ((run changes).register h).1 = .ok ()) :
    (run changes).OnlyProvides ((run changes).register h).2 h := by
  have ht := inStep_run changes
  have ht' := inStep_register ht h
  rcases (run changes).register_refusedIf h with ⟨-, e, he⟩ | ⟨-, he⟩
  · rw [he] at hok
    cases hok
  · rw [he] at ht' ⊢
    have hadded := ht'.isLineage_lineage (mem_push_self (run changes) h)
    refine ⟨fun k hk l hl ↦ ?_, fun _ ↦ framed_push ht ht' _, fun _ ↦ framed_push ht ht' _,
      fun _ ↦ framed_push ht ht' _⟩
    have hl' := ht'.isLineage_lineage (List.mem_append_left [h] hk)
    obtain ⟨rest, hrest, hbegins⟩ := hl.exists_of_push ht' hl' hadded
    exact ⟨rest, _, hrest ▸ hl', hadded, hbegins⟩

/-- Two helpers that wait for a missing one, directly and by way of the other, and a helper that
inherits from none. -/
def orphans : List HelperChange :=
  [.register { name := "c", target := ⟨0⟩, classVars := .ofList [("u", ⟨1⟩)] },
    .register { name := "a", target := ⟨0⟩, parent := some "Late" },
    .register { name := "b", target := ⟨2⟩, parent := some "A" }]

/-- The missing helper, which inherits from those that wait for it. -/
def lateHelper : TypeHelper where
  name := "late"
  target := ⟨2⟩
  parent := some "B"
  methods := .ofList [("m", { signature := ⟨3⟩ })]
  classVars := .ofList [("v", ⟨4⟩)]

/-- The late helper closes a circle.  Its own method is found on its target, and a class variable
that it provides to the other type is new there.  What the helper outside the circle declares is
found as before. -/
theorem onlyProvides_lateHelper :
    ((run orphans).register lateHelper).1 = .ok () ∧
      ((run orphans).register lateHelper).2.findMethod? ⟨2⟩ "M" =
        some ({ signature := ⟨3⟩ }, lateHelper) ∧
      (run orphans).findClassVar? ⟨0⟩ "v" = none ∧
      ((run orphans).register lateHelper).2.findClassVar? ⟨0⟩ "v" = some (⟨4⟩, lateHelper) ∧
      ∀ target, ((run orphans).register lateHelper).2.findClassVar? target "u" =
        (run orphans).findClassVar? target "u" := by
  have hok : ((run orphans).register lateHelper).1 = .ok () := rfl
  have hprovides := onlyProvides_register orphans lateHelper hok
  have ht' := inStep_register (inStep_run orphans) lateHelper
  have hlacks : ((run orphans).register lateHelper).2.Lacks (fun g ↦ g.classVars.get? "u")
      lateHelper := (nearest?_eq_none_iff ht' (mem_push_self _ _)).mp rfl
  exact ⟨hok, (hprovides.methods "M").own _ rfl, rfl, rfl, (hprovides.classVars "u").other hlacks⟩

end PascalTypes.HelperTable
