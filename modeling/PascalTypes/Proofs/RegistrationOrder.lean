import PascalTypes.Proofs.ClassOrder
import PascalTypes.Proofs.MapEdits

/-!
# The order of registration

Parents are names that are looked up when a question is asked, so a class can be registered before
its parent, after it, or in the middle of its descendants.  `ClassTree.run_perm` says that this
makes no difference at all, as long as no class takes the place of another one.

A tree that nothing is taken from is a map that is filled with the registered classes
(`classes_run`).  Two things follow.  The tree can be read off the classes without running anything
(`ClassTree.Lists`), and the order in which they came is lost with `NameMap.ofList_perm`.
-/

set_option autoImplicit false

namespace PascalTypes

variable {α : Type}

/-- The class that a change registers. -/
def ClassChange.node? (naming : ClassNaming α) : ClassChange α → Option (ClassNode α)
  | register name info => some ⟨name, none, info⟩
  | registerUnder name info parent => some ⟨name, some parent, info⟩
  | registerSelf info => some ⟨naming.name info, naming.parent? info, info⟩
  | clear => none

namespace ClassTree

variable {naming : ClassNaming α} {changes changes' : List (ClassChange α)}
  {nodes : List (ClassNode α)}

/-- The classes that are registered by several changes, one after the other. -/
def registered (naming : ClassNaming α) (changes : List (ClassChange α)) : List (ClassNode α) :=
  changes.filterMap (ClassChange.node? naming)

theorem apply_of_node? {change : ClassChange α} {c : ClassNode α}
    (h : change.node? naming = some c) (t : ClassTree α) :
    t.apply naming change = t.register c.name c.info c.parent := by
  cases change with
  | clear => cases h
  | _ =>
    cases h
    rfl

theorem exists_node? (naming : ClassNaming α) {change : ClassChange α} (h : change ≠ .clear) :
    ∃ c, change.node? naming = some c := by
  cases change with
  | clear => exact absurd rfl h
  | _ => exact ⟨_, rfl⟩

/-- **A tree that nothing was taken from is filled with the registered classes.** -/
theorem classes_run (hclear : .clear ∉ changes) : (run naming changes).classes =
    NameMap.ofList ((registered naming changes).map fun c ↦ (c.name, c)) := by
  induction changes using List.reverseRecOn with
  | nil => rfl
  | append_singleton changes change ih =>
    rw [List.mem_append, not_or, List.mem_singleton] at hclear
    obtain ⟨c, hc⟩ := exists_node? naming (Ne.symm hclear.2)
    have hrun : run naming (changes ++ [change]) =
        (run naming changes).register c.name c.info c.parent := by
      rw [run, List.foldl_append]
      exact apply_of_node? hc _
    have hregistered : registered naming (changes ++ [change]) =
        registered naming changes ++ [c] := by
      simp [registered, hc]
    rw [hrun, hregistered, List.map_append, List.map_singleton, NameMap.ofList_append_singleton,
      ← ih hclear.1]
    rfl

/-! ## What the tree holds -/

/-- The tree has these classes and no others, each under the name that it was registered with, and
lists them in the order of their names. -/
structure Lists (t : ClassTree α) (nodes : List (ClassNode α)) : Prop where
  perm : t.all.Perm nodes
  spelled : t.classes.spellings = t.all.map ClassNode.name
  ascending : t.all.Pairwise fun c d ↦ NameKey.of c.name < NameKey.of d.name

theorem distinct_items (h : DistinctNames (nodes.map ClassNode.name)) :
    DistinctNames ((nodes.map fun c ↦ (c.name, c)).map Prod.fst) := by
  rwa [List.map_map]

theorem lists_of_distinct {t : ClassTree α}
    (ht : t.classes = NameMap.ofList (nodes.map fun c ↦ (c.name, c)))
    (hdistinct : DistinctNames (nodes.map ClassNode.name)) : t.Lists nodes := by
  have hitems := distinct_items hdistinct
  have hmem : ∀ e ∈ t.classes.entries, e = ⟨NameKey.of e.value.name, e.value.name, e.value⟩ ∧
      e.value ∈ nodes := by
    intro e he
    rw [ht, NameMap.mem_entries_ofList hitems] at he
    obtain ⟨p, hp, rfl⟩ := he
    obtain ⟨c, hc, rfl⟩ := List.mem_map.mp hp
    exact ⟨rfl, hc⟩
  have hascending : t.all.Pairwise fun c d ↦ NameKey.of c.name < NameKey.of d.name := by
    refine List.pairwise_map.mpr (t.classes.ordered.imp_of_mem fun {e f} he hf hlt ↦ ?_)
    rwa [(hmem e he).1, (hmem f hf).1] at hlt
  refine ⟨?_, ?_, hascending⟩
  · have hnodup : t.all.Nodup := by
      refine hascending.imp fun {c d} hlt heq ↦ ?_
      rw [heq] at hlt
      exact NameKey.lt_irrefl _ hlt
    have hnodes : nodes.Nodup := by
      refine (List.pairwise_map.mp hdistinct).imp fun {c d} hne heq ↦ ?_
      rw [heq, sameName_refl] at hne
      cases hne
    refine (List.perm_ext_iff_of_nodup hnodup hnodes).mpr fun c ↦ ⟨fun hc ↦ ?_, fun hc ↦ ?_⟩
    · obtain ⟨e, he, rfl⟩ := List.mem_map.mp hc
      exact (hmem e he).2
    · refine List.mem_map.mpr ⟨⟨NameKey.of c.name, c.name, c⟩, ?_, rfl⟩
      rw [ht, NameMap.mem_entries_ofList hitems]
      exact ⟨(c.name, c), List.mem_map.mpr ⟨c, hc, rfl⟩, rfl⟩
  · rw [NameMap.spellings, all, NameMap.values, List.map_map]
    refine List.map_congr_left fun e he ↦ ?_
    rw [(hmem e he).1]
    rfl

/-! ## Two orders -/

/-- Two trees list the same classes in the same order, and answer every question alike. -/
structure SameAnswers (t t' : ClassTree α) : Prop where
  entries : t.classes.entries = t'.classes.entries
  all : t.all = t'.all
  names : t.classes.spellings = t'.classes.spellings
  hierarchy : ∀ a, t.hierarchy? a = t'.hierarchy? a
  descends : ∀ a b, t.descends a b = t'.descends a b
  depth : ∀ a, t.depth? a = t'.depth? a
  descendants : ∀ a, t.descendants a = t'.descendants a

theorem SameAnswers.refl (t : ClassTree α) : t.SameAnswers t :=
  ⟨rfl, rfl, rfl, fun _ ↦ rfl, fun _ _ ↦ rfl, fun _ ↦ rfl, fun _ ↦ rfl⟩

/-- **The order in which different classes are registered leaves no trace.** -/
theorem run_perm (naming : ClassNaming α) {changes changes' : List (ClassChange α)}
    (hclear : .clear ∉ changes)
    (hdistinct : DistinctNames ((registered naming changes).map ClassNode.name))
    (hp : changes.Perm changes') :
    (run naming changes).Lists (registered naming changes) ∧
      (run naming changes).SameAnswers (run naming changes') := by
  have hclear' : .clear ∉ changes' := fun h ↦ hclear (hp.mem_iff.mpr h)
  have hperm : (registered naming changes).Perm (registered naming changes') := hp.filterMap _
  have hclasses : (run naming changes).classes = (run naming changes').classes := by
    rw [classes_run hclear, classes_run hclear',
      NameMap.ofList_perm (distinct_items hdistinct) (hperm.map _)]
  have hrun : run naming changes = run naming changes' := congrArg ClassTree.mk hclasses
  refine ⟨lists_of_distinct (classes_run hclear) hdistinct, ?_⟩
  rw [← hrun]
  exact .refl _

/-- The other way round, parents come before their descendants, apart from those on the cycle. -/
theorem run_reverse_tangled :
    (run plainNaming tangled.reverse).hierarchy? "button" = some ["", "", "root"] ∧
      (run plainNaming tangled).Lists (registered plainNaming tangled) ∧
      (run plainNaming tangled).SameAnswers (run plainNaming tangled.reverse) := by
  have hclear : .clear ∉ tangled := by simp [tangled]
  have hdistinct : DistinctNames ((registered plainNaming tangled).map ClassNode.name) := by
    rw [DistinctNames]
    decide
  exact ⟨by decide, run_perm plainNaming hclear hdistinct (List.reverse_perm tangled).symm⟩

end ClassTree

end PascalTypes
