import PascalTypes.Proofs.Answers
import PascalTypes.Proofs.WellFormed

/-!
# What type equality means

`TypeStore.sameType` compares two types step by step.  This file says what it compares: the trees
that the types unfold to.  An `Unfolding` has no handles left to follow.  Aliases are gone, classes,
records, interfaces and enumerations are down to their kind and the key of their name, and all other
types are spelled out.  Only a variant keeps its place, since it is the same as itself and nothing
else.

* `Shape.unfold` is one step, from the trees of the parts to the tree of the whole, and
  `TypeStore.unfolding` takes such steps until nothing is left.  In a well-formed store it satisfies
  the equations that one expects of it (`WellFormed.unfolding_eq`).
* `WellFormed.sameType_decides` is the link to the comparison.  It goes by way of heads and parts:
  a tree has these just as a shape has, and a tree that is not a variant is determined by them
  (`Unfolding.eq_of_head?_of_parts`).
* `sameType_iff_unfolding_eq` puts the results together.  Since equality of trees is an equivalence,
  so is `sameType`.
-/

set_option autoImplicit false

namespace PascalTypes

/-! ## Trees -/

/-- A type with all aliases and handles followed to the end. -/
inductive Unfolding
  | primitive (kind : Kind)
  /-- A variant, which is told apart by its place. -/
  | variant (place : Handle)
  | nominal (kind : Kind) (key : NameKey)
  | array (bounds : Option Interval) (element : Unfolding)
  | subrange (range : Interval) (base : Unfolding)
  | pointer (kind : Kind) (params : List Unfolding) (result : Option Unfolding)
  | metaclass (target : Unfolding)

namespace Unfolding

/-- The head of a tree, in the sense of `Shape.head?`. -/
def head? : Unfolding → Option Head
  | primitive kind => some (.primitive kind)
  | variant _ => none
  | nominal kind key => some (.named kind key)
  | array bounds _ => some (.array bounds)
  | subrange range _ => some (.subrange range)
  | pointer kind params _ => some (.pointer kind params.length)
  | metaclass _ => some .metaclass

/-- The subtrees, in the order of `Shape.parts`. -/
def parts : Unfolding → List (Option Unfolding)
  | array _ element => [some element]
  | subrange _ base => [some base]
  | pointer _ params result => params.map some ++ [result]
  | metaclass target => [some target]
  | _ => []

/-- **Head and parts determine a tree**, unless it is a variant. -/
theorem eq_of_head?_of_parts {t u : Unfolding} {p : Head} (ht : t.head? = some p)
    (hu : u.head? = some p) (hparts : t.parts = u.parts) : t = u := by
  have hh : t.head? = u.head? := ht.trans hu.symm
  cases t with
  | variant place => cases ht
  | pointer kind params result =>
    cases u with
    | pointer kind' params' result' =>
      obtain ⟨rfl, -⟩ := Head.pointer.inj (Option.some.inj hh)
      obtain ⟨hparams, hresult⟩ := List.append_inj' hparts rfl
      rw [(List.map_inj_right fun _ _ ↦ Option.some.inj).mp hparams, (List.cons.inj hresult).1]
    | _ => cases hh
  | _ =>
    cases u <;> cases hh
    cases hparts
    rfl

end Unfolding

/-! ## Unfolding a type -/

/-- The tree of a shape that lies at `place`, given the trees of the types it is made of. -/
def Shape.unfold (place : Handle) (tree : Handle → Unfolding) : Shape → Unfolding
  | .aliasType a => tree a.target
  | .classType c => .nominal .classType (.of c.name)
  | .recordType r => .nominal .recordType (.of r.name)
  | .interfaceType i => .nominal .interfaceType (.of i.name)
  | .enumType e => .nominal .enumType (.of e.name)
  | .array a => .array a.bounds (tree a.element)
  | .subrange r => .subrange r.range (tree r.base)
  | .functionPointer s => .pointer .functionPointer (s.params.map tree) (s.result.map tree)
  | .methodPointer s => .pointer .methodPointer (s.params.map tree) (s.result.map tree)
  | .metaclass h => .metaclass (tree h)
  | .variant => .variant place
  | primitive => .primitive primitive.kind

namespace Shape

/-- Only the trees of the components matter. -/
theorem unfold_congr (x : Shape) (place : Handle) {f g : Handle → Unfolding}
    (h : ∀ p ∈ x.components, f p = g p) : x.unfold place f = x.unfold place g := by
  have hsig : ∀ sig : Signature, (∀ p ∈ sig.params ++ sig.result.toList, f p = g p) →
      sig.params.map f = sig.params.map g ∧ sig.result.map f = sig.result.map g := by
    intro sig hsig
    refine ⟨List.map_congr_left fun p hp ↦ hsig p (List.mem_append_left _ hp), ?_⟩
    exact Option.map_congr fun p hp ↦ hsig p (List.mem_append_right _ (Option.mem_toList.mpr hp))
  cases x with
  | aliasType a => exact h _ (List.mem_singleton.mpr rfl)
  | array a => rw [unfold, unfold, h _ (List.mem_singleton.mpr rfl)]
  | subrange r => rw [unfold, unfold, h _ (List.mem_singleton.mpr rfl)]
  | metaclass t => rw [unfold, unfold, h _ (List.mem_singleton.mpr rfl)]
  | functionPointer sig => rw [unfold, unfold, (hsig sig h).1, (hsig sig h).2]
  | methodPointer sig => rw [unfold, unfold, (hsig sig h).1, (hsig sig h).2]
  | _ => rfl

variable {x : Shape} (place : Handle) (tree : Handle → Unfolding)

theorem head?_unfold (hx : x.kind ≠ .aliasType) : (x.unfold place tree).head? = x.head? := by
  cases x with
  | aliasType a => exact absurd rfl hx
  | functionPointer sig =>
    rw [unfold, Unfolding.head?, List.length_map]
    rfl
  | methodPointer sig =>
    rw [unfold, Unfolding.head?, List.length_map]
    rfl
  | _ => rfl

theorem parts_unfold (hx : x.kind ≠ .aliasType) :
    (x.unfold place tree).parts = x.parts.map (Option.map tree) := by
  cases x with
  | aliasType a => exact absurd rfl hx
  | functionPointer sig => simp [unfold, parts, Unfolding.parts, Signature.parts]
  | methodPointer sig => simp [unfold, parts, Unfolding.parts, Signature.parts]
  | _ => rfl

/-- Besides aliases only variants have no head. -/
theorem eq_variant_of_head?_eq_none (hx : x.kind ≠ .aliasType) (h : x.head? = none) :
    x = .variant := by
  cases x with
  | aliasType a => exact absurd rfl hx
  | variant => rfl
  | _ => cases h

/-- The parts that are compared are among the components. -/
theorem mem_components_of_mem_parts {p : Handle} (hp : some p ∈ x.parts) : p ∈ x.components := by
  cases x with
  | functionPointer sig => simpa [parts, Signature.parts, components, eq_comm] using hp
  | methodPointer sig => simpa [parts, Signature.parts, components, eq_comm] using hp
  | array a => simpa [parts, components] using hp
  | subrange r => simpa [parts, components] using hp
  | metaclass t => simpa [parts, components] using hp
  | _ => cases hp

end Shape

namespace TypeStore

/-- The tree at a handle, where steps nest at most `n` deep.  A handle that leads nowhere counts as
a variant. -/
def unfoldWithin (s : TypeStore) : Nat → Handle → Unfolding
  | 0, h => .variant h
  | n + 1, h =>
    match s.shape h with
    | .ok x => x.unfold h (s.unfoldWithin n)
    | .error _ => .variant h

/-- The tree that a type unfolds to.  In a well-formed store each step leads to a smaller handle, so
the handle says how deep the steps can nest. -/
def unfolding (s : TypeStore) (h : Handle) : Unfolding :=
  s.unfoldWithin (h.index + 1) h

variable {s : TypeStore} {a b h u v : Handle} {x y : Shape}

/-- A bound that is large enough does not matter. -/
theorem WellFormed.unfoldWithin_eq (hs : s.WellFormed) : ∀ (n m : Nat) (h : Handle),
    h.index < n → h.index < m → s.unfoldWithin n h = s.unfoldWithin m h
  | 0, _, _, hn, _ => absurd hn (Nat.not_lt_zero _)
  | _, 0, _, _, hm => absurd hm (Nat.not_lt_zero _)
  | n + 1, m + 1, h, hn, hm => by
    rw [unfoldWithin, unfoldWithin]
    cases hx : s.shape h with
    | error e => rfl
    | ok x =>
      refine x.unfold_congr h fun p hp ↦ ?_
      have hlt := hs.component_lt hx hp
      exact hs.unfoldWithin_eq n m p (by omega) (by omega)

/-- **The equation of the unfolding**: the tree of a type is made of the trees of its components. -/
theorem WellFormed.unfolding_eq (hs : s.WellFormed) (hx : s.shape h = .ok x) :
    s.unfolding h = x.unfold h s.unfolding := by
  rw [unfolding, unfoldWithin, hx]
  refine x.unfold_congr h fun p hp ↦ ?_
  have hlt := hs.component_lt hx hp
  exact hs.unfoldWithin_eq _ _ p hlt (Nat.lt_succ_self _)

theorem WellFormed.unfolding_followAliases (hs : s.WellFormed) : ∀ (n : Nat) (h u : Handle),
    s.followAliases n h = .ok u → s.unfolding h = s.unfolding u
  | 0, _, _, hu => congrArg _ (Except.ok.inj hu)
  | n + 1, h, u, hu => by
    rw [followAliases] at hu
    split at hu
    · cases hu
    · rename_i a hx
      rw [hs.unfolding_eq hx]
      exact hs.unfolding_followAliases n a.target u hu
    · exact congrArg _ (Except.ok.inj hu)

/-- Aliases leave no trace in a tree. -/
theorem Lands.unfolding_underlying (hl : s.Lands h u x) (hs : s.WellFormed) :
    s.unfolding h = s.unfolding u :=
  hs.unfolding_followAliases _ _ _ hl.underlying

theorem Lands.unfolding_eq (hl : s.Lands h u x) (hs : s.WellFormed) :
    s.unfolding h = x.unfold u s.unfolding := by
  rw [hl.unfolding_underlying hs, hs.unfolding_eq hl.shape]

/-! ## The comparison decides equality of trees -/

/-- If comparing two handles decides whether their trees are equal, then comparing parts decides
whether all trees are equal in turn. -/
theorem sameParts_decides {same : Handle → Handle → Except Fault Bool}
    {tree : Handle → Unfolding} : ∀ {ps qs : List (Option Handle)},
    (∀ p q, some p ∈ ps → some q ∈ qs → Decides (same p q) (tree p = tree q)) →
      Decides (sameParts same ps qs) (ps.map (Option.map tree) = qs.map (Option.map tree))
  | [], [], _ => .of_ok (by simp)
  | [], _ :: _, _ => .of_ok (by simp)
  | none :: _, [], _ => .of_ok (by simp)
  | some _ :: _, [], _ => .of_ok (by simp)
  | none :: _, some _ :: _, _ => .of_ok (by simp)
  | some _ :: _, none :: _, _ => .of_ok (by simp)
  | none :: ps, none :: qs, h => by
    have ih := sameParts_decides fun p q hp hq ↦
      h p q (List.mem_cons_of_mem _ hp) (List.mem_cons_of_mem _ hq)
    rw [sameParts]
    simpa using ih
  | some p :: ps, some q :: qs, h => by
    have ih := sameParts_decides fun p q hp hq ↦
      h p q (List.mem_cons_of_mem _ hp) (List.mem_cons_of_mem _ hq)
    obtain ⟨yes, hyes, heq⟩ := h p q List.mem_cons_self List.mem_cons_self
    rw [sameParts, hyes]
    cases yes with
    | true => simpa [heq.mp rfl] using ih
    | false => exact .of_ok (by simp [← heq])

theorem Lands.sameTypeWithin_succ (ha : s.Lands a u x) (hb : s.Lands b v y) (n : Nat) :
    s.sameTypeWithin (n + 1) a b =
      if u = v then .ok true
      else
        match x.head?, y.head? with
        | some p, some q =>
          if p = q then sameParts (s.sameTypeWithin n) x.parts y.parts else .ok false
        | _, _ => .ok false := by
  rw [sameTypeWithin, ha.underlying, hb.underlying]
  change (if u = v then _ else _) = _
  split
  · rfl
  · rw [ha.shape, hb.shape]
    rfl

/-- The trees of two places are equal if the places are, and otherwise if heads and parts agree and
there is a head at all. -/
theorem Lands.unfolding_eq_iff (ha : s.Lands a u x) (hb : s.Lands b v y) (hs : s.WellFormed)
    (huv : u ≠ v) : s.unfolding a = s.unfolding b ↔ ∃ p, x.head? = some p ∧ y.head? = some p ∧
      x.parts.map (Option.map s.unfolding) = y.parts.map (Option.map s.unfolding) := by
  rw [ha.unfolding_eq hs, hb.unfolding_eq hs]
  have hx := Shape.head?_unfold u s.unfolding ha.not_alias
  have hy := Shape.head?_unfold v s.unfolding hb.not_alias
  rw [← Shape.parts_unfold u _ ha.not_alias, ← Shape.parts_unfold v _ hb.not_alias]
  constructor
  · intro heq
    cases hp : x.head? with
    | some p => exact ⟨p, rfl, by rw [← hy, ← heq, hx, hp], congrArg _ heq⟩
    | none =>
      -- both shapes are variants, and the trees of variants keep their places apart
      have hq : y.head? = none := by rw [← hy, ← heq, hx, hp]
      rw [Shape.eq_variant_of_head?_eq_none ha.not_alias hp,
        Shape.eq_variant_of_head?_eq_none hb.not_alias hq] at heq
      exact absurd (Unfolding.variant.inj heq) huv
  · rintro ⟨p, hp, hq, hparts⟩
    exact Unfolding.eq_of_head?_of_parts (hx.trans hp) (hy.trans hq) hparts

theorem WellFormed.sameTypeWithin_decides (hs : s.WellFormed) : ∀ (n : Nat) (a b : Handle),
    s.contains a = true → s.contains b = true → a.index < n →
      Decides (s.sameTypeWithin n a b) (s.unfolding a = s.unfolding b)
  | 0, _, _, _, _, hn => absurd hn (Nat.not_lt_zero _)
  | n + 1, a, b, hca, hcb, hn => by
    obtain ⟨u, x, ha⟩ := hs.exists_lands hca
    obtain ⟨v, y, hb⟩ := hs.exists_lands hcb
    rw [ha.sameTypeWithin_succ hb]
    split
    · rename_i huv
      subst huv
      have hxy : x = y := Except.ok.inj (ha.shape.symm.trans hb.shape)
      exact .of_ok (by simp [ha.unfolding_eq hs, hb.unfolding_eq hs, hxy])
    · rename_i huv
      have ih : Decides (sameParts (s.sameTypeWithin n) x.parts y.parts)
          (x.parts.map (Option.map s.unfolding) = y.parts.map (Option.map s.unfolding)) := by
        refine sameParts_decides fun p q hp hq ↦ ?_
        have hp' := Shape.mem_components_of_mem_parts hp
        have hq' := Shape.mem_components_of_mem_parts hq
        have hlt := ha.component_lt hs hp'
        exact hs.sameTypeWithin_decides n p q (hs.contains_component ha.shape hp')
          (hs.contains_component hb.shape hq') (by omega)
      obtain ⟨yes, hyes, hparts⟩ := ih
      have hiff := ha.unfolding_eq_iff hb hs huv
      rw [← hparts] at hiff
      cases hp : x.head? with
      | none => exact .of_ok (by simp [hiff, hp])
      | some p =>
        cases hq : y.head? with
        | none => exact .of_ok (by simp [hiff, hq])
        | some q =>
          change Decides (if p = q then _ else _) _
          split
          · rename_i hpq
            exact ⟨yes, hyes, by simp [hiff, hp, hq, hpq]⟩
          · rename_i hpq
            exact .of_ok (by simp [hiff, hp, hq, Ne.symm hpq])

theorem WellFormed.sameType_decides (hs : s.WellFormed) (ha : s.contains a = true)
    (hb : s.contains b = true) : Decides (s.sameType a b) (s.unfolding a = s.unfolding b) := by
  refine hs.sameTypeWithin_decides _ a b ha hb ?_
  have hlt : a.index < s.size := contains_iff.mp ha
  have hle : s.size ≤ s.size * s.size := Nat.le_mul_self s.size
  omega

/-- **Two types are the same exactly if they unfold to the same tree.**  The first part says once
more what the unfolding is.  The last part follows from the one before it. -/
theorem sameType_iff_unfolding_eq (hs : s.WellFormed) :
    (∀ h x, s.shape h = .ok x → s.unfolding h = x.unfold h s.unfolding) ∧
      (∀ a b, s.contains a = true → s.contains b = true →
        Decides (s.sameType a b) (s.unfolding a = s.unfolding b)) ∧
      Equivalence fun a b : { h // s.contains h = true } ↦ s.sameType a b = .ok true := by
  have hdec : ∀ a b : { h // s.contains h = true },
      s.sameType a b = .ok true ↔ s.unfolding a = s.unfolding b :=
    fun a b ↦ (hs.sameType_decides a.2 b.2).eq_true_iff
  refine ⟨fun _ _ ↦ hs.unfolding_eq, fun _ _ ↦ hs.sameType_decides, ?_, ?_, ?_⟩
  · intro a
    exact (hdec a a).mpr rfl
  · intro a b hab
    exact (hdec b a).mpr ((hdec a b).mp hab).symm
  · intro a b c hab hbc
    exact (hdec a c).mpr (((hdec a b).mp hab).trans ((hdec b c).mp hbc))

/-- A class in two spellings, an alias for the second, arrays of the first and of the alias, and a
variant beside the built-in one. -/
def respelledStore : TypeStore where
  shapes := TypeStore.initial.shapes ++
    #[.classType { name := "TNode" }, .classType { name := "tNODE" }, .aliasType ⟨"TItem", ⟨8⟩⟩,
      .array ⟨⟨7⟩, none⟩, .array ⟨⟨9⟩, none⟩, .variant]

/-- The two arrays are the same type, and the two variants are not. -/
theorem sameType_respelledStore : respelledStore.WellFormed ∧
    respelledStore.sameType ⟨10⟩ ⟨11⟩ = .ok true ∧
      respelledStore.sameType ⟨12⟩ .variant = .ok false := by
  have hs : respelledStore.WellFormed := by decide
  have hdec := (sameType_iff_unfolding_eq hs).2.1
  refine ⟨hs, ?_, ?_⟩
  · refine (hdec ⟨10⟩ ⟨11⟩ (by decide) (by decide)).eq_true_iff.mpr ?_
    rfl
  · refine (hdec ⟨12⟩ .variant (by decide) (by decide)).eq_false_iff.mpr ?_
    intro heq
    cases heq

end TypeStore

end PascalTypes
