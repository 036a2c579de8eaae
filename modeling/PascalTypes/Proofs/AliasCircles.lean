import PascalTypes.Proofs.AliasWalks

/-!
# Aliases that lead in circles

A walk along aliases ends in one of two ways.  It comes to a type that is not an alias, or it takes
as many steps as there are types and stops at an alias.  If all aliases refer to types of the store,
the second happens exactly if the aliases lead into a circle, because a walk with more steps than
there are types meets one of them again (`exists_circle`).  So the bound on the steps is never what
keeps a walk from its end.

Nothing is assumed about where the target of an alias lies.  It can come before the alias or behind
it, and the alias can be its own target.
-/

set_option autoImplicit false

namespace PascalTypes.TypeStore

variable {s : TypeStore} {h u v : Handle} {l : List Handle}

/-! ## Where a walk stops -/

/-- However many steps are allowed, a walk stops at a handle that aliases lead to. -/
theorem reaches_of_followAliases : ∀ (n : Nat) {h : Handle}, s.followAliases n h = .ok u →
    Relation.ReflTransGen s.AliasTo h u
  | 0, h, heq => by
    cases heq
    exact .refl
  | n + 1, h, heq => by
    have hc : s.contains h = true := by
      by_contra hout
      rw [followAliases_of_not_contains hout] at heq
      cases heq
    rcases isPlain_or_aliasTo hc with hp | ⟨v, hv⟩
    · rw [hp.followAliases] at heq
      cases heq
      exact .refl
    · rw [hv.followAliases] at heq
      exact .head hv (reaches_of_followAliases n heq)

/-- **A walk that can come to an end does.** -/
theorem underlying_of_reaches (hv : Relation.ReflTransGen s.AliasTo h v) (hp : s.IsPlain v) :
    s.underlying h = .ok v := by
  obtain ⟨l, hw⟩ := AliasWalk.of_reflTransGen hv
  obtain ⟨n, hn⟩ := Nat.exists_eq_add_of_le (hw.length_le_size fun _ ↦ hp.not_aliasTo)
  rw [underlying, hn, hw.followAliases, hp.followAliases]

/-! ## Circles -/

/-- Aliases lead from the handle into a circle. -/
def Circles (s : TypeStore) (h : Handle) : Prop :=
  ∃ v, Relation.ReflTransGen s.AliasTo h v ∧ Relation.TransGen s.AliasTo v v

theorem Circles.head (hu : s.AliasTo h u) (hcircles : s.Circles u) : s.Circles h := by
  obtain ⟨v, hv, hround⟩ := hcircles
  exact ⟨v, .head hu hv, hround⟩

/-- A step along an alias does not leave the circle behind. -/
theorem Circles.tail (hu : s.AliasTo h u) (hcircles : s.Circles h) : s.Circles u := by
  obtain ⟨v, hv, hround⟩ := hcircles
  obtain rfl | ⟨w, hw, hrest⟩ := Relation.ReflTransGen.cases_head hv
  · -- the circle starts at once, and it goes through `u`
    obtain ⟨w, hw, hback⟩ := Relation.TransGen.head'_iff.mp hround
    obtain rfl := hu.unique hw
    exact ⟨u, .refl, .tail' hback hu⟩
  · obtain rfl := hu.unique hw
    exact ⟨v, hrest, hround⟩

/-- There is no way out of a circle. -/
theorem Circles.not_isPlain (hcircles : s.Circles h) (hv : Relation.ReflTransGen s.AliasTo h v) :
    ¬s.IsPlain v := by
  induction hv using Relation.ReflTransGen.head_induction_on with
  | refl =>
    intro hp
    obtain ⟨w, hw, hround⟩ := hcircles
    obtain rfl | ⟨_, hstep, -⟩ := Relation.ReflTransGen.cases_head hw
    · obtain ⟨_, hstep, -⟩ := Relation.TransGen.head'_iff.mp hround
      exact hp.not_aliasTo hstep
    · exact hp.not_aliasTo hstep
  | head hstep _ ih => exact ih (hcircles.tail hstep)

theorem AliasWalk.reaches_of_mem (hw : s.AliasWalk h l u) (hv : v ∈ l) :
    Relation.ReflTransGen s.AliasTo h v := by
  induction hw with
  | stop h => cases hv
  | step hstep _ ih =>
    rcases List.mem_cons.mp hv with rfl | hv
    · exact .refl
    · exact .head hstep (ih hv)

theorem AliasWalk.circles (hw : s.AliasWalk h l u) (hl : ¬l.Nodup) : s.Circles h := by
  induction hw with
  | stop h => exact absurd List.nodup_nil hl
  | @step h u v l hstep hrest ih =>
    by_cases hmem : h ∈ l
    · exact ⟨h, .refl, .head' hstep (hrest.reaches_of_mem hmem)⟩
    · exact (ih fun hnodup ↦ hl (List.nodup_cons.mpr ⟨hmem, hnodup⟩)).head hstep

/-- A walk that never comes to an end can be made as long as one likes. -/
theorem AliasesInside.exists_walk (hs : s.AliasesInside) : ∀ (n : Nat) {h : Handle},
    s.contains h = true → (∀ v, Relation.ReflTransGen s.AliasTo h v → ¬s.IsPlain v) →
      ∃ l u, s.AliasWalk h l u ∧ l.length = n
  | 0, h, _, _ => ⟨[], h, .stop h, rfl⟩
  | n + 1, h, hc, hnone => by
    obtain ⟨u, hu⟩ := (isPlain_or_aliasTo hc).resolve_left (hnone h .refl)
    obtain ⟨l, v, hw, hlen⟩ := hs.exists_walk n (hs.contains hu) fun v hv ↦ hnone v (.head hu hv)
    exact ⟨h :: l, v, .step hu hw, congrArg Nat.succ hlen⟩

/-- **Where there is no end, there is a circle.** -/
theorem AliasesInside.exists_circle (hs : s.AliasesInside) (hc : s.contains h = true)
    (hnone : ∀ v, Relation.ReflTransGen s.AliasTo h v → ¬s.IsPlain v) : s.Circles h := by
  obtain ⟨l, u, hw, hlen⟩ := hs.exists_walk (s.size + 1) hc hnone
  refine hw.circles fun hnodup ↦ ?_
  have hle := hw.length_le_of_nodup hnodup
  omega

/-! ## Both ways to end -/

/-- How looking through the aliases ends that start at `h`. -/
structure WalkEnds (s : TypeStore) (h : Handle) : Prop where
  /-- It ends at a type that is not an alias exactly if the aliases lead to one. -/
  plain_iff : (∃ u, s.underlying h = .ok u ∧ s.IsPlain u) ↔
    ∃ v, Relation.ReflTransGen s.AliasTo h v ∧ s.IsPlain v
  /-- It is the type that the aliases lead to, and nothing more is behind it. -/
  plain_eq : ∀ v, Relation.ReflTransGen s.AliasTo h v → s.IsPlain v →
    s.underlying h = .ok v ∧ s.underlying v = .ok v
  /-- In a circle it ends too, at one of the aliases. -/
  circling : s.Circles h → ∃ u, s.underlying h = .ok u ∧
    Relation.ReflTransGen s.AliasTo h u ∧ ∃ v, s.AliasTo u v
  /-- There is no third way, and not both at once. -/
  circles_iff : s.Circles h ↔ ¬∃ v, Relation.ReflTransGen s.AliasTo h v ∧ s.IsPlain v

/-- **Looking through aliases never stops before their end**, wherever their targets lie. -/
theorem walkEnds_of_inside (hs : s.AliasesInside) (hc : s.contains h = true) : s.WalkEnds h := by
  refine ⟨⟨?_, ?_⟩, fun v hv hp ↦ ?_, fun hcircles ↦ ?_, ⟨?_, fun hnone ↦ ?_⟩⟩
  · rintro ⟨u, hu, hp⟩
    exact ⟨u, reaches_of_followAliases s.size hu, hp⟩
  · rintro ⟨v, hv, hp⟩
    exact ⟨v, underlying_of_reaches hv hp, hp⟩
  · exact ⟨underlying_of_reaches hv hp, underlying_of_reaches .refl hp⟩
  · obtain ⟨u, hu, huc⟩ := (hs.inside hc).exists_followAliases s.size
    have hreach := reaches_of_followAliases s.size hu
    exact ⟨u, hu, hreach, (isPlain_or_aliasTo huc).resolve_left (hcircles.not_isPlain hreach)⟩
  · rintro hcircles ⟨v, hv, hp⟩
    exact hcircles.not_isPlain hv hp
  · exact hs.exists_circle hc fun v hv hp ↦ hnone ⟨v, hv, hp⟩

/-- Aliases whose targets lie behind them and before them, and two that go round in a circle. -/
def crossedAliases : TypeStore where
  shapes := TypeStore.initial.shapes ++
    #[.aliasType ⟨"TAhead", ⟨9⟩⟩, .aliasType ⟨"TBack", ⟨7⟩⟩, .aliasType ⟨"TLast", .string⟩,
      .aliasType ⟨"TRound", ⟨11⟩⟩, .aliasType ⟨"TAbout", ⟨10⟩⟩]

/-- Through `TBack` the string type is found, and the walk from `TRound` ends at an alias. -/
theorem walkEnds_crossedAliases : crossedAliases.AliasesInside ∧
    crossedAliases.contains ⟨8⟩ = true ∧ crossedAliases.contains ⟨10⟩ = true ∧
    crossedAliases.underlying ⟨8⟩ = .ok .string ∧
    ∃ u, crossedAliases.underlying ⟨10⟩ = .ok u ∧ ∃ v, crossedAliases.AliasTo u v := by
  have hs : crossedAliases.AliasesInside := by decide
  have hback : crossedAliases.contains ⟨8⟩ = true := by decide
  have hround : crossedAliases.contains ⟨10⟩ = true := by decide
  have hstep : ∀ h a, crossedAliases.shape h = .ok (.aliasType a) →
      crossedAliases.AliasTo h a.target := fun h a ha ↦ ⟨a, ha, rfl⟩
  have hstring : Relation.ReflTransGen crossedAliases.AliasTo ⟨8⟩ .string :=
    .head (hstep ⟨8⟩ ⟨"TBack", ⟨7⟩⟩ rfl) (.head (hstep ⟨7⟩ ⟨"TAhead", ⟨9⟩⟩ rfl)
      (.head (hstep ⟨9⟩ ⟨"TLast", .string⟩ rfl) .refl))
  have hcircles : crossedAliases.Circles ⟨10⟩ :=
    ⟨⟨10⟩, .refl, .head (hstep ⟨10⟩ ⟨"TRound", ⟨11⟩⟩ rfl)
      (.single (hstep ⟨11⟩ ⟨"TAbout", ⟨10⟩⟩ rfl))⟩
  obtain ⟨u, hu, -, hv⟩ := (walkEnds_of_inside hs hround).circling hcircles
  exact ⟨hs, hback, hround,
    ((walkEnds_of_inside hs hback).plain_eq .string hstring ⟨.string, rfl, by decide⟩).1, u, hu, hv⟩

end PascalTypes.TypeStore
