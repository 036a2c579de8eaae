import PascalTypes.Proofs.OverloadChoice

/-!
# What a call comes to

A call by name goes to an overload, or it fails in one of three ways.  For each of these four
outcomes there is an equivalence here that says when it comes about, in terms of what the overloads
cost and how many positions of the list have the least cost.  No outcome depends on the order of the
overloads (`chooseOverload_perm`).

The same overload can be registered more than once, and then it stands at several positions.  Each
of them counts, so an overload that is registered twice is never the only cheapest one.

Costs are answers to questions about types.  `RankedByCost` makes no assumption that there is an
answer.  It says that the call has an outcome exactly if each overload has its answer.
-/

set_option autoImplicit false

namespace PascalTypes

/-! ## The four outcomes of a choice -/

section Cheapest

variable {α : Type} {name n : String} {candidates candidates' : List (α × Option Nat)} {k : Nat}

/-- A candidate costs this, and none costs less. -/
structure LeastCost (candidates : List (α × Option Nat)) (least : Nat) : Prop where
  attained : ∃ p ∈ candidates, p.2 = some least
  least : ∀ p ∈ candidates, ∀ cost, p.2 = some cost → least ≤ cost

theorem Standing.Leads.leastCost {s : Standing α} (h : s.Leads candidates) :
    LeastCost candidates s.cost :=
  ⟨⟨_, h.mem, rfl⟩, h.least⟩

theorem LeastCost.unique {a b : Nat} (ha : LeastCost candidates a) (hb : LeastCost candidates b) :
    a = b := by
  obtain ⟨p, hp, hpa⟩ := ha.attained
  obtain ⟨q, hq, hqb⟩ := hb.attained
  exact Nat.le_antisymm (ha.least q hq b hqb) (hb.least p hp a hpa)

theorem cheapest_eq_unknown_iff :
    cheapest name candidates = .error (.unknown n) ↔ n = name ∧ candidates = [] := by
  rcases cheapest_cases name candidates with
    ⟨rfl, heq⟩ | ⟨hne, -, heq⟩ | ⟨s, hs, ⟨-, heq⟩ | ⟨-, heq⟩⟩
  · simp [heq, eq_comm]
  · simp [heq, hne]
  · simp [heq, List.ne_nil_of_mem hs.mem]
  · simp [heq, List.ne_nil_of_mem hs.mem]

theorem cheapest_eq_noMatch_iff : cheapest name candidates = .error (.noMatch n) ↔
    n = name ∧ candidates ≠ [] ∧ ∀ p ∈ candidates, p.2 = none := by
  have hcost : ∀ s : Standing α, s.Leads candidates → ¬∀ p ∈ candidates, p.2 = none :=
    fun s hs hnone ↦ absurd (hnone _ hs.mem) (by simp)
  rcases cheapest_cases name candidates with
    ⟨hempty, heq⟩ | ⟨hne, hnone, heq⟩ | ⟨s, hs, ⟨-, heq⟩ | ⟨-, heq⟩⟩
  · rw [heq]
    simp [hempty]
  · rw [heq]
    simp only [Except.error.injEq, CallError.noMatch.injEq, ne_eq, hne, not_false_eq_true,
      true_and, eq_comm]
    exact ⟨fun hn ↦ ⟨hn, hnone⟩, And.left⟩
  · simp only [heq, reduceCtorEq, hcost s hs, and_false]
  · simp only [heq, Except.error.injEq, reduceCtorEq, hcost s hs, and_false]

theorem cheapest_eq_ambiguous_iff : cheapest name candidates = .error (.ambiguous n k) ↔
    n = name ∧ 2 ≤ k ∧ ∃ least, LeastCost candidates least ∧
      candidates.countP (fun p ↦ p.2 == some least) = k := by
  constructor
  · intro h
    rcases cheapest_cases name candidates with
      ⟨-, heq⟩ | ⟨-, -, heq⟩ | ⟨s, hs, ⟨-, heq⟩ | ⟨hties, heq⟩⟩
    · cases heq.symm.trans h
    · cases heq.symm.trans h
    · cases heq.symm.trans h
    · cases heq.symm.trans h
      exact ⟨rfl, hties, s.cost, hs.leastCost, hs.counted⟩
  · rintro ⟨rfl, hk, least, hleast, rfl⟩
    obtain ⟨p, hp, hcost⟩ := hleast.attained
    rcases cheapest_cases n candidates with
      ⟨hempty, -⟩ | ⟨-, hnone, -⟩ | ⟨s, hs, hanswer⟩
    · exact absurd hempty (List.ne_nil_of_mem hp)
    · exact absurd ((hnone p hp).symm.trans hcost) (by simp)
    · obtain rfl := hleast.unique hs.leastCost
      rw [hs.counted] at hk ⊢
      rcases hanswer with ⟨hties, -⟩ | ⟨-, heq⟩
      · omega
      · exact heq

/-! ## The order of the candidates -/

theorem LeastCost.perm {least : Nat} (h : LeastCost candidates least)
    (hperm : candidates.Perm candidates') : LeastCost candidates' least := by
  obtain ⟨p, hp, hcost⟩ := h.attained
  exact ⟨⟨p, hperm.mem_iff.mp hp, hcost⟩, fun q hq ↦ h.least q (hperm.mem_iff.mpr hq)⟩

theorem CheapestAlone.perm {best : α} (h : CheapestAlone candidates best)
    (hperm : candidates.Perm candidates') : CheapestAlone candidates' best := by
  obtain ⟨cost, front, back, rfl, hother⟩ := h
  have hmem : (best, some cost) ∈ candidates' :=
    hperm.mem_iff.mp (List.mem_append_right _ List.mem_cons_self)
  obtain ⟨front', back', rfl⟩ := List.append_of_mem hmem
  -- with the best one taken out, the other candidates are the same
  have hrest : (front ++ back).Perm (front' ++ back') :=
    (List.perm_middle.symm.trans (hperm.trans List.perm_middle)).cons_inv
  exact ⟨cost, front', back', rfl, fun p hp ↦ hother p (hrest.mem_iff.mpr hp)⟩

/-- **The order of the candidates does not matter.** -/
theorem cheapest_perm (name : String) (hperm : candidates.Perm candidates') :
    cheapest name candidates' = cheapest name candidates := by
  rcases cheapest_cases name candidates with
    ⟨rfl, heq⟩ | ⟨hne, hnone, heq⟩ | ⟨s, hs, ⟨hties, heq⟩ | ⟨hties, heq⟩⟩
  · rw [hperm.symm.eq_nil]
  · rw [heq]
    refine cheapest_eq_noMatch_iff.mpr ⟨rfl, fun hnil ↦ hne ?_, fun p hp ↦ ?_⟩
    · rw [hnil] at hperm
      exact hperm.eq_nil
    · exact hnone p (hperm.mem_iff.mpr hp)
  · rw [heq]
    exact cheapest_eq_ok_iff.mpr ((hs.cheapestAlone hties).perm hperm)
  · rw [heq]
    refine cheapest_eq_ambiguous_iff.mpr ⟨rfl, hties, s.cost, hs.leastCost.perm hperm, ?_⟩
    rw [← hperm.countP_eq]
    exact hs.counted

/-- Two candidates are as cheap as each other until a cheaper one comes. -/
example : cheapest "f" [('a', some 3), ('b', some 3), ('c', none), ('d', some 1)] = .ok 'd' ∧
    cheapest "f" [('d', some 1), ('a', some 3), ('c', none), ('b', some 3)] = .ok 'd' := by
  decide

end Cheapest

/-! ## The four outcomes of a call -/

namespace TypeEnv

variable {env : TypeEnv} {name n : String} {candidates candidates' : List Overload}
  {args : List Handle} {k : Nat}

theorem chooseOverload_of_cost {cost : Overload → Option Nat}
    (hcost : ∀ o ∈ candidates, env.callCost? o args = .ok (cost o)) :
    env.chooseOverload name candidates args =
      .ok (cheapest name (candidates.map fun o ↦ (o, cost o))) :=
  chooseOverload_eq_ok_iff.mpr ⟨cost, hcost, rfl⟩

/-- There is an outcome exactly if each candidate has its cost. -/
theorem chooseOverload_answered_iff : (∃ r, env.chooseOverload name candidates args = .ok r) ↔
    ∀ o ∈ candidates, ∃ answer, env.callCost? o args = .ok answer := by
  constructor
  · rintro ⟨r, hr⟩ o ho
    obtain ⟨cost, hcost, -⟩ := chooseOverload_eq_ok_iff.mp hr
    exact ⟨_, hcost o ho⟩
  · intro h
    obtain ⟨cost, hcost⟩ := exists_cost_of_answered h
    exact ⟨_, chooseOverload_of_cost hcost⟩

theorem chooseOverload_perm (hperm : candidates.Perm candidates')
    (r : Except CallError Overload) :
    env.chooseOverload name candidates' args = .ok r ↔
      env.chooseOverload name candidates args = .ok r := by
  rw [chooseOverload_eq_ok_iff, chooseOverload_eq_ok_iff]
  refine exists_congr fun cost ↦ ?_
  rw [cheapest_perm name (hperm.map fun o ↦ (o, cost o))]
  simp only [hperm.mem_iff]

/-- All candidates can be asked for their costs, and none of them costs less. -/
def NoneCheaper (env : TypeEnv) (candidates : List Overload) (args : List Handle) (least : Nat) :
    Prop :=
  ∀ o ∈ candidates, ∃ answer, env.callCost? o args = .ok answer ∧
    ∀ cost, answer = some cost → least ≤ cost

/-- An overload stands at the one position with the least cost. -/
def OnlyCheapest (env : TypeEnv) (candidates : List Overload) (args : List Handle)
    (o : Overload) : Prop :=
  ∃ least front back, candidates = front ++ o :: back ∧ env.callCost? o args = .ok (some least) ∧
    ∀ other ∈ front ++ back, ∃ answer, env.callCost? other args = .ok answer ∧
      ∀ cost, answer = some cost → least < cost

theorem chooseOverload_eq_unknown_iff :
    env.chooseOverload name candidates args = .ok (.error (.unknown n)) ↔
      n = name ∧ candidates = [] := by
  rw [chooseOverload_eq_ok_iff]
  simp only [cheapest_eq_unknown_iff, List.map_eq_nil_iff]
  constructor
  · rintro ⟨-, -, h⟩
    exact h
  · rintro ⟨rfl, rfl⟩
    exact ⟨fun _ ↦ none, by simp, rfl, rfl⟩

theorem chooseOverload_eq_noMatch_iff :
    env.chooseOverload name candidates args = .ok (.error (.noMatch n)) ↔
      n = name ∧ candidates ≠ [] ∧ ∀ o ∈ candidates, env.callCost? o args = .ok none := by
  rw [chooseOverload_eq_ok_iff]
  simp only [cheapest_eq_noMatch_iff, ne_eq, List.map_eq_nil_iff, List.forall_mem_map]
  constructor
  · rintro ⟨cost, hcost, rfl, hne, hnone⟩
    exact ⟨rfl, hne, fun o ho ↦ hnone o ho ▸ hcost o ho⟩
  · rintro ⟨rfl, hne, hnone⟩
    exact ⟨fun _ ↦ none, hnone, rfl, hne, fun _ _ ↦ rfl⟩

/-- The positions with a cost can be counted before or after the costs are known. -/
theorem countP_callCost {cost : Overload → Option Nat} {least : Nat}
    (hcost : ∀ o ∈ candidates, env.callCost? o args = .ok (cost o)) :
    (candidates.map fun o ↦ (o, cost o)).countP (fun p ↦ p.2 == some least) =
      candidates.countP fun o ↦ decide (env.callCost? o args = .ok (some least)) := by
  rw [List.countP_map]
  refine List.countP_congr fun o ho ↦ ?_
  simp [hcost o ho]

theorem NoneCheaper.answered {least : Nat} (h : env.NoneCheaper candidates args least) :
    ∀ o ∈ candidates, ∃ answer, env.callCost? o args = .ok answer := by
  intro o ho
  obtain ⟨answer, hanswer, -⟩ := h o ho
  exact ⟨answer, hanswer⟩

theorem noneCheaper_iff {cost : Overload → Option Nat} {least : Nat}
    (hcost : ∀ o ∈ candidates, env.callCost? o args = .ok (cost o)) :
    env.NoneCheaper candidates args least ↔
      ∀ p ∈ candidates.map fun o ↦ (o, cost o), ∀ c, p.2 = some c → least ≤ c := by
  rw [List.forall_mem_map]
  constructor
  · intro h o ho
    obtain ⟨answer, hanswer, hle⟩ := h o ho
    cases (hcost o ho).symm.trans hanswer
    exact hle
  · intro h o ho
    exact ⟨_, hcost o ho, h o ho⟩

theorem chooseOverload_eq_ambiguous_iff :
    env.chooseOverload name candidates args = .ok (.error (.ambiguous n k)) ↔
      n = name ∧ 2 ≤ k ∧ ∃ least, env.NoneCheaper candidates args least ∧
        candidates.countP (fun o ↦ decide (env.callCost? o args = .ok (some least))) = k := by
  rw [chooseOverload_eq_ok_iff]
  constructor
  · rintro ⟨cost, hcost, h⟩
    obtain ⟨rfl, hk, least, hleast, hcount⟩ := cheapest_eq_ambiguous_iff.mp h
    refine ⟨rfl, hk, least, (noneCheaper_iff hcost).mpr hleast.least, ?_⟩
    rw [← countP_callCost hcost]
    exact hcount
  · rintro ⟨rfl, hk, least, hnone, rfl⟩
    obtain ⟨cost, hcost⟩ := exists_cost_of_answered hnone.answered
    rw [← countP_callCost hcost] at hk ⊢
    -- what stands at two positions stands at one
    obtain ⟨p, hp, hcheap⟩ := List.countP_pos_iff.mp (Nat.lt_of_lt_of_le Nat.zero_lt_two hk)
    have hleast : LeastCost (candidates.map fun o ↦ (o, cost o)) least :=
      ⟨⟨p, hp, eq_of_beq hcheap⟩, (noneCheaper_iff hcost).mp hnone⟩
    exact ⟨cost, hcost, cheapest_eq_ambiguous_iff.mpr ⟨rfl, hk, least, hleast, rfl⟩⟩

theorem OnlyCheapest.answered {o : Overload} (h : env.OnlyCheapest candidates args o) :
    ∀ o' ∈ candidates, ∃ answer, env.callCost? o' args = .ok answer := by
  obtain ⟨least, front, back, rfl, ho, hother⟩ := h
  intro o' ho'
  rw [List.mem_append, List.mem_cons] at ho'
  rcases ho' with hmem | rfl | hmem
  · obtain ⟨answer, hanswer, -⟩ := hother o' (List.mem_append_left _ hmem)
    exact ⟨answer, hanswer⟩
  · exact ⟨_, ho⟩
  · obtain ⟨answer, hanswer, -⟩ := hother o' (List.mem_append_right _ hmem)
    exact ⟨answer, hanswer⟩

theorem onlyCheapest_iff {cost : Overload → Option Nat} {o : Overload}
    (hcost : ∀ o ∈ candidates, env.callCost? o args = .ok (cost o)) :
    env.OnlyCheapest candidates args o ↔ CheapestAlone (candidates.map fun o ↦ (o, cost o)) o := by
  have hothers : ∀ front back, candidates = front ++ o :: back → ∀ other ∈ front ++ back,
      env.callCost? other args = .ok (cost other) := fun front back hsplit other hmem ↦
    hcost other (hsplit ▸ ((List.sublist_cons_self o back).append_left front).subset hmem)
  have hself : ∀ front back, candidates = front ++ o :: back →
      env.callCost? o args = .ok (cost o) := fun front back hsplit ↦
    hcost o (hsplit ▸ List.mem_append_right _ List.mem_cons_self)
  constructor
  · rintro ⟨least, front, back, hsplit, ho, hother⟩
    have hleast : cost o = some least :=
      Except.ok.inj ((hself front back hsplit).symm.trans ho)
    refine ⟨least, front.map fun o ↦ (o, cost o), back.map fun o ↦ (o, cost o), ?_, ?_⟩
    · rw [hsplit, List.map_append, List.map_cons, hleast]
    · rw [← List.map_append, List.forall_mem_map]
      intro other hmem
      obtain ⟨answer, hanswer, hlt⟩ := hother other hmem
      cases (hothers front back hsplit other hmem).symm.trans hanswer
      exact hlt
  · rintro ⟨least, pairs, pairs', hpairs, hother⟩
    obtain ⟨front, rest, hsplit, rfl, hrest⟩ := List.map_eq_append_iff.mp hpairs
    obtain ⟨o', back, rfl, hpair, rfl⟩ := List.map_eq_cons_iff.mp hrest
    obtain ⟨rfl, hleast⟩ := Prod.mk.inj hpair
    rw [← List.map_append, List.forall_mem_map] at hother
    refine ⟨least, front, back, hsplit, ?_, fun other hmem ↦ ⟨cost other, ?_, hother other hmem⟩⟩
    · rw [hself front back hsplit, hleast]
    · exact hothers front back hsplit other hmem

theorem chooseOverload_eq_ok_ok_iff {o : Overload} :
    env.chooseOverload name candidates args = .ok (.ok o) ↔
      env.OnlyCheapest candidates args o := by
  rw [chooseOverload_eq_ok_iff]
  constructor
  · rintro ⟨cost, hcost, h⟩
    exact (onlyCheapest_iff hcost).mpr (cheapest_eq_ok_iff.mp h)
  · intro h
    obtain ⟨cost, hcost⟩ := exists_cost_of_answered h.answered
    exact ⟨cost, hcost, cheapest_eq_ok_iff.mpr ((onlyCheapest_iff hcost).mp h)⟩

/-- What a call comes to is decided by the costs of the candidates and the number of positions that
have the least cost, and not by the order of the candidates. -/
structure RankedByCost (env : TypeEnv) (name : String) (candidates : List Overload)
    (args : List Handle) (answer : Except Fault (Except CallError Overload)) : Prop where
  answered_iff : (∃ r, answer = .ok r) ↔
    ∀ o ∈ candidates, ∃ cost, env.callCost? o args = .ok cost
  unknown_iff : ∀ n, answer = .ok (.error (.unknown n)) ↔ n = name ∧ candidates = []
  noMatch_iff : ∀ n, answer = .ok (.error (.noMatch n)) ↔
    n = name ∧ candidates ≠ [] ∧ ∀ o ∈ candidates, env.callCost? o args = .ok none
  ambiguous_iff : ∀ n k, answer = .ok (.error (.ambiguous n k)) ↔
    n = name ∧ 2 ≤ k ∧ ∃ least, env.NoneCheaper candidates args least ∧
      candidates.countP (fun o ↦ decide (env.callCost? o args = .ok (some least))) = k
  ok_iff : ∀ o, answer = .ok (.ok o) ↔ env.OnlyCheapest candidates args o
  perm : ∀ others, candidates.Perm others → ∀ r,
    env.chooseOverload name others args = .ok r ↔ answer = .ok r

/-- **A call goes to the only cheapest overload**, whatever the order in which the overloads were
registered. -/
theorem resolveCall_rankedByCost (env : TypeEnv) (name : String) (args : List Handle) :
    env.RankedByCost name (env.routines.lookup name) args (env.resolveCall name args) :=
  ⟨chooseOverload_answered_iff, fun _ ↦ chooseOverload_eq_unknown_iff,
    fun _ ↦ chooseOverload_eq_noMatch_iff, fun _ _ ↦ chooseOverload_eq_ambiguous_iff,
    fun _ ↦ chooseOverload_eq_ok_ok_iff, fun _ ↦ chooseOverload_perm⟩

end TypeEnv

end PascalTypes
