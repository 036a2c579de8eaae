import PascalTypes.Proofs.Answers
import PascalTypes.Proofs.RoutineHistory
import PascalTypes.TypeEnv.Calls

/-!
# The overload that a call goes to

The candidates for a call are looked at once, one after the other.  What is kept on the way is the
cheapest so far and how many are as cheap, and this is right after each of them
(`Standing.Describes.offer`).  So a call goes to the one overload that is cheaper than all others,
if there is one (`cheapest_eq_ok_iff`).

Such an overload wins among fewer candidates too, as long as it is one of them.  A call by a
qualified name has fewer candidates than a call by the bare name, namely those from the unit.  So a
call by the bare name that goes to a routine of a unit goes to the same routine when it is qualified
with that unit (`resolveQualifiedCall_of_resolveCall`).

Costs are found by asking about types, and there may be no answer.  Fewer candidates ask fewer
questions, so an answer is never lost on the way (`chooseOverload_eq_ok_iff`).
-/

set_option autoImplicit false

namespace PascalTypes

/-! ## One pass over the candidates -/

section Standing

variable {α : Type} {candidates : List (α × Option Nat)} {p : α × Option Nat}

/-- The standing is right for candidates: nothing is cheaper, the best one is the first that costs
as little, and all that do are counted. -/
structure Standing.Leads (s : Standing α) (candidates : List (α × Option Nat)) : Prop where
  least : ∀ p ∈ candidates, ∀ cost, p.2 = some cost → s.cost ≤ cost
  first : candidates.find? (fun p ↦ p.2 == some s.cost) = some (s.best, some s.cost)
  counted : candidates.countP (fun p ↦ p.2 == some s.cost) = s.ties

/-- What is known after some candidates: no cost at all, or a standing that is right. -/
def Standing.Describes (candidates : List (α × Option Nat)) : Option (Standing α) → Prop
  | none => ∀ p ∈ candidates, p.2 = none
  | some s => s.Leads candidates

@[simp] theorem Standing.describes_none :
    Standing.Describes candidates none ↔ ∀ p ∈ candidates, p.2 = none :=
  Iff.rfl

@[simp] theorem Standing.describes_some {s : Standing α} :
    Standing.Describes candidates (some s) ↔ s.Leads candidates :=
  Iff.rfl

theorem Standing.Leads.mem {s : Standing α} (h : s.Leads candidates) :
    (s.best, some s.cost) ∈ candidates :=
  List.mem_of_find?_eq_some h.first

theorem Standing.Leads.ties_pos {s : Standing α} (h : s.Leads candidates) : 0 < s.ties := by
  rw [← h.counted]
  exact List.countP_pos_iff.mpr ⟨_, h.mem, beq_self_eq_true _⟩

/-- A candidate that is cheaper than all before it leads alone. -/
theorem Standing.leads_of_lt {best : α} {cost : Nat}
    (h : ∀ p ∈ candidates, ∀ other, p.2 = some other → cost < other) :
    (Standing.mk cost best 1).Leads (candidates ++ [(best, some cost)]) := by
  have hdearer : ∀ p ∈ candidates, ¬(p.2 == some cost) = true := fun p hp heq ↦
    Nat.lt_irrefl cost (h p hp cost (eq_of_beq heq))
  refine ⟨fun p hp other hother ↦ ?_, ?_, ?_⟩
  · rcases List.mem_append.mp hp with hp | hp
    · exact Nat.le_of_lt (h p hp other hother)
    · rw [List.mem_singleton.mp hp] at hother
      exact Nat.le_of_eq (Option.some.inj hother)
  · rw [List.find?_append, List.find?_eq_none.mpr hdearer]
    simp
  · rw [List.countP_append, List.countP_eq_zero.mpr hdearer]
    simp

/-- A candidate that is not cheaper leaves the lead as it is, and counts if it is as cheap. -/
theorem Standing.Leads.concat {s : Standing α} (h : s.Leads candidates)
    (hp : ∀ cost, p.2 = some cost → s.cost ≤ cost) :
    Standing.Leads { s with ties := s.ties + if p.2 == some s.cost then 1 else 0 }
      (candidates ++ [p]) := by
  refine ⟨fun q hq cost hcost ↦ ?_, ?_, ?_⟩
  · rcases List.mem_append.mp hq with hq | hq
    · exact h.least q hq cost hcost
    · rw [List.mem_singleton.mp hq] at hcost
      exact hp cost hcost
  · rw [List.find?_append, h.first, Option.some_or]
  · rw [List.countP_append, h.counted, List.countP_singleton]

/-- **One more candidate keeps the standing right**, whether it has no cost, is dearer, as cheap or
cheaper than what came before. -/
theorem Standing.Describes.offer {s? : Option (Standing α)}
    (h : Standing.Describes candidates s?) :
    Standing.Describes (candidates ++ [p]) (Standing.offer s? p) := by
  obtain ⟨a, cost?⟩ := p
  cases cost? with
  | none =>
    cases s? with
    | none =>
      intro q hq
      rcases List.mem_append.mp hq with hq | hq
      · exact h q hq
      · rw [List.mem_singleton.mp hq]
    | some s => simpa [Standing.offer] using Standing.Leads.concat h (p := (a, none)) (by simp)
  | some cost =>
    cases s? with
    | none =>
      refine Standing.leads_of_lt fun q hq other hother ↦ ?_
      rw [h q hq] at hother
      cases hother
    | some s =>
      simp only [Standing.offer]
      split
      · rename_i hlt
        have hne : cost ≠ s.cost := by omega
        simpa [hne] using Standing.Leads.concat h (p := (a, some cost)) (by simp; omega)
      · split
        · rename_i hle heq
          simpa [heq] using Standing.Leads.concat h (p := (a, some cost)) (by simp; omega)
        · -- the candidate is cheaper than the cheapest, so it is cheaper than all
          refine Standing.leads_of_lt fun q hq other hother ↦ ?_
          have hle := Standing.Leads.least h q hq other hother
          omega

/-- The standing is right after any number of candidates. -/
theorem Standing.describes_foldl {s? : Option (Standing α)} {front : List (α × Option Nat)}
    (h : Standing.Describes front s?) (rest : List (α × Option Nat)) :
    Standing.Describes (front ++ rest) (rest.foldl Standing.offer s?) := by
  induction rest generalizing front s? with
  | nil => rwa [List.append_nil]
  | cons p rest ih =>
    rw [List.foldl_cons, List.append_cons]
    exact ih h.offer

theorem Standing.describes (candidates : List (α × Option Nat)) :
    Standing.Describes candidates (candidates.foldl Standing.offer none) := by
  have hnil : Standing.Describes ([] : List (α × Option Nat)) none := by simp
  exact Standing.describes_foldl hnil candidates

end Standing

/-! ## The cheapest candidate -/

/-- One candidate has a cost, and every other one costs more or has no cost. -/
def CheapestAlone {α : Type} (candidates : List (α × Option Nat)) (best : α) : Prop :=
  ∃ cost front back, candidates = front ++ (best, some cost) :: back ∧
    ∀ p ∈ front ++ back, ∀ other, p.2 = some other → cost < other

section Cheapest

variable {α : Type} {name : String} {candidates : List (α × Option Nat)} {best : α}

theorem CheapestAlone.mem (h : CheapestAlone candidates best) :
    ∃ cost, (best, some cost) ∈ candidates := by
  obtain ⟨cost, front, back, rfl, -⟩ := h
  exact ⟨cost, List.mem_append_right _ List.mem_cons_self⟩

theorem Standing.Leads.cheapestAlone {s : Standing α} (h : s.Leads candidates)
    (hties : s.ties = 1) : CheapestAlone candidates s.best := by
  obtain ⟨-, front, back, rfl, hfront⟩ := List.find?_eq_some_iff_append.mp h.first
  have hcount := h.counted
  rw [hties, List.countP_append, List.countP_cons] at hcount
  simp only [beq_self_eq_true, if_true] at hcount
  have hback : back.countP (fun p ↦ p.2 == some s.cost) = 0 := by omega
  refine ⟨s.cost, front, back, rfl, fun q hq other hother ↦ ?_⟩
  -- `q` is not one of the cheapest, and nothing is cheaper than the cheapest
  have hne : ¬(q.2 == some s.cost) = true := by
    rcases List.mem_append.mp hq with hq | hq
    · simpa using hfront q hq
    · exact List.countP_eq_zero.mp hback q hq
  have hmem : q ∈ front ++ (s.best, some s.cost) :: back :=
    ((List.sublist_cons_self _ back).append_left front).subset hq
  refine Nat.lt_of_le_of_ne (h.least q hmem other hother) ?_
  rintro rfl
  exact hne (beq_iff_eq.mpr hother)

/-- What is cheapest alone leads with nothing beside it. -/
theorem Standing.Leads.of_cheapestAlone {s : Standing α} (h : s.Leads candidates)
    (halone : CheapestAlone candidates best) : s.best = best ∧ s.ties = 1 := by
  obtain ⟨cost, front, back, rfl, hother⟩ := halone
  have hle : s.cost ≤ cost :=
    h.least (best, some cost) (List.mem_append_right _ List.mem_cons_self) cost rfl
  have hdearer : ∀ p ∈ front ++ back, ¬(p.2 == some s.cost) = true := fun p hp heq ↦
    absurd (hother p hp s.cost (eq_of_beq heq)) (by omega)
  have hfront : ∀ p ∈ front, ¬(p.2 == some s.cost) = true := fun p hp ↦
    hdearer p (List.mem_append_left back hp)
  have hback : ∀ p ∈ back, ¬(p.2 == some s.cost) = true := fun p hp ↦
    hdearer p (List.mem_append_right front hp)
  -- the leader is among the candidates, and no other candidate costs as little
  have hbest : (s.best, some s.cost) = (best, some cost) := by
    have hmem := h.mem
    rw [List.mem_append, List.mem_cons] at hmem
    rcases hmem with hmem | heq | hmem
    · exact absurd (beq_self_eq_true _) (hfront _ hmem)
    · exact heq
    · exact absurd (beq_self_eq_true _) (hback _ hmem)
  obtain ⟨rfl, hcost⟩ := Prod.mk.inj hbest
  have hcount := h.counted
  rw [List.countP_append, List.countP_cons, List.countP_eq_zero.mpr hfront,
    List.countP_eq_zero.mpr hback, hcost, beq_self_eq_true, if_pos rfl] at hcount
  exact ⟨rfl, hcount.symm⟩

/-- What a choice can come to: there are no candidates, none has a cost, or one leads, alone or with
others beside it. -/
theorem cheapest_cases (name : String) (candidates : List (α × Option Nat)) :
    candidates = [] ∧ cheapest name candidates = .error (.unknown name) ∨
      candidates ≠ [] ∧ (∀ p ∈ candidates, p.2 = none) ∧
        cheapest name candidates = .error (.noMatch name) ∨
      ∃ s : Standing α, s.Leads candidates ∧
        (s.ties = 1 ∧ cheapest name candidates = .ok s.best ∨
          2 ≤ s.ties ∧ cheapest name candidates = .error (.ambiguous name s.ties)) := by
  by_cases hempty : candidates = []
  · exact Or.inl ⟨hempty, by simp [cheapest, hempty]⟩
  have hdescribes := Standing.describes candidates
  refine Or.inr ?_
  cases hs : candidates.foldl Standing.offer none with
  | none =>
    rw [hs] at hdescribes
    exact Or.inl ⟨hempty, hdescribes, by simp [cheapest, hempty, hs]⟩
  | some s =>
    rw [hs] at hdescribes
    have hleads := Standing.describes_some.mp hdescribes
    refine Or.inr ⟨s, hleads, ?_⟩
    by_cases hties : s.ties = 1
    · exact Or.inl ⟨hties, by simp [cheapest, hempty, hs, hties]⟩
    · have hpos := hleads.ties_pos
      exact Or.inr ⟨by omega, by simp [cheapest, hempty, hs, hties]⟩

theorem cheapestAlone_of_cheapest (h : cheapest name candidates = .ok best) :
    CheapestAlone candidates best := by
  rcases cheapest_cases name candidates with
    ⟨-, heq⟩ | ⟨-, -, heq⟩ | ⟨s, hs, ⟨hties, heq⟩ | ⟨-, heq⟩⟩
  · cases heq.symm.trans h
  · cases heq.symm.trans h
  · cases heq.symm.trans h
    exact hs.cheapestAlone hties
  · cases heq.symm.trans h

theorem cheapest_of_cheapestAlone (h : CheapestAlone candidates best) :
    cheapest name candidates = .ok best := by
  obtain ⟨cost, hmem⟩ := h.mem
  rcases cheapest_cases name candidates with
    ⟨hempty, -⟩ | ⟨-, hnone, -⟩ | ⟨s, hs, ⟨-, heq⟩ | ⟨hties, -⟩⟩
  · exact absurd hempty (List.ne_nil_of_mem hmem)
  · exact absurd (hnone _ hmem) (by simp)
  · rw [heq, (hs.of_cheapestAlone h).1]
  · have hone := (hs.of_cheapestAlone h).2
    omega

/-- **The choice falls on the candidate that is cheaper than all others.** -/
theorem cheapest_eq_ok_iff :
    cheapest name candidates = .ok best ↔ CheapestAlone candidates best :=
  ⟨cheapestAlone_of_cheapest, cheapest_of_cheapestAlone⟩

/-- What is cheapest alone stays so among fewer candidates. -/
theorem CheapestAlone.filter (h : CheapestAlone candidates best) (keep : α × Option Nat → Bool)
    (hkeep : ∀ cost, keep (best, cost) = true) : CheapestAlone (candidates.filter keep) best := by
  obtain ⟨cost, front, back, rfl, hother⟩ := h
  refine ⟨cost, front.filter keep, back.filter keep, ?_, fun p hp ↦ ?_⟩
  · rw [List.filter_append, List.filter_cons_of_pos (hkeep _)]
  · rw [← List.filter_append] at hp
    exact hother p (List.mem_filter.mp hp).1

end Cheapest

/-! ## Calls -/

namespace TypeEnv

variable {env : TypeEnv} {name : String} {candidates : List Overload} {args : List Handle}

/-- Answers for each candidate make a function of the candidate. -/
theorem exists_cost_of_answered
    (h : ∀ o ∈ candidates, ∃ answer, env.callCost? o args = .ok answer) :
    ∃ cost : Overload → Option Nat, ∀ o ∈ candidates, env.callCost? o args = .ok (cost o) := by
  refine ⟨fun o ↦ (env.callCost? o args).toOption.join, fun o ho ↦ ?_⟩
  obtain ⟨answer, hanswer⟩ := h o ho
  simp only [hanswer]
  rfl

/-- There is a choice exactly if each candidate has its cost, and then the costs decide. -/
theorem chooseOverload_eq_ok_iff {r : Except CallError Overload} :
    env.chooseOverload name candidates args = .ok r ↔
      ∃ cost : Overload → Option Nat,
        (∀ o ∈ candidates, env.callCost? o args = .ok (cost o)) ∧
          cheapest name (candidates.map fun o ↦ (o, cost o)) = r := by
  have hzip : ∀ cost : Overload → Option Nat,
      candidates.zip (candidates.map cost) = candidates.map fun o ↦ (o, cost o) := fun cost ↦ by
    rw [List.zip_map_right, List.zip_eq_zipWith, List.zipWith_self, List.map_map]
    rfl
  constructor
  · intro h
    obtain ⟨costs, hcosts, hr⟩ := bind_eq_ok.mp h
    obtain ⟨cost, hcost⟩ := exists_cost_of_answered (exists_of_mapM_eq_ok hcosts)
    cases hcosts.symm.trans (mapM_eq_ok cost hcost)
    refine ⟨cost, hcost, ?_⟩
    rw [← hzip]
    exact Except.ok.inj hr
  · rintro ⟨cost, hcost, rfl⟩
    rw [chooseOverload, mapM_eq_ok cost hcost, ← hzip]
    rfl

/-- The choice falls on one of the candidates. -/
theorem mem_of_chooseOverload {o : Overload}
    (h : env.chooseOverload name candidates args = .ok (.ok o)) : o ∈ candidates := by
  obtain ⟨cost, -, hbest⟩ := chooseOverload_eq_ok_iff.mp h
  obtain ⟨k, hk⟩ := (cheapest_eq_ok_iff.mp hbest).mem
  obtain ⟨o', ho', hpair⟩ := List.mem_map.mp hk
  obtain ⟨rfl, -⟩ := Prod.mk.inj hpair
  exact ho'

/-- The choice stays the same among fewer candidates, as long as it is one of them. -/
theorem chooseOverload_filter {o : Overload} {keep : Overload → Bool}
    (h : env.chooseOverload name candidates args = .ok (.ok o)) (hkeep : keep o = true) :
    env.chooseOverload name (candidates.filter keep) args = .ok (.ok o) := by
  obtain ⟨cost, hcost, hbest⟩ := chooseOverload_eq_ok_iff.mp h
  refine chooseOverload_eq_ok_iff.mpr ⟨cost, fun o' ho' ↦ hcost o' (List.mem_filter.mp ho').1, ?_⟩
  have hfewer := (cheapest_eq_ok_iff.mp hbest).filter (fun p ↦ keep p.1) fun _ ↦ hkeep
  rw [List.filter_map] at hfewer
  exact cheapest_eq_ok_iff.mpr hfewer

/-- **A call by the bare name that goes to a routine of a unit goes there under the qualified name
too.** -/
theorem resolveQualifiedCall_of_resolveCall (env : TypeEnv) (changes : List RoutineChange)
    (hroutines : env.routines = RoutineTable.run changes)
    (hplain : ∀ c ∈ changes, c.isPlain = true) (name : String) (hname : isSimple name = true)
    (args : List Handle) (o : Overload) (unit : String)
    (h : env.resolveCall name args = .ok (.ok o)) (hunit : o.unit = some unit) :
    env.resolveQualifiedCall unit name args = .ok (.ok o) := by
  have hmem := mem_of_chooseOverload h
  rw [hroutines] at hmem
  have hascii := RoutineTable.isAscii_unit_of_mem_lookup hplain hmem hunit
  have hcandidates := (RoutineTable.paired_run hplain).filtered unit name hascii hname
  have hfrom : o.isFrom unit = true := by
    rw [Overload.isFrom, hunit, Option.any_some, sameName_refl]
  rw [resolveQualifiedCall, hroutines, hcandidates, ← hroutines]
  exact chooseOverload_filter h hfrom

/-- A unit and the program itself have routines of one name.  The one for integers is in the unit,
where an earlier one has been removed. -/
def absolutes : List RoutineChange :=
  [.registerInUnit "a.Math" "Abs" { name := "Abs", params := [⟨"x", .string, .byValue, false⟩] },
    .remove "ABS",
    .register "abs" { name := "abs", params := [⟨"x", .float, .byValue, false⟩] },
    .registerInUnit "A.math" "abs"
      { name := "abs", params := [⟨"x", .integer, .byValue, false⟩] }]

theorem resolveQualifiedCall_absolutes :
    (∀ c ∈ absolutes, c.isPlain = true) ∧ isSimple "Abs" = true ∧
      (∃ env : TypeEnv, env.routines = RoutineTable.run absolutes ∧ ∃ o,
        env.resolveCall "Abs" [.integer] = .ok (.ok o) ∧ o.unit = some "A.math" ∧
        env.resolveQualifiedCall "A.math" "Abs" [.integer] = .ok (.ok o)) := by
  have hplain : ∀ c ∈ absolutes, c.isPlain = true := by decide
  have hname : isSimple "Abs" = true := by decide
  let env : TypeEnv :=
    { TypeEnv.new { withBuiltins := false } with routines := RoutineTable.run absolutes }
  obtain ⟨o, ho, hunit⟩ : ∃ o, env.resolveCall "Abs" [.integer] = .ok (.ok o) ∧
    o.unit = some "A.math" := ⟨_, rfl, rfl⟩
  refine ⟨hplain, hname, env, rfl, o, ho, hunit, ?_⟩
  exact resolveQualifiedCall_of_resolveCall env absolutes rfl hplain "Abs" hname _ o _ ho hunit

end TypeEnv

end PascalTypes
