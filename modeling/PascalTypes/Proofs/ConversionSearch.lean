import PascalTypes.Proofs.ConversionEdges
import PascalTypes.Proofs.Folding

/-!
# The search for conversions, layer by layer

`ConversionGraph.route?` looks for a chain of implicit conversions with a queue of trails.  The
bound on the length of a chain, the set of types that were met and the order of the queue are all at
work in every turn.  This file takes them apart.

`layer` has the trails that reach the types at one distance from the start, and `spreadAll` makes
the next layer of a layer.  Neither knows a bound or a target.  While the search takes the trails of
a layer from the front of the queue, those of the next layer gather behind them.

* `follow_eq` is what the edges of one trail come to, and `searchTurn_of_le` what one turn does.
* `runLoop_layer` takes a whole layer.  Either one of its trails can be finished, and the first of
  them is the answer, or the next layer is left.
* `exists_runLoop_layer` goes from layer to layer, up to the bound, where the trails get too long
  and are dropped.

That the search ends does not depend on layers.  Each trail in the queue stands for a type that was
met, and what is met is the start or the target of a conversion (`exists_search`).  So the answer is
that of the first layer that can be finished (`search_eq`).
-/

set_option autoImplicit false

namespace PascalTypes

/-! ## Trails -/

namespace Trail

theorem names_extend (t : Trail) (next : String) : (t.extend next).names = t.names ++ [next] := by
  simp [names, extend]

theorem getLast?_names (t : Trail) : t.names.getLast? = some t.here := by
  simp [names]

end Trail

namespace ConversionGraph

variable {g : ConversionGraph} {source : String} {target : NameKey} {maxLength n k : Nat}
  {c : Conversion} {t found : Trail} {trails queue : List Trail} {met : NameSet}

theorem key_of_implicit? {key : ConversionKey} (h : g.implicit? key = some c) : c.key = key := by
  simpa using List.find?_some h

/-- The edges of a type stand for conversions from it. -/
theorem mem_implicits_of_mem_outgoing (hc : c ∈ g.outgoing source) :
    c ∈ g.implicits ∧ sameName c.source source = true := by
  obtain ⟨key, hkey, himplicit⟩ := List.mem_filterMap.mp hc
  refine ⟨List.mem_of_find?_eq_some himplicit, NameKey.of_eq_of_iff.mp ?_⟩
  rw [outgoingKeys, NameMap.get?] at hkey
  cases hfind : g.edges.find? source with
  | none => simp [hfind] at hkey
  | some e =>
    obtain ⟨he, hk⟩ := NameMap.find?_eq_some_iff.mp hfind
    rw [hfind] at hkey
    rw [← hk, ← g.rooted e he key hkey, ← key_of_implicit? himplicit]
    rfl

/-! ## Layers

Trails are extended one after the other, and what the first of them meet is closed to the rest.
`Spreads` is what is left to say when the order is forgotten. -/

/-- Extend all trails in turn. -/
def spreadAll (g : ConversionGraph) : List Trail → List NameKey → List Trail × List NameKey
  | [], met => ([], met)
  | t :: rest, met =>
    let (first, met) := spread t (g.outgoing t.here) met
    let (others, met) := g.spreadAll rest met
    (first ++ others, met)

/-- The trails of a layer, and the types that were met up to it. -/
def layer (g : ConversionGraph) (source : String) : Nat → List Trail × List NameKey
  | 0 => ([{ here := source }], [NameKey.of source])
  | n + 1 => g.spreadAll (g.layer source n).1 (g.layer source n).2

/-- One conversion makes the second trail of the first. -/
def Extends (g : ConversionGraph) (t new : Trail) : Prop :=
  ∃ c ∈ g.outgoing t.here, new = t.extend c.target

/-- Of the trails that are possible, some were taken, and the ends of all of them are met. -/
structure Spreads (possible : Trail → Prop) (met : List NameKey)
    (out : List Trail × List NameKey) : Prop where
  taken : ∀ t ∈ out.1, possible t
  covers : ∀ t, possible t → NameKey.of t.here ∈ out.2
  keeps : ∀ key ∈ met, key ∈ out.2
  no_more : ∀ key ∈ out.2, key ∈ met ∨ ∃ t ∈ out.1, NameKey.of t.here = key
  /-- There is a new trail for each type that is newly met. -/
  nodup : met.Nodup → out.2.Nodup
  length_eq : out.2.length = met.length + out.1.length

namespace Spreads

variable {possible possible' : Trail → Prop} {met : List NameKey}
  {out out' : List Trail × List NameKey}

theorem nil (met : List NameKey) : Spreads (fun _ ↦ False) met ([], met) where
  taken _ ht := absurd ht List.not_mem_nil
  covers _ h := h.elim
  keeps _ h := h
  no_more _ h := .inl h
  nodup h := h
  length_eq := rfl

/-- A trail whose end was met before. -/
theorem skip (h : NameKey.of t.here ∈ met) : Spreads (· = t) met ([], met) where
  taken _ ht := absurd ht List.not_mem_nil
  covers _ ht := ht ▸ h
  keeps _ h := h
  no_more _ h := .inl h
  nodup h := h
  length_eq := rfl

/-- A trail to a new end. -/
theorem take (h : NameKey.of t.here ∉ met) :
    Spreads (· = t) met ([t], NameKey.of t.here :: met) where
  taken _ ht := List.mem_singleton.mp ht
  covers _ ht := ht ▸ List.mem_cons_self
  keeps _ h := List.mem_cons_of_mem _ h
  no_more _ h := (List.mem_cons.mp h).symm.imp_right fun h ↦ ⟨t, List.mem_singleton_self t, h.symm⟩
  nodup hnodup := List.nodup_cons.mpr ⟨h, hnodup⟩
  length_eq := rfl

/-- First the ones, then the others. -/
theorem append (h : Spreads possible met out) (h' : Spreads possible' out.2 out') :
    Spreads (fun t ↦ possible t ∨ possible' t) met (out.1 ++ out'.1, out'.2) where
  taken t ht := (List.mem_append.mp ht).imp (h.taken t) (h'.taken t)
  covers t ht := ht.elim (fun ht ↦ h'.keeps _ (h.covers t ht)) (h'.covers t)
  keeps key hkey := h'.keeps key (h.keeps key hkey)
  no_more key hkey := by
    rcases h'.no_more key hkey with hkey | ⟨t, ht, htkey⟩
    · rcases h.no_more key hkey with hkey | ⟨t, ht, htkey⟩
      · exact .inl hkey
      · exact .inr ⟨t, List.mem_append_left _ ht, htkey⟩
    · exact .inr ⟨t, List.mem_append_right _ ht, htkey⟩
  nodup hnodup := h'.nodup (h.nodup hnodup)
  length_eq := by
    rw [h'.length_eq, h.length_eq, List.length_append, Nat.add_assoc]

theorem of_iff (h : Spreads possible met out) (hiff : ∀ t, possible t ↔ possible' t) :
    Spreads possible' met out := by
  rwa [← funext fun t ↦ propext (hiff t)]

end Spreads

/-- Extending one trail. -/
theorem spreads_spread (t : Trail) (cs : List Conversion) (met : List NameKey) :
    Spreads (fun new ↦ ∃ c ∈ cs, new = t.extend c.target) met (spread t cs met) := by
  induction cs generalizing met with
  | nil => exact (Spreads.nil met).of_iff (by simp)
  | cons c rest ih =>
    rw [spread]
    split
    · rename_i hmet
      exact ((Spreads.skip (t := t.extend c.target) hmet).append (ih met)).of_iff (by simp)
    · rename_i hmet
      exact ((Spreads.take (t := t.extend c.target) hmet).append (ih _)).of_iff (by simp)

/-- **What a layer is made of.** -/
theorem spreads_spreadAll (g : ConversionGraph) (trails : List Trail) (met : List NameKey) :
    Spreads (fun new ↦ ∃ t ∈ trails, g.Extends t new) met (g.spreadAll trails met) := by
  induction trails generalizing met with
  | nil => exact (Spreads.nil met).of_iff (by simp)
  | cons t rest ih =>
    have h := (spreads_spread t (g.outgoing t.here) met).append (ih _)
    exact h.of_iff (by simp [Extends])

theorem spreads_layer (g : ConversionGraph) (source : String) (n : Nat) :
    Spreads (fun new ↦ ∃ t ∈ (g.layer source n).1, g.Extends t new) (g.layer source n).2
      (g.layer source (n + 1)) :=
  g.spreads_spreadAll _ _

/-- What holds of the start and is kept by one conversion holds of every trail. -/
theorem layer_induction {P : Nat → Trail → Prop} (hstart : P 0 { here := source })
    (hstep : ∀ n t new, P n t → g.Extends t new → P (n + 1) new) :
    ∀ n, ∀ t ∈ (g.layer source n).1, P n t
  | 0, t, ht => by
    cases List.mem_singleton.mp ht
    exact hstart
  | n + 1, new, hnew => by
    obtain ⟨t, ht, hext⟩ := (g.spreads_layer source n).taken new hnew
    exact hstep n t new (layer_induction hstart hstep n t ht) hext

/-- A trail of layer `n` has `n` conversions. -/
theorem length_names_of_mem_layer (ht : t ∈ (g.layer source n).1) : t.names.length = n + 1 := by
  refine layer_induction (P := fun n t ↦ t.names.length = n + 1) rfl ?_ n t ht
  rintro n t _ hlen ⟨c, -, rfl⟩
  rw [Trail.names_extend, List.length_append, hlen]
  rfl

/-! ## One turn -/

/-- The trail with the first conversion from its end that leads to the target. -/
def arrival? (g : ConversionGraph) (target : NameKey) (t : Trail) : Option Trail :=
  ((g.outgoing t.here).find? fun c ↦ c.key.target = target).map fun c ↦ t.extend c.target

/-- **An edge to the target ends the search**, and if there is none, the edges are followed in
turn. -/
theorem follow_eq (g : ConversionGraph) (target : NameKey) (t : Trail) (keys : List ConversionKey)
    (state : List Trail × NameSet) :
    g.follow target t keys state =
      match (keys.filterMap g.implicit?).find? fun c ↦ c.key.target = target with
      | some c => .done (some (t.extend c.target))
      | none => .again ((keys.filterMap g.implicit?).foldl (visit t) state) := by
  induction keys generalizing state with
  | nil => rfl
  | cons key rest ih =>
    rw [follow]
    cases himplicit : g.implicit? key with
    | none => simp [himplicit, ih]
    | some c =>
      rw [List.filterMap_cons_some himplicit, List.find?_cons, key_of_implicit? himplicit]
      by_cases htarget : key.target = target
      · simp [htarget]
      · simp [htarget, ih]

/-- A trail that is not too long is finished, or it is extended to the types that were not met. -/
theorem searchTurn_of_le (g : ConversionGraph) (target : NameKey) (queue : List Trail)
    (met : NameSet) (hle : t.names.length ≤ maxLength) :
    g.searchTurn target maxLength (t :: queue, met) =
      match g.arrival? target t with
      | some found => .done (some found)
      | none => .again (queue ++ (spread t (g.outgoing t.here) met.keys).1,
        ⟨(spread t (g.outgoing t.here) met.keys).2⟩) := by
  rw [searchTurn, if_neg (Nat.not_lt.mpr hle), follow_eq, ← outgoing, arrival?, foldl_visit]
  cases (g.outgoing t.here).find? fun c ↦ c.key.target = target <;> rfl

/-- A trail that is too long is dropped. -/
theorem searchTurn_of_lt (hlt : maxLength < t.names.length) :
    g.searchTurn target maxLength (t :: queue, met) = .again (queue, met) := by
  rw [searchTurn, if_pos hlt]

/-! ## A layer -/

/-- The first of the trails that can be finished, with its last conversion. -/
def finish? (g : ConversionGraph) (target : NameKey) (trails : List Trail) : Option Trail :=
  trails.findSome? (g.arrival? target)

/-- **The search takes a layer**, which stands in the queue before what its trails have led to so
far. -/
theorem runLoop_layer (g : ConversionGraph) (target : NameKey)
    (hlen : ∀ t ∈ trails, t.names.length ≤ maxLength) (next : List Trail) (met : NameSet)
    (n : Nat) :
    runLoop (g.searchTurn target maxLength) (n + trails.length) (trails ++ next, met) =
      match g.finish? target trails with
      | some found => some (some found)
      | none => runLoop (g.searchTurn target maxLength) n
        (next ++ (g.spreadAll trails met.keys).1, ⟨(g.spreadAll trails met.keys).2⟩) := by
  induction trails generalizing next met with
  | nil => simp [finish?, spreadAll]
  | cons t rest ih =>
    obtain ⟨hle, hrest⟩ := List.forall_mem_cons.mp hlen
    have hturn := g.searchTurn_of_le target (rest ++ next) met hle
    rw [List.length_cons, ← Nat.add_assoc, List.cons_append, finish?, List.findSome?_cons]
    cases harrival : g.arrival? target t with
    | some found =>
      rw [harrival] at hturn
      rw [runLoop_of_done hturn]
    | none =>
      rw [harrival] at hturn
      rw [runLoop_of_again hturn, List.append_assoc, ih hrest, ← finish?]
      simp [spreadAll]

theorem runLoop_too_long (hlen : ∀ t ∈ trails, maxLength < t.names.length) (met : NameSet) :
    runLoop (g.searchTurn target maxLength) (trails.length + 1) (trails, met) = some none := by
  induction trails with
  | nil => rfl
  | cons t rest ih =>
    obtain ⟨hlt, hrest⟩ := List.forall_mem_cons.mp hlen
    rw [List.length_cons, runLoop_of_again (searchTurn_of_lt hlt), ih hrest]

/-- **From a layer on, the search answers with the first layer that can be finished**, as far as the
bound allows. -/
theorem exists_runLoop_layer (g : ConversionGraph) (source : String) (target : NameKey)
    (hk : k + n = maxLength) :
    ∃ turns, runLoop (g.searchTurn target maxLength) turns
        ((g.layer source n).1, ⟨(g.layer source n).2⟩) =
      some ((List.range k).findSome? fun i ↦ g.finish? target (g.layer source (n + i)).1) := by
  induction k generalizing n with
  | zero =>
    -- the layer is one too far
    refine ⟨_, runLoop_too_long (fun t ht ↦ ?_) _⟩
    have hlen := length_names_of_mem_layer ht
    omega
  | succ k ih =>
    obtain ⟨turns, hturns⟩ := ih (n := n + 1) (by omega)
    have hlen : ∀ t ∈ (g.layer source n).1, t.names.length ≤ maxLength := fun t ht ↦ by
      have hlen := length_names_of_mem_layer ht
      omega
    have hlayer := g.runLoop_layer target hlen [] ⟨(g.layer source n).2⟩ turns
    rw [List.append_nil, List.nil_append] at hlayer
    have hindex : ∀ i, n + 1 + i = n + (i + 1) := fun i ↦ by omega
    simp only [hindex] at hturns
    refine ⟨_, hlayer.trans ?_⟩
    rw [List.range_succ_eq_map, List.findSome?_cons, List.findSome?_map, Nat.add_zero]
    cases g.finish? target (g.layer source n).1 with
    | some found => rfl
    | none => exact hturns

/-! ## The search ends -/

/-- The types that were met are different, and each is the start or the target of a conversion. -/
structure Searching (g : ConversionGraph) (source : String) (state : List Trail × NameSet) :
    Prop where
  nodup : state.2.keys.Nodup
  known : state.2.keys ⊆ NameKey.of source :: g.implicits.map fun c ↦ NameKey.of c.target

namespace Searching

variable {state state' : List Trail × NameSet}

theorem length_le (h : g.Searching source state) :
    state.2.keys.length ≤ g.implicits.length + 1 := by
  simpa using h.nodup.length_le_of_subset h.known

theorem spread (h : g.Searching source (queue, met)) (t : Trail) (queue' : List Trail) :
    g.Searching source (queue', ⟨(spread t (g.outgoing t.here) met.keys).2⟩) := by
  have hspreads := spreads_spread t (g.outgoing t.here) met.keys
  refine ⟨hspreads.nodup h.nodup, fun key hkey ↦ ?_⟩
  rcases hspreads.no_more key hkey with hkey | ⟨new, hnew, rfl⟩
  · exact h.known hkey
  · obtain ⟨c, hc, rfl⟩ := hspreads.taken new hnew
    exact List.mem_cons_of_mem _ (List.mem_map_of_mem (mem_implicits_of_mem_outgoing hc).1)

/-- How many trails can still come up in the queue. -/
def rank (g : ConversionGraph) (state : List Trail × NameSet) : Nat :=
  state.1.length + (g.implicits.length + 1 - state.2.keys.length)

/-- **Every turn takes one trail**, since new trails come only with newly met types. -/
theorem again (h : g.Searching source state)
    (hturn : g.searchTurn target maxLength state = .again state') :
    g.Searching source state' ∧ rank g state' < rank g state := by
  obtain ⟨queue, met⟩ := state
  cases queue with
  | nil => cases hturn
  | cons t queue =>
    by_cases hlt : maxLength < t.names.length
    · rw [searchTurn_of_lt hlt] at hturn
      cases hturn
      exact ⟨⟨h.nodup, h.known⟩, by simp [rank]⟩
    · rw [g.searchTurn_of_le target queue met (Nat.not_lt.mp hlt)] at hturn
      cases harrival : g.arrival? target t with
      | some found =>
        rw [harrival] at hturn
        cases hturn
      | none =>
        rw [harrival] at hturn
        cases hturn
        have hspread := h.spread t
          (queue ++ (ConversionGraph.spread t (g.outgoing t.here) met.keys).1)
        have hlen := (spreads_spread t (g.outgoing t.here) met.keys).length_eq
        have hle := hspread.length_le
        refine ⟨hspread, ?_⟩
        simp only [rank, List.length_append, List.length_cons] at hle ⊢
        omega

end Searching

/-- **The search ends**, after two turns more at most than there are implicit conversions. -/
theorem exists_search (g : ConversionGraph) (source target : String) (maxLength : Nat) :
    ∃ answer, ∀ n, g.implicits.length + 2 ≤ n →
      g.search source target maxLength n = some answer := by
  have hmet : (NameSet.insert {} source).2.keys = [NameKey.of source] := rfl
  have hstart : g.Searching source ([{ here := source }], (NameSet.insert {} source).2) :=
    ⟨by simp [hmet], by simp [hmet]⟩
  have hrank : Searching.rank g ([{ here := source }], (NameSet.insert {} source).2) <
      g.implicits.length + 2 := by
    simp only [Searching.rank, hmet, List.length_singleton]
    omega
  obtain ⟨answer, hanswer⟩ := exists_runLoop _ (fun _ _ h hturn ↦ h.again hturn) hstart hrank
  exact ⟨answer, fun n hn ↦ runLoop_of_le hanswer hn⟩

/-- **The search answers with the first layer that can be finished.** -/
theorem search_eq {target : String} (hn : g.implicits.length + 2 ≤ n) :
    g.search source target maxLength n = some ((List.range maxLength).findSome? fun i ↦
      g.finish? (NameKey.of target) (g.layer source i).1) := by
  obtain ⟨answer, hanswer⟩ := g.exists_search source target maxLength
  obtain ⟨turns, hturns⟩ :=
    g.exists_runLoop_layer source (NameKey.of target) (Nat.add_zero maxLength)
  simp only [Nat.zero_add] at hturns
  rw [hanswer n hn, ← runLoop_of_le hturns (Nat.le_max_left turns n),
    ← hanswer _ (Nat.le_trans hn (Nat.le_max_right turns n))]
  rfl

end ConversionGraph

end PascalTypes
