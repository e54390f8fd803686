import Mathlib.Data.List.Chain

/-!
# Depth-first search for a cycle

A search over a finite graph that marks the nodes of its current path and reports the
first one it meets again. It reads a clock between its steps and gives up when its
time is over; asking for successors may fail. If every member of a non-empty set of
nodes has a successor in the set, an undisturbed search reports a cycle, and what it
reports is one (`findFirstCycle_spec`).
-/

namespace CycleSearch

open List Function

variable {ν ε : Type}

inductive VisitState where
  | visiting
  | visited
deriving DecidableEq

inductive Outcome (ν : Type) where
  | noCycle
  | cycleFound (participants : List ν)
  | timedOut
  /-- The fuel of the definition ran out; see `findFirstCycle_outcome`. -/
  | exhausted

/-- The variables of the search. The path is listed from its first node on, and `reads`
counts the looks at the clock. -/
structure Search (ν : Type) where
  states : ν → Option VisitState
  stack : List ν
  reads : Nat

namespace Search

def empty : Search ν := ⟨fun _ => none, [], 0⟩

def tick (s : Search ν) : Search ν := { s with reads := s.reads + 1 }

variable [DecidableEq ν]

section

variable (s : Search ν)

def enter (x : ν) : Search ν :=
  { s with states := update s.states x (some .visiting), stack := s.stack ++ [x] }

def leave (x : ν) : Search ν :=
  { s with states := update s.states x (some .visited), stack := s.stack.dropLast }

theorem enter_states_self (x : ν) : (s.enter x).states x = some .visiting :=
  update_self ..

theorem enter_states_of_ne {x y : ν} (h : y ≠ x) : (s.enter x).states y = s.states y :=
  update_of_ne h ..

theorem leave_states_self (x : ν) : (s.leave x).states x = some .visited :=
  update_self ..

theorem leave_states_of_ne {x y : ν} (h : y ≠ x) : (s.leave x).states y = s.states y :=
  update_of_ne h ..

end

end Search

open Search

section Definitions

variable [DecidableEq ν] (succ : ν → Except ε (List ν)) (expired : Nat → Bool)

def visitAll (descend : ν → Search ν → Except ε (Outcome ν) × Search ν) :
    List ν → Search ν → Except ε (Outcome ν) × Search ν
  | [], s => (.ok .noCycle, s)
  | y :: ys, s =>
    if expired s.reads then (.ok .timedOut, s.tick)
    else
      match s.states y with
      | some .visiting =>
        match s.stack.findIdx? (· = y) with
        | some start => (.ok (.cycleFound (s.stack.drop start)), s.tick)
        | none => visitAll descend ys s.tick
      | some .visited => visitAll descend ys s.tick
      | none =>
        match descend y s.tick with
        | (.ok .noCycle, t) => visitAll descend ys t
        | stopped => stopped

def dfs : Nat → ν → Search ν → Except ε (Outcome ν) × Search ν
  | 0, _, s => (.ok .exhausted, s)
  | fuel + 1, x, s =>
    if expired s.reads then (.ok .timedOut, s.tick)
    else
      match succ x with
      | .error e => (.error e, s.tick.enter x)
      | .ok ys =>
        match visitAll expired (dfs fuel) ys (s.tick.enter x) with
        | (.ok .noCycle, t) => (.ok .noCycle, t.leave x)
        | stopped => stopped

def searchFrom (fuel : Nat) : List ν → Search ν → Except ε (Outcome ν) × Search ν
  | [], s => (.ok .noCycle, s)
  | x :: xs, s =>
    if expired s.reads then (.ok .timedOut, s.tick)
    else if (s.states x).isSome then searchFrom fuel xs s.tick
    else
      match dfs succ expired fuel x s.tick with
      | (.ok .noCycle, t) => searchFrom fuel xs t
      | stopped => stopped

/-- The outcome, and the number of looks at the clock it took. -/
def findFirstCycle (nodes : List ν) : Except ε (Outcome ν) × Nat :=
  let result := searchFrom succ expired nodes.length nodes .empty
  (result.1, result.2.reads)

end Definitions

/-! ## What a search finds -/

def Edge (succ : ν → Except ε (List ν)) (x y : ν) : Prop := ∃ ys, succ x = .ok ys ∧ y ∈ ys

/-- A finite graph without loops at a node, in which every member of `S` has a successor
in `S`. -/
structure Trap (succ : ν → Except ε (List ν)) (nodes : List ν) (S : ν → Prop) : Prop where
  total : ∀ x ∈ nodes, ∃ ys, succ x = .ok ys ∧ x ∉ ys ∧ ∀ y ∈ ys, y ∈ nodes
  inside : ∀ x, S x → x ∈ nodes
  closed : ∀ x, S x → ∃ y, Edge succ x y ∧ S y

/-- Each node is related to the next one, and the last one to the first. -/
structure Ring (R : ν → ν → Prop) (xs : List ν) : Prop where
  next : xs.IsChain R
  back : ∀ x ∈ xs.getLast?, ∀ y ∈ xs.head?, R x y

theorem Ring.imp {R R' : ν → ν → Prop} {xs : List ν} (h : Ring R xs)
    (himp : ∀ x y, R x y → R' x y) : Ring R' xs :=
  ⟨h.next.imp himp, fun x hx y hy => himp x y (h.back x hx y hy)⟩

theorem Ring.closed {R : ν → ν → Prop} {xs : List ν} (h : Ring R xs) :
    ∀ x ∈ xs, ∃ y ∈ xs, R x y := by
  intro x hx
  have hne : xs ≠ [] := ne_nil_of_mem hx
  obtain ⟨i, hi, rfl⟩ := getElem_of_mem hx
  by_cases hnext : i + 1 < xs.length
  · exact ⟨_, getElem_mem hnext, h.next.getElem i hnext⟩
  · obtain rfl : i = xs.length - 1 := by omega
    refine ⟨xs.head hne, head_mem hne, h.back _ ?_ _ (head?_eq_some_head hne)⟩
    rw [← getLast_eq_getElem hne]
    exact getLast?_eq_some_getLast hne

structure Tangle (succ : ν → Except ε (List ν)) (nodes participants : List ν) : Prop where
  known : ∀ y ∈ participants, y ∈ nodes
  two : 2 ≤ participants.length
  ring : Ring (Edge succ) participants

section Spec

variable {succ : ν → Except ε (List ν)} {expired : Nat → Bool} {nodes : List ν} {S : ν → Prop}

structure Good (succ : ν → Except ε (List ν)) (nodes : List ν) (S : ν → Prop) (s : Search ν) :
    Prop where
  path : ∀ y, s.states y = some .visiting → y ∈ s.stack
  unfinished : ∀ y, S y → s.states y ≠ some .visited
  known : ∀ y ∈ s.stack, y ∈ nodes
  chain : s.stack.IsChain (Edge succ)

/-- A node that may be put at the end of the path. -/
def Extends (succ : ν → Except ε (List ν)) (s : Search ν) (x : ν) : Prop :=
  ∀ z ∈ s.stack.getLast?, Edge succ z x

def unreached (nodes : List ν) (s : Search ν) : Nat :=
  nodes.countP fun y => (s.states y).isNone

variable {s : Search ν} {x : ν} {ys before : List ν}

theorem Good.tick (h : Good succ nodes S s) : Good succ nodes S s.tick :=
  ⟨h.path, h.unfinished, h.known, h.chain⟩

variable [DecidableEq ν]

theorem Good.enter (h : Good succ nodes S s) (hx : x ∈ nodes) (hnext : Extends succ s x) :
    Good succ nodes S (s.enter x) := by
  constructor
  · intro y hy
    by_cases hyx : y = x
    · simp [Search.enter, hyx]
    · rw [enter_states_of_ne s hyx] at hy
      exact mem_append_left _ (h.path y hy)
  · intro y hS
    by_cases hyx : y = x
    · rw [hyx, enter_states_self]
      simp
    · rw [enter_states_of_ne s hyx]
      exact h.unfinished y hS
  · exact forall_mem_append.mpr ⟨h.known, forall_mem_singleton.mpr hx⟩
  · apply h.chain.append (isChain_singleton x)
    intro z hz y hy
    cases hy
    exact hnext z hz

variable {t : Search ν}

theorem Good.leave (h : Good succ nodes S t) (hstack : t.stack = s.stack ++ [x]) (hx : ¬ S x) :
    Good succ nodes S (t.leave x) ∧ (t.leave x).stack = s.stack := by
  have hpop : (t.leave x).stack = s.stack := by
    rw [Search.leave, hstack, dropLast_concat]
  refine ⟨⟨?_, ?_, ?_, h.chain.dropLast⟩, hpop⟩
  · intro y hy
    rw [hpop]
    by_cases hyx : y = x
    · rw [hyx, leave_states_self] at hy
      cases hy
    · rw [leave_states_of_ne t hyx] at hy
      have hmem := h.path y hy
      rw [hstack, mem_append, mem_singleton] at hmem
      exact hmem.resolve_right hyx
  · intro y hS
    have hyx : y ≠ x := by
      rintro rfl
      exact hx hS
    rw [leave_states_of_ne t hyx]
    exact h.unfinished y hS
  · intro y hy
    rw [hpop] at hy
    apply h.known y
    rw [hstack]
    exact mem_append_left _ hy

theorem unreached_enter_lt (hx : x ∈ nodes) (hnew : s.states x = none) :
    unreached nodes (s.enter x) < unreached nodes s := by
  have hle : ∀ l : List ν, unreached l (s.enter x) ≤ unreached l s := by
    intro l
    apply countP_mono_left
    intro y _ hy
    by_cases hyx : y = x
    · rw [hyx, enter_states_self] at hy
      cases hy
    · rwa [enter_states_of_ne s hyx] at hy
  obtain ⟨before, after, rfl⟩ := append_of_mem hx
  have hbefore := hle before
  have hafter := hle after
  unfold unreached at hbefore hafter ⊢
  simp only [countP_append, countP_cons, enter_states_self, hnew,
    Option.isNone_some, Option.isNone_none, if_true, Bool.false_eq_true, if_false]
  omega

theorem unreached_leave_le (nodes : List ν) (t : Search ν) (x : ν) :
    unreached nodes (t.leave x) ≤ unreached nodes t := by
  apply countP_mono_left
  intro y _ hy
  by_cases hyx : y = x
  · rw [hyx, leave_states_self] at hy
    cases hy
  · rwa [leave_states_of_ne t hyx] at hy

/-- How a part of the search that started in `s` may end: it passes, with everything as
it was on the path and the nodes in `handled` outside of `S`; it reports a cycle; or its
time is over. It does not run out of fuel. -/
inductive Ends (succ : ν → Except ε (List ν)) (expired : Nat → Bool) (nodes : List ν)
    (S : ν → Prop) (s : Search ν) (handled : List ν) : Except ε (Outcome ν) × Search ν → Prop
  | passed {t : Search ν} (good : Good succ nodes S t) (stack : t.stack = s.stack)
      (unreached : unreached nodes t ≤ unreached nodes s) (outside : ∀ y ∈ handled, ¬ S y) :
      Ends succ expired nodes S s handled (.ok .noCycle, t)
  | found {t : Search ν} {participants : List ν} (tangle : Tangle succ nodes participants) :
      Ends succ expired nodes S s handled (.ok (.cycleFound participants), t)
  | late {t : Search ν} {n : Nat} (reached : expired n = true) :
      Ends succ expired nodes S s handled (.ok .timedOut, t)

omit [DecidableEq ν] in
theorem Ends.cons {y : ν} {result : Except ε (Outcome ν) × Search ν}
    (h : Ends succ expired nodes S t ys result) (hstack : t.stack = s.stack)
    (hle : CycleSearch.unreached nodes t ≤ CycleSearch.unreached nodes s) (hy : ¬ S y) :
    Ends succ expired nodes S s (y :: ys) result := by
  cases h with
  | passed good stack unreached outside =>
    refine .passed good (stack.trans hstack) (Nat.le_trans unreached hle) ?_
    rw [forall_mem_cons]
    exact ⟨hy, outside⟩
  | found tangle => exact .found tangle
  | late reached => exact .late reached

theorem Good.tangle (hgood : Good succ nodes S s) {y : ν} (hstack : s.stack = before ++ [x])
    (hedge : Edge succ x y) (hne : y ≠ x) {start : Nat}
    (hindex : s.stack.findIdx? (· = y) = some start) : Tangle succ nodes (s.stack.drop start) := by
  obtain ⟨hlt, hat, -⟩ := List.findIdx?_eq_some_iff_getElem.mp hindex
  have hat' : s.stack[start] = y := by simpa using hat
  have hlength : s.stack.length = before.length + 1 := by simp [hstack]
  have hnotLast : start ≠ before.length := by
    rintro rfl
    apply hne
    rw [← hat']
    simp [hstack]
  have hdrop : s.stack.drop start = before.drop start ++ [x] := by
    rw [hstack, drop_append_of_le_length (by omega)]
  have hhead : s.stack.drop start = y :: s.stack.drop (start + 1) := by
    rw [drop_eq_getElem_cons hlt, hat']
  refine ⟨fun z hz => hgood.known z (mem_of_mem_drop hz), ?_, hgood.chain.drop start, ?_⟩
  · rw [length_drop]
    omega
  · intro z hz w hw
    obtain rfl : x = z := by simpa [hdrop] using hz
    obtain rfl : y = w := by simpa [hhead] using hw
    exact hedge

section

variable (expired : Nat → Bool)

theorem visitAll_ends {fuel : Nat} {descend : ν → Search ν → Except ε (Outcome ν) × Search ν}
    (hdescend : ∀ y t, y ∈ nodes → t.states y = none → Good succ nodes S t → Extends succ t y →
      unreached nodes t ≤ fuel → Ends succ expired nodes S t [y] (descend y t))
    (hys : ∀ y ∈ ys, y ∈ nodes) (hself : x ∉ ys) (hedge : ∀ y ∈ ys, Edge succ x y)
    (hstack : s.stack = before ++ [x]) (hgood : Good succ nodes S s)
    (hfuel : unreached nodes s ≤ fuel) :
    Ends succ expired nodes S s ys (visitAll expired descend ys s) := by
  induction ys generalizing s with
  | nil => exact .passed hgood rfl (Nat.le_refl _) (by simp)
  | cons y ys ih =>
    rw [forall_mem_cons] at hys hedge
    rw [mem_cons, not_or] at hself
    rw [visitAll]
    by_cases hlate : expired s.reads = true
    · rw [if_pos hlate]
      exact .late hlate
    rw [if_neg hlate]
    cases hstate : s.states y with
    | none =>
      dsimp only
      have hnext : Extends succ s.tick y := by
        intro z hz
        have hzx : z = x := by simpa [tick, hstack] using hz.symm
        rw [hzx]
        exact hedge.1
      have hsub := hdescend y s.tick hys.1 hstate hgood.tick hnext hfuel
      rcases hcall : descend y s.tick with ⟨result, t⟩
      rw [hcall] at hsub
      cases hsub with
      | passed good stack hle outside =>
        have hrest := ih hys.2 hself.2 hedge.2 (stack.trans hstack) good (Nat.le_trans hle hfuel)
        exact hrest.cons stack hle (outside y mem_cons_self)
      | found tangle => exact .found tangle
      | late hlate => exact .late hlate
    | some state =>
      cases state with
      | visited =>
        have hrest := ih (s := s.tick) hys.2 hself.2 hedge.2 hstack hgood.tick hfuel
        exact hrest.cons rfl (Nat.le_refl _) fun hS => hgood.unfinished y hS hstate
      | visiting =>
        dsimp only
        cases hindex : s.stack.findIdx? (· = y) with
        | none =>
          rw [List.findIdx?_eq_none_iff] at hindex
          exact absurd (hindex y (hgood.path y hstate)) (by simp)
        | some start =>
          exact .found (hgood.tangle hstack hedge.1 (Ne.symm hself.1) hindex)

theorem dfs_ends (htrap : Trap succ nodes S) (fuel : Nat) (hx : x ∈ nodes)
    (hnew : s.states x = none) (hgood : Good succ nodes S s) (hnext : Extends succ s x)
    (hfuel : unreached nodes s ≤ fuel) :
    Ends succ expired nodes S s [x] (dfs succ expired fuel x s) := by
  induction fuel generalizing x s with
  | zero =>
    have hpos := unreached_enter_lt hx hnew
    omega
  | succ fuel ih =>
    obtain ⟨ys, hsucc, hself, hys⟩ := htrap.total x hx
    have hedge : ∀ y ∈ ys, Edge succ x y := fun y hy => ⟨ys, hsucc, hy⟩
    have hlt : unreached nodes (s.tick.enter x) < unreached nodes s :=
      unreached_enter_lt (s := s.tick) hx hnew
    have hloop := visitAll_ends expired
      (fun y t hy hty ht hn hle => ih hy hty ht hn hle) hys hself hedge (s := s.tick.enter x) rfl (hgood.tick.enter hx hnext) (by omega)
    rw [dfs]
    by_cases hlate : expired s.reads = true
    · rw [if_pos hlate]
      exact .late hlate
    rw [if_neg hlate, hsucc]
    dsimp only
    rcases hcall : visitAll expired (dfs succ expired fuel) ys (s.tick.enter x) with ⟨result, t⟩
    rw [hcall] at hloop
    cases hloop with
    | found tangle => exact .found tangle
    | late hlate => exact .late hlate
    | passed good stack hle outside =>
      have hout : ¬ S x := by
        intro hS
        obtain ⟨y, ⟨ys', hsucc', hy⟩, hSy⟩ := htrap.closed x hS
        rw [hsucc] at hsucc'
        cases hsucc'
        exact outside y hy hSy
      obtain ⟨hgood', hstack'⟩ := good.leave (s := s) stack hout
      refine .passed hgood' hstack' ?_ (by simpa using hout)
      have hleave := unreached_leave_le nodes t x
      omega

theorem searchFrom_ends (htrap : Trap succ nodes S) {xs : List ν} (hxs : ∀ x ∈ xs, x ∈ nodes)
    (hstack : s.stack = []) (hgood : Good succ nodes S s) :
    Ends succ expired nodes S s xs (searchFrom succ expired nodes.length xs s) := by
  induction xs generalizing s with
  | nil => exact .passed hgood rfl (Nat.le_refl _) (by simp)
  | cons x xs ih =>
    rw [forall_mem_cons] at hxs
    rw [searchFrom]
    by_cases hlate : expired s.reads = true
    · rw [if_pos hlate]
      exact .late hlate
    rw [if_neg hlate]
    cases hstate : s.states x with
    | some state =>
      rw [Option.isSome_some, if_pos rfl]
      -- with an empty path a node that was reached is done
      have hout : ¬ S x := by
        intro hS
        cases state with
        | visited => exact hgood.unfinished x hS hstate
        | visiting =>
          have hmem := hgood.path x hstate
          rw [hstack] at hmem
          cases hmem
      exact (ih hxs.2 (s := s.tick) hstack hgood.tick).cons rfl (Nat.le_refl _) hout
    | none =>
      rw [Option.isSome_none, if_neg Bool.false_ne_true]
      have hnext : Extends succ s.tick x := by
        intro z hz
        simp [tick, hstack] at hz
      have hsub := dfs_ends expired htrap nodes.length hxs.1 (s := s.tick) hstate
        hgood.tick hnext countP_le_length
      rcases hcall : dfs succ expired nodes.length x s.tick with ⟨result, t⟩
      rw [hcall] at hsub
      cases hsub with
      | found tangle => exact .found tangle
      | late hlate => exact .late hlate
      | passed good stack hle outside =>
        exact (ih hxs.2 (stack.trans hstack) good).cons stack hle (outside x mem_cons_self)

theorem searchFrom_empty_ends (htrap : Trap succ nodes S) :
    Ends succ expired nodes S .empty nodes (searchFrom succ expired nodes.length nodes .empty) := by
  have hempty : Good succ nodes S (.empty : Search ν) :=
    ⟨by simp [empty], by simp [empty], by simp [empty], .nil⟩
  exact searchFrom_ends expired htrap (fun x hx => hx) rfl hempty

end

theorem findFirstCycle_spec (htrap : Trap succ nodes S) (hbudget : ∀ n, expired n = false) :
    (∃ participants, (findFirstCycle succ expired nodes).1 = .ok (.cycleFound participants) ∧
        Tangle succ nodes participants) ∨
      (findFirstCycle succ expired nodes).1 = .ok .noCycle ∧ ∀ x, ¬ S x := by
  have hends := searchFrom_empty_ends expired htrap
  unfold findFirstCycle
  rcases hcall : searchFrom succ expired nodes.length nodes .empty with ⟨result, t⟩
  rw [hcall] at hends
  cases hends with
  | passed good stack hle outside =>
    exact .inr ⟨rfl, fun x hS => outside x (htrap.inside x hS) hS⟩
  | found tangle => exact .inl ⟨_, rfl, tangle⟩
  | late hlate =>
    rw [hbudget] at hlate
    cases hlate

/-- The search of a closed graph does not run out of fuel, and a cycle it reports is one. -/
theorem findFirstCycle_outcome {outcome : Outcome ν}
    (htotal : ∀ x ∈ nodes, ∃ ys, succ x = .ok ys ∧ x ∉ ys ∧ ∀ y ∈ ys, y ∈ nodes)
    (h : (findFirstCycle succ expired nodes).1 = .ok outcome) : outcome ≠ .exhausted ∧
      ∀ participants, outcome = .cycleFound participants → Tangle succ nodes participants := by
  have htrap : Trap succ nodes fun _ => False := ⟨htotal, by simp, by simp⟩
  have hends := searchFrom_empty_ends expired htrap
  unfold findFirstCycle at h
  rcases hcall : searchFrom succ expired nodes.length nodes .empty with ⟨result, t⟩
  rw [hcall] at hends h
  cases hends with
  | found tangle =>
    cases h
    refine ⟨by simp, fun participants hfound => ?_⟩
    cases hfound
    exact tangle
  | passed | late =>
    cases h
    simp

end Spec

end CycleSearch
