import ModPack.Cause
import Mathlib.Data.List.Chain

/-!
# How far a chain of causes goes

There is at most one error behind an error: the one it names as its cause or, when it names none,
the one that was being handled when it arose, unless that is suppressed. So everything that can be
followed from an error lies on one line, which either ends or comes back to an error that it passed,
be that the first one or a later one. The chain goes along this line as far as it can without
passing an error twice. Main statements: `next?_eq_some`, `isPrefix_follow` and `chain_exact`.
-/
namespace ModPack.Cause

variable {graph : List Node} {seen numbers : List Nat} {number other : Nat} {current : Option Nat}

/-! ## One step -/

/-- The error that stands behind another one. -/
inductive Behind (graph : List Node) (number other : Nat) : Prop
  | named {node : Node} (held : graph[number]? = some node) (cause : node.cause = some other)
  | handled {node : Node} (held : graph[number]? = some node) (unnamed : node.cause = none)
      (shown : node.suppress = false) (context : node.context = some other)

theorem Node.next_eq_some {node : Node} : node.next = some other ↔
    node.cause = some other ∨
      node.cause = none ∧ node.suppress = false ∧ node.context = some other := by
  cases hcause : node.cause with
  | some named => simp [next, hcause]
  | none => cases hsuppress : node.suppress <;> simp [next, hcause, hsuppress]

theorem next?_eq_some : next? graph number = some other ↔ Behind graph number other := by
  constructor
  · intro h
    obtain ⟨node, held, hnext⟩ := Option.bind_eq_some_iff.1 h
    rcases Node.next_eq_some.1 hnext with cause | ⟨unnamed, shown, context⟩
    · exact .named held cause
    · exact .handled held unnamed shown context
  · intro h
    apply Option.bind_eq_some_iff.2
    cases h with
    | named held cause => exact ⟨_, held, Node.next_eq_some.2 (.inl cause)⟩
    | handled held unnamed shown context =>
      exact ⟨_, held, Node.next_eq_some.2 (.inr ⟨unnamed, shown, context⟩)⟩

theorem next?_eq_none : next? graph number = none ↔ ∀ other, ¬ Behind graph number other := by
  simp only [← next?_eq_some, Option.eq_none_iff_forall_ne_some]

/-- Only an error of the graph has one behind it. -/
theorem Behind.lt (h : Behind graph number other) : number < graph.length := by
  cases h with
  | named held => exact (List.getElem?_eq_some_iff.1 held).1
  | handled held => exact (List.getElem?_eq_some_iff.1 held).1

/-! ## The walk

The walk is told from the error that it comes from: `current` is what is behind `number`. Its cases
are those of `follow`: nothing is behind `number`, an error that was seen is, or a new one. -/

/-- Each error on the walk is behind the one before it. -/
theorem isChain_follow (hcurrent : next? graph number = current) :
    (number :: follow graph seen current).IsChain (Behind graph) := by
  fun_induction follow graph seen current generalizing number with
  | case1 => exact List.isChain_singleton number
  | case2 => exact List.isChain_singleton number
  | case3 seen next _ ih => exact List.IsChain.cons_cons (next?_eq_some.1 hcurrent) (ih rfl)

/-- What is behind the last error was passed already. -/
theorem mem_of_behind_getLast (hcurrent : next? graph number = current)
    (h : Behind graph ((number :: follow graph seen current).getLast (List.cons_ne_nil _ _))
      other) :
    other ∈ seen ∨ other ∈ follow graph seen current := by
  fun_induction follow graph seen current generalizing number with
  | case1 => exact absurd h (next?_eq_none.1 hcurrent other)
  | case2 seen next hseen =>
    rw [← next?_eq_some] at h
    have hother : next = other := Option.some.inj (hcurrent.symm.trans h)
    exact .inl (hother ▸ hseen)
  | case3 seen next _ ih =>
    rw [List.getLast_cons_cons] at h
    rcases ih rfl h with hseen | hlater
    · rcases List.mem_cons.1 hseen with rfl | hseen
      · exact .inr List.mem_cons_self
      · exact .inl hseen
    · exact .inr (List.mem_cons_of_mem next hlater)

/-- Nobody gets further without passing an error twice: there is one way to go. -/
theorem isPrefix_follow (hcurrent : next? graph number = current)
    (hchain : (number :: numbers).IsChain (Behind graph)) (hnodup : numbers.Nodup)
    (hfresh : ∀ passed ∈ numbers, passed ∉ seen) : numbers <+: follow graph seen current := by
  fun_induction follow graph seen current generalizing number numbers with
  | case1 =>
    cases hchain with
    | singleton => exact List.nil_prefix
    | cons_cons hbehind _ => exact absurd hbehind (next?_eq_none.1 hcurrent _)
  | case2 seen next hseen =>
    cases hchain with
    | singleton => exact List.nil_prefix
    | cons_cons hbehind _ =>
      have hnext := Option.some.inj (hcurrent.symm.trans (next?_eq_some.2 hbehind))
      exact absurd (hnext ▸ hseen) (hfresh _ List.mem_cons_self)
  | case3 seen next hseen ih =>
    cases hchain with
    | singleton => exact List.nil_prefix
    | @cons_cons _ first rest hbehind hrest =>
      have hnext : next = first := Option.some.inj (hcurrent.symm.trans (next?_eq_some.2 hbehind))
      subst hnext
      obtain ⟨hfirst, hnodup⟩ := List.nodup_cons.1 hnodup
      refine List.cons_prefix_cons.2 ⟨rfl, ih rfl hrest hnodup ?_⟩
      intro passed hpassed hmem
      rcases List.mem_cons.1 hmem with rfl | hmem
      · exact hfirst hpassed
      · exact hfresh passed (List.mem_cons_of_mem _ hpassed) hmem

/-- Each step but the last one uses up an error of the graph that was not seen. -/
theorem length_follow_le (graph : List Node) (seen : List Nat) (current : Option Nat) :
    (follow graph seen current).length ≤ unseen graph seen + 1 := by
  fun_induction follow graph seen current with
  | case1 => simp
  | case2 => simp
  | case3 seen number hseen ih =>
    rw [List.length_cons]
    by_cases hlt : number < graph.length
    · have hused := unseen_cons_lt hlt hseen
      omega
    · have hend : next? graph number = none := next?_eq_none.2 fun _ h => hlt h.lt
      rw [hend, follow]
      simp

/-! ## The chain of an error -/

theorem length_chain_le (graph : List Node) (start : Nat) :
    (chain graph start).length ≤ graph.length := by
  have hsteps := length_follow_le graph [start] (next? graph start)
  by_cases hlt : start < graph.length
  · have hused : unseen graph [start] < unseen graph [] := unseen_cons_lt hlt List.not_mem_nil
    have hall : unseen graph [] = graph.length := by
      rw [unseen, List.filter_eq_self.2 (by simp), List.length_range]
    rw [chain]
    omega
  · have hend : next? graph start = none := next?_eq_none.2 fun _ h => hlt h.lt
    rw [chain, hend, follow]
    simp

/-- The chain of an error in any graph, be it with circles: it passes no error twice and comes back
to no error, each one in it is behind the one before it, and it stops only where nothing is behind
or what is behind was passed. Any other such line is the beginning of it, and it is found in no more
steps than there are errors. -/
theorem chain_exact (graph : List Node) (start : Nat) :
    start ∉ chain graph start ∧ (chain graph start).Nodup ∧
    (start :: chain graph start).IsChain (Behind graph) ∧
    (∀ other, Behind graph ((start :: chain graph start).getLast (List.cons_ne_nil _ _)) other →
      other ∈ start :: chain graph start) ∧
    (∀ numbers, (start :: numbers).Nodup → (start :: numbers).IsChain (Behind graph) →
      numbers <+: chain graph start) ∧
    (chain graph start).length ≤ graph.length := by
  obtain ⟨hnodup, hfresh⟩ := nodup_follow graph [start] (next? graph start)
  have hstart : start ∉ chain graph start := fun h => hfresh start h List.mem_cons_self
  refine ⟨hstart, hnodup, isChain_follow rfl, fun other h => ?_, fun numbers hnumbers hchain => ?_,
    length_chain_le graph start⟩
  · rcases mem_of_behind_getLast rfl h with hseen | hlater
    · rw [List.mem_singleton.1 hseen]
      exact List.mem_cons_self
    · exact List.mem_cons_of_mem start hlater
  · obtain ⟨hfirst, hrest⟩ := List.nodup_cons.1 hnumbers
    refine isPrefix_follow rfl hchain hrest fun passed hpassed hseen => ?_
    exact hfirst (List.mem_singleton.1 hseen ▸ hpassed)

/-- A circle that the error in front of it is not on; the last error suppresses what it has. -/
def circle : List Node :=
  [{ cause := some 1, suppress := true }, { context := some 2 },
    { cause := some 1, context := some 0 }, { context := some 1, suppress := true }]

/-- The chain goes round once, and a shorter line is the beginning of it. -/
theorem chain_exact_circle :
    chain circle 0 = [1, 2] ∧ Behind circle 2 1 ∧ 1 ∈ 0 :: chain circle 0 ∧
      [0, 1].IsChain (Behind circle) ∧ [1] <+: chain circle 0 := by
  obtain ⟨-, -, -, hends, hprefix, -⟩ := chain_exact circle 0
  have hchain : chain circle 0 = [1, 2] := by
    simp [chain, follow, next?, Node.next, circle]
  have hback : Behind circle 2 1 := .named rfl rfl
  have hline : [0, 1].IsChain (Behind circle) := .cons_cons (.named rfl rfl) (.singleton 1)
  have hlast : Behind circle ((0 :: chain circle 0).getLast (List.cons_ne_nil _ _)) 1 := by
    simpa [hchain] using hback
  exact ⟨hchain, hback, hends 1 hlast, hline, hprefix [1] (by decide) hline⟩

end ModPack.Cause
