/-!
# Chains of causes

Errors can name a cause, and keep the error that was being handled when they arose unless that is
suppressed. Following them from an error gives its chain of causes; the errors may refer to each
other in a circle, so the chain stops before it would repeat. Main statement: no error is twice in a
chain, and none of those to be left out is in it.
-/
namespace ModPack.Cause

/-- What an error refers to, by number. -/
structure Node where
  cause : Option Nat := none
  context : Option Nat := none
  suppress : Bool := false
  deriving DecidableEq, Repr

/-- The error behind another one: its cause, else what was being handled when it arose. -/
def Node.next (node : Node) : Option Nat :=
  node.cause.or (if node.suppress then none else node.context)

def next? (graph : List Node) (number : Nat) : Option Nat :=
  graph[number]?.bind Node.next

/-- How many errors are not among those seen. -/
def unseen (graph : List Node) (seen : List Nat) : Nat :=
  ((List.range graph.length).filter (· ∉ seen)).length

theorem unseen_cons_lt {graph : List Node} {seen : List Nat} {number : Nat}
    (hlt : number < graph.length) (hseen : number ∉ seen) :
    unseen graph (number :: seen) < unseen graph seen := by
  have hsplit : (List.range graph.length).filter (· ∉ number :: seen) =
      ((List.range graph.length).filter (· ∉ seen)).filter (· ≠ number) := by
    rw [List.filter_filter]
    congr 1
    funext other
    simp [List.mem_cons, not_or]
  rw [unseen, unseen, hsplit]
  exact List.length_filter_lt_length_iff_exists.2 ⟨number, by simp [hlt, hseen], by simp⟩

theorem unseen_cons_le (graph : List Node) (seen : List Nat) (number : Nat) :
    unseen graph (number :: seen) ≤ unseen graph seen := by
  simp only [unseen, ← List.countP_eq_length_filter]
  exact List.countP_mono_left fun other _ h => by simp_all

/-- The errors from `current` on, up to one that was seen. -/
def follow (graph : List Node) (seen : List Nat) (current : Option Nat) : List Nat :=
  match current with
  | none => []
  | some number =>
    if number ∈ seen then [] else number :: follow graph (number :: seen) (next? graph number)
termination_by (unseen graph seen, current.isSome.toNat)
decreasing_by
  by_cases hlt : number < graph.length
  · exact Prod.Lex.left _ _ (unseen_cons_lt hlt ‹_›)
  · have hnext : next? graph number = none := by simp [next?, Nat.not_lt.1 hlt]
    rw [hnext]
    rcases Nat.lt_or_eq_of_le (unseen_cons_le graph seen number) with h | h
    · exact Prod.Lex.left _ _ h
    · rw [h]
      exact Prod.Lex.right _ (by simp)

/-- The causes below an error, nearest first. -/
def chain (graph : List Node) (start : Nat) : List Nat :=
  follow graph [start] (next? graph start)

theorem nodup_follow (graph : List Node) (seen : List Nat) (current : Option Nat) :
    (follow graph seen current).Nodup ∧ ∀ number ∈ follow graph seen current, number ∉ seen := by
  fun_induction follow graph seen current with
  | case1 => simp
  | case2 => simp
  | case3 seen number hseen ih =>
    obtain ⟨hnodup, hfresh⟩ := ih
    refine ⟨List.nodup_cons.2 ⟨fun h => hfresh number h List.mem_cons_self, hnodup⟩, ?_⟩
    intro other hother
    rcases List.mem_cons.1 hother with rfl | hother
    · exact hseen
    · exact fun h => hfresh other hother (List.mem_cons_of_mem _ h)

end ModPack.Cause
