import Tagging.Order

/-!
# Traces

Changes that are made one after the other, each of which tells something and leaves a state. A state
may be kept in one way and thought of in another: where each single change tells the same and leaves
the same in both, so does every trace of changes. And where any two changes tell the same and leave
the same whichever comes first, the order of a trace does not matter.
-/

namespace Tagging

section

variable {Edit Answer State View : Type}

/-- What changes tell that are made one after the other, and the state that they leave. -/
def trace (make : Edit → State → Answer × State) (state : State) :
    List Edit → List Answer × State
  | [] => ([], state)
  | edit :: edits =>
    let made := make edit state
    let rest := trace make made.2 edits
    (made.1 :: rest.1, rest.2)

/-- A change tells the same and leaves the same in a state as in the view of it, and keeps the
invariant on which this rests. -/
structure Commutes (view : State → View) (invariant : State → Prop)
    (make : Edit → State → Answer × State) (model : Edit → View → Answer × View) (edit : Edit)
    (state : State) : Prop where
  answer : (make edit state).1 = (model edit (view state)).1
  view : view (make edit state).2 = (model edit (view state)).2
  kept : invariant (make edit state).2

/-- If every single change does so, every trace of changes tells the same and leaves the same in a
state as in the view of it. -/
theorem trace_view {view : State → View} {invariant : State → Prop}
    {make : Edit → State → Answer × State} {model : Edit → View → Answer × View}
    (commutes : ∀ edit state, invariant state → Commutes view invariant make model edit state)
    {state : State} (start : invariant state) (edits : List Edit) :
    (trace make state edits).1 = (trace model (view state) edits).1 ∧
      view (trace make state edits).2 = (trace model (view state) edits).2 ∧
      invariant (trace make state edits).2 := by
  induction edits generalizing state with
  | nil => exact ⟨rfl, rfl, start⟩
  | cons edit edits ih =>
    have square := commutes edit state start
    obtain ⟨answers, last, kept⟩ := ih square.kept
    rw [square.view] at answers last
    simp only [trace]
    exact ⟨by rw [square.answer, answers], last, kept⟩

/-! ### Order -/

/-- Two changes tell the same and leave the same whichever of them comes first. -/
structure Independent (make : Edit → State → Answer × State) (one other : Edit) : Prop where
  first : ∀ state, (make one (make other state).2).1 = (make one state).1
  second : ∀ state, (make other (make one state).2).1 = (make other state).1
  left : ∀ state, (make one (make other state).2).2 = (make other (make one state).2).2

/-- Independence is mutual. -/
theorem Independent.symm {make : Edit → State → Answer × State} {one other : Edit}
    (independent : Independent make one other) : Independent make other one :=
  ⟨independent.second, independent.first, fun state ↦ (independent.left state).symm⟩

/-- Independent changes tell the same and leave the same in any order. -/
theorem trace_perm {make : Edit → State → Answer × State} {edits others : List Edit}
    (reordered : edits.Perm others) (independent : edits.Pairwise (Independent make))
    (state : State) :
    (trace make state edits).1.Perm (trace make state others).1 ∧
      (trace make state edits).2 = (trace make state others).2 := by
  induction reordered generalizing state with
  | nil => exact ⟨.refl _, rfl⟩
  | cons edit _ ih =>
    obtain ⟨answers, left⟩ := ih independent.of_cons (make edit state).2
    exact ⟨answers.cons _, left⟩
  | swap one other rest =>
    have apart := List.rel_of_pairwise_cons independent List.mem_cons_self
    simp only [trace, apart.first, apart.second, apart.left]
    exact ⟨.swap .., trivial⟩
  | trans first _ ih ih' =>
    obtain ⟨answers, left⟩ := ih independent state
    obtain ⟨answers', left'⟩ := ih' (first.pairwise independent .symm) state
    exact ⟨answers.trans answers', left.trans left'⟩

/-- Changes that are made from what is asked for leave a trace of what is asked for. -/
theorem trace_map {Asked : Type} (make : Asked → State → Answer × State) (ask : Edit → Asked)
    (state : State) (edits : List Edit) :
    trace (fun edit ↦ make (ask edit)) state edits = trace make state (edits.map ask) := by
  induction edits generalizing state with
  | nil => rfl
  | cons edit edits ih => simp only [trace, List.map_cons, ih]

end

end Tagging
