import Mathlib.Data.Finset.Lattice.Fold
import Mathlib.Data.Fintype.Card
import Mathlib.Data.Set.Finite.List
import Mathlib.Logic.Relation
import Mathlib.Order.Lattice.Nat
import Mathlib.Order.WellFounded

/-!
# Graphs of waits

`next t u` says that `t` waits for `u`.  The graph is without cycles, and every walk
in it is finite, if the converse relation is well founded.  The lemmas say which
changes of a graph keep that.
-/

namespace UsbBulk.WaitGraph

variable {α : Type} {next next' : α → α → Prop}

/-- Every walk along the waits ends. -/
def Terminating (next : α → α → Prop) : Prop :=
  WellFounded fun u t => next t u

theorem terminating_of_empty (empty : ∀ t u, ¬next t u) : Terminating next :=
  ⟨fun t => ⟨t, fun u waits => absurd waits (empty t u)⟩⟩

/-- Some waits have ended. -/
theorem Terminating.mono (ends : Terminating next)
    (fewer : ∀ t u, next' t u → next t u) : Terminating next' :=
  Subrelation.wf (fun waits => fewer _ _ waits) ends

/-- Some nodes now wait for a node that does not wait. -/
theorem Terminating.redirect (ends : Terminating next) {sink : α}
    (stops : ∀ u, ¬next' sink u)
    (redirected : ∀ t u, next' t u → next t u ∨ u = sink) :
    Terminating next' := by
  have last : Acc (fun u t => next' t u) sink :=
    ⟨sink, fun u waits => absurd waits (stops u)⟩
  refine ⟨fun t => ?_⟩
  induction ends.apply t with
  | intro t _ ih =>
      refine ⟨t, fun u waits => ?_⟩
      rcases redirected t u waits with before | rfl
      · exact ih u before
      · exact last

/-- A node now waits for another one from which no walk leads back to it. -/
theorem Terminating.insert (ends : Terminating next) {start target : α}
    (other : target ≠ start)
    (apart : ¬Relation.TransGen next target start)
    (inserted : ∀ t u, next' t u → next t u ∨ (t = start ∧ u = target)) :
    Terminating next' := by
  -- First the nodes from which no walk leads to the new wait.
  have away : ∀ t, t ≠ start → ¬Relation.TransGen next t start →
      Acc (fun u t => next' t u) t := by
    intro t
    induction ends.apply t with
    | intro t _ ih =>
        intro notStart never
        refine ⟨t, fun u waits => ?_⟩
        rcases inserted t u waits with before | ⟨isStart, -⟩
        · refine ih u before ?_ fun later => never (.head before later)
          rintro rfl
          exact never (.single before)
        · exact absurd isStart notStart
  have atTarget := away target other apart
  refine ⟨fun t => ?_⟩
  induction ends.apply t with
  | intro t _ ih =>
      refine ⟨t, fun u waits => ?_⟩
      rcases inserted t u waits with before | ⟨-, rfl⟩
      · exact ih u before
      · exact atTarget

/-! ## Walks from one node -/

variable {t u : α}

/-- Among finitely many nodes a walk ends if it reaches no cycle. -/
theorem acc_of_no_cycle {nodes : List α} (known : ∀ t u, next t u → u ∈ nodes)
    (noCycle : ∀ u, Relation.ReflTransGen next t u →
      ¬Relation.TransGen next u u) : Acc (fun u t => next t u) t := by
  let Reached := { u // u ∈ nodes ∧ Relation.ReflTransGen next t u }
  have finite : Finite Reached :=
    (nodes.finite_toSet.subset fun u member => member.1).to_subtype
  let later : Reached → Reached → Prop := fun u v =>
    Relation.TransGen next v.1 u.1
  have trans : IsTrans Reached later := ⟨fun _ _ _ first second =>
    second.trans first⟩
  have irrefl : Std.Irrefl later := ⟨fun u => noCycle u u.2.2⟩
  have ends : ∀ u : Reached, Acc (fun u t => next t u) u.1 := by
    intro u
    induction (Finite.wellFounded_of_trans_of_irrefl later).apply u with
    | intro u _ ih =>
        exact ⟨_, fun v waits => ih ⟨v, known _ _ waits, u.2.2.tail waits⟩
          (.single waits)⟩
  exact ⟨t, fun u waits => ends ⟨u, known _ _ waits, .single waits⟩⟩

/-- The nodes on the way to a cycle and in it. -/
def Toward (next : α → α → Prop) (t u v : α) : Prop :=
  Relation.ReflTransGen next t v ∧ Relation.ReflTransGen next v u

/-- From each of them the walk goes on to another one. -/
theorem Toward.goOn (cycle : Relation.TransGen next u u) {v : α}
    (toward : Toward next t u v) : ∃ w, next v w ∧ Toward next t u w := by
  obtain ⟨reached, later⟩ := toward
  rcases Relation.ReflTransGen.cases_head later with rfl | ⟨w, waits, rest⟩
  · obtain ⟨w, waits, rest⟩ := Relation.TransGen.head'_iff.mp cycle
    exact ⟨w, waits, reached.tail waits, rest⟩
  · exact ⟨w, waits, reached.tail waits, rest⟩

/-! ## Resources that are granted one after the other -/

section Order

variable {T M : Type} [DecidableEq T] [DecidableEq M]
variable {holder : M → Option T} {waits : T → Option M} {order : List M}

end Order
end UsbBulk.WaitGraph
