import Mathlib.Logic.Function.Basic
import Mathlib.Order.Bounds.Basic
import Mathlib.Order.MinMax

/-!
# Priority inheritance

Tasks hold resources and wait for resources.  A smaller number is a higher
priority.  A task inherits exactly if its priority is the highest among its own one
and those of the tasks that wait for what it holds.
-/

namespace UsbBulk

/-- Who holds what, who waits for what, and at which priorities. -/
@[ext]
structure Inheritance (T M P : Type) where
  base : T → P
  prio : T → P
  holder : M → Option T
  waits : T → Option M

namespace Inheritance

section Owed

variable {T M P : Type} {s : Inheritance T M P} {u c : T} {m : M}

/-- The second task waits for a resource of the first one. -/
def Behind (s : Inheritance T M P) (t u : T) : Prop :=
  ∃ m, s.waits u = some m ∧ s.holder m = some t

/-- The priorities that a task is entitled to. -/
def owed (s : Inheritance T M P) (t : T) : Set P :=
  {p | p = s.base t ∨ ∃ u, s.Behind t u ∧ p = s.prio u}

/-- What it is entitled to without one of its resources. -/
def owedBeside (s : Inheritance T M P) (m : M) (t : T) : Set P :=
  {p | p = s.base t ∨ ∃ u n, n ≠ m ∧ s.waits u = some n ∧
    s.holder n = some t ∧ p = s.prio u}

/-- A task that waits holds nothing. -/
def Apart (s : Inheritance T M P) : Prop :=
  ∀ u, s.waits u ≠ none → ∀ m, s.holder m ≠ some u

theorem ne_of_waits (waits : s.waits u = some m) (awake : s.waits c = none) :
    u ≠ c := by
  rintro rfl
  cases awake.symm.trans waits

end Owed

section Exact

variable {T M P : Type} [LinearOrder P] {s s' : Inheritance T M P} {t : T}

def Exact (s : Inheritance T M P) (t : T) : Prop :=
  IsLeast (s.owed t) (s.prio t)

/-- Nothing changes that the priority of the task depends on. -/
theorem Exact.congr (exact : s.Exact t) (base : s'.base t = s.base t)
    (prio : s'.prio t = s.prio t) (behind : ∀ u, s'.Behind t u ↔ s.Behind t u)
    (prios : ∀ u, s.Behind t u → s'.prio u = s.prio u) : s'.Exact t := by
  have same : s'.owed t = s.owed t := by
    ext p
    refine or_congr (by rw [base]) (exists_congr fun u => ?_)
    rw [behind]
    exact and_congr_right fun waits => by rw [prios u waits]
  rw [Exact, same, prio]
  exact exact

/-- A task that holds nothing is at its own priority. -/
theorem exact_of_nothing (own : s.prio t = s.base t)
    (nothing : ∀ m, s.holder m ≠ some t) : s.Exact t := by
  refine ⟨.inl own, ?_⟩
  rintro p (rfl | ⟨u, ⟨m, -, held⟩, -⟩)
  · exact own.le
  · exact absurd held (nothing m)

/-- Nobody waits for a task that holds nothing. -/
theorem Exact.prio_eq (exact : s.Exact t) (nothing : ∀ m, s.holder m ≠ some t) :
    s.prio t = s.base t := by
  rcases exact.1 with own | ⟨u, ⟨m, -, held⟩, -⟩
  · exact own
  · exact absurd held (nothing m)

end Exact

/-! ## A task starts to wait -/

section Block

variable {T M P : Type} [LinearOrder P] [DecidableEq T]
variable {s : Inheritance T M P} {t u c : T} {m : M}

/-- A task starts to wait, and the holder inherits its priority. -/
def block (s : Inheritance T M P) (c : T) (m : M) (t : T) :
    Inheritance T M P :=
  { s with
    waits := Function.update s.waits c (some m)
    prio := Function.update s.prio t (min (s.prio t) (s.prio c)) }

/-- The holder, which does not wait itself, inherits exactly, and nobody else is
concerned. -/
theorem Exact.block (exact : s.Exact t) (other : u ≠ c)
    (held : s.holder m = some u) (awake : s.waits c = none)
    (ready : s.waits u = none) : (s.block c m u).Exact t := by
  have before : ∀ v, v ≠ c → (s.block c m u).waits v = s.waits v :=
    fun v different => Function.update_of_ne different _ _
  have prios : ∀ v, v ≠ u → (s.block c m u).prio v = s.prio v :=
    fun v different => Function.update_of_ne different _ _
  have started : (s.block c m u).waits c = some m := Function.update_self ..
  have behind : ∀ v, v ≠ c →
      ((s.block c m u).Behind t v ↔ s.Behind t v) := by
    intro v different
    refine exists_congr fun n => ?_
    rw [before v different]
    rfl
  have old : ∀ v, s.Behind t v → v ≠ c ∧ v ≠ u := fun v ⟨n, waits, _⟩ =>
    ⟨ne_of_waits waits awake, ne_of_waits waits ready⟩
  by_cases same : t = u
  · subst same
    have raised : (s.block c m t).prio t = min (s.prio t) (s.prio c) :=
      Function.update_self ..
    rw [Exact, raised]
    constructor
    · rcases min_choice (s.prio t) (s.prio c) with own | theirs
      · rw [own]
        refine exact.1.imp id fun ⟨v, waits, equal⟩ =>
          ⟨v, (behind v (old v waits).1).mpr waits, ?_⟩
        rw [equal, prios v (old v waits).2]
      · rw [theirs]
        exact .inr ⟨c, ⟨m, started, held⟩, (prios c other.symm).symm⟩
    · rintro p (own | ⟨v, waits, equal⟩)
      · exact (min_le_left _ _).trans (exact.2 (.inl own))
      · by_cases isNew : v = c
        · rw [equal, isNew, prios c other.symm]
          exact min_le_right _ _
        · have waits := (behind v isNew).mp waits
          rw [equal, prios v (old v waits).2]
          exact (min_le_left _ _).trans (exact.2 (.inr ⟨v, waits, rfl⟩))
  · refine exact.congr rfl (prios t same) (fun v => ?_)
      fun v waits => prios v (old v waits).2
    by_cases isNew : v = c
    · subst isNew
      refine iff_of_false ?_ fun waits => (old v waits).1 rfl
      rintro ⟨n, waits, heldBy⟩
      cases started.symm.trans waits
      exact same (Option.some.inj (heldBy.symm.trans held))
    · exact behind v isNew

theorem Apart.block (apart : s.Apart) (nothing : ∀ n, s.holder n ≠ some c) :
    (s.block c m u).Apart := by
  intro v waits n
  by_cases isNew : v = c
  · rw [isNew]
    exact nothing n
  · exact apart v (by simpa [Inheritance.block, isNew] using waits) n

end Block

/-! ## A resource changes hands -/

section Take

variable {T M P : Type} [DecidableEq M] {s : Inheritance T M P} {t c : T}
variable {m n : M}

/-- A task gets a resource that is free. -/
def take (s : Inheritance T M P) (t : T) (m : M) : Inheritance T M P :=
  { s with holder := Function.update s.holder m (some t) }

/-- Who holds the other resources. -/
theorem held_update {holder : M → Option T} {new : Option T}
    (different : n ≠ m) :
    Function.update holder m new n = some t ↔ holder n = some t :=
  Eq.congr_left (Function.update_of_ne different _ _)

theorem Exact.take [LinearOrder P] (exact : s.Exact t)
    (nobody : ∀ u, s.waits u ≠ some m) : (s.take c m).Exact t := by
  refine exact.congr rfl rfl (fun u => exists_congr fun n =>
    and_congr_right fun waits => held_update ?_) fun _ _ => rfl
  rintro rfl
  exact nobody u waits

theorem Apart.take (apart : s.Apart) (awake : s.waits c = none) :
    (s.take c m).Apart := by
  intro u waits n held
  by_cases isHere : n = m
  · subst isHere
    have isNew : c = u := by simpa [Inheritance.take] using held
    exact waits (isNew ▸ awake)
  · exact apart u waits n ((held_update isHere).mp held)

end Take

section Release

variable {T M P : Type} [DecidableEq T] [DecidableEq M]
variable {s : Inheritance T M P} {t c w : T} {m : M} {q : P}

/-- A task gives up a resource that nobody waits for, and gets a priority. -/
def release (s : Inheritance T M P) (c : T) (m : M) (q : P) :
    Inheritance T M P :=
  { s with
    holder := Function.update s.holder m none
    prio := Function.update s.prio c q }

/-- It is entitled to what it was entitled to beside the resource. -/
theorem release_owed (awake : s.waits c = none) (q : P) :
    (s.release c m q).owed c = s.owedBeside m c := by
  ext p
  refine or_congr Iff.rfl (exists_congr fun u => ?_)
  have asleep : ∀ {n}, s.waits u = some n →
      (s.release c m q).prio u = s.prio u := fun waits =>
    Function.update_of_ne (ne_of_waits waits awake) _ _
  constructor
  · rintro ⟨⟨n, waits, held⟩, equal⟩
    have different : n ≠ m := by
      rintro rfl
      simp [release] at held
    exact ⟨n, different, waits, (held_update different).mp held,
      equal.trans (asleep waits)⟩
  · rintro ⟨n, different, waits, held, equal⟩
    exact ⟨⟨n, waits, (held_update different).mpr held⟩,
      equal.trans (asleep waits).symm⟩

theorem Exact.release [LinearOrder P] (exact : s.Exact t)
    (held : s.holder m = some c) (awake : s.waits c = none)
    (least : IsLeast (s.owedBeside m c) q) : (s.release c m q).Exact t := by
  by_cases same : t = c
  · subst same
    have lowered : (s.release t m q).prio t = q := Function.update_self ..
    rw [Exact, release_owed awake, lowered]
    exact least
  · refine exact.congr rfl (Function.update_of_ne same _ _) (fun u =>
      exists_congr fun n => and_congr_right fun _ => ?_) fun u ⟨n, waits, _⟩ =>
        Function.update_of_ne (ne_of_waits waits awake) _ _
    by_cases isHere : n = m
    · subst isHere
      simp [Inheritance.release, held, Ne.symm same]
    · exact held_update isHere

theorem Apart.release (apart : s.Apart) : (s.release c m q).Apart := by
  intro u waits n held
  by_cases isHere : n = m
  · subst isHere
    simp [Inheritance.release] at held
  · exact apart u waits n ((held_update isHere).mp held)

/-- A task gives up a resource to one that waits for it, and gets a priority. -/
def pass (s : Inheritance T M P) (c : T) (m : M) (w : T) (q : P) :
    Inheritance T M P :=
  { s with
    holder := Function.update s.holder m (some w)
    waits := Function.update s.waits w none
    prio := Function.update s.prio c q }

/-- The new holder waits no more. -/
theorem pass_waits {u : T} {n : M} : (s.pass c m w q).waits u = some n ↔
    u ≠ w ∧ s.waits u = some n := by
  by_cases same : u = w
  · subst same
    simp [pass]
  · simp [pass, same]

theorem Apart.pass (apart : s.Apart) : (s.pass c m w q).Apart := by
  intro u waits n held
  obtain ⟨o, waits⟩ := Option.ne_none_iff_exists'.mp waits
  obtain ⟨other, waits⟩ := pass_waits.mp waits
  by_cases isHere : n = m
  · subst isHere
    have isNew : w = u := by simpa [Inheritance.pass] using held
    exact other isNew.symm
  · exact apart u (by simp [waits]) n ((held_update isHere).mp held)

section Pass

variable (waited : s.waits w = some m) (awake : s.waits c = none)

include awake in
/-- The priority of a task that waits is what it was. -/
theorem pass_prio {u : T} {n : M} (waits : s.waits u = some n) :
    (s.pass c m w q).prio u = s.prio u :=
  Function.update_of_ne (ne_of_waits waits awake) _ _

include waited awake

/-- Who waits for a resource of the old holder has waited for one beside this. -/
theorem pass_owed : (s.pass c m w q).owed c = s.owedBeside m c := by
  ext p
  refine or_congr Iff.rfl (exists_congr fun u => ?_)
  constructor
  · rintro ⟨⟨n, waits, held⟩, equal⟩
    have waits := (pass_waits.mp waits).2
    have different : n ≠ m := by
      rintro rfl
      have isNew : w = c := by simpa [pass] using held
      exact ne_of_waits waited awake isNew
    exact ⟨n, different, waits, (held_update different).mp held,
      equal.trans (pass_prio awake waits)⟩
  · rintro ⟨n, different, waits, held, equal⟩
    have other : u ≠ w := by
      rintro rfl
      exact different (Option.some.inj (waits.symm.trans waited))
    exact ⟨⟨n, pass_waits.mpr ⟨other, waits⟩, (held_update different).mpr held⟩,
      equal.trans (pass_prio awake waits).symm⟩

variable [LinearOrder P]

/-- The old holder inherits exactly if it gets what it is entitled to. -/
theorem pass_exact_old :
    (s.pass c m w q).Exact c ↔ IsLeast (s.owedBeside m c) q := by
  have lowered : (s.pass c m w q).prio c = q := Function.update_self ..
  rw [Exact, pass_owed waited awake, lowered]

/-- A task that is neither the old nor the new holder is not concerned. -/
theorem Exact.pass (exact : s.Exact t) (held : s.holder m = some c)
    (old : t ≠ c) (new : t ≠ w) : (s.pass c m w q).Exact t := by
  refine exact.congr rfl (Function.update_of_ne old _ _) (fun u => ?_)
    fun u ⟨n, waits, _⟩ => pass_prio awake waits
  constructor
  · rintro ⟨n, waits, heldBy⟩
    have different : n ≠ m := by
      rintro rfl
      have isNew : w = t := by simpa [Inheritance.pass] using heldBy
      exact new isNew.symm
    exact ⟨n, (pass_waits.mp waits).2, (held_update different).mp heldBy⟩
  · rintro ⟨n, waits, heldBy⟩
    have different : n ≠ m := by
      rintro rfl
      exact old (Option.some.inj (heldBy.symm.trans held))
    have other : u ≠ w := by
      rintro rfl
      exact different (Option.some.inj (waits.symm.trans waited))
    exact ⟨n, pass_waits.mpr ⟨other, waits⟩, (held_update different).mpr heldBy⟩

/-- The new holder inherits exactly if and only if it has the highest priority of
those that wait for the resource. -/
theorem pass_exact_new (exact : s.Exact w)
    (nothing : ∀ n, s.holder n ≠ some w) :
    (s.pass c m w q).Exact w ↔
      ∀ u, s.waits u = some m → s.prio w ≤ s.prio u := by
  have own := exact.prio_eq nothing
  have prio : (s.pass c m w q).prio w = s.prio w := pass_prio awake waited
  have behind : ∀ u, (s.pass c m w q).Behind w u ↔
      u ≠ w ∧ s.waits u = some m := by
    refine fun u => ⟨?_, fun waits =>
      ⟨m, pass_waits.mpr waits, Function.update_self ..⟩⟩
    rintro ⟨n, waits, heldBy⟩
    have isHere : n = m := by
      by_contra different
      exact nothing n ((held_update different).mp heldBy)
    rw [← isHere]
    exact pass_waits.mp waits
  rw [Exact, prio]
  constructor
  · rintro ⟨-, lower⟩ u waits
    by_cases same : u = w
    · rw [same]
    · exact lower (.inr ⟨u, (behind u).mpr ⟨same, waits⟩,
        (pass_prio awake waits).symm⟩)
  · intro highest
    refine ⟨.inl own, ?_⟩
    rintro p (rfl | ⟨u, waits, rfl⟩)
    · exact own.le
    · have waits := ((behind u).mp waits).2
      rw [pass_prio awake waits]
      exact highest u waits

end Pass

end Release

end Inheritance

end UsbBulk
