import UsbBulk.PriorityInheritance
import UsbBulk.Kernel.LockPair
import UsbBulk.Kernel.MutexRun

/-!
# Exact priorities

Whether the current priority of every task is the highest among its base priority
and those of the tasks that wait for a mutex it holds.  A new holder keeps the
priority that it has waited with, and the old one gets a priority from the mutex
that it has just given up.
-/

namespace UsbBulk

/-- The mutexes and priorities, without the lists they are kept in. -/
def Kernel.inheritance (k : Kernel) : Inheritance TaskId MutexId Nat where
  base t := (k.tcb t).basePriority
  prio t := (k.tcb t).priority
  holder m := if k.isMutex m = true then (k.mutex m).holder else none
  waits t := (k.tcb t).mutexWait.map Prod.fst

section Searches

variable {rule : Rule} {dropped : Set MutexId} {k k' : Kernel} {lists : Lists}
variable {locks : Locks} {m : MutexId} {t u w : TaskId} {p fuel : Nat}

theorem Kernel.inheritance_waits {k : Kernel} : k.inheritance.waits t = some m ↔
    ∃ reason, (k.tcb t).mutexWait = some (m, reason) := by
  simp [Kernel.inheritance]

theorem Kernel.inheritance_holder {k : Kernel} (isMutex : k.isMutex m = true) :
    k.inheritance.holder m = (k.mutex m).holder :=
  if_pos isMutex

theorem Guarded.mem_waiters (guarded : Guarded rule dropped k lists locks) :
    t ∈ lists.task (.wait (.mutex m)) ↔ k.inheritance.waits t = some m := by
  rw [guarded.kept.consistent.mem_mutex, Kernel.inheritance_waits]

/-- What `find_max_blocked_priority` finds whenever it comes to its end. -/
theorem Guarded.findMaxBlockedPriority_highest
    (guarded : Guarded rule dropped k lists locks)
    (isMutex : k.isMutex m = true) :
    Ends (findMaxBlockedPriority fuel k m p)
      (· = k.highest p (lists.task (.wait (.mutex m)))) := by
  intro q run
  have more := findMaxBlockedPriority_more run
    (lists.task (.wait (.mutex m))).length
  rw [findMaxBlockedPriority_eq guarded.kept.consistent.scheduled.represents
    (guarded.kept.consistent.live (.mutex m) isMutex)
    (guarded.owns.kind m isMutex).symm (Nat.le_add_left _ _)] at more
  exact (Option.some.inj more).symm

/-- The first part of `do_unlock_mutex` gives the running task the highest priority
among its base priority and those of the tasks that wait for it. -/
theorem Guarded.unlockPriority_tcb
    (guarded : Guarded rule dropped k lists locks)
    (indifferent : rule.Indifferent)
    (running : (k.tcb k.tnCurrRunTask).taskState = .runnable)
    (kind : (k.mutex m).attr = tnMutexAttrInherit ∨
      (k.mutex m).attr = tnMutexAttrCeiling) :
    Ends (unlockPriority fuel k m) fun (k', _) =>
      k'.tcb = Function.update k.tcb k.tnCurrRunTask
        { k.tcb k.tnCurrRunTask with
          priority := k.highest (k.tcb k.tnCurrRunTask).basePriority
            (lists.behind locks k.tnCurrRunTask) } := by
  have isTask := isTask_iff.mpr guarded.kept.curr
  have empty := guarded.owns.mutexLinks.isQueueEmpty_iff isTask
  have first := guarded.owns.mutexLinks.next_head isTask
  have small := ((k.highest_isLeast (k.tcb k.tnCurrRunTask).basePriority
    (lists.behind locks k.tnCurrRunTask)).2 (.inl rfl)).trans_lt
      (guarded.kept.consistent.tasks.valid _ guarded.kept.curr).basePriority
  have sets := fun fuel => @setCurrentPriority_sets rule k lists
    k.tnCurrRunTask _ fuel guarded.kept indifferent isTask
    (fun waiting => by simp [running, TaskState.isWait] at waiting) small
  refine ends_ite (fun nobody => ?_) fun _ => ends_ite (fun _ => ?_)
    fun other => absurd kind other
  · rw [Lists.behind, empty.mp nobody] at sets ⊢
    exact sets fuel
  · intro after run
    obtain ⟨q, search, run⟩ := Option.bind_eq_some_iff.mp run
    cases owned : locks.owned k.tnCurrRunTask with
    | nil => simp_all
    | cons n rest =>
        rw [owned] at first
        rw [show k.mutexLinks.next (.head k.tnCurrRunTask) = .entry n from
          first] at search
        have more := maxHeldPriority_more search
          ((locks.owned k.tnCurrRunTask).length +
            (lists.behind locks k.tnCurrRunTask).length)
        rw [guarded.maxHeldPriority_highest owned (Nat.le_add_left _ _)] at more
        cases more
        split at run
        · exact sets fuel _ run
        · next same =>
            cases run
            refine (Function.update_eq_self_iff.mpr ?_).symm
            rw [not_not.mp same]

end Searches

/-! ## Unlock -/

/-- The priority of the task that has held a mutex when the mutex is given to `w`,
and `rest` go on waiting: a priority that equals that of `w` counts as inherited
through this mutex. -/
def Kernel.restoredPriority (k : Kernel) (t w : TaskId) (rest : List TaskId) :
    Nat :=
  if (k.tcb t).priority ≠ (k.tcb t).basePriority ∧
      (k.tcb t).priority = (k.tcb w).priority then
    k.highest (k.tcb t).basePriority rest
  else (k.tcb t).priority

/-- What the second part of `do_unlock_mutex` does to the mutex and to the control
blocks. -/
inductive Given (m : MutexId) (k k' : Kernel) (lists : Lists) : Prop where
  | freed (nobody : lists.task (.wait (.mutex m)) = [])
      (mutex : k'.mutex = Function.update k.mutex m
        { k.mutex m with holder := none })
      (tcb : k'.tcb = k.tcb)
  | given (w : TaskId) (rest : List TaskId)
      (waiting : lists.task (.wait (.mutex m)) = w :: rest)
      (mutex : k'.mutex = Function.update k.mutex m
        { k.mutex m with holder := some w })
      (tcb : k'.tcb = Function.update
        (Function.update k.tcb w (k.tcb w).awake) k.tnCurrRunTask
        { k.tcb k.tnCurrRunTask with
          priority := k.restoredPriority k.tnCurrRunTask w rest })

section Unlock

variable {rule : Rule} {dropped : Set MutexId} {k k' : Kernel} {lists : Lists}
variable {locks : Locks} {m : MutexId} {t u w : TaskId} {p fuel : Nat}

theorem Guarded.handOver_given (guarded : Guarded rule dropped k lists locks)
    (indifferent : rule.Indifferent) (isMutex : k.isMutex m = true)
    (inherits : (k.mutex m).attr = tnMutexAttrInherit)
    (held : (k.mutex m).holder = some k.tnCurrRunTask)
    (running : (k.tcb k.tnCurrRunTask).taskState = .runnable) :
    Ends (handOver fuel k m) fun (k', _, _) => Given m k k' lists := by
  have notCeiling : (k.mutex m).attr ≠ tnMutexAttrCeiling := by
    rw [inherits]
    decide
  have has : k.hasList (.mutex m) = true := isMutex
  refine ends_ite (fun empty => ends_some ?_) fun awaited => ?_
  · exact .freed ((guarded.kept.noWaiters_iff has).mp empty) rfl rfl
  rw [if_neg notCeiling, if_pos inherits]
  obtain ⟨w, rest, waiting⟩ :=
    guarded.kept.first has (eq_false_of_ne_true awaited)
  obtain ⟨reason, waits⟩ := guarded.kept.consistent.mem_mutex.mp
    (show w ∈ lists.task (.wait (.mutex m)) by simp [waiting])
  have awake : k.tnCurrRunTask ≠ w := by
    rintro rfl
    have asleep := (Tcb.mutexWait_eq_some.mp waits).2.1
    simp [running, TaskState.isWait] at asleep
  obtain ⟨k₂, lists₂, complete, woken⟩ := guarded.wake indifferent waits
    k.blockLinks (guarded.blocks.without waits notCeiling)
  have curr₂ : k₂.tcb k.tnCurrRunTask = k.tcb k.tnCurrRunTask := by
    rw [woken.tcb, Function.update_of_ne awake]
  have mutex₂ : k₂.mutex = k.mutex := congrArg Footing.mutex woken.footing
  have isMutex₂ := (Kernel.isMutex_congr mutex₂ m).trans isMutex
  have members : lists₂.task (.wait (.mutex m)) = rest := by
    rw [woken.members, waiting, List.erase_cons_head]
  have prios : ∀ u, (k₂.tcb u).priority = (k.tcb u).priority := by
    intro u
    rw [woken.tcb]
    by_cases same : u = w
    · rw [same, Function.update_self]
      rfl
    · rw [Function.update_of_ne same]
  have reason₂ : (k₂.tcb w).taskWaitReason = .none := by
    rw [woken.tcb, Function.update_self]
    rfl
  refine ends_bind_eq (guarded.kept.removeWaiter waiting).1
    (Ends.bind (show Ends _ fun (k₃, _) => k₃.mutex = k.mutex ∧
      k₃.tcb = Function.update k₂.tcb k.tnCurrRunTask
        { k.tcb k.tnCurrRunTask with
          priority := k.restoredPriority k.tnCurrRunTask w rest } from ?_) ?_)
  · rw [show taskWaitComplete fuel _ w = _ from complete fuel]
    unfold restoreHolderPriority
    simp only [getMutexByWaitQueque, reason₂, Option.bind_eq_bind,
      Option.bind_some, reduceCtorEq, if_false, mutex₂, held, curr₂, prios]
    rw [Kernel.restoredPriority]
    refine ends_ite (fun boosted => ?_) fun plain => ends_some ⟨mutex₂, ?_⟩
    · rw [if_pos boosted]
      refine Ends.bind (woken.guarded.findMaxBlockedPriority_highest isMutex₂)
        fun q isHighest => ?_
      rw [members, Kernel.highest_congr fun u _ => prios u] at isHighest
      subst isHighest
      have isTask₂ : k₂.isTask k.tnCurrRunTask = true := by
        rw [isTask_iff, curr₂]
        exact guarded.kept.curr
      have small := ((k.highest_isLeast
        (k.tcb k.tnCurrRunTask).basePriority rest).2 (.inl rfl)).trans_lt
          (guarded.kept.consistent.tasks.valid _ guarded.kept.curr).basePriority
      have plain : (k₂.tcb k.tnCurrRunTask).taskState.isWait = true →
          (k₂.tcb k.tnCurrRunTask).taskWaitReason.isMutex = false := by
        simp [curr₂, running, TaskState.isWait]
      refine Ends.bind ((setCurrentPriority_sets woken.guarded.kept indifferent
        isTask₂ plain small).and (setCurrentPriority_adjusted
          woken.guarded.kept indifferent woken.guarded.known isTask₂ small))
        fun (k₃, _) after => ends_some ?_
      obtain ⟨tcb₃, lists₃, adjusted⟩ := after
      refine ⟨(congrArg Footing.mutex adjusted.footing).trans mutex₂, ?_⟩
      rw [curr₂] at tcb₃
      exact tcb₃
    · rw [if_neg plain]
      exact (Function.update_eq_self_iff.mpr curr₂.symm).symm
  · rintro ⟨k₃, _⟩ ⟨mutex₃, tcb₃⟩
    refine ends_some (.given w rest waiting ?_ ?_)
    · change Function.update k₃.mutex m _ = _
      rw [mutex₃]
    · change k₃.tcb = _
      rw [tcb₃, woken.tcb]

theorem Kernel.inheritance_setHolder {holder : Option TaskId}
    (isMutex : k.isMutex m = true)
    (mutex : k'.mutex = Function.update k.mutex m
      { k.mutex m with holder := holder }) :
    k'.inheritance.holder = Function.update k.inheritance.holder m holder := by
  have same : ∀ n, k'.isMutex n = k.isMutex n := by
    intro n
    rw [Kernel.isMutex, Kernel.isMutex, mutex]
    by_cases here : n = m
    · subst here
      rw [Function.update_self]
    · rw [Function.update_of_ne here]
  funext n
  by_cases here : n = m
  · subst here
    rw [Kernel.inheritance_holder ((same n).trans isMutex), mutex,
      Function.update_self, Function.update_self]
  · rw [Function.update_of_ne here]
    simp only [Kernel.inheritance, same, mutex, Function.update_of_ne here]

theorem Kernel.inheritance_update {new : Tcb}
    (tcb : k'.tcb = Function.update k.tcb t new) :
    k'.inheritance.base =
        Function.update k.inheritance.base t new.basePriority ∧
      k'.inheritance.prio =
        Function.update k.inheritance.prio t new.priority ∧
      k'.inheritance.waits =
        Function.update k.inheritance.waits t (new.mutexWait.map Prod.fst) := by
  have view : ∀ {β : Type} (field : Tcb → β), field ∘ k'.tcb =
      Function.update (field ∘ k.tcb) t (field new) := by
    intro β field
    rw [tcb, Function.comp_update]
  exact ⟨view Tcb.basePriority, view Tcb.priority,
    view fun tcb => tcb.mutexWait.map Prod.fst⟩

theorem Kernel.inheritance_setPriority
    (tcb : k'.tcb = Function.update k.tcb t { k.tcb t with priority := p }) :
    k'.inheritance.base = k.inheritance.base ∧
      k'.inheritance.prio = Function.update k.inheritance.prio t p ∧
      k'.inheritance.waits = k.inheritance.waits := by
  obtain ⟨base, prio, waits⟩ := Kernel.inheritance_update tcb
  exact ⟨base.trans (Function.update_eq_self t _), prio,
    waits.trans (Function.update_eq_self t _)⟩

theorem Kernel.inheritance_awake
    (tcb : k'.tcb = Function.update k.tcb w (k.tcb w).awake) :
    k'.inheritance.base = k.inheritance.base ∧
      k'.inheritance.prio = k.inheritance.prio ∧
      k'.inheritance.waits = Function.update k.inheritance.waits w none := by
  obtain ⟨base, prio, waits⟩ := Kernel.inheritance_update tcb
  refine ⟨base.trans (Function.update_eq_self w _),
    prio.trans (Function.update_eq_self w _), waits.trans ?_⟩
  rw [Tcb.mutexWait_of_awake Tcb.awake_not_isWait]
  rfl

/-- The tasks that wait for the running task once a mutex is out of its list. -/
theorem Guarded.mem_behind_drop {dropped : Set MutexId}
    (guarded : Guarded rule (insert m dropped) k lists locks)
    (only : ∀ n, n ∉ dropped) :
    u ∈ lists.behind locks t ↔ ∃ n, n ≠ m ∧
      k.inheritance.waits u = some n ∧ k.inheritance.holder n = some t := by
  simp only [Lists.behind, List.mem_flatMap, guarded.mem_waiters,
    guarded.owns.owned, Set.mem_insert_iff, only, or_false]
  refine exists_congr fun n => ?_
  constructor
  · rintro ⟨⟨other, isMutex, held⟩, waits⟩
    exact ⟨other, waits, (Kernel.inheritance_holder isMutex).trans held⟩
  · rintro ⟨other, waits, held⟩
    have isMutex : k.isMutex n = true := by
      by_contra absent
      cases (if_neg absent).symm.trans held
    exact ⟨⟨other, isMutex,
      (Kernel.inheritance_holder isMutex).symm.trans held⟩, waits⟩

/-- The priorities stay exact when the running task unlocks a mutex that is waited
for: the first waiting task has the highest priority of all of them, and the
running task inherits nothing from this mutex that it also inherits through
another one. -/
def Kernel.PassesExactly (k : Kernel) (m : MutexId) : Prop :=
  ∀ w, k.taskLinks.next (.head (.wait (.mutex m))) = .entry w →
    (∀ u, k.inheritance.waits u = some m →
      (k.tcb w).priority ≤ (k.tcb u).priority) ∧
    ((k.tcb w).priority < (k.tcb k.tnCurrRunTask).basePriority →
      IsLeast (k.inheritance.owedBeside m k.tnCurrRunTask)
        (k.tcb w).priority →
      ∃ u, u ≠ w ∧ k.inheritance.waits u = some m ∧
        (k.tcb u).priority = (k.tcb w).priority)

/-- What `do_unlock_mutex` makes of the mutexes and priorities. -/
inductive Relinquished (m : MutexId) (k k' : Kernel) : Prop where
  | freed (p : Nat)
      (empty : k.taskLinks.next (.head (.wait (.mutex m))) =
        .head (.wait (.mutex m)))
      (nobody : ∀ u, k.inheritance.waits u ≠ some m)
      (least : IsLeast (k.inheritance.owedBeside m k.tnCurrRunTask) p)
      (same : k'.inheritance = k.inheritance.release k.tnCurrRunTask m p)
  | passed (w : TaskId) (p q : Nat)
      (first : k.taskLinks.next (.head (.wait (.mutex m))) = .entry w)
      (waits : k.inheritance.waits w = some m)
      (least : IsLeast (k.inheritance.owedBeside m k.tnCurrRunTask) p)
      (restored : if p ≠ (k.tcb k.tnCurrRunTask).basePriority ∧
          p = (k.tcb w).priority then
        IsLeast {r | r = (k.tcb k.tnCurrRunTask).basePriority ∨ ∃ u, u ≠ w ∧
          k.inheritance.waits u = some m ∧ r = (k.tcb u).priority} q
        else q = p)
      (same : k'.inheritance = k.inheritance.pass k.tnCurrRunTask m w q)

theorem Given.attr (given : Given m k k' lists) :
    (k'.mutex m).attr = (k.mutex m).attr := by
  cases given with
  | freed _ mutex => rw [mutex, attr_setHolder]
  | given _ _ _ mutex => rw [mutex, attr_setHolder]

theorem Given.isTask (given : Given m k k' lists) (t : TaskId) :
    k'.isTask t = k.isTask t := by
  have idTask : (k'.tcb t).idTask = (k.tcb t).idTask := by
    cases given with
    | freed _ _ tcb => rw [tcb]
    | given w rest _ _ tcb =>
        rw [tcb, Function.update_apply]
        split
        · next isCurr => rw [isCurr]
        · rw [Function.update_apply]
          split
          · next isNew =>
              rw [isNew]
              rfl
          · rfl
  rw [Kernel.isTask, Kernel.isTask, idTask]

/-- The second part comes after the first one, which has set the priority `p`. -/
theorem Guarded.relinquished (guarded : Guarded rule dropped k lists locks)
    (isMutex : k.isMutex m = true)
    (running : (k.tcb k.tnCurrRunTask).taskState = .runnable)
    (least : IsLeast (k.inheritance.owedBeside m k.tnCurrRunTask) p)
    {k₁ : Kernel} {lists₁ : Lists} (mutex₁ : k₁.mutex = k.mutex)
    (curr₁ : k₁.tnCurrRunTask = k.tnCurrRunTask)
    (tcb₁ : k₁.tcb = Function.update k.tcb k.tnCurrRunTask
      { k.tcb k.tnCurrRunTask with priority := p })
    (waits₁ : ∀ list, lists₁.task (.wait list) = lists.task (.wait list))
    (given : Given m k₁ k' lists₁) : Relinquished m k k' := by
  obtain ⟨base, prio, waits⟩ := Kernel.inheritance_setPriority tcb₁
  have represents := guarded.kept.consistent.scheduled.represents
  have alive : liveHead lists.live (.wait (.mutex m)) :=
    guarded.kept.consistent.live (.mutex m) isMutex
  have first := represents.next_head alive
  have self : k₁.tcb k.tnCurrRunTask =
      { k.tcb k.tnCurrRunTask with priority := p } := by
    rw [tcb₁, Function.update_self]
  cases given with
  | freed nobody mutex tcb =>
      rw [mutex₁] at mutex
      rw [waits₁] at nobody
      rw [nobody] at first
      refine .freed p first (fun u waiting => ?_) least ?_
      · have member := guarded.mem_waiters.mpr waiting
        rw [nobody] at member
        cases member
      · obtain ⟨base', prio', waits'⟩ :=
          Kernel.inheritance_setPriority (tcb.trans tcb₁)
        exact Inheritance.ext base' prio'
          (Kernel.inheritance_setHolder isMutex mutex) waits'
  | given w rest waiting mutex tcb =>
      rw [mutex₁] at mutex
      rw [waits₁] at waiting
      rw [curr₁, self] at tcb
      have asleep : ∀ u ∈ w :: rest, u ≠ k.tnCurrRunTask ∧
          (k₁.tcb u).priority = (k.tcb u).priority := by
        intro u member
        rw [← waiting] at member
        obtain ⟨reason, waits⟩ := guarded.kept.consistent.mem_mutex.mp member
        have other : u ≠ k.tnCurrRunTask := by
          rintro rfl
          have asleep := (Tcb.mutexWait_eq_some.mp waits).2.1
          simp [running, TaskState.isWait] at asleep
        exact ⟨other, by rw [tcb₁, Function.update_of_ne other]⟩
      have other := (asleep w List.mem_cons_self).1
      have nodup := represents.nodup (.wait (.mutex m))
      rw [waiting, List.nodup_cons] at nodup
      have behind : ∀ u, u ∈ rest ↔
          u ≠ w ∧ k.inheritance.waits u = some m := by
        intro u
        rw [← guarded.mem_waiters, waiting, List.mem_cons]
        constructor
        · intro member
          refine ⟨?_, .inr member⟩
          rintro rfl
          exact nodup.1 member
        · rintro ⟨different, same | member⟩
          · exact absurd same different
          · exact member
      rw [waiting] at first
      refine .passed w p (k₁.restoredPriority k.tnCurrRunTask w rest) first
        (guarded.mem_waiters.mp (by simp [waiting])) least ?_ ?_
      · rw [Kernel.restoredPriority, self, (asleep w List.mem_cons_self).2]
        split
        · have lower := k₁.highest_isLeast
            (k.tcb k.tnCurrRunTask).basePriority rest
          convert lower using 1
          ext r
          refine or_congr Iff.rfl (exists_congr fun u => ?_)
          rw [← and_assoc, ← behind]
          refine and_congr_right fun member => ?_
          rw [(asleep u (List.mem_cons_of_mem w member)).2]
        · rfl
      · let woken : Kernel := { k₁ with
          tcb := Function.update k₁.tcb w (k₁.tcb w).awake }
        have curr : woken.tcb k.tnCurrRunTask =
            { k.tcb k.tnCurrRunTask with priority := p } :=
          (Function.update_of_ne other.symm _ _).trans self
        obtain ⟨base₂, prio₂, waits₂⟩ :=
          @Kernel.inheritance_awake k₁ woken w rfl
        obtain ⟨base₃, prio₃, waits₃⟩ := @Kernel.inheritance_setPriority woken
          k' k.tnCurrRunTask _ (by rw [curr]; exact tcb)
        refine Inheritance.ext ((base₃.trans base₂).trans base) ?_
          (Kernel.inheritance_setHolder isMutex mutex)
          ((waits₃.trans waits₂).trans (by rw [waits]; rfl))
        rw [prio₃, prio₂, prio, Function.update_idem]
        rfl

theorem Guarded.unlock_relinquished (guarded : Guarded rule ∅ k lists locks)
    (indifferent : rule.Indifferent) (isMutex : k.isMutex m = true)
    (inherits : (k.mutex m).attr = tnMutexAttrInherit)
    (held : (k.mutex m).holder = some k.tnCurrRunTask)
    (running : (k.tcb k.tnCurrRunTask).taskState = .runnable) :
    Ends (doUnlockMutex fuel k m) fun (k', _) =>
      Relinquished m k k' ∧ ∀ t, k'.isTask t = k.isTask t := by
  have unlinked := guarded.drop isMutex (Set.notMem_empty m) held
  have behind := fun u => unlinked.mem_behind_drop (u := u)
    (t := k.tnCurrRunTask) Set.notMem_empty
  generalize isHighest : k.highest (k.tcb k.tnCurrRunTask).basePriority
    (lists.behind (locks.drop m) k.tnCurrRunTask) = p
  have least : IsLeast (k.inheritance.owedBeside m k.tnCurrRunTask) p := by
    have same : k.inheritance.owedBeside m k.tnCurrRunTask =
        {q | q = (k.tcb k.tnCurrRunTask).basePriority ∨
          ∃ u ∈ lists.behind (locks.drop m) k.tnCurrRunTask,
            q = (k.tcb u).priority} := by
      ext q
      refine or_congr Iff.rfl (exists_congr fun u => ?_)
      rw [behind]
      constructor
      · rintro ⟨n, other, waits, held, equal⟩
        exact ⟨⟨n, other, waits, held⟩, equal⟩
      · rintro ⟨⟨n, other, waits, held⟩, equal⟩
        exact ⟨n, other, waits, held, equal⟩
    rw [same, ← isHighest]
    exact k.highest_isLeast _ _
  refine Ends.bind ((unlinked.unlockPriority_tcb indifferent running
    (.inl inherits)).and (unlockPriority_adjusted unlinked.kept indifferent
      unlinked.known fuel m)) fun (k₁, lowered) first => ?_
  obtain ⟨tcb₁, lists₁, adjusted⟩ := first
  have tcb₁ : k₁.tcb = Function.update k.tcb k.tnCurrRunTask
      { k.tcb k.tnCurrRunTask with priority := p } := by
    rw [← isHighest]
    exact tcb₁
  have mutex₁ : k₁.mutex = k.mutex := congrArg Footing.mutex adjusted.footing
  have curr₁ : k₁.tnCurrRunTask = k.tnCurrRunTask :=
    congrArg (·.mode.tnCurrRunTask) adjusted.footing
  refine Ends.bind ((unlinked.adjust adjusted).handOver_given indifferent
    ((Kernel.isMutex_congr mutex₁ m).trans isMutex) (by rw [mutex₁, inherits])
    (by rw [mutex₁, curr₁, held])
    (by rw [curr₁, tcb₁, Function.update_self]; exact running))
    fun (k₂, _, _) second => ?_
  refine ends_ite (fun offered => absurd offered.2 ?_) fun _ => ends_some
    ⟨guarded.relinquished isMutex running least mutex₁ curr₁ tcb₁ adjusted.waits
      second, fun t => (second.isTask t).trans ?_⟩
  · rw [second.attr, mutex₁, inherits]
    decide
  · exact Kernel.isTask_update tcb₁ rfl t

theorem Relinquished.exact_iff (relinquished : Relinquished m k k')
    (held : k.inheritance.holder m = some k.tnCurrRunTask)
    (awake : k.inheritance.waits k.tnCurrRunTask = none)
    (apart : k.inheritance.Apart) {known : TaskId → Prop}
    (exact : ∀ t, known t → k.inheritance.Exact t)
    (curr : known k.tnCurrRunTask)
    (waiting : ∀ t, k.inheritance.waits t ≠ none → known t) :
    (∀ t, known t → k'.inheritance.Exact t) ↔ k.PassesExactly m := by
  cases relinquished with
  | freed p empty nobody least same =>
      rw [same]
      refine iff_of_true (fun t isKnown =>
        (exact t isKnown).release held awake least) fun w first => ?_
      cases empty.symm.trans first
  | passed w p q first waits least restored same =>
      have asleep : k.inheritance.waits w ≠ none := by simp [waits]
      have old := Inheritance.pass_exact_old (q := q) waits awake
      have new := Inheritance.pass_exact_new (q := q) waits awake
        (exact w (waiting w asleep)) (apart w asleep)
      have atBase : p ≤ (k.tcb k.tnCurrRunTask).basePriority :=
        least.2 (.inl rfl)
      rw [same]
      constructor
      · intro after w' first'
        obtain rfl : w = w' := Node.entry.inj (first.symm.trans first')
        refine ⟨new.mp (after w (waiting w asleep)), fun lower isLeast => ?_⟩
        have isP : p = (k.tcb w).priority := least.unique isLeast
        rw [if_pos ⟨by omega, isP⟩] at restored
        have isQ := (old.mp (after _ curr)).unique isLeast
        rcases restored.1 with isBase | ⟨u, other, waits, equal⟩
        · omega
        · exact ⟨u, other, waits, by omega⟩
      · intro passes t isKnown
        obtain ⟨highest, through⟩ := passes w first
        by_cases isOld : t = k.tnCurrRunTask
        · rw [isOld]
          refine old.mpr ?_
          split at restored
          · next inherited =>
              obtain ⟨u, other, waits, equal⟩ := through (by omega)
                (inherited.2 ▸ least)
              have upper := restored.2 (.inr ⟨u, other, waits, rfl⟩)
              have isP : q = p := by
                rcases restored.1 with isBase | ⟨v, -, waits, equal⟩
                · omega
                · have := highest v waits
                  omega
              exact isP ▸ least
          · exact restored ▸ least
        · by_cases isNew : t = w
          · rw [isNew]
            exact new.mpr highest
          · exact (exact t isKnown).pass waits awake held isOld isNew

end Unlock

end UsbBulk
