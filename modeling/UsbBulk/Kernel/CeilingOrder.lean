import UsbBulk.Kernel.Holders
import UsbBulk.Kernel.MutexRun

/-!
# The order in which mutexes with ceilings are locked

A task that locks a mutex should have a priority above the ceilings of all mutexes
that other tasks hold.  `enable_lock_mutex` also lets a task pass whose priority
equals one of them.  What the services do keeps the order of the locked mutexes as
long as every task that gets one is above the others with its base priority.
-/

namespace UsbBulk

/-- The calls of a run that uses mutexes with a ceiling only. -/
def Image.Ceilings (image : Image) (k : Kernel) : Call → Prop
  | .mutexCreate _ attr _ => attr = tnMutexAttrCeiling
  | .mutexLock _ timeout => timeout = tnWaitInfinite
  | .mutexLockPolling _ | .mutexUnlock _ => True
  | .taskChangePriority .. => False
  | call => image.Untimed k call

/-- The base priority of the task is above the ceilings of all other mutexes that
other tasks hold. -/
def Kernel.Above (k : Kernel) (m : MutexId) (t : TaskId) : Prop :=
  ∀ n s, n ≠ m → k.isMutex n = true → (k.mutex n).holder = some s → s ≠ t →
    ((k.tcb t).basePriority : Int) < (k.mutex n).ceilPriority

/-- A blocked task that may get the free mutex it waits for when another mutex is
unlocked. -/
def Kernel.Retries (k : Kernel) (m : MutexId) (t : TaskId) (n : MutexId) :
    Prop :=
  (k.tcb t).mutexWait = some (n, .mutexCBlk) ∧ (k.mutex n).holder = none ∧
    k.Passes m t

/-- The running task gets the free mutex only if it is above. -/
def Kernel.LocksAbove (k : Kernel) (m : MutexId) : Prop :=
  (k.mutex m).holder = none → k.Passes m k.tnCurrRunTask →
    k.Above m k.tnCurrRunTask

/-- Whoever gets a mutex is above the ceilings of the mutexes that other tasks
hold, and every mutex that is unlocked can be handed over. -/
def Kernel.Strict (k : Kernel) : Call → Prop
  | .mutexLock mutex _ | .mutexLockPolling mutex => ∀ m, mutex = some m →
      k.isMutex m = true → k.LocksAbove m
  | .mutexUnlock mutex => ∀ m, mutex = some m → k.isMutex m = true →
      (k.mutex m).holder = some k.tnCurrRunTask →
        k.HandsOn m ∧ (∀ w, k.Chosen m w → k.Above m w) ∧
        (k.noWaiters (.mutex m) = true → ∀ t n, k.Retries m t n →
          k.Above m t ∧ ∀ u o, u ≠ t → k.Retries m u o →
            (k.mutex o).ceilPriority < (k.tcb t).priority ∨
              ((k.tcb t).basePriority : Int) < (k.mutex o).ceilPriority)
  | _ => True

def Image.StrictCeilings (image : Image) (k : Kernel) (call : Call) : Prop :=
  image.Ceilings k call ∧ k.Strict call

/-! ## Base priorities -/

/-- A task remains a task and keeps its base priority. -/
def Kernel.baseRule (k : Kernel) : Rule where
  holds t tcb := k.isTask t = true →
    tcb.idTask = tnIdTask ∧ tcb.basePriority = (k.tcb t).basePriority
  stop _ := True
  raise _ := True
  born _ := True
  waits _ _ := True
  same := by
    intro t a b same _ holds isTask
    rw [same.idTask, same.basePriority]
    exact holds isTask
  awake _ _ _ holds := holds
  asleep _ _ _ _ holds := holds
  suspend _ _ holds := holds
  ready _ _ holds := holds
  freeze _ _ holds := holds
  priority _ holds := holds
  tick _ holds := holds
  create := by
    intro t a b _ fresh _ _ _ _ _ holds isTask
    rw [fresh] at holds
    exact absurd (holds isTask).1 (by decide)

theorem Kernel.baseRule_indifferent (k : Kernel) : k.baseRule.Indifferent :=
  ⟨fun _ => trivial, fun _ _ holds => holds, fun holds => holds⟩

/-- What every service leaves of the base priorities. -/
def Kernel.SameBase (k k' : Kernel) : Prop :=
  ∀ t, k.isTask t = true → (k'.tcb t).basePriority = (k.tcb t).basePriority

section Bases

variable {rule : Rule} {dropped : Set MutexId} {k k' : Kernel} {lists : Lists}
variable {locks : Locks}

theorem Guarded.rebase (guarded : Guarded rule dropped k lists locks) :
    Guarded k.baseRule dropped k lists locks :=
  ⟨⟨guarded.kept.consistent, fun _ isTask => ⟨isTask_iff.mp isTask, rfl⟩,
    guarded.kept.curr⟩, guarded.owns, guarded.blocks⟩

theorem Guarded.sameBase (guarded : Guarded k.baseRule dropped k' lists locks) :
    k.SameBase k' :=
  fun t isTask => (guarded.kept.rule t isTask).2

end Bases

/-! ## The order of the locked mutexes -/

/-- A task waits only for mutexes that it may lock and that it does not hold, and
whoever has got a locked mutex is above the ceilings of those that were locked
before by other tasks. -/
structure CeilingOrder (k : Kernel) (locks : Locks) : Prop where
  ceiling : ∀ m, k.isMutex m = true → (k.mutex m).attr = tnMutexAttrCeiling
  legal : ∀ t m reason, (k.tcb t).mutexWait = some (m, reason) →
    (k.mutex m).ceilPriority ≤ ((k.tcb t).basePriority : Int) ∧
      (k.mutex m).holder ≠ some t
  ordered : locks.locked.Pairwise fun n m => ∀ s t,
    (k.mutex n).holder = some s → (k.mutex m).holder = some t → s ≠ t →
      ((k.tcb t).basePriority : Int) < (k.mutex n).ceilPriority

/-- No task has got a mutex, and none has started to wait for one. -/
structure Loosened (k k' : Kernel) : Prop where
  same : ∀ m, k.isMutex m = true →
    (k'.mutex m).ceilPriority = (k.mutex m).ceilPriority
  holder : ∀ m t, k.isMutex m = true → (k'.mutex m).holder = some t →
    (k.mutex m).holder = some t
  waits : ∀ t m reason, (k'.tcb t).mutexWait = some (m, reason) →
    ∃ reason, (k.tcb t).mutexWait = some (m, reason)
  base : k.SameBase k'

/-- What is waited for, locked or a holder exists. -/
structure Located (k : Kernel) (locks : Locks) : Prop where
  waits : ∀ t m reason, (k.tcb t).mutexWait = some (m, reason) →
    k.isMutex m = true
  locked : ∀ m ∈ locks.locked, k.isMutex m = true ∧ (k.mutex m).holder ≠ none
  holder : ∀ m t, k.isMutex m = true → (k.mutex m).holder = some t →
    k.isTask t = true

section Orders

variable {rule : Rule} {dropped : Set MutexId} {k k' : Kernel} {lists : Lists}
variable {locks locks' : Locks} {m : MutexId} {t : TaskId}

theorem Guarded.located (guarded : Guarded rule dropped k lists locks) :
    Located k locks where
  waits _ _ _ waits := guarded.kept.consistent.mutexWait_isMutex waits
  locked m member :=
    have locked := (guarded.owns.locked m).mp member
    ⟨locked.2.1, locked.2.2.2⟩
  holder := guarded.owns.holder

theorem CeilingOrder.loosen (order : CeilingOrder k locks)
    (located : Located k locks) (loosened : Loosened k k')
    (ceiling : ∀ m, k'.isMutex m = true →
      (k'.mutex m).attr = tnMutexAttrCeiling)
    (locked : locks'.locked.Sublist locks.locked) : CeilingOrder k' locks' := by
  refine ⟨ceiling, fun t m reason waiting => ?_, ?_⟩
  · obtain ⟨reason, waited⟩ := loosened.waits t m reason waiting
    have isMutex := located.waits t m _ waited
    obtain ⟨above, other⟩ := order.legal t m reason waited
    have isTask := isTask_iff.mpr (Tcb.mutexWait_eq_some.mp waited).1
    rw [loosened.same m isMutex, loosened.base t isTask]
    exact ⟨above, fun mine => other (loosened.holder m t isMutex mine)⟩
  · refine (order.ordered.sublist locked).imp_of_mem
      fun {n m} first second earlier s t heldBy held different => ?_
    have isFirst := (located.locked n (locked.subset first)).1
    have isSecond := (located.locked m (locked.subset second)).1
    have held := loosened.holder m t isSecond held
    rw [loosened.same n isFirst,
      loosened.base t (located.holder m t isSecond held)]
    exact earlier s t (loosened.holder n s isFirst heldBy) held different

/-- A task gets a mutex, which becomes the last one in the list. -/
theorem CeilingOrder.grant (order : CeilingOrder k locks)
    (located : Located k locks)
    (isMutex : k.isMutex m = true) (isTask : k.isTask t = true)
    (mutex : k'.mutex = Function.update k.mutex m
      { k.mutex m with holder := some t })
    (waits : ∀ u n reason, (k'.tcb u).mutexWait = some (n, reason) →
      u ≠ t ∧ ∃ reason, (k.tcb u).mutexWait = some (n, reason))
    (base : k.SameBase k') (unlocked : m ∉ locks.locked)
    (locked : locks'.locked = locks.locked ++ [m])
    (above : ∀ n ∈ locks.locked, ∀ s, (k.mutex n).holder = some s → s ≠ t →
      ((k.tcb t).basePriority : Int) < (k.mutex n).ceilPriority) :
    CeilingOrder k' locks' := by
  have others : ∀ n, n ≠ m → k'.mutex n = k.mutex n := fun n other => by
    rw [mutex, Function.update_of_ne other]
  have ceil : ∀ n, (k'.mutex n).ceilPriority = (k.mutex n).ceilPriority := by
    intro n
    by_cases here : n = m
    · rw [mutex, here, Function.update_self]
    · rw [others n here]
  have apart : ∀ {n}, n ∈ locks.locked → n ≠ m := fun member same =>
    unlocked (same ▸ member)
  refine ⟨fun n isMutex' => ?_, fun u n reason waiting => ?_, ?_⟩
  · rw [mutex, attr_setHolder]
    by_cases here : n = m
    · exact here ▸ order.ceiling m isMutex
    · rw [Kernel.isMutex, others n here] at isMutex'
      exact order.ceiling n isMutex'
  · obtain ⟨different, reason, waited⟩ := waits u n reason waiting
    obtain ⟨legal, other⟩ := order.legal u n reason waited
    have isWaiter := isTask_iff.mpr (Tcb.mutexWait_eq_some.mp waited).1
    rw [ceil, base u isWaiter]
    refine ⟨legal, ?_⟩
    by_cases here : n = m
    · rw [mutex, here, Function.update_self]
      exact fun mine => different (Option.some.inj mine).symm
    · rw [others n here]
      exact other
  · rw [locked, List.pairwise_append]
    refine ⟨order.ordered.imp_of_mem fun {n o} first second earlier s u heldBy
      held different => ?_, List.pairwise_singleton _ m, fun n first o second s
        u heldBy held different => ?_⟩
    · rw [others n (apart first)] at heldBy ⊢
      rw [others o (apart second)] at held
      rw [base u (located.holder o u (located.locked o second).1 held)]
      exact earlier s u heldBy held different
    · cases List.mem_singleton.mp second
      rw [mutex, Function.update_self] at held
      cases held
      rw [others n (apart first)] at heldBy ⊢
      rw [base t isTask]
      exact above n first s heldBy different

/-- The running task starts to wait for a mutex that it may lock. -/
theorem CeilingOrder.wait (order : CeilingOrder k locks)
    (located : Located k locks)
    (known : k.isTask k.tnCurrRunTask = true)
    (isMutex : k.isMutex m = true) (legal : k.lockIllegal m = false)
    (mutex : k'.mutex = k.mutex) {reason : WaitReason}
    (waits : ∀ t, (k'.tcb t).mutexWait =
      if t = k.tnCurrRunTask then some (m, reason) else (k.tcb t).mutexWait)
    (base : k.SameBase k') (locked : locks'.locked = locks.locked) :
    CeilingOrder k' locks' := by
  have isTask : ∀ {u n reason}, (k.tcb u).mutexWait = some (n, reason) →
      k.isTask u = true := fun waited =>
    isTask_iff.mpr (Tcb.mutexWait_eq_some.mp waited).1
  refine ⟨fun n isMutex' => ?_, fun u n reason waiting => ?_, ?_⟩
  · rw [mutex]
    exact order.ceiling n ((Kernel.isMutex_congr mutex n).symm.trans isMutex')
  · rw [waits] at waiting
    rw [mutex]
    split at waiting
    · next isCurr =>
        cases waiting
        obtain ⟨other, above⟩ := not_or.mp (of_decide_eq_false legal)
        rw [isCurr, base _ known]
        refine ⟨?_, other⟩
        by_contra below
        exact above ⟨order.ceiling m isMutex, not_le.mp below⟩
    · rw [base u (isTask waiting)]
      exact order.legal u n _ waiting
  · rw [locked, mutex]
    refine order.ordered.imp_of_mem fun {n o} _ second earlier s u heldBy held
      different => ?_
    rw [base u (located.holder o u (located.locked o second).1 held)]
    exact earlier s u heldBy held different

/-! ## Unlock -/

/-- Whatever blocked tasks get free mutexes, they are above the ceilings. -/
def RetriesAbove (k : Kernel) (locks : Locks) : Prop :=
  ∀ t n, (k.tcb t).mutexWait = some (n, .mutexCBlk) →
    (k.mutex n).holder = none → (∀ o ∈ locks.locked, k.bars t o = false) →
    (∀ o ∈ locks.locked, ∀ s, (k.mutex o).holder = some s → s ≠ t →
      ((k.tcb t).basePriority : Int) < (k.mutex o).ceilPriority) ∧
    ∀ u o, u ≠ t → (k.tcb u).mutexWait = some (o, .mutexCBlk) →
      (k.mutex o).holder = none → (∀ p ∈ locks.locked, k.bars u p = false) →
      (k.mutex o).ceilPriority < (k.tcb t).priority ∨
        ((k.tcb t).basePriority : Int) < (k.mutex o).ceilPriority

theorem RetriesAbove.taken (retries : RetriesAbove k locks) {n : MutexId}
    (ceiling : (k.mutex n).attr = tnMutexAttrCeiling)
    (waited : (k.tcb t).mutexWait = some (n, .mutexCBlk))
    (free : (k.mutex n).holder = none)
    (enabled : ∀ o ∈ locks.locked, k.bars t o = false)
    (mutex : k'.mutex = Function.update k.mutex n
      { k.mutex n with holder := some t })
    (others : ∀ u, u ≠ t → k'.tcb u = k.tcb u)
    (awake : (k'.tcb t).mutexWait = none) (unlocked : n ∉ locks.locked)
    (locked : locks'.locked = locks.locked ++ [n]) : RetriesAbove k' locks' := by
  have same : ∀ o, o ≠ n → k'.mutex o = k.mutex o := fun o other => by
    rw [mutex, Function.update_of_ne other]
  have given : k'.mutex n = { k.mutex n with holder := some t } := by
    rw [mutex, Function.update_self]
  have apart : ∀ {o}, o ∈ locks.locked → o ≠ n := fun member same =>
    unlocked (same ▸ member)
  -- Who still waits for a free mutex did so before, and passed the others.
  have before : ∀ u o, (k'.tcb u).mutexWait = some (o, .mutexCBlk) →
      (k'.mutex o).holder = none →
      (∀ p ∈ locks'.locked, k'.bars u p = false) →
      u ≠ t ∧ o ≠ n ∧ (k.tcb u).mutexWait = some (o, .mutexCBlk) ∧
        (k.mutex o).holder = none ∧
        ∀ p ∈ locks.locked, k.bars u p = false := by
    intro u o waiting free' passes
    have other : u ≠ t := by
      rintro rfl
      cases awake.symm.trans waiting
    have elsewhere : o ≠ n := by
      rintro rfl
      rw [given] at free'
      cases free'
    refine ⟨other, elsewhere, others u other ▸ waiting, same o elsewhere ▸ free',
      fun p member => ?_⟩
    have open_ := passes p (by simp [locked, member])
    rwa [Kernel.bars, same p (apart member), others u other] at open_
  intro u o waiting free' passes
  obtain ⟨other, elsewhere, waits, open_, passed⟩ :=
    before u o waiting free' passes
  obtain ⟨above, pair⟩ := retries u o waits open_ passed
  rw [others u other]
  refine ⟨fun p member s heldBy different => ?_,
    fun v p different waiting' free' passes' => ?_⟩
  · rw [locked, List.mem_append, List.mem_singleton] at member
    rcases member with member | rfl
    · rw [same p (apart member)] at heldBy ⊢
      exact above p member s heldBy different
    · have passesIt := passes p (by simp [locked])
      rw [Kernel.bars, given, others u other] at passesIt
      rw [given]
      refine (pair t p other.symm waited free enabled).resolve_left
        fun lower => of_decide_eq_false passesIt ⟨ceiling, ?_, lower⟩
      exact fun mine => other (Option.some.inj mine).symm
  · obtain ⟨-, elsewhere', waits', open', passed'⟩ :=
      before v p waiting' free' passes'
    rw [same p elsewhere']
    exact pair v p different waits' open' passed'

theorem Located.taken (located : Located k locks) {n : MutexId} {new : Tcb}
    (waited : (k.tcb t).mutexWait = some (n, .mutexCBlk))
    (mutex : k'.mutex = Function.update k.mutex n
      { k.mutex n with holder := some t })
    (tcb : k'.tcb = Function.update k.tcb t new)
    (sameId : new.idTask = (k.tcb t).idTask) (awake : new.mutexWait = none)
    (unlocked : n ∉ locks.locked) (locked : locks'.locked = locks.locked ++ [n]) :
    Located k' locks' := by
  have isTask := isTask_iff.mpr (Tcb.mutexWait_eq_some.mp waited).1
  have same : ∀ o, o ≠ n → k'.mutex o = k.mutex o := fun o other => by
    rw [mutex, Function.update_of_ne other]
  have given : k'.mutex n = { k.mutex n with holder := some t } := by
    rw [mutex, Function.update_self]
  have isMutex : ∀ o, k'.isMutex o = k.isMutex o := by
    intro o
    rw [Kernel.isMutex, Kernel.isMutex]
    by_cases here : o = n
    · rw [here, given]
    · rw [same o here]
  have isTask' := Kernel.isTask_update tcb sameId
  refine ⟨fun u o reason waiting => ?_, fun o member => ?_,
    fun o u isMutex' held => ?_⟩
  · rw [isMutex]
    rw [tcb] at waiting
    by_cases here : u = t
    · rw [here, Function.update_self, awake] at waiting
      cases waiting
    · rw [Function.update_of_ne here] at waiting
      exact located.waits u o reason waiting
  · rw [isMutex]
    rw [locked, List.mem_append, List.mem_singleton] at member
    rcases member with member | rfl
    · rw [same o fun here => unlocked (here ▸ member)]
      exact located.locked o member
    · exact ⟨located.waits t o _ waited, by simp [given]⟩
  · rw [isTask']
    rw [isMutex] at isMutex'
    by_cases here : o = n
    · rw [here, given] at held
      cases held
      exact isTask
    · rw [same o here] at held
      exact located.holder o u isMutex' held

theorem CeilingOrder.tried (order : CeilingOrder k locks)
    (located : Located k locks)
    (tried : Tried t k locks k' locks') (retries : RetriesAbove k locks) :
    CeilingOrder k' locks' ∧ RetriesAbove k' locks' ∧ Located k' locks' := by
  cases tried with
  | failed => exact ⟨order, retries, located⟩
  | taken n waited free enabled mode mutex tcb =>
      obtain ⟨above, -⟩ := retries t n waited free enabled
      have isMutex := located.waits t n _ waited
      have isTask := isTask_iff.mpr (Tcb.mutexWait_eq_some.mp waited).1
      have unlocked : n ∉ locks.locked := fun locked =>
        (located.locked n locked).2 free
      have ready : { (k.tcb t).awake with blkTask := none }.mutexWait = none :=
        Tcb.mutexWait_of_awake Tcb.awake_not_isWait
      have awake : (k'.tcb t).mutexWait = none := by
        rw [tcb, Function.update_self, ready]
      have others : ∀ u, u ≠ t → k'.tcb u = k.tcb u := fun u other => by
        rw [tcb, Function.update_of_ne other]
      have waits : ∀ u o reason, (k'.tcb u).mutexWait = some (o, reason) →
          u ≠ t ∧ ∃ reason, (k.tcb u).mutexWait = some (o, reason) := by
        intro u o reason waiting
        have other : u ≠ t := by
          rintro rfl
          cases awake.symm.trans waiting
        exact ⟨other, reason, others u other ▸ waiting⟩
      have base : k.SameBase k' := by
        intro u _
        by_cases same : u = t
        · rw [same, tcb, Function.update_self]
          rfl
        · rw [others u same]
      exact ⟨order.grant located isMutex isTask mutex waits base unlocked rfl
        above, retries.taken (order.ceiling n isMutex) waited free enabled mutex
          others awake unlocked rfl,
        located.taken waited mutex tcb rfl ready unlocked rfl⟩

theorem CeilingOrder.retried (retried : Retried k locks k' locks')
    (order : CeilingOrder k locks) (located : Located k locks)
    (retries : RetriesAbove k locks) : CeilingOrder k' locks' := by
  induction retried with
  | refl => exact order
  | step member tried later ih =>
      obtain ⟨order, retries, located⟩ := order.tried located tried retries
      exact ih order located retries

/-- The mutex has become free, and the priority of the running task may have
changed. -/
structure Freed (m : MutexId) (k k' : Kernel) : Prop where
  mutex : k'.mutex = Function.update k.mutex m
    { k.mutex m with holder := none }
  base : ∀ t, (k'.tcb t).basePriority = (k.tcb t).basePriority
  waits : ∀ t, (k'.tcb t).mutexWait = (k.tcb t).mutexWait
  asleep : ∀ t, (k.tcb t).mutexWait ≠ none → k'.tcb t = k.tcb t
  nobody : ∀ t reason, (k.tcb t).mutexWait ≠ some (m, reason)

theorem Freed.others (freed : Freed m k k') {o : MutexId} (other : o ≠ m) :
    k'.mutex o = k.mutex o := by
  rw [freed.mutex, Function.update_of_ne other]

theorem Freed.order (freed : Freed m k k') (order : CeilingOrder k locks)
    (located : Located k locks) (isMutex : k.isMutex m = true) :
    CeilingOrder k' (locks.drop m) := by
  have free : (k'.mutex m) = { k.mutex m with holder := none } := by
    rw [freed.mutex, Function.update_self]
  refine order.loosen located ⟨fun n _ => ?_, fun n t _ mine => ?_,
    fun t n reason waiting => ⟨reason, freed.waits t ▸ waiting⟩,
    fun t _ => freed.base t⟩ (fun n isMutex' => ?_) List.erase_sublist
  · by_cases here : n = m
    · rw [here, free]
    · rw [freed.others here]
  · by_cases here : n = m
    · rw [here, free] at mine
      cases mine
    · rw [← freed.others here, mine]
  · by_cases here : n = m
    · rw [here, free]
      exact order.ceiling m isMutex
    · rw [freed.others here]
      rw [Kernel.isMutex, freed.others here] at isMutex'
      exact order.ceiling n isMutex'

theorem Freed.retriesAbove (freed : Freed m k k')
    (guarded : Guarded rule ∅ k lists locks) (order : CeilingOrder k locks)
    (strict : ∀ t n, k.Retries m t n → k.Above m t ∧
      ∀ u o, u ≠ t → k.Retries m u o →
        (k.mutex o).ceilPriority < (k.tcb t).priority ∨
          ((k.tcb t).basePriority : Int) < (k.mutex o).ceilPriority) :
    RetriesAbove k' (locks.drop m) := by
  have nodup := guarded.owns.lockLinks.nodup ()
  have before : ∀ t n, (k'.tcb t).mutexWait = some (n, .mutexCBlk) →
      (k'.mutex n).holder = none →
      (∀ o ∈ (locks.drop m).locked, k'.bars t o = false) →
      n ≠ m ∧ k'.tcb t = k.tcb t ∧ k.Retries m t n := by
    intro t n waiting free passes
    rw [freed.waits] at waiting
    have other : n ≠ m := by
      rintro rfl
      exact freed.nobody t _ waiting
    have kept := freed.asleep t (by simp [waiting])
    refine ⟨other, kept, waiting, freed.others other ▸ free,
      fun o different isMutex held => ?_⟩
    have locked := (guarded.owns.locked o).mpr
      ⟨Set.notMem_empty o, isMutex, order.ceiling o isMutex, held⟩
    have same : k'.bars t o = k.bars t o := by
      rw [Kernel.bars, Kernel.bars, freed.others different, kept]
    exact same.symm.trans
      (passes o (nodup.mem_erase_iff.mpr ⟨different, locked⟩))
  intro t n waiting free passes
  obtain ⟨other, kept, retries⟩ := before t n waiting free passes
  obtain ⟨above, pair⟩ := strict t n retries
  rw [kept]
  refine ⟨fun o member s heldBy different => ?_,
    fun u o different waiting' free' passes' => ?_⟩
  · obtain ⟨elsewhere, locked⟩ := nodup.mem_erase_iff.mp member
    rw [freed.others elsewhere] at heldBy ⊢
    exact above o s elsewhere (guarded.located.locked o locked).1 heldBy
      different
  · obtain ⟨elsewhere, -, retries'⟩ := before u o waiting' free' passes'
    rw [freed.others elsewhere]
    exact pair u o different retries'

section Unlinked

variable {k₁ : Kernel} {lists₁ : Lists} {w : TaskId} {reason : WaitReason}

/-- The mutex is out of its lists, and the priority of the running task is set. -/
theorem CeilingOrder.unlinked (order : CeilingOrder k locks)
    (located : Located k locks)
    (adjusted : Adjusted rule { k with
      mutexLinks := queueRemoveEntry k.mutexLinks (.entry m)
      lockLinks := queueRemoveEntry k.lockLinks (.entry m) } k₁ lists lists₁) :
    CeilingOrder k₁ (locks.drop m) := by
  have mutex : k₁.mutex = k.mutex := congrArg Footing.mutex adjusted.footing
  have waits : ∀ t, (k₁.tcb t).mutexWait = (k.tcb t).mutexWait :=
    adjusted.mutexWait
  refine order.loosen located ⟨fun n _ => ?_, fun n t _ mine => ?_,
    fun t n reason waiting => ⟨reason, waits t ▸ waiting⟩, fun t _ => ?_⟩
    (fun n isMutex' => ?_) List.erase_sublist
  · rw [mutex]
  · rw [← mutex, mine]
  · obtain ⟨p, tcb⟩ := adjusted.tcb t
    rw [tcb]
  · rw [mutex]
    exact order.ceiling n ((Kernel.isMutex_congr mutex n).symm.trans isMutex')

/-- The mutex is given to a task that waits for it. -/
theorem CeilingOrder.handed (order : CeilingOrder k₁ (locks.drop m))
    (guarded : Guarded rule ∅ k lists locks)
    (guarded₁ : Guarded rule dropped k₁ lists₁ (locks.drop m))
    (adjusted : Adjusted rule { k with
      mutexLinks := queueRemoveEntry k.mutexLinks (.entry m)
      lockLinks := queueRemoveEntry k.lockLinks (.entry m) } k₁ lists lists₁)
    (isMutex : k.isMutex m = true)
    (waited : (k.tcb w).mutexWait = some (m, reason))
    (mutex : k'.mutex = Function.update k₁.mutex m
      { k₁.mutex m with holder := some w })
    (waits : ∀ u, (k'.tcb u).mutexWait =
      if u = w then none else (k₁.tcb u).mutexWait)
    (base : k.SameBase k') (above : k.Above m w)
    (locked : locks'.locked = (locks.drop m).locked ++ [m]) :
    CeilingOrder k' locks' := by
  have mutex₁ : k₁.mutex = k.mutex := congrArg Footing.mutex adjusted.footing
  have nodup := guarded.owns.lockLinks.nodup ()
  have task : ∀ t, k₁.isTask t = k.isTask t ∧
      (k₁.tcb t).basePriority = (k.tcb t).basePriority := by
    intro t
    obtain ⟨p, tcb⟩ := adjusted.tcb t
    rw [Kernel.isTask, Kernel.isTask, tcb]
    exact ⟨rfl, rfl⟩
  have isTask : k₁.isTask w = true := (task w).1.trans
    (isTask_iff.mpr (Tcb.mutexWait_eq_some.mp waited).1)
  refine order.grant guarded₁.located
    ((Kernel.isMutex_congr mutex₁ m).trans isMutex) isTask mutex
    (fun u n reason waiting => ?_) (fun t isTask => ?_) nodup.not_mem_erase
    locked fun n member s heldBy different => ?_
  · rw [waits] at waiting
    split at waiting
    · cases waiting
    · next other => exact ⟨other, reason, waiting⟩
  · rw [base t ((task t).1.symm.trans isTask), (task t).2]
  · obtain ⟨elsewhere, locked⟩ := nodup.mem_erase_iff.mp member
    rw [mutex₁] at heldBy ⊢
    rw [(task w).2]
    exact above n s elsewhere (guarded.located.locked n locked).1 heldBy
      different

end Unlinked

theorem CeilingOrder.settle (order : CeilingOrder k locks)
    (guarded : Guarded rule ∅ k lists locks) {dropped' : Set MutexId}
    (settles : Settles rule m ∅ k k' lists locks dropped' locks')
    (running : (k.tcb k.tnCurrRunTask).taskState = .runnable)
    (isMutex : k.isMutex m = true)
    (held : (k.mutex m).holder = some k.tnCurrRunTask)
    (strict : k.Strict (.mutexUnlock (some m))) (base : k.SameBase k') :
    CeilingOrder k' locks' ∧ dropped' = ∅ := by
  obtain ⟨handsOn, chosen, retries⟩ := strict m rfl isMutex held
  have ceiling := order.ceiling m isMutex
  obtain ⟨left, kept⟩ := settles.unlocks.handed_iff guarded running held
  refine ⟨?_, kept (left.mpr fun ceiling =>
    ((guarded.handsOn_iff isMutex ceiling).mp handsOn).1)⟩
  obtain @⟨k₁, k₂, lists₁, hiPriTask, locks₂, adjusted, others, handed,
    retried, settled⟩ := settles
  have asleep : ∀ t, (k.tcb t).mutexWait ≠ none → k₁.tcb t = k.tcb t := by
    intro t waiting
    refine others t ?_
    rintro rfl
    exact waiting (Tcb.mutexWait_of_awake (by simp [running, TaskState.isWait]))
  have mutex₁ : k₁.mutex = k.mutex := congrArg Footing.mutex adjusted.footing
  have waits₁ : ∀ t, (k₁.tcb t).mutexWait = (k.tcb t).mutexWait :=
    adjusted.mutexWait
  have base₁ : ∀ t, (k₁.tcb t).basePriority = (k.tcb t).basePriority := by
    intro t
    obtain ⟨p, tcb⟩ := adjusted.tcb t
    rw [tcb]
  have guarded₁ := (guarded.drop isMutex (Set.notMem_empty m) held).adjust
    adjusted
  cases handed with
  | freed nobody isHi same =>
      have freed : Freed m k k₂ := by
        rw [same]
        refine ⟨?_, base₁, waits₁, asleep, fun t reason => waits₁ t ▸
          nobody t reason⟩
        rw [← mutex₁]
        rfl
      have located : Located k₂ (locks.drop m) := by
        rw [same]
        exact (guarded₁.free (Set.mem_insert m ∅)).located
      have nobodyWaits : k.noWaiters (.mutex m) = true := by
        refine (guarded.kept.noWaiters_iff
          (show k.hasList (.mutex m) = true from isMutex)).mpr ?_
        refine List.eq_nil_iff_forall_not_mem.mpr fun t member => ?_
        obtain ⟨reason, waiting⟩ := guarded.kept.consistent.mem_mutex.mp member
        exact freed.nobody t reason waiting
      exact (freed.order order guarded.located isMutex).retried retried located
        (freed.retriesAbove guarded order (retries nobodyWaits))
  | handed w waited mutex waits kind enabled =>
      have isCeiling := kind.mpr (by rw [mutex₁, ceiling])
      obtain ⟨best, -⟩ := enabled isCeiling
      have given := congrArg Mutex.holder (congrFun mutex m)
      rw [Function.update_self] at given
      obtain ⟨rfl, rfl⟩ := settled (by simp [given])
      rw [waits₁] at waited
      have best : k.Chosen m w := by
        rw [guarded.chosen_iff isMutex, ← adjusted.waits, ← best]
        refine congrArg Prod.fst (Kernel.best_congr fun u member => ?_).symm
        rw [adjusted.waits] at member
        obtain ⟨reason, waiting⟩ :=
          guarded.kept.consistent.mem_mutex.mp member
        rw [asleep u (by simp [waiting])]
      exact (order.unlinked guarded.located adjusted).handed guarded guarded₁
        adjusted isMutex waited mutex waits base (chosen w best)
        (by simp [Locks.take, isCeiling])
  | denied w ceiling best barred =>
      rw [mutex₁] at ceiling
      exact absurd ((guarded.awards_after running adjusted others _).mpr
        ((guarded.handsOn_iff isMutex ceiling).mp handsOn).1)
        (Kernel.not_awards best barred)

/-! ## The other calls -/

theorem CeilingOrder.asked (order : CeilingOrder k locks)
    (guarded : Guarded rule ∅ k lists locks) (isMutex : k.isMutex m = true)
    (awake : (k.tcb k.tnCurrRunTask).mutexWait = none)
    (asked : Asked m k k' locks locks') (strict : k.LocksAbove m)
    (base : k.SameBase k') : CeilingOrder k' locks' := by
  have known := isTask_iff.mpr guarded.kept.curr
  cases asked with
  | refused same =>
      rw [same]
      exact order
  | taken free legal kind enabled mutex waits =>
      have isCeiling := kind.mpr (order.ceiling m isMutex)
      have above := strict free fun n other isMutex held =>
        enabled isCeiling n ((guarded.owns.locked n).mpr
          ⟨Set.notMem_empty n, isMutex, order.ceiling n isMutex, held⟩)
      have unlocked : m ∉ locks.locked := fun locked =>
        (guarded.located.locked m locked).2 free
      refine order.grant guarded.located isMutex known mutex
        (fun u n reason waiting => ?_) base unlocked
        (by simp [Locks.take, isCeiling]) fun n member s heldBy different => ?_
      · rw [waits] at waiting
        refine ⟨?_, reason, waiting⟩
        rintro rfl
        cases awake.symm.trans waiting
      · exact above n s (fun same => unlocked (same ▸ member))
          (guarded.located.locked n member).1 heldBy different
  | waits reason legal mutex waits =>
      exact order.wait guarded.located known isMutex legal mutex waits base rfl

theorem CeilingOrder.plain (order : CeilingOrder k locks)
    (guarded : Guarded rule dropped k lists locks) {call : Call}
    (mutex : k'.mutex = k.mutex)
    (framed : ∀ t, Framed k call t (k'.tcb t)) : CeilingOrder k' locks := by
  refine order.loosen guarded.located ⟨fun n _ => ?_, fun n t _ mine => ?_,
    fun t n reason waiting => ⟨reason, (framed t).mutexWait ▸ waiting⟩,
    fun t isTask => (framed t).basePriority isTask⟩ (fun n isMutex' => ?_)
    (List.Sublist.refl _)
  · rw [mutex]
  · rw [← mutex, mine]
  · rw [mutex]
    exact order.ceiling n ((Kernel.isMutex_congr mutex n).symm.trans isMutex')

theorem CeilingOrder.create (order : CeilingOrder k locks)
    (guarded : Guarded rule dropped k lists locks) {new : Mutex}
    (absent : k.isMutex m = false) (tcb : k'.tcb = k.tcb)
    (mutex : k'.mutex = Function.update k.mutex m new)
    (ceiling : new.attr = tnMutexAttrCeiling) :
    CeilingOrder k' locks := by
  have apart : ∀ {n}, k.isMutex n = true → n ≠ m := by
    rintro n isMutex rfl
    cases absent.symm.trans isMutex
  have same : ∀ n, n ≠ m → k'.mutex n = k.mutex n := fun n other => by
    rw [mutex, Function.update_of_ne other]
  refine order.loosen guarded.located ⟨fun n isMutex => ?_,
    fun n t isMutex mine => ?_, fun t n reason waiting =>
      ⟨reason, tcb ▸ waiting⟩, fun t _ => by rw [tcb]⟩ (fun n isMutex' => ?_)
    (List.Sublist.refl _)
  · rw [same n (apart isMutex)]
  · rw [← same n (apart isMutex), mine]
  · by_cases here : n = m
    · rw [mutex, here, Function.update_self, ceiling]
    · rw [same n here]
      rw [Kernel.isMutex, same n here] at isMutex'
      exact order.ceiling n isMutex'

end Orders

end UsbBulk
