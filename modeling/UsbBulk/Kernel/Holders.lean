import UsbBulk.Kernel.Registry
import UsbBulk.Kernel.UnlockEnds

/-!
# The holder of a mutex and its lists

A mutex says which task holds it, each task lists the mutexes that it holds, and the
locked mutexes with a ceiling are listed once more.  The three agree in every state
of a run in which every unlock can hand its mutex over.
-/

namespace UsbBulk

/-- The three places agree. -/
structure Kernel.HoldersAgree (k : Kernel) : Prop where
  holder : ∀ m t, k.isMutex m = true → (k.mutex m).holder = some t →
    k.isTask t = true
  owned : ∀ t, k.isTask t = true → ∃ owned : List MutexId, owned.Nodup ∧
    k.mutexLinks.Ring (.head t) (owned.map .entry) ∧
    ∀ m, m ∈ owned ↔ k.isMutex m = true ∧ (k.mutex m).holder = some t
  locked : ∃ locked : List MutexId, locked.Nodup ∧
    k.lockLinks.Ring (.head ()) (locked.map .entry) ∧
    ∀ m, m ∈ locked ↔ k.isMutex m = true ∧
      (k.mutex m).attr = tnMutexAttrCeiling ∧ (k.mutex m).holder ≠ none

/-- The waiting task that `do_unlock_mutex` chooses for a mutex with a ceiling. -/
def Kernel.Chosen (k : Kernel) (m : MutexId) (w : TaskId) : Prop :=
  ∃ waiting : List TaskId,
    k.taskLinks.Ring (.head (.wait (.mutex m))) (waiting.map .entry) ∧
    (k.best (none, tnNumPriority - 1) waiting).1 = some w

/-- `enable_lock_mutex` lets the task pass when this mutex is not locked. -/
def Kernel.Passes (k : Kernel) (m : MutexId) (t : TaskId) : Prop :=
  ∀ n, n ≠ m → k.isMutex n = true → (k.mutex n).holder ≠ none →
    k.bars t n = false

/-- A mutex with a ceiling can be unlocked while nobody waits for it and
`tn_blocked_tasks_list` has a first task, or while the waiting task that is chosen
is let pass. -/
def Kernel.HandsOn (k : Kernel) (m : MutexId) : Prop :=
  (k.mutex m).attr = tnMutexAttrCeiling →
    (k.noWaiters (.mutex m) = true ∧
      k.blockLinks.next (.head ()) ≠ .head ()) ∨
    ∃ w, k.Chosen m w ∧ k.Passes m w

/-- The calls of a run in which no wait for an object ends early and every mutex
that is unlocked can be handed over. -/
def Kernel.HandsOver (k : Kernel) : Call → Prop
  | .mutexUnlock mutex => ∀ m, mutex = some m → k.isMutex m = true →
      (k.mutex m).holder = some k.tnCurrRunTask → k.HandsOn m
  | call => k.Patient call

/-- An unlock of the mutex comes to its end and succeeds, the three places agree
then, and the running task is no longer the holder. -/
def Kernel.UnlocksWell (k : Kernel) (m : MutexId) : Prop :=
  (∃ enough, ∀ fuel, enough ≤ fuel →
    (tnMutexUnlock fuel k (some m)).isSome = true) ∧
  ∀ fuel k' reply, tnMutexUnlock fuel k (some m) = some (k', reply) →
    reply.rc = some .noErr ∧ k'.HoldersAgree ∧
      (k'.mutex m).holder ≠ some k.tnCurrRunTask

section Unlock

variable {k k' : Kernel} {lists : Lists} {locks locks' : Locks}
variable {dropped' : Set MutexId} {m : MutexId} {t : TaskId}

theorem Guarded.holdersAgree {rule : Rule}
    (guarded : Guarded rule ∅ k lists locks) : k.HoldersAgree where
  holder := guarded.owns.holder
  owned t isTask := ⟨locks.owned t, guarded.owns.mutexLinks.nodup t,
    guarded.owns.mutexLinks.ring t isTask, fun m => by
      simp [guarded.owns.owned]⟩
  locked := ⟨locks.locked, guarded.owns.lockLinks.nodup (),
    guarded.owns.lockLinks.ring () trivial, fun m => by
      simp [guarded.owns.locked]⟩

theorem Tried.holder (tried : Tried t k locks k' locks')
    (member : t ∈ locks.blocked) (m : MutexId) :
    (k'.mutex m).holder = (k.mutex m).holder ∨ (k.mutex m).holder = none ∧
      ∃ u ∈ locks.blocked, (k'.mutex m).holder = some u := by
  cases tried with
  | failed => exact .inl rfl
  | taken n waited free enabled mode mutex =>
      rw [mutex]
      by_cases same : m = n
      · subst same
        exact .inr ⟨free, t, member, by rw [Function.update_self]⟩
      · exact .inl (by rw [Function.update_of_ne same])

theorem Tried.blocked_subset (tried : Tried t k locks k' locks') :
    locks'.blocked ⊆ locks.blocked := by
  cases tried with
  | failed => exact List.Subset.refl _
  | taken n => exact List.erase_subset

theorem Retried.holder (retried : Retried k locks k' locks') (m : MutexId) :
    (k'.mutex m).holder = (k.mutex m).holder ∨ (k.mutex m).holder = none ∧
      ∃ u ∈ locks.blocked, (k'.mutex m).holder = some u := by
  induction retried with
  | refl => exact .inl rfl
  | step member tried later ih =>
      rcases tried.holder member m with same | ⟨free, u, blocked, held⟩
      · rw [← same]
        rcases ih with ih | ⟨free, u, blocked, held⟩
        · exact .inl ih
        · exact .inr ⟨free, u, tried.blocked_subset blocked, held⟩
      · rcases ih with ih | ⟨free', -⟩
        · exact .inr ⟨free, u, blocked, ih.trans held⟩
        · cases free'.symm.trans held

theorem Guarded.chosen_iff {rule : Rule} {dropped : Set MutexId}
    (guarded : Guarded rule dropped k lists locks)
    (isMutex : k.isMutex m = true) : k.Chosen m t ↔
      (k.best (none, tnNumPriority - 1)
        (lists.task (.wait (.mutex m)))).1 = some t := by
  have alive : liveHead lists.live (.wait (.mutex m)) :=
    guarded.kept.consistent.live (.mutex m) isMutex
  have ring : ∀ waiting, k.taskLinks.Ring (.head (.wait (.mutex m)))
      (waiting.map .entry) ↔ waiting = lists.task (.wait (.mutex m)) :=
    fun _ => guarded.kept.consistent.scheduled.represents.ring_iff alive
  constructor
  · rintro ⟨waiting, walk, best⟩
    rw [(ring waiting).mp walk] at best
    exact best
  · exact fun best => ⟨_, (ring _).mpr rfl, best⟩

theorem Guarded.passes_iff {rule : Rule}
    (guarded : Guarded rule ∅ k lists locks) :
    k.Passes m t ↔ ∀ n ∈ locks.locked.erase m, k.bars t n = false := by
  have nodup := guarded.owns.lockLinks.nodup ()
  simp only [nodup.mem_erase_iff, guarded.owns.locked]
  constructor
  · exact fun passes n ⟨other, _, isMutex, _, held⟩ =>
      passes n other isMutex held
  · intro enabled n other isMutex held
    by_contra bars
    have bars := eq_true_of_ne_false bars
    cases bars.symm.trans (enabled n
      ⟨other, Set.notMem_empty n, isMutex, (of_decide_eq_true bars).1, held⟩)

theorem Guarded.handsOn_iff {rule : Rule}
    (guarded : Guarded rule ∅ k lists locks) (isMutex : k.isMutex m = true)
    (ceiling : (k.mutex m).attr = tnMutexAttrCeiling) : k.HandsOn m ↔
      k.Awards (lists.task (.wait (.mutex m))) (locks.locked.erase m) ∧
        (k.noWaiters (.mutex m) = true → locks.blocked ≠ []) := by
  have nobody := guarded.kept.noWaiters_iff
    (show k.hasList (.mutex m) = true from isMutex)
  have first : k.blockLinks.next (.head ()) = .head () ↔
      locks.blocked = [] := by
    rw [guarded.blocks.blockLinks.next_head_single]
    cases locks.blocked <;> simp
  simp only [Kernel.HandsOn, ceiling, forall_const, guarded.chosen_iff isMutex,
    guarded.passes_iff, Kernel.Awards, ne_eq, first, nobody]
  constructor
  · rintro (⟨empty, blocked⟩ | ⟨w, best, enabled⟩)
    · exact ⟨.inl empty, fun _ => blocked⟩
    · refine ⟨.inr ⟨w, best, enabled⟩, fun empty => ?_⟩
      rw [empty] at best
      cases best
  · rintro ⟨empty | chosen, blocked⟩
    · exact .inl ⟨empty, blocked empty⟩
    · exact .inr chosen

/-- After an unlock that came to its end the mutex is out of the hands of the
running task if and only if it could be given to the chosen task, and then no mutex
is dropped. -/
theorem Unlocks.handed_iff {rule : Rule}
    (unlocks : Unlocks rule m ∅ k k' lists locks dropped' locks')
    (guarded : Guarded rule ∅ k lists locks)
    (running : (k.tcb k.tnCurrRunTask).taskState = .runnable)
    (held : (k.mutex m).holder = some k.tnCurrRunTask) :
    ((k'.mutex m).holder ≠ some k.tnCurrRunTask ↔
        ((k.mutex m).attr = tnMutexAttrCeiling → k.Awards
          (lists.task (.wait (.mutex m))) (locks.locked.erase m))) ∧
      ((k'.mutex m).holder ≠ some k.tnCurrRunTask → dropped' = ∅) := by
  obtain @⟨k₁, k₂, lists₁, hiPriTask, locks₂, adjusted, others, handed,
    retried⟩ := unlocks
  have awake : (k.tcb k.tnCurrRunTask).mutexWait = none :=
    Tcb.mutexWait_of_awake (by simp [running, TaskState.isWait])
  have unblocked : k.tnCurrRunTask ∉ locks.blocked :=
    guarded.blocks.not_mem (by simp [awake])
  have awards₁ := guarded.awards_after running adjusted others
    (locks.locked.erase m)
  have mutex₁ : k₁.mutex = k.mutex := congrArg Footing.mutex adjusted.footing
  have holder := retried.holder m
  have empty : insert m (∅ : Set MutexId) \ {m} = ∅ :=
    Set.insert_sdiff_self_of_notMem (Set.notMem_empty m)
  cases handed with
  | freed nobody isHi same =>
      subst same
      refine ⟨iff_of_true (fun mine => ?_) fun _ => .inl ?_, fun _ => empty⟩
      · rw [Kernel.setMutex] at holder
        simp only [Function.update_self] at holder
        rcases holder with free | ⟨-, u, blocked, given⟩
        · cases free.symm.trans mine
        · cases given.symm.trans mine
          exact unblocked blocked
      · refine List.eq_nil_iff_forall_not_mem.mpr fun w member => ?_
        obtain ⟨reason, waits⟩ := guarded.kept.consistent.mem_mutex.mp member
        exact nobody w reason ((adjusted.mutexWait w).trans waits)
  | handed w waited mutex waits kind enabled =>
      have given := congrArg Mutex.holder (congrFun mutex m)
      rw [Function.update_self] at given
      have keeps := holder.resolve_right fun free => by
        cases given.symm.trans free.1
      refine ⟨iff_of_true (fun mine => ?_) fun ceiling => awards₁.mp (.inr
        ⟨w, enabled (kind.mpr (by rw [mutex₁, ceiling]))⟩), fun _ => empty⟩
      cases (given.symm.trans keeps.symm).trans mine
      cases (adjusted.mutexWait _).symm.trans waited ▸ awake
  | denied w ceiling best barred mutex waits =>
      rw [mutex, mutex₁, held] at holder
      have keeps := holder.resolve_right (by simp)
      refine ⟨iff_of_false (not_not.mpr keeps) fun awards => ?_,
        fun left => absurd keeps left⟩
      rw [mutex₁] at ceiling
      exact Kernel.not_awards best barred (awards₁.mpr (awards ceiling))

end Unlock

section Runs

variable {image : Image} {k k' : Kernel} {lists : Lists} {locks : Locks}

theorem Kernel.HandsOver.patient {rule : Rule} {call : Call}
    (may : k.HandsOver call) (guarded : Guarded rule ∅ k lists locks) :
    k.Patient call := by
  cases call with
  | mutexUnlock mutex =>
      intro m _ isMutex held
      rw [guarded.owns.listedBy_iff (isTask_iff.mpr guarded.kept.curr),
        guarded.owns.owned]
      exact ⟨Set.notMem_empty m, isMutex, held⟩
  | _ => exact may

theorem Guarded.handsOverStep (guarded : Guarded .any ∅ k lists locks)
    {action : Action} (step : Step image Kernel.HandsOver k action k') :
    ∃ lists' locks', Guarded .any ∅ k' lists' locks' := by
  cases step with
  | call fuel task running notIdle may run =>
      obtain ⟨lists', dropped', locks', after, effect⟩ := guarded.patientCall
        (may.patient guarded) (fun _ => running) image.tnTaskExit fuel _ run
      cases effect with
      | other | created | asked => exact ⟨lists', _, after⟩
      | unlocked m isUnlock isMutex held unlocks =>
          subst isUnlock
          obtain ⟨left, kept⟩ := unlocks.handed_iff guarded running held
          have handed := kept (left.mpr fun ceiling =>
            ((guarded.handsOn_iff isMutex ceiling).mp
              (may m rfl isMutex held)).1)
          exact ⟨lists', locks', handed ▸ after⟩
  | interrupt fuel irq may run =>
      obtain ⟨lists', dropped', locks', after, effect⟩ :=
        guarded.enterIrq.patientCall (may.patient guarded).enterIrq
          (fun task => absurd (irq.symm.trans task) (by decide))
          image.tnTaskExit fuel _ run
      cases effect with
      | other | created | asked => exact ⟨lists', _, after.leaveIrq⟩
      | unlocked m isUnlock =>
          subst isUnlock
          cases irq
  | dispatch run => exact ⟨lists, locks, guarded.dispatch run⟩

theorem Reachable.handsOver (reachable : Reachable image Kernel.HandsOver k) :
    ∃ lists locks, Guarded .any ∅ k lists locks := by
  induction reachable with
  | start fresh run =>
      obtain ⟨⟨lists, guarded⟩, -⟩ := Guarded.of_start fresh run
      exact ⟨lists, .none, guarded.forget⟩
  | next _ step before =>
      obtain ⟨lists, locks, guarded⟩ := before
      exact guarded.handsOverStep step

theorem tnMutexUnlock_held {m : MutexId} (context : k.wrongNonIntContext = false)
    (isMutex : k.isMutex m = true)
    (held : (k.mutex m).holder = some k.tnCurrRunTask) (fuel : Nat) :
    tnMutexUnlock fuel k (some m) = (doUnlockMutex fuel k m).map
      fun done => (done.1, .retSwitch .noErr done.2) := by
  rw [tnMutexUnlock, checked_pass rfl isMutex context, mutexUnlockBody,
    if_neg (not_not.mpr held)]
  cases doUnlockMutex fuel k m <;> rfl

/-- In a run in which every mutex that is unlocked can be handed over, holders and
lists agree, and an unlock comes to its end, takes the mutex away from its holder
and keeps the agreement if and only if the mutex can be handed over. -/
theorem holders_agree (reachable : Reachable image Kernel.HandsOver k) :
    k.HoldersAgree ∧ ((k.tcb k.tnCurrRunTask).taskState = .runnable →
      k.wrongNonIntContext = false → ∀ m, k.isMutex m = true →
        (k.mutex m).holder = some k.tnCurrRunTask →
          (k.UnlocksWell m ↔ k.HandsOn m)) := by
  obtain ⟨lists, locks, guarded⟩ := reachable.handsOver
  refine ⟨guarded.holdersAgree, fun running context m isMutex held => ?_⟩
  have unlisted := Set.notMem_empty m
  have same := tnMutexUnlock_held context isMutex held
  constructor
  · rintro ⟨⟨enough, ends⟩, good⟩ ceiling
    refine (guarded.handsOn_iff isMutex ceiling).mpr
      ⟨?_, fun nobody empty => ?_⟩ ceiling
    · obtain ⟨⟨k', reply⟩, run⟩ := Option.isSome_iff_exists.mp
        (ends enough le_rfl)
      obtain ⟨-, -, left⟩ := good enough k' reply run
      rw [same] at run
      obtain ⟨⟨_, _⟩, unlock, result⟩ := Option.map_eq_some_iff.mp run
      cases result
      obtain ⟨_, _, _, -, unlocks⟩ := guarded.release Rule.any_indifferent
        isMutex unlisted held running enough _ unlock
      exact (unlocks.handed_iff guarded running held).1.mp left ceiling
    · obtain ⟨rounds, stuck⟩ := guarded.unlock_stuck Rule.any_indifferent
        running isMutex ceiling unlisted held nobody empty
      have ends := ends _ (le_max_left enough rounds)
      rw [same, stuck _ (le_max_right ..)] at ends
      cases ends
  · intro handsOn
    have holds := fun ceiling => (guarded.handsOn_iff isMutex ceiling).mp handsOn
    refine ⟨?_, fun fuel k' reply run => ?_⟩
    · simp only [same, Option.isSome_map]
      cases nobody : k.noWaiters (.mutex m) with
      | true =>
          exact guarded.unlock_isSome_nobody Rule.any_indifferent running isMutex
            unlisted held nobody fun ceiling => (holds ceiling).2 nobody
      | false =>
          obtain ⟨t, rest, waiting⟩ := guarded.kept.first
            (show k.hasList (.mutex m) = true from isMutex) nobody
          exact guarded.unlock_isSome_awaited Rule.any_indifferent running
            isMutex unlisted held (by simp [waiting])
            fun ceiling => (holds ceiling).1
    · rw [same] at run
      obtain ⟨⟨_, _⟩, unlock, result⟩ := Option.map_eq_some_iff.mp run
      cases result
      obtain ⟨_, _, _, after, unlocks⟩ := guarded.release Rule.any_indifferent
        isMutex unlisted held running fuel _ unlock
      obtain ⟨left, kept⟩ := unlocks.handed_iff guarded running held
      have left := left.mpr fun ceiling => (holds ceiling).1
      rw [kept left] at after
      exact ⟨rfl, after.holdersAgree, left⟩

end Runs

/-! ## A hand-over that is denied -/

section Samples

/-- Task 2 holds mutexes 1 and 0, and task 3 waits for mutex 0. -/
def nestedScript : List Move := [
  .task (.taskCreate (some 2) { TaskParams.sample with priority := 6 }),
  .task (.taskCreate (some 3) .sample),
  .task (.mutexCreate (some 0) tnMutexAttrCeiling 3),
  .task (.mutexCreate (some 1) tnMutexAttrCeiling 3),
  .task (.taskSleep tnWaitInfinite), .switch,
  .task (.taskSleep tnWaitInfinite), .switch,
  .task (.mutexLock (some 1) tnWaitInfinite),
  .task (.mutexLock (some 0) tnWaitInfinite),
  .task (.taskWakeup (some 3)), .switch,
  .task (.mutexLock (some 0) tnWaitInfinite), .switch]

/-- An unlock of mutex 0 answers that there is no error; then the running task is
still its holder, and has only mutex 1 in its list. -/
def Kernel.keepsMutex (k : Kernel) : Bool :=
  ((k.tcb k.tnCurrRunTask).taskState = .runnable ∧
    k.wrongNonIntContext = false ∧ k.isMutex 0 = true ∧
    (k.mutex 0).holder = some k.tnCurrRunTask : Bool) &&
    (tnMutexUnlock 4 k (some 0)).any fun (k', reply) =>
      reply.rc = some .noErr ∧
        (k'.mutex 0).holder = some k.tnCurrRunTask ∧
        k'.mutexLinks.next (.head k.tnCurrRunTask) = .entry 1 ∧
        k'.mutexLinks.prev (.entry 1) = .head k.tnCurrRunTask ∧
        k'.mutexLinks.next (.entry 1) = .head k.tnCurrRunTask ∧
        k'.mutexLinks.prev (.head k.tnCurrRunTask) = .entry 1

theorem nested_reachable : ∃ k, Reachable .sample Kernel.HandsOver k ∧
    k.keepsMutex = true := by
  have free : ∀ move ∈ nestedScript, move.Free Kernel.HandsOver := by
    simp [nestedScript, Move.Free, Kernel.HandsOver, Kernel.Patient]
  exact Reachable.of_script free
    (show (Kernel.started.follow .sample 5 ⟨[0, 1, 2, 3],
      [.ready 0, .ready 5, .ready 6, .ready 31, .wait (.mutex 0),
        .wait (.mutex 1)], [0, 1]⟩ nestedScript).any Kernel.keepsMutex = true
      by decide +kernel)

theorem holders_agree_nested : ∃ k, Reachable .sample Kernel.HandsOver k ∧
    k.HoldersAgree ∧ (k.UnlocksWell 0 ↔ k.HandsOn 0) := by
  obtain ⟨k, reachable, found⟩ := nested_reachable
  obtain ⟨running, context, isMutex, held⟩ :=
    of_decide_eq_true ((Bool.and_eq_true ..).mp found).1
  obtain ⟨agrees, unlocks⟩ := holders_agree reachable
  exact ⟨k, reachable, agrees, unlocks running context 0 isMutex held⟩

/-- The running task has unlocked mutex 0, remains its holder, and does not have it
in its list. -/
theorem unlock_keepsHolder : ∃ k k' reply,
    Reachable .sample Kernel.HandsOver k ∧
      tnMutexUnlock 4 k (some 0) = some (k', reply) ∧
      reply.rc = some .noErr ∧
      (k'.mutex 0).holder = some k.tnCurrRunTask ∧
      ¬k'.ListedBy 0 k.tnCurrRunTask := by
  obtain ⟨k, reachable, found⟩ := nested_reachable
  obtain ⟨⟨k', reply⟩, unlock, found⟩ :=
    (Option.any_eq_true ..).mp ((Bool.and_eq_true ..).mp found).2
  obtain ⟨done, held, first, back, last, around⟩ := of_decide_eq_true found
  refine ⟨k, k', reply, reachable, unlock, done, held, ?_⟩
  rintro ⟨owned, ring, member⟩
  have only : k'.mutexLinks.Ring (.head k.tnCurrRunTask) [.entry 1] :=
    ⟨first, back, last, around⟩
  have same := ring.middle_unique only (by simp) (by simp)
  have inside : (.entry 0 : Node TaskId MutexId) ∈ owned.map .entry :=
    List.mem_map_of_mem member
  simp [same] at inside

end Samples

end UsbBulk
