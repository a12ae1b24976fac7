import Mathlib.Algebra.Group.Nat.Defs
import Mathlib.Data.List.Basic
import Mathlib.Data.List.Perm.Basic
import Mathlib.Data.List.Nodup
import Mathlib.Logic.Function.Basic

/-!
# Pools of blocks

Two views of a pool of memory blocks.  In memory the free blocks are chained
through their first words.  Seen from its users the pool is a stock of blocks,
each of them free or owned, with parties that wait for one.
-/

namespace UsbBulk

/-! ## Chains through memory -/

section Chains

variable {Address : Type} {mem mem' : Address → Address}
variable {null first block : Address} {blocks : List Address}

/-- The words at `first` and at the blocks after it lead through the given
blocks to `null`. -/
def Chain (mem : Address → Address) (null : Address) :
    Address → List Address → Prop
  | first, [] => first = null
  | first, block :: blocks =>
      first = block ∧ block ≠ null ∧ Chain mem null (mem block) blocks

/-- A chain depends on the words at its blocks and on nothing else. -/
theorem Chain.congr (chain : Chain mem null first blocks)
    (same : ∀ block ∈ blocks, mem' block = mem block) :
    Chain mem' null first blocks := by
  induction blocks generalizing first with
  | nil => exact chain
  | cons block blocks ih =>
      obtain ⟨equal, some, rest⟩ := chain
      refine ⟨equal, some, ?_⟩
      rw [same block (by simp)]
      exact ih rest fun other member =>
        same other (List.mem_cons_of_mem _ member)

/-- A block that is not in the chain is put in front of it. -/
theorem Chain.push [DecidableEq Address]
    (chain : Chain mem null first blocks) (some : block ≠ null)
    (fresh : block ∉ blocks) :
    Chain (Function.update mem block first) null block (block :: blocks) := by
  refine ⟨rfl, some, ?_⟩
  rw [Function.update_self]
  refine chain.congr fun other member => Function.update_of_ne ?_ _ _
  rintro rfl
  exact fresh member

end Chains

/-! ## Blocks of one size, side by side -/

section Blocks

variable {w : Nat} {start size block other address : BitVec w} {n : Nat}

/-- The addresses of `n` blocks. -/
def blocks (start size : BitVec w) : Nat → List (BitVec w)
  | 0 => []
  | n + 1 => start :: blocks (start + size) size n

/-- The address is inside the block. -/
def InBlock (size block address : BitVec w) : Prop :=
  (address - block).toNat < size.toNat

@[simp] theorem length_blocks (start size : BitVec w) (n : Nat) :
    (blocks start size n).length = n := by
  induction n generalizing start with
  | zero => rfl
  | succ n ih => simp [blocks, ih]

/-- Where the `i`-th block starts, as long as the blocks do not reach the end of
the address space. -/
theorem mem_blocks (bounded : start.toNat + size.toNat * n ≤ 2 ^ w)
    (positive : 0 < size.toNat) :
    block ∈ blocks start size n ↔
      ∃ i < n, block.toNat = start.toNat + size.toNat * i := by
  induction n generalizing start with
  | zero => simp [blocks]
  | succ n ih =>
      rw [blocks, List.mem_cons]
      cases n with
      | zero =>
          simp [blocks, BitVec.toNat_inj]
      | succ n =>
          have split : size.toNat * (n + 1 + 1) =
              size.toNat * (n + 1) + size.toNat := Nat.mul_succ _ _
          have split' : size.toNat * (n + 1) =
              size.toNat * n + size.toNat := Nat.mul_succ _ _
          have next : (start + size).toNat = start.toNat + size.toNat := by
            rw [BitVec.toNat_add, Nat.mod_eq_of_lt (by omega)]
          rw [ih (by rw [next]; omega), next]
          constructor
          · rintro (rfl | ⟨i, small, equal⟩)
            · exact ⟨0, by omega, by simp⟩
            · exact ⟨i + 1, by omega, by rw [equal, Nat.mul_succ]; omega⟩
          · rintro ⟨i, small, equal⟩
            cases i with
            | zero => exact .inl (BitVec.eq_of_toNat_eq (by simpa using equal))
            | succ i =>
                exact .inr ⟨i, by omega, by rw [equal, Nat.mul_succ]; omega⟩

theorem nodup_blocks (bounded : start.toNat + size.toNat * n ≤ 2 ^ w)
    (positive : 0 < size.toNat) : (blocks start size n).Nodup := by
  induction n generalizing start with
  | zero => exact List.nodup_nil
  | succ n ih =>
      have split : size.toNat * (n + 1) = size.toNat * n + size.toNat :=
        Nat.mul_succ _ _
      cases n with
      | zero => simp [blocks]
      | succ n =>
          have split' : size.toNat * (n + 1) =
              size.toNat * n + size.toNat := Nat.mul_succ _ _
          have next : (start + size).toNat = start.toNat + size.toNat := by
            rw [BitVec.toNat_add, Nat.mod_eq_of_lt (by omega)]
          have smaller : (start + size).toNat + size.toNat * (n + 1) ≤
              2 ^ w := by
            rw [next]
            omega
          refine List.nodup_cons.mpr ⟨fun member => ?_, ih smaller⟩
          obtain ⟨i, _, equal⟩ := (mem_blocks smaller positive).mp member
          rw [next] at equal
          omega

theorem ne_zero_of_mem_blocks
    (bounded : start.toNat + size.toNat * n ≤ 2 ^ w)
    (positive : 0 < size.toNat) (some : start ≠ 0)
    (member : block ∈ blocks start size n) : block ≠ 0 := by
  rintro rfl
  obtain ⟨i, _, equal⟩ := (mem_blocks bounded positive).mp member
  refine some (BitVec.eq_of_toNat_eq ?_)
  simp only [BitVec.toNat_zero, BitVec.ofNat_eq_ofNat] at equal ⊢
  omega

/-- Different blocks have no address in common. -/
theorem InBlock.unique (bounded : start.toNat + size.toNat * n ≤ 2 ^ w)
    (member : block ∈ blocks start size n)
    (member' : other ∈ blocks start size n)
    (inside : InBlock size block address)
    (inside' : InBlock size other address) : block = other := by
  have positive : 0 < size.toNat := Nat.zero_lt_of_lt inside
  obtain ⟨i, small, equal⟩ := (mem_blocks bounded positive).mp member
  obtain ⟨j, small', equal'⟩ := (mem_blocks bounded positive).mp member'
  have fits : ∀ i < n, size.toNat * i + size.toNat ≤ size.toNat * n := by
    intro i small
    calc
      size.toNat * i + size.toNat = size.toNat * (i + 1) :=
        (Nat.mul_succ _ _).symm
      _ ≤ size.toNat * n := Nat.mul_le_mul_left _ small
  -- Both blocks end before the end of the address space.
  have below : ∀ (b : BitVec w), InBlock size b address → ∀ i < n,
      b.toNat = start.toNat + size.toNat * i →
      b.toNat ≤ address.toNat ∧ address.toNat < b.toNat + size.toNat := by
    intro b inside i small equal
    have room := fits i small
    have bLess := b.isLt
    have aLess := address.isLt
    unfold InBlock at inside
    rw [BitVec.toNat_sub] at inside
    by_cases above : b.toNat ≤ address.toNat
    · have wrapped : 2 ^ w - b.toNat + address.toNat =
          address.toNat - b.toNat + 2 ^ w := by omega
      rw [wrapped, Nat.add_mod_right, Nat.mod_eq_of_lt (by omega)] at inside
      omega
    · rw [Nat.mod_eq_of_lt (by omega)] at inside
      omega
  obtain ⟨low, high⟩ := below block inside i small equal
  obtain ⟨low', high'⟩ := below other inside' j small' equal'
  have same : i = j := by
    rcases Nat.lt_trichotomy i j with less | same | more
    · have step : size.toNat * i + size.toNat ≤ size.toNat * j := by
        calc
          size.toNat * i + size.toNat = size.toNat * (i + 1) :=
            (Nat.mul_succ _ _).symm
          _ ≤ size.toNat * j := Nat.mul_le_mul_left _ less
      omega
    · exact same
    · have step : size.toNat * j + size.toNat ≤ size.toNat * i := by
        calc
          size.toNat * j + size.toNat = size.toNat * (j + 1) :=
            (Nat.mul_succ _ _).symm
          _ ≤ size.toNat * i := Nat.mul_le_mul_left _ more
      omega
  exact BitVec.eq_of_toNat_eq (by rw [equal, equal', same])

theorem inBlock_self (positive : 0 < size.toNat) :
    InBlock size block block := by
  simpa [InBlock] using positive

end Blocks

/-! ## The stock of blocks -/

/-- The free blocks, the owned ones, and the parties that wait. -/
structure Stock (Party Block : Type) where
  free : List Block
  owned : List Block
  waiters : List Party

namespace Stock

variable {Party Block : Type} [DecidableEq Block]
variable {before after : Stock Party Block}
variable {joined served : List Party} {blocks : List Block}

/-- Every block is free or owned, and nobody waits while a block is free. -/
structure Sound (blocks : List Block) (stock : Stock Party Block) : Prop where
  partition : (stock.free ++ stock.owned).Perm blocks
  needy : stock.waiters ≠ [] → stock.free = []

/-- One transition, with the parties that start to wait and those that are
served. -/
inductive Transfer : Stock Party Block → List Party → List Party →
    Stock Party Block → Prop where
  | idle {stock} : Transfer stock [] [] stock
  | take {block free owned waiters} :
      Transfer ⟨block :: free, owned, waiters⟩ [] []
        ⟨free, owned ++ [block], waiters⟩
  | wait {owned waiters party} :
      Transfer ⟨[], owned, waiters⟩ [party] []
        ⟨[], owned, waiters ++ [party]⟩
  | pass {free owned block party waiters} (owns : block ∈ owned) :
      Transfer ⟨free, owned, party :: waiters⟩ [] [party]
        ⟨free, owned.erase block ++ [block], waiters⟩
  | giveBack {free owned block} (owns : block ∈ owned) :
      Transfer ⟨free, owned, []⟩ [] [] ⟨block :: free, owned.erase block, []⟩

theorem Transfer.sound (sound : Sound blocks before)
    (transfer : Transfer before joined served after) :
    Sound blocks after := by
  obtain ⟨partition, needy⟩ := sound
  cases transfer with
  | idle => exact ⟨partition, needy⟩
  | @take block free owned waiters =>
      refine ⟨?_, fun some => absurd (needy some) (by simp)⟩
      have swap : ((free ++ owned) ++ [block]).Perm
          ([block] ++ (free ++ owned)) := List.perm_append_comm
      refine List.Perm.trans ?_ partition
      simpa using swap
  | wait => exact ⟨partition, fun _ => rfl⟩
  | @pass free owned block party waiters owns =>
      refine ⟨List.Perm.trans ?_ partition, fun _ => needy (by simp)⟩
      have swap : (owned.erase block ++ [block]).Perm
          ([block] ++ owned.erase block) := List.perm_append_comm
      exact List.Perm.append_left free
        (swap.trans (List.perm_cons_erase owns).symm)
  | @giveBack free owned block owns =>
      refine ⟨List.Perm.trans ?_ partition, by simp⟩
      have middle : (free ++ block :: owned.erase block).Perm
          (block :: (free ++ owned.erase block)) := List.perm_middle
      exact middle.symm.trans
        (List.Perm.append_left free (List.perm_cons_erase owns).symm)

/-- The parties are served in the order in which they started to wait. -/
theorem Transfer.order (transfer : Transfer before joined served after) :
    before.waiters ++ joined = served ++ after.waiters := by
  cases transfer <;> simp

/-- Runs of transitions. -/
inductive Run (start : Stock Party Block) :
    List Party → List Party → Stock Party Block → Prop where
  | start : Run start [] [] start
  | next {joined served joined' served' before after}
      (run : Run start joined served before)
      (transfer : Transfer before joined' served' after) :
      Run start (joined ++ joined') (served ++ served') after

/-- Along a run the parties are served in order. -/
theorem Run.order {start : Stock Party Block} (idle : start.waiters = [])
    (run : Run start joined served after) :
    joined = served ++ after.waiters := by
  induction run with
  | start => simp [idle]
  | @next joined served joined' served' before after _ transfer ih =>
      calc
        joined ++ joined' = served ++ (before.waiters ++ joined') := by
          rw [ih, List.append_assoc]
        _ = served ++ (served' ++ after.waiters) := by rw [transfer.order]
        _ = served ++ served' ++ after.waiters := by rw [List.append_assoc]

end Stock

end UsbBulk
