import Mathlib.Data.List.Basic
import Mathlib.Logic.Function.Basic
import Mathlib.Tactic.SplitIfs

/-!
# Ring buffers with two counters

A buffer of `size` cells is read at `tail` and written at `header`; both
counters wrap at `size`.  Equal counters mean an empty buffer, so at most
`size - 1` cells are ever in use.  The lemmas give the sequence of elements a
pair of counters stands for, and what one write and one read do to it.
-/

namespace UsbBulk

namespace RingBuffer

variable {α : Type} {size tail header : Int}

/-- The counter after `counter`. -/
def advance (size counter : Int) : Int :=
  if counter + 1 ≥ size then 0 else counter + 1

/-- The position `offset` cells after `counter`, wrapped once. -/
def position (size counter offset : Int) : Int :=
  if counter + offset < size then counter + offset
  else counter + offset - size

/-- The number of cells in use. -/
def used (size tail header : Int) : Int :=
  if tail ≤ header then header - tail else header - tail + size

/-- The elements in the order they will be read. -/
def contents (cells : Int → α) (size tail header : Int) : List α :=
  (List.range (used size tail header).toNat).map fun offset : Nat =>
    cells (position size tail offset)

/-- Both counters are positions of the buffer. -/
structure Bounded (size tail header : Int) : Prop where
  tail_nonneg : 0 ≤ tail
  tail_lt : tail < size
  header_nonneg : 0 ≤ header
  header_lt : header < size

theorem Bounded.initial (positive : 0 < size) : Bounded size 0 0 :=
  ⟨by omega, positive, by omega, positive⟩

theorem Bounded.advance_header (bounded : Bounded size tail header) :
    Bounded size tail (advance size header) := by
  obtain ⟨_, _, _, _⟩ := bounded
  unfold advance
  constructor <;> (try split) <;> omega

theorem Bounded.advance_tail (bounded : Bounded size tail header) :
    Bounded size (advance size tail) header := by
  obtain ⟨_, _, _, _⟩ := bounded
  unfold advance
  constructor <;> (try split) <;> omega

theorem Bounded.used_nonneg (bounded : Bounded size tail header) :
    0 ≤ used size tail header := by
  obtain ⟨_, _, _, _⟩ := bounded
  unfold used
  split <;> omega

theorem Bounded.used_lt (bounded : Bounded size tail header) :
    used size tail header < size := by
  obtain ⟨_, _, _, _⟩ := bounded
  unfold used
  split <;> omega

theorem Bounded.length_contents (bounded : Bounded size tail header)
    (cells : Int → α) :
    ((contents cells size tail header).length : Int) =
      used size tail header := by
  have nonneg := bounded.used_nonneg
  simp only [contents, List.length_map, List.length_range]
  omega

/-- The two-case test for a full buffer. -/
theorem Bounded.full_iff (bounded : Bounded size tail header) :
    ((tail = 0 ∧ header = size - 1) ∨ header = tail - 1) ↔
      used size tail header = size - 1 := by
  obtain ⟨_, _, _, _⟩ := bounded
  unfold used
  constructor
  · intro full
    split <;> omega
  · split <;> omega

theorem Bounded.empty_iff (bounded : Bounded size tail header)
    (cells : Int → α) :
    tail = header ↔ contents cells size tail header = [] := by
  have length := bounded.length_contents cells
  obtain ⟨_, _, _, _⟩ := bounded
  rw [← List.length_eq_zero_iff]
  unfold used at length
  constructor
  · intro equal
    split at length <;> omega
  · intro empty
    split at length <;> omega

@[simp] theorem contents_initial (cells : Int → α) (size counter : Int) :
    contents cells size counter counter = [] := by
  simp [contents, used]

/-- A write at the header of a buffer that is not full appends. -/
theorem Bounded.contents_write (bounded : Bounded size tail header)
    (cells : Int → α) (item : α)
    (notFull : used size tail header ≠ size - 1) :
    contents (Function.update cells header item) size tail
        (advance size header) =
      contents cells size tail header ++ [item] := by
  have nonneg := bounded.used_nonneg
  have below := bounded.used_lt
  have grows : (used size tail (advance size header)).toNat =
      (used size tail header).toNat + 1 := by
    obtain ⟨_, _, _, _⟩ := bounded
    unfold used advance at *
    split at notFull <;> split <;> split <;> omega
  have last : position size tail (used size tail header).toNat = header := by
    obtain ⟨_, _, _, _⟩ := bounded
    unfold position used at *
    split at nonneg <;> split <;> omega
  have kept : ∀ offset ∈ List.range (used size tail header).toNat,
      Function.update cells header item (position size tail offset) =
        cells (position size tail offset) := by
    intro offset member
    rw [List.mem_range] at member
    refine Function.update_of_ne ?_ _ _
    obtain ⟨_, _, _, _⟩ := bounded
    unfold position used at *
    split at member <;> split <;> omega
  simp only [contents, grows, List.range_succ, List.map_append,
    List.map_cons, List.map_nil, last, Function.update_self]
  rw [List.map_congr_left kept]

/-- A read at the tail of a buffer that is not empty takes the first
element. -/
theorem Bounded.contents_read (bounded : Bounded size tail header)
    (cells : Int → α) (notEmpty : tail ≠ header) :
    contents cells size tail header =
      cells tail :: contents cells size (advance size tail) header := by
  have shrinks : (used size tail header).toNat =
      (used size (advance size tail) header).toNat + 1 := by
    obtain ⟨_, _, _, _⟩ := bounded
    unfold used advance
    split_ifs <;> omega
  have first : position size tail (0 : Nat) = tail := by
    obtain ⟨_, _, _, _⟩ := bounded
    unfold position
    split <;> omega
  simp only [contents, shrinks, List.range_succ_eq_map, List.map_cons,
    List.map_map, first, List.cons.injEq, true_and]
  refine List.map_congr_left fun offset member => ?_
  rw [List.mem_range] at member
  simp only [Function.comp_apply]
  congr 1
  obtain ⟨_, _, _, _⟩ := bounded
  unfold position used advance at *
  split at member <;> split <;> split <;> omega

end RingBuffer

end UsbBulk
