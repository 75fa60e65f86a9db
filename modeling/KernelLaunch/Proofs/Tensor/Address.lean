import KernelLaunch.Tensor.Layout
import Mathlib.Data.List.Forall2
import Mathlib.Tactic.Ring

/-!
# Where the entries of an array lie

A layout gives each entry of an array its place in memory. It is walked from its first
dimension on, and neighbours along a dimension lie as far apart as the dimensions walked
before it have entries together. Walked along its row-major layout an array has its
entries at their row-major offsets, and these are the places from 0 on, each of them
taken once.
-/

namespace KernelLaunch

namespace Shape

/-- A list of numbers is the index of an entry: there is one number for each dimension,
and it is below the length. -/
def Contains (shape : Shape) (index : List Nat) : Prop :=
  List.Forall₂ (· < ·) index shape.lengths

/-- The number of entries of an array. -/
def size (shape : Shape) : Nat :=
  shape.lengths.prod

/-- The offset that the numbers of an index lead to from an offset: along each dimension
the offset so far is multiplied by the length and the number is added. -/
def offsetFrom (start : Nat) : List Nat → List Nat → Nat
  | number :: index, length :: lengths => offsetFrom (start * length + number) index lengths
  | _, _ => start

/-- The row-major offset of an index. -/
def offset (shape : Shape) (index : List Nat) : Nat :=
  offsetFrom 0 index shape.lengths

end Shape

namespace Layout

/-- How far a walk along a layout has come. -/
structure Reach where
  /-- The place of the entry among those that differ in the walked dimensions alone. -/
  place : Nat
  /-- The distance of neighbours along the next dimension. -/
  stride : Nat
  deriving DecidableEq

/-- Walks along one more dimension. There has to be such a dimension. -/
def Reach.along (lengths index : List Nat) (reach : Reach) (dimension : Nat) :
    Option Reach := do
  let number ← index[dimension]?
  let length ← lengths[dimension]?
  return ⟨reach.place + number * reach.stride, reach.stride * length⟩

/-- Walks a layout from its first dimension on. -/
def walk (layout : Layout) (shape : Shape) (index : List Nat) : Option Reach :=
  layout.foldlM (Reach.along shape.lengths index) ⟨0, 1⟩

/-- A layout stores an array in row-major order. -/
structure StoresRowMajor (layout : Layout) (shape : Shape) : Prop where
  /-- Each dimension of the array is listed once. -/
  perm : layout.Perm (List.range shape.rank)
  /-- The walk for an entry comes to its row-major offset, and it has then taken in as
  many entries as there are. -/
  walk : ∀ index, shape.Contains index →
    layout.walk shape index = some ⟨shape.offset index, shape.size⟩
  /-- All offsets are below the number of entries. -/
  below : ∀ index, shape.Contains index → shape.offset index < shape.size
  /-- Different entries have different offsets. -/
  distinct : ∀ a b, shape.Contains a → shape.Contains b → a ≠ b →
    shape.offset a ≠ shape.offset b
  /-- No place below the number of entries is left free. -/
  filled : ∀ place < shape.size, ∃ index, shape.Contains index ∧ shape.offset index = place

end Layout

variable {lengths index : List Nat}

namespace Shape

/-- The start of an offset is multiplied by all lengths. -/
theorem offsetFrom_eq (hindex : List.Forall₂ (· < ·) index lengths) (start : Nat) :
    offsetFrom start index lengths = start * lengths.prod + offsetFrom 0 index lengths := by
  induction hindex generalizing start with
  | nil => simp [offsetFrom]
  | @cons number length index lengths _ _ ih =>
    rw [offsetFrom, ih, offsetFrom, ih (0 * length + number), List.prod_cons]
    ring

/-- Neighbours along the outermost dimension lie as far apart as the other dimensions have
entries. -/
theorem offsetFrom_zero_cons (hindex : List.Forall₂ (· < ·) index lengths)
    (number length : Nat) :
    offsetFrom 0 (number :: index) (length :: lengths) =
      number * lengths.prod + offsetFrom 0 index lengths := by
  rw [offsetFrom, offsetFrom_eq hindex, Nat.zero_mul, Nat.zero_add]

/-- The offset of an entry is below the number of entries. -/
theorem offsetFrom_zero_lt (hindex : List.Forall₂ (· < ·) index lengths) :
    offsetFrom 0 index lengths < lengths.prod := by
  induction hindex with
  | nil => simp [offsetFrom]
  | @cons number length index lengths hnumber hindex ih =>
    rw [offsetFrom_zero_cons hindex, List.prod_cons]
    calc number * lengths.prod + offsetFrom 0 index lengths
        < (number + 1) * lengths.prod := by rw [Nat.succ_mul]; omega
      _ ≤ length * lengths.prod := Nat.mul_le_mul_right _ hnumber

/-- A place along the outermost dimension and one among the other dimensions can be told
from the place that they make together. -/
theorem mul_add_inj {size number number' place place' : Nat} (hplace : place < size)
    (hplace' : place' < size) (heq : number * size + place = number' * size + place') :
    number = number' ∧ place = place' := by
  have hpos : 0 < size := by omega
  have hsplit : (number' * size + place') / size = number ∧
      (number' * size + place') % size = place :=
    (Nat.div_mod_unique hpos).mpr ⟨by rw [← heq, Nat.add_comm, Nat.mul_comm], hplace⟩
  have hsplit' : (number' * size + place') / size = number' ∧
      (number' * size + place') % size = place' :=
    (Nat.div_mod_unique hpos).mpr ⟨by rw [Nat.add_comm, Nat.mul_comm], hplace'⟩
  exact ⟨hsplit.1.symm.trans hsplit'.1, hsplit.2.symm.trans hsplit'.2⟩

/-- Entries at the same offset are the same. -/
theorem offsetFrom_zero_inj {index' : List Nat} (hindex : List.Forall₂ (· < ·) index lengths)
    (hindex' : List.Forall₂ (· < ·) index' lengths)
    (hoffset : offsetFrom 0 index lengths = offsetFrom 0 index' lengths) : index = index' := by
  induction hindex generalizing index' with
  | nil =>
    cases hindex'
    rfl
  | cons hnumber hindex ih =>
    cases hindex' with
    | cons hnumber' hindex' =>
      rw [offsetFrom_zero_cons hindex, offsetFrom_zero_cons hindex'] at hoffset
      obtain ⟨rfl, hrest⟩ := mul_add_inj (offsetFrom_zero_lt hindex)
        (offsetFrom_zero_lt hindex') hoffset
      rw [ih hindex' hrest]

/-- Every place below the number of entries is the offset of one. -/
theorem exists_offsetFrom_zero_eq {place : Nat} (hplace : place < lengths.prod) :
    ∃ index, List.Forall₂ (· < ·) index lengths ∧ offsetFrom 0 index lengths = place := by
  induction lengths generalizing place with
  | nil =>
    obtain rfl : place = 0 := by simpa using hplace
    exact ⟨[], .nil, rfl⟩
  | cons length lengths ih =>
    rw [List.prod_cons] at hplace
    have hpos : 0 < lengths.prod := Nat.pos_of_mul_pos_left (Nat.zero_lt_of_lt hplace)
    obtain ⟨index, hindex, hoffset⟩ := ih (Nat.mod_lt place hpos)
    refine ⟨place / lengths.prod :: index, .cons ?_ hindex, ?_⟩
    · exact Nat.div_lt_of_lt_mul (by rwa [Nat.mul_comm])
    · rw [offsetFrom_zero_cons hindex, hoffset, Nat.mul_comm]
      exact Nat.div_add_mod place lengths.prod

end Shape

namespace Layout

/-- The outermost dimension is walked last. -/
theorem rowMajor_succ_eq_map (rank : Nat) :
    rowMajor (rank + 1) = (rowMajor rank).map (· + 1) ++ [0] := by
  simp [rowMajor, List.range_succ_eq_map, ← List.map_reverse]

/-- The inner dimensions are walked as if there were no outermost one. -/
theorem foldlM_along_map (number length : Nat) (layout : List Nat) (reach : Reach) :
    (layout.map (· + 1)).foldlM (Reach.along (length :: lengths) (number :: index)) reach =
      layout.foldlM (Reach.along lengths index) reach := by
  rw [List.foldlM_map]
  rfl

/-- Walked along the row-major layout of its array, every index leads to its row-major
offset and every array to the number of its entries. -/
theorem foldlM_along_rowMajor (hindex : List.Forall₂ (· < ·) index lengths) :
    (rowMajor lengths.length).foldlM (Reach.along lengths index) ⟨0, 1⟩ =
      some ⟨Shape.offsetFrom 0 index lengths, lengths.prod⟩ := by
  -- The offset starts from the outermost dimension and the walk ends with it. So the walk
  -- of the inner dimensions is complete before its numbers meet the outermost one.
  induction hindex with
  | nil => rfl
  | @cons number length index lengths _ hindex ih =>
    rw [List.length_cons, rowMajor_succ_eq_map, List.foldlM_append, foldlM_along_map, ih,
      Shape.offsetFrom_zero_cons hindex, List.prod_cons]
    simp [Reach.along, Nat.add_comm, Nat.mul_comm]

/-- The row-major layout of a number of dimensions stores every array that has so many. -/
theorem storesRowMajor_rowMajor (shape : Shape) : (rowMajor shape.rank).StoresRowMajor shape where
  perm := List.reverse_perm _
  walk _ hindex := foldlM_along_rowMajor hindex
  below _ hindex := Shape.offsetFrom_zero_lt hindex
  distinct _ _ ha hb hne hoffset := hne (Shape.offsetFrom_zero_inj ha hb hoffset)
  filled _ hplace := Shape.exists_offsetFrom_zero_eq hplace

/-- Every array is stored in row-major order by the layout that counts its dimensions down,
and of a list of arrays each one has this layout, in order. -/
theorem storesRowMajor_ofShapes :
    (∀ shape : Shape, (rowMajor shape.rank).StoresRowMajor shape) ∧
      ∀ shapes : List Shape, List.Forall₂
        (fun layout shape => layout = rowMajor shape.rank ∧ StoresRowMajor layout shape)
        (ofShapes shapes) shapes := by
  refine ⟨storesRowMajor_rowMajor, fun shapes => ?_⟩
  rw [ofShapes, List.forall₂_map_left_iff, List.forall₂_same]
  exact fun shape _ => ⟨rfl, storesRowMajor_rowMajor shape⟩

/-- The last of 24 entries lies at the last place. -/
example : (rowMajor 3).walk ⟨.bool, [2, 3, 4]⟩ [1, 2, 3] = some ⟨23, 24⟩ := by decide

/-- Walked the other way round, neighbours along the outermost dimension lie side by side. -/
example : walk [0, 1] ⟨.bool, [2, 3]⟩ [1, 0] = some ⟨1, 6⟩ ∧
    walk (rowMajor 2) ⟨.bool, [2, 3]⟩ [1, 0] = some ⟨3, 6⟩ := by decide

end Layout

end KernelLaunch
