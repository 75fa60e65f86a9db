import KernelLaunch.Grid.Mapping
import KernelLaunch.Proofs.Requirement

/-!
# When a grid is accepted

A grid is normalized twice on its way to a launch. The declared grid only has to
have a normal form; the grid that the compiler returns also has to fit into
signed 32-bit words. Both are requirements on the declared sizes alone, since the
padding is neither empty nor too long.
-/

namespace KernelLaunch

namespace Requirement

/-- A grid has at most three axes and is empty along none of them. -/
def normalGrid (grid : Grid) : Requirement where
  holds := grid.sizes.length ≤ 3 ∧ ∀ size ∈ grid.sizes, size ≠ 0
  tells error :=
    (3 < grid.sizes.length ∧ error = .tooManyAxes grid.sizes ∧
      error.Shows .invalidGrid ("grid must have three or fewer dimensions, got " ++
        ("[" ++ ", ".intercalate (grid.sizes.map fun size => toString size.toNat) ++ "]"))) ∨
    (grid.sizes.length ≤ 3 ∧
      ∃ index, IsFirst (· = 0) grid.sizes index 0 ∧ error = .emptyAxis index ∧
        error.Shows .invalidGrid ("grid[" ++ toString index ++ "] = 0, must be positive"))

/-- A grid has at most three axes, is empty along none of them and too long for a
signed 32-bit word along none of them. The first axis that is too long is told,
but only of a grid that has a normal form. -/
def wordGrid (grid : Grid) : Requirement where
  holds := grid.sizes.length ≤ 3 ∧ ∀ size ∈ grid.sizes, size ≠ 0 ∧ size.toNat ≤ 2147483647
  tells error :=
    (normalGrid grid).tells error ∨
    ((normalGrid grid).holds ∧ ∃ index size axis letter,
      IsFirst (fun size => 2147483647 < size.toNat) grid.sizes index size ∧
      [Axis.x, .y, .z][index]? = some axis ∧ ["x", "y", "z"][index]? = some letter ∧
      error = .axisOverflow axis size ∧ error.Shows .invalidGrid
        ("grid_" ++ letter ++ " = " ++ toString size.toNat ++ " overflows i32"))

end Requirement

/-- A grid of too many axes is shown with its sizes. -/
theorem LoweringError.shows_tooManyAxes (sizes : List UInt32) :
    (tooManyAxes sizes).Shows .invalidGrid ("grid must have three or fewer dimensions, got " ++
      ("[" ++ ", ".intercalate (sizes.map fun size => toString size.toNat) ++ "]")) := by
  rw [← Text.bracketed_eq_intercalate]
  exact ⟨rfl, rfl⟩

/-- The axes have their letters in order. -/
theorem Axis.getElem?_letter {index : Nat} {axis : Axis}
    (haxis : [Axis.x, .y, .z][index]? = some axis) :
    ["x", "y", "z"][index]? = some axis.letter := by
  have hletters : ["x", "y", "z"] = [Axis.x, .y, .z].map letter := rfl
  rw [hletters, List.getElem?_map, haxis, Option.map_some]

/-- Normalizing a grid is decided by whether it has a normal form. -/
theorem Grid.decide_normalize (grid : Grid) :
    Requirement.Decide [.normalGrid grid] grid.normalize := by
  apply Requirement.decide_singleton
  · rintro ⟨hrank, hpositive⟩
    exact ⟨_, normalize_eq_ok_iff.mpr ⟨hrank, hpositive, rfl⟩⟩
  · intro hviolated
    by_cases hrank : 3 < grid.sizes.length
    · have hshows := LoweringError.shows_tooManyAxes grid.sizes
      exact ⟨_, Or.inl ⟨hrank, rfl, hshows⟩, by simp only [normalize, if_pos hrank]⟩
    · cases hempty : grid.sizes.findIdx? (· = 0) with
      | none =>
        refine absurd ⟨by omega, fun size hmem => ?_⟩ hviolated
        simpa using List.findIdx?_eq_none_iff.mp hempty size hmem
      | some index =>
        obtain ⟨size, hfirst⟩ := isFirst_of_findIdx? hempty
        obtain rfl : size = 0 := hfirst.2.1
        exact ⟨_, Or.inr ⟨by omega, index, hfirst, rfl, rfl, rfl⟩, by
          simp only [normalize, if_neg hrank, hempty]⟩

/-- A size is a signed word exactly if it is small enough, and it keeps its
value. -/
theorem Axis.word_eq_ok_iff {axis : Axis} {size : UInt32} {word : Int32} :
    axis.word size = .ok word ↔ size.toNat ≤ 2147483647 ∧ word = .ofNat size.toNat := by
  by_cases hsize : size.toNat ≤ 2147483647
  · simp [Axis.word, hsize, eq_comm]
  · simp [Axis.word, hsize]

/-- The sizes along all axes are signed words exactly if each of them is small
enough, and they keep their values. -/
theorem Extent.words_eq_ok_iff {extent : Extent UInt32} {signed : Extent Int32} :
    extent.words = .ok signed ↔
      (∀ size ∈ extent.toList, size.toNat ≤ 2147483647) ∧
        signed = ⟨.ofNat extent.x.toNat, .ofNat extent.y.toNat, .ofNat extent.z.toNat⟩ := by
  simp only [Extent.words, bind_eq_ok_iff, Axis.word_eq_ok_iff]
  constructor
  · rintro ⟨_, ⟨hx, rfl⟩, _, ⟨hy, rfl⟩, _, ⟨hz, rfl⟩, hsigned⟩
    exact ⟨by simp [Extent.toList, hx, hy, hz], (Except.ok.inj hsigned).symm⟩
  · rintro ⟨hsmall, rfl⟩
    simp only [Extent.toList, List.forall_mem_cons] at hsmall
    obtain ⟨hx, hy, hz, _⟩ := hsmall
    exact ⟨_, ⟨hx, rfl⟩, _, ⟨hy, rfl⟩, _, ⟨hz, rfl⟩, rfl⟩

/-- Of the sizes that are no signed words, the first is told with its axis. -/
theorem Extent.words_error {extent : Extent UInt32}
    (hlong : ¬∀ size ∈ extent.toList, size.toNat ≤ 2147483647) :
    ∃ index size axis, IsFirst (fun size => 2147483647 < size.toNat) extent.toList index size ∧
      [Axis.x, .y, .z][index]? = some axis ∧ extent.words = .error (.axisOverflow axis size) := by
  obtain ⟨x, y, z⟩ := extent
  simp only [Extent.toList] at hlong ⊢
  by_cases hx : x.toNat ≤ 2147483647
  · by_cases hy : y.toNat ≤ 2147483647
    · have hz : ¬z.toNat ≤ 2147483647 := by
        intro hz
        exact hlong (by simp [hx, hy, hz])
      refine ⟨2, z, .z, ?_, rfl, ?_⟩
      · exact .cons (by omega) (.cons (by omega) (.head [] (by omega)))
      · simp [Extent.words, Axis.word, hx, hy, hz, bind, Except.bind]
    · refine ⟨1, y, .y, ?_, rfl, ?_⟩
      · exact .cons (by omega) (.head [z] (by omega))
      · simp [Extent.words, Axis.word, hx, hy, bind, Except.bind]
  · refine ⟨0, x, .x, .head [y, z] (by omega), rfl, ?_⟩
    simp [Extent.words, Axis.word, hx, bind, Except.bind]

/-- The sizes along all axes are no signed words exactly if some size is too long, and the
first such size is told with its axis. -/
theorem Extent.words_eq_error_iff {extent : Extent UInt32} {error : LoweringError} :
    extent.words = .error error ↔
      ∃ index size axis, IsFirst (fun size => 2147483647 < size.toNat) extent.toList index size ∧
        [Axis.x, .y, .z][index]? = some axis ∧ error = .axisOverflow axis size := by
  constructor
  · intro herror
    have hlong : ¬∀ size ∈ extent.toList, size.toNat ≤ 2147483647 := fun hsmall =>
      absurd (herror.symm.trans (words_eq_ok_iff.mpr ⟨hsmall, rfl⟩)) (by simp)
    obtain ⟨index, size, axis, hfirst, haxis, htold⟩ := words_error hlong
    exact ⟨index, size, axis, hfirst, haxis, Except.error.inj (herror.symm.trans htold)⟩
  · rintro ⟨index, size, axis, hfirst, haxis, rfl⟩
    have hlong : ¬∀ size ∈ extent.toList, size.toNat ≤ 2147483647 := fun hsmall =>
      absurd (hsmall size (List.mem_of_getElem? hfirst.1)) (Nat.not_le_of_lt hfirst.2.1)
    obtain ⟨_, _, axis', hfirst', haxis', htold⟩ := words_error hlong
    obtain ⟨rfl, rfl⟩ := hfirst.unique hfirst'
    obtain rfl : axis = axis' := Option.some.inj (haxis.symm.trans haxis')
    exact htold

/-- What holds of the size 1 holds of all padded sizes exactly if it holds of the declared
ones. -/
theorem forall_mem_padded_iff {p : UInt32 → Prop} {sizes : List UInt32}
    (hrank : sizes.length ≤ 3) (hone : p 1) :
    (∀ size ∈ (Extent.padded sizes).toList, p size) ↔ ∀ size ∈ sizes, p size := by
  rw [Extent.toList_padded hrank]
  constructor
  · intro hall size hmem
    exact hall size (List.mem_append_left _ hmem)
  · intro hall size hmem
    rcases List.mem_append.mp hmem with hdeclared | hpadding
    · exact hall size hdeclared
    · rwa [List.eq_of_mem_replicate hpadding]

/-- Normalizing a grid and taking its sizes as signed words is decided by its
declared sizes. -/
theorem Grid.decide_words (grid : Grid) :
    Requirement.Decide [.wordGrid grid] (do (← grid.normalize).words) := by
  apply Requirement.decide_singleton
  · rintro ⟨hrank, hsizes⟩
    have hnormal := normalize_eq_ok_iff.mpr ⟨hrank, fun size hmem => (hsizes size hmem).1, rfl⟩
    have hsmall : ∀ size ∈ (Extent.padded grid.sizes).toList, size.toNat ≤ 2147483647 :=
      (forall_mem_padded_iff hrank (by decide)).mpr fun size hmem => (hsizes size hmem).2
    exact ⟨_, bind_eq_ok_iff.mpr ⟨_, hnormal, Extent.words_eq_ok_iff.mpr ⟨hsmall, rfl⟩⟩⟩
  · intro hviolated
    by_cases hholds : (Requirement.normalGrid grid).holds
    · obtain ⟨hrank, hpositive⟩ := hholds
      have hnormal := normalize_eq_ok_iff.mpr ⟨hrank, hpositive, rfl⟩
      have hlong : ¬∀ size ∈ (Extent.padded grid.sizes).toList, size.toNat ≤ 2147483647 := by
        intro hsmall
        have hle : ∀ size ∈ grid.sizes, size.toNat ≤ 2147483647 :=
          (forall_mem_padded_iff hrank (by decide)).mp hsmall
        exact hviolated ⟨hrank, fun size hmem => ⟨hpositive size hmem, hle size hmem⟩⟩
      obtain ⟨index, size, axis, hfirst, haxis, herror⟩ := Extent.words_error hlong
      rw [Extent.toList_padded hrank] at hfirst
      have hdeclared := hfirst.of_append fun one hone => by
        rw [List.eq_of_mem_replicate hone]
        decide
      refine ⟨_, Or.inr ⟨⟨hrank, hpositive⟩, index, size, axis, axis.letter, hdeclared, haxis,
        Axis.getElem?_letter haxis, rfl, rfl, rfl⟩, ?_⟩
      rw [hnormal]
      exact herror
    · obtain ⟨error, htells, herror⟩ := (grid.decide_normalize).error_of_not_holds hholds
      exact ⟨error, Or.inl htells, by rw [herror]; rfl⟩

/-- The words of a grid are its declared sizes, in order and with their values,
padded with 1. All of them are positive. -/
theorem Grid.toList_words {grid : Grid} {extent : Extent Int32}
    (hextent : (do (← grid.normalize).words) = .ok extent) :
    extent.toList.map (·.toInt) =
        grid.sizes.map (fun size => (size.toNat : Int)) ++
          List.replicate (3 - grid.sizes.length) 1 ∧
      ∀ word ∈ extent.toList, 1 ≤ word.toInt := by
  obtain ⟨padded, hnormal, hwords⟩ := bind_eq_ok_iff.mp hextent
  obtain ⟨hrank, hpositive, rfl⟩ := normalize_eq_ok_iff.mp hnormal
  obtain ⟨hsmall, rfl⟩ := Extent.words_eq_ok_iff.mp hwords
  have hvalues : ∀ size ∈ (Extent.padded grid.sizes).toList,
      (Int32.ofNat size.toNat).toInt = (size.toNat : Int) := by
    intro size hmem
    have hle := hsmall size hmem
    exact Int32.toInt_ofNat_of_lt (by omega)
  have hwordList : Extent.toList ⟨Int32.ofNat (Extent.padded grid.sizes).x.toNat,
      .ofNat (Extent.padded grid.sizes).y.toNat, .ofNat (Extent.padded grid.sizes).z.toNat⟩ =
      (Extent.padded grid.sizes).toList.map fun size => .ofNat size.toNat := rfl
  rw [hwordList]
  constructor
  · rw [List.map_map]
    calc (Extent.padded grid.sizes).toList.map (fun size => (Int32.ofNat size.toNat).toInt)
        = (Extent.padded grid.sizes).toList.map (fun size => (size.toNat : Int)) :=
          List.map_congr_left hvalues
      _ = _ := by
          rw [Extent.toList_padded hrank, List.map_append, List.map_replicate]
          rfl
  · intro word hmem
    obtain ⟨size, hsize, rfl⟩ := List.mem_map.mp hmem
    have hne : size ≠ 0 := (forall_mem_padded_iff hrank (by decide)).mpr hpositive size hsize
    have hnat : size.toNat ≠ 0 := fun hzero => hne (UInt32.toNat_inj.mp hzero)
    rw [hvalues size hsize]
    omega

end KernelLaunch
