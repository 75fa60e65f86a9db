import KernelLaunch.Proofs.Descriptor.Acceptance
import KernelLaunch.Proofs.Grid.Canonical

/-!
# The grid of a call

Of its grid an assembly uses the normal form alone. So a grid can be declared in every
form that has this normal form, and the call is the same, as is the cause if there is no
call; this goes for a grid that is too long along an axis as well.
-/

namespace KernelLaunch

variable {V : Type}

/-- Assembling a call depends on the normal form of the grid. -/
theorem Assembly.assemble_congr_grid (assembly : Assembly V) {grid : Grid}
    (hnormal : grid.normalize = assembly.grid.normalize) :
    { assembly with grid }.assemble = assembly.assemble := by
  simp only [assemble, hnormal]
  rfl

/-- An assembly fails for the length of its grid along an axis exactly if the grid has a
normal form that is too long along this axis and along none before it. The axis is shown
with its letter. -/
theorem Assembly.assemble_eq_axisOverflow_iff {assembly : Assembly V} {axis : Axis}
    {size : UInt32} :
    assembly.assemble = .error (.axisOverflow axis size) ↔
      ∃ extent index letter, assembly.grid.normalize = .ok extent ∧
        IsFirst (fun size => 2147483647 < size.toNat) extent.toList index size ∧
        [Axis.x, .y, .z][index]? = some axis ∧ ["x", "y", "z"][index]? = some letter ∧
        (LoweringError.axisOverflow axis size).Shows .invalidGrid
          ("grid_" ++ letter ++ " = " ++ toString size.toNat ++ " overflows i32") := by
  constructor
  · intro herror
    have hdecide := assembly.decide_assemble
    rw [herror] at hdecide
    obtain ⟨requirement, hmem, htells⟩ := hdecide.exists_tells
    simp only [List.mem_cons, List.not_mem_nil, or_false] at hmem
    -- Outputs, module and metadata have causes of their own.
    obtain rfl | rfl | rfl | rfl := hmem
    · obtain (⟨_, htold, _⟩ | ⟨_, _, _, htold, _⟩) |
        ⟨hnormal, index, _, _, letter, hfirst, haxis, hletter, htold, hshows⟩ := htells
      · cases htold
      · cases htold
      · obtain ⟨hrank, hpositive⟩ := hnormal
        obtain ⟨rfl, rfl⟩ := LoweringError.axisOverflow.inj htold
        refine ⟨_, index, letter, Grid.normalize_eq_ok_iff.mpr ⟨hrank, hpositive, rfl⟩, ?_, haxis,
          hletter, hshows⟩
        rw [Extent.toList_padded hrank]
        exact hfirst.append _
    · obtain ⟨_, _, _, htold, _⟩ := htells
      cases htold
    · obtain ⟨_, _, htold, _⟩ := htells
      cases htold
    · obtain ⟨_, _, _, htold, _⟩ := htells
      cases htold
  · rintro ⟨extent, index, _, hnormal, hfirst, haxis, _⟩
    have hwords : extent.words = .error (.axisOverflow axis size) :=
      Extent.words_eq_error_iff.mpr ⟨index, size, axis, hfirst, haxis, rfl⟩
    simp only [assemble, hnormal, hwords, bind, Except.bind]

/-- A single number and the list of it are the same grid to an assembly. -/
theorem Assembly.assemble_scalar (assembly : Assembly V) (size : UInt32) :
    { assembly with grid := .scalar size }.assemble =
      { assembly with grid := .list [size] }.assemble := by
  have hnormal : (Grid.scalar size).normalize = (Grid.list [size]).normalize := rfl
  exact { assembly with grid := .list [size] }.assemble_congr_grid hnormal

/-- So are no size at all and two ones. -/
theorem Assembly.assemble_ones (assembly : Assembly V) :
    { assembly with grid := .list [] }.assemble =
      { assembly with grid := .list [1, 1] }.assemble := by
  have hnormal : (Grid.list []).normalize = (Grid.list [1, 1]).normalize := by decide
  exact { assembly with grid := .list [1, 1] }.assemble_congr_grid hnormal

/-- A grid has a normal form exactly if it has at most three axes and is empty along none;
too many axes are told before an empty one, and of the empty ones the first is told by its
index. Two grids have the same normal form exactly if they are the same without the ones
at their ends, and a normal form is its own. So an assembly comes to the same with either
of two such grids, as with a number and the list of it, or with no size and two ones. It
fails for a length exactly if the normal form has one that is too long, of which it tells
the first by the letter of its axis. -/
theorem Grid.canonical_normalize :
    (∀ grid : Grid, (∃ extent, grid.normalize = .ok extent) ↔
      grid.sizes.length ≤ 3 ∧ ∀ size ∈ grid.sizes, size ≠ 0) ∧
    (∀ (grid : Grid) (error : LoweringError), grid.normalize = .error error ↔
      (3 < grid.sizes.length ∧ error = .tooManyAxes grid.sizes ∧
        error.Shows .invalidGrid ("grid must have three or fewer dimensions, got " ++
          ("[" ++ ", ".intercalate (grid.sizes.map fun size => toString size.toNat) ++ "]"))) ∨
      (grid.sizes.length ≤ 3 ∧
        ∃ index, IsFirst (· = 0) grid.sizes index 0 ∧ error = .emptyAxis index ∧
          error.Shows .invalidGrid ("grid[" ++ toString index ++ "] = 0, must be positive"))) ∧
    (∀ (a b : Grid) (x y : Extent UInt32), a.normalize = .ok x → b.normalize = .ok y →
      (x = y ↔ a.trimmed = b.trimmed)) ∧
    (∀ extent : Extent UInt32, (∃ grid : Grid, grid.normalize = .ok extent) ↔
      (Grid.list extent.toList).normalize = .ok extent) ∧
    (∀ (V : Type) (assembly : Assembly V) (grid : Grid),
      (∃ extent, assembly.grid.normalize = .ok extent) →
      (∃ extent, grid.normalize = .ok extent) → grid.trimmed = assembly.grid.trimmed →
      { assembly with grid }.assemble = assembly.assemble) ∧
    (∀ (V : Type) (assembly : Assembly V),
      (∀ size, { assembly with grid := .scalar size }.assemble =
        { assembly with grid := .list [size] }.assemble) ∧
      { assembly with grid := .list [] }.assemble =
        { assembly with grid := .list [1, 1] }.assemble) ∧
    ∀ (V : Type) (assembly : Assembly V) (axis : Axis) (size : UInt32),
      assembly.assemble = .error (.axisOverflow axis size) ↔
        ∃ extent index letter, assembly.grid.normalize = .ok extent ∧
          IsFirst (fun size => 2147483647 < size.toNat) extent.toList index size ∧
          [Axis.x, .y, .z][index]? = some axis ∧ ["x", "y", "z"][index]? = some letter ∧
          (LoweringError.axisOverflow axis size).Shows .invalidGrid
            ("grid_" ++ letter ++ " = " ++ toString size.toNat ++ " overflows i32") := by
  refine ⟨fun grid => ?_, fun grid error => normalize_eq_error_iff,
    fun a b x y ha hb => normal_eq_iff ha hb, fun extent => ⟨?_, fun hself => ⟨_, hself⟩⟩,
    ?_, fun V assembly => ⟨assembly.assemble_scalar, assembly.assemble_ones⟩,
    fun V assembly axis size => Assembly.assemble_eq_axisOverflow_iff⟩
  · constructor
    · rintro ⟨extent, hextent⟩
      obtain ⟨hrank, hpositive, _⟩ := normalize_eq_ok_iff.mp hextent
      exact ⟨hrank, hpositive⟩
    · rintro ⟨hrank, hpositive⟩
      exact ⟨_, normalize_eq_ok_iff.mpr ⟨hrank, hpositive, rfl⟩⟩
  · rintro ⟨grid, hgrid⟩
    exact normalize_toList hgrid
  · rintro V assembly grid ⟨x, hx⟩ ⟨y, hy⟩ htrimmed
    apply assembly.assemble_congr_grid
    rw [hx, hy, (normal_eq_iff hy hx).mpr htrimmed]

/-- A grid of two axes, the second of them too long, and the same grid with its third axis
written out: they have one normal form, and both times the second axis is told. Without
its second axis the grid has another normal form. Of two empty axes the first is told, and
of four axes that there are too many. -/
theorem Grid.canonical_long_axis :
    let assembly : Assembly Nat :=
      { name := "kernel"
        module := ⟨⟨[], none⟩, ""⟩
        grid := .list [2, 4294967295]
        tuning := ⟨4, 3⟩
        params := .empty
        debug := false
        operands := []
        outShapes := []
        operandShapes := []
        resultShapes := []
        aliases := [] }
    let written : Grid := .list [2, 4294967295, 1]
    (∃ extent, assembly.grid.normalize = .ok extent) ∧
      (∃ extent, written.normalize = .ok extent) ∧
      written.trimmed = assembly.grid.trimmed ∧
      { assembly with grid := written }.assemble = assembly.assemble ∧
      assembly.assemble = .error (.axisOverflow .y 4294967295) ∧
      (LoweringError.axisOverflow .y 4294967295).Shows .invalidGrid
        "grid_y = 4294967295 overflows i32" ∧
      written.normalize = .ok ⟨2, 4294967295, 1⟩ ∧ (scalar 2).normalize = .ok ⟨2, 1, 1⟩ ∧
      written.trimmed ≠ (scalar 2).trimmed ∧
      (list [3, 0, 0]).normalize = .error (.emptyAxis 1) ∧
      (LoweringError.emptyAxis 1).Shows .invalidGrid "grid[1] = 0, must be positive" ∧
      (list [0, 1, 1, 1]).normalize = .error (.tooManyAxes [0, 1, 1, 1]) ∧
      (LoweringError.tooManyAxes [0, 1, 1, 1]).Shows .invalidGrid
        "grid must have three or fewer dimensions, got [0, 1, 1, 1]" := by
  intro assembly written
  have hshort : assembly.grid.normalize = .ok ⟨2, 4294967295, 1⟩ := rfl
  have hwritten : written.normalize = .ok ⟨2, 4294967295, 1⟩ := rfl
  have hscalar : (scalar 2).normalize = .ok ⟨2, 1, 1⟩ := rfl
  have htrimmed : written.trimmed = assembly.grid.trimmed := by decide
  obtain ⟨_, hrefused, hforms, _, hsame, _, hlong⟩ := canonical_normalize
  have hsecond : IsFirst (fun size : UInt32 => 2147483647 < size.toNat)
      [2, 4294967295, 1] 1 4294967295 := .cons (by decide) (.head [1] (by decide))
  have hempty : IsFirst (fun size : UInt32 => size = 0) [3, 0, 0] 1 0 :=
    .cons (by decide) (.head [0] rfl)
  have hshowsLong : (LoweringError.axisOverflow .y 4294967295).Shows .invalidGrid
      "grid_y = 4294967295 overflows i32" := ⟨rfl, by decide⟩
  have hshowsEmpty : (LoweringError.emptyAxis 1).Shows .invalidGrid
      "grid[1] = 0, must be positive" := ⟨rfl, by decide⟩
  have hshowsMany : (LoweringError.tooManyAxes [0, 1, 1, 1]).Shows .invalidGrid
      "grid must have three or fewer dimensions, got [0, 1, 1, 1]" := ⟨rfl, by decide⟩
  refine ⟨⟨_, hshort⟩, ⟨_, hwritten⟩, htrimmed,
    hsame Nat assembly written ⟨_, hshort⟩ ⟨_, hwritten⟩ htrimmed,
    (hlong Nat assembly _ _).mpr ⟨_, 1, "y", hshort, hsecond, rfl, rfl, hshowsLong⟩, hshowsLong,
    hwritten, hscalar, fun hequal => ?_,
    (hrefused _ _).mpr (.inr ⟨by decide, 1, hempty, rfl, hshowsEmpty⟩), hshowsEmpty,
    (hrefused _ _).mpr (.inl ⟨by decide, rfl, hshowsMany⟩), hshowsMany⟩
  have hextent := (hforms _ _ _ _ hwritten hscalar).mpr hequal
  exact absurd hextent (by decide)

end KernelLaunch
