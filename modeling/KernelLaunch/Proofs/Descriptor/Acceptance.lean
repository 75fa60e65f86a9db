import KernelLaunch.Descriptor.Assembly
import KernelLaunch.Proofs.Grid.Acceptance
import KernelLaunch.Proofs.Param.Acceptance

/-!
# When a call is assembled

Four things can keep a call from being assembled: the grid that the compiler
returned, an output without a tensor type, a fault while the module is written
out, and metadata that are no text. Nothing else of an assembly is looked at.
-/

namespace KernelLaunch

/-- The shape that a tensor type is the type of. -/
def TensorType.shape (type : TensorType) : Shape :=
  ⟨type.element.type, type.lengths⟩

/-- An array has an element type that can stand in no tensor. -/
def Shape.Untyped (shape : Shape) : Prop :=
  ∀ element : TensorElement, element.type ≠ shape.element

namespace Requirement

/-- Every array has a tensor type. -/
def tensorTypes (shapes : List Shape) : Requirement where
  holds := ∀ shape ∈ shapes, ∃ element : TensorElement, element.type = shape.element
  tells error := ∃ index shape,
    IsFirst Shape.Untyped shapes index shape ∧ error = .noTensorElement shape.element ∧
      error.Shows .typeNotSupported ("DigitLayout(" ++ toString shape.element.code.toNat ++
        ")" ++ " has no tensor element type")

/-- A module is written out without a fault. -/
def writable (emission : Emission) : Requirement where
  holds := emission.fault = none
  tells error := ∃ fault, emission.fault = some fault ∧ error = .unwritableModule fault ∧
    error.Shows .loweringFailure ("failed to write module bytecode: " ++ fault)

end Requirement

/-- An array without a tensor type is told by its element type. -/
theorem TensorType.ofShape_of_untyped {shape : Shape} (huntyped : shape.Untyped) :
    ofShape shape = .error (.noTensorElement shape.element) := by
  cases hfound : TensorElement.ofType? shape.element with
  | none => simp only [ofShape, hfound]
  | some element => exact absurd (TensorElement.ofType?_eq_some_iff.mp hfound) (huntyped element)

/-- Either all arrays have their tensor types, in order, or the first without one
is told. -/
theorem TensorType.mapM_ofShape_cases (shapes : List Shape) :
    (∃ types, shapes.mapM ofShape = .ok types ∧ types.map shape = shapes) ∨
      ∃ index shape, IsFirst Shape.Untyped shapes index shape ∧
        shapes.mapM ofShape = .error (.noTensorElement shape.element) := by
  induction shapes with
  | nil => exact Or.inl ⟨[], rfl, rfl⟩
  | cons first rest ih =>
    by_cases huntyped : first.Untyped
    · refine Or.inr ⟨0, first, .head rest huntyped, ?_⟩
      simp [List.mapM_cons, ofShape_of_untyped huntyped, bind, Except.bind]
    · obtain ⟨element, helement⟩ : ∃ element : TensorElement, element.type = first.element := by
        simpa [Shape.Untyped] using huntyped
      have hfirst : ofShape first = .ok ⟨element, first.lengths⟩ :=
        ofShape_eq_ok_iff.mpr (by rw [helement])
      rcases ih with ⟨types, htypes, hshapes⟩ | ⟨index, shape, hindex, herror⟩
      · refine Or.inl ⟨⟨element, first.lengths⟩ :: types, ?_, ?_⟩
        · simp [List.mapM_cons, hfirst, htypes, bind, Except.bind, pure, Except.pure]
        · rw [List.map_cons, hshapes, TensorType.shape, helement]
      · refine Or.inr ⟨index + 1, shape, .cons huntyped hindex, ?_⟩
        simp [List.mapM_cons, hfirst, herror, bind, Except.bind]

/-- The tensor types of arrays are those of their shapes, in order. -/
theorem TensorType.map_shape_of_mapM_ofShape {shapes : List Shape} {types : List TensorType}
    (htypes : shapes.mapM ofShape = .ok types) : types.map shape = shapes := by
  rcases mapM_ofShape_cases shapes with ⟨types', htypes', hshapes⟩ | ⟨_, _, _, herror⟩
  · obtain rfl : types = types' := Except.ok.inj (htypes.symm.trans htypes')
    exact hshapes
  · exact absurd (htypes.symm.trans herror) (by simp)

/-- The tensor types of arrays are decided by their element types. -/
theorem TensorType.decide_mapM_ofShape (shapes : List Shape) :
    Requirement.Decide [.tensorTypes shapes] (shapes.mapM ofShape) := by
  apply Requirement.decide_singleton
  · intro hholds
    rcases mapM_ofShape_cases shapes with ⟨types, htypes, _⟩ | ⟨index, shape, hfirst, _⟩
    · exact ⟨types, htypes⟩
    · obtain ⟨element, helement⟩ := hholds shape (List.mem_of_getElem? hfirst.1)
      exact absurd helement (hfirst.2.1 element)
  · intro hviolated
    rcases mapM_ofShape_cases shapes with ⟨types, _, hshapes⟩ | ⟨index, shape, hfirst, herror⟩
    · refine absurd (fun shape hmem => ?_) hviolated
      rw [← hshapes] at hmem
      obtain ⟨type, _, rfl⟩ := List.mem_map.mp hmem
      exact ⟨type.element, rfl⟩
    · exact ⟨_, ⟨index, shape, hfirst, rfl, rfl, rfl⟩, herror⟩

/-- The bytecode of a module is decided by whether a fault ends its writing. -/
theorem Emission.decide_bytes (emission : Emission) :
    Requirement.Decide [.writable emission] emission.bytes := by
  apply Requirement.decide_singleton
  · intro hnone
    exact ⟨emission.pieces.flatten, by simp only [bytes, show emission.fault = none from hnone]⟩
  · intro hviolated
    cases hfault : emission.fault with
    | none => exact absurd hfault hviolated
    | some fault => exact ⟨_, ⟨fault, hfault, rfl, rfl, rfl⟩, by simp only [bytes, hfault]⟩

/-- Bytecode that was written out is all pieces together. -/
theorem Emission.eq_flatten_of_bytes {emission : Emission} {bytecode : List UInt8}
    (hbytes : emission.bytes = .ok bytecode) : bytecode = emission.pieces.flatten := by
  unfold bytes at hbytes
  split at hbytes
  · exact (Except.ok.inj hbytes).symm
  · exact absurd hbytes (by simp)

/-- What a call is assembled from, if it is: the words of the grid, the types of the
outputs, the bytecode and the metadata. All else is handed over as it is. -/
theorem Assembly.assemble_eq_ok_iff {V : Type} {assembly : Assembly V} {call : CallDescriptor V} :
    assembly.assemble = .ok call ↔
      ∃ extent types bytecode metadata,
        (do (← assembly.grid.normalize).words) = .ok extent ∧
        assembly.outShapes.mapM TensorType.ofShape = .ok types ∧
        assembly.module.emission.bytes = .ok bytecode ∧
        assembly.params.metadata = .ok metadata ∧
        call =
          { resultTypes := types
            operands := assembly.operands
            config := .ofList (assembly.attributes extent bytecode metadata)
            operandLayouts := Layout.ofShapes assembly.operandShapes
            resultLayouts := Layout.ofShapes assembly.resultShapes
            aliases := Keyed.ofList assembly.aliases } := by
  rw [assemble, ← bind_assoc]
  constructor
  · intro hcall
    obtain ⟨extent, hextent, hcall⟩ := bind_eq_ok_iff.mp hcall
    obtain ⟨types, htypes, hcall⟩ := bind_eq_ok_iff.mp hcall
    obtain ⟨bytecode, hbytecode, hcall⟩ := bind_eq_ok_iff.mp hcall
    obtain ⟨metadata, hmetadata, hcall⟩ := bind_eq_ok_iff.mp hcall
    exact ⟨extent, types, bytecode, metadata, hextent, htypes, hbytecode, hmetadata,
      (Except.ok.inj hcall).symm⟩
  · rintro ⟨extent, types, bytecode, metadata, hextent, htypes, hbytecode, hmetadata, rfl⟩
    exact bind_eq_ok_iff.mpr ⟨extent, hextent, bind_eq_ok_iff.mpr ⟨types, htypes,
      bind_eq_ok_iff.mpr ⟨bytecode, hbytecode, bind_eq_ok_iff.mpr ⟨metadata, hmetadata, rfl⟩⟩⟩⟩

/-- Assembling a call is decided by the returned grid, the outputs, the module and
the metadata, in this order. -/
theorem Assembly.decide_assemble {V : Type} (assembly : Assembly V) :
    Requirement.Decide [.wordGrid assembly.grid, .tensorTypes assembly.outShapes,
      .writable assembly.module.emission, .metadataText assembly.params] assembly.assemble := by
  rw [assemble, ← bind_assoc]
  refine (assembly.grid.decide_words).bind fun extent _ => ?_
  refine (TensorType.decide_mapM_ofShape assembly.outShapes).bind fun types _ => ?_
  refine (assembly.module.emission.decide_bytes).bind fun bytecode _ => ?_
  exact (assembly.params.decide_metadata).bind fun metadata _ => .accept _

end KernelLaunch
