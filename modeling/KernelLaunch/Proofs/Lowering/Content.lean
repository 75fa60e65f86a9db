import KernelLaunch.Proofs.Lowering.Acceptance

/-!
# What an emitted call says

Every field of an emitted call is tied to the call site as it was given and to
the answer of the compiler. The parameters are read where they were before the
tuning was taken out of them, the grid is the one that the compiler returned, the
types come from the shapes of the kernel's outputs and the layouts from the
arrays at the call.
-/

namespace KernelLaunch

/-- What a call says of the site it was emitted for, of the platform that the site
resolves to and of the kernel that was compiled for it. -/
structure CallDescriptor.Describes {P V : Type} (call : CallDescriptor V) (site : CallSite P V)
    (platform : Platform) (compiled : Compiled) : Prop where
  /-- The keys in order. The last one is there exactly if there are metadata. -/
  keys : call.config.keys =
    ["name", "ir", "num_stages", "num_warps", "grid_x", "grid_y", "grid_z", "debug"] ++
      if site.params.detachBackend.contains "serialized_metadata" then ["serialized_metadata"]
      else []
  /-- The name of the kernel. -/
  name : call.config.get? "name" = some (.text site.name)
  /-- All pieces of the bytecode together, in order. -/
  bytecode : call.config.get? "ir" = some (.bytes compiled.module.emission.pieces.flatten)
  /-- The number of stages asked for, or else the platform's. -/
  numStages : ∃ word, call.config.get? "num_stages" = some (.word word) ∧
    site.params.detachBackend.Chosen "num_stages" platform.defaults.numStages word ∧
    1 ≤ word.toInt ∧ word.toInt ≤ 2147483647
  /-- The number of warps asked for, or else the platform's. -/
  numWarps : ∃ word, call.config.get? "num_warps" = some (.word word) ∧
    site.params.detachBackend.Chosen "num_warps" platform.defaults.numWarps word ∧
    1 ≤ word.toInt ∧ word.toInt ≤ 2147483647
  /-- The sizes of the returned grid, in order and padded with 1. -/
  grid : ∃ x y z : Int32, call.config.get? "grid_x" = some (.word x) ∧
    call.config.get? "grid_y" = some (.word y) ∧ call.config.get? "grid_z" = some (.word z) ∧
    [x.toInt, y.toInt, z.toInt] = compiled.grid.sizes.map (fun size => (size.toNat : Int)) ++
      List.replicate (3 - compiled.grid.sizes.length) 1 ∧
    ∀ word ∈ [x, y, z], 1 ≤ word.toInt ∧ word.toInt ≤ 2147483647
  /-- Whether the launch is being debugged. -/
  debug : call.config.get? "debug" = some (.bool site.debug)
  /-- The metadata, which are a text if there are any. -/
  metadata : ∃ metadata : Option String,
    site.params.detachBackend.get? "serialized_metadata" = metadata.map .text ∧
    call.config.get? "serialized_metadata" = metadata.map .text
  /-- One type for each output of the kernel. -/
  resultTypes : call.resultTypes.map TensorType.shape = site.outShapes
  /-- One layout for each operand array, from the last dimension to the first. -/
  operandLayouts : call.operandLayouts =
    site.operandShapes.map fun shape => (List.range shape.rank).reverse
  /-- One layout for each result array, from the last dimension to the first. -/
  resultLayouts : call.resultLayouts =
    site.resultShapes.map fun shape => (List.range shape.rank).reverse
  /-- The operands as they were given. -/
  operands : call.operands = site.operands
  /-- For each input the output that it was last paired with. -/
  aliases : ∀ input, call.aliases.lookup input = site.aliases.reverse.lookup input

/-- No word is larger than the largest. -/
theorem toInt_le (word : Int32) : word.toInt ≤ 2147483647 := by
  have hlt := word.toInt_lt
  omega

/-- The defaults of every platform are positive. -/
theorem Platform.defaults_positive (platform : Platform) :
    1 ≤ platform.defaults.numWarps.toInt ∧ 1 ≤ platform.defaults.numStages.toInt := by
  cases platform <;> decide

/-- The keys of the attributes are fixed but for the one of the metadata. -/
theorem Assembly.keys_attributes {V : Type} (assembly : Assembly V) (extent : Extent Int32)
    (bytecode : List UInt8) (metadata : Option String) :
    (assembly.attributes extent bytecode metadata).map Prod.fst =
      ["name", "ir", "num_stages", "num_warps", "grid_x", "grid_y", "grid_z", "debug"] ++
        if metadata.isSome then ["serialized_metadata"] else [] := by
  cases metadata <;> rfl

/-- Each key of the attributes finds the value it was pushed with. -/
theorem Assembly.get?_attributes {V : Type} {assembly : Assembly V} {extent : Extent Int32}
    {bytecode : List UInt8} {metadata : Option String} {config : LaunchConfig}
    (hconfig : config = .ofList (assembly.attributes extent bytecode metadata)) :
    config.get? "name" = some (.text assembly.name) ∧
      config.get? "ir" = some (.bytes bytecode) ∧
      config.get? "num_stages" = some (.word assembly.tuning.numStages) ∧
      config.get? "num_warps" = some (.word assembly.tuning.numWarps) ∧
      config.get? "grid_x" = some (.word extent.x) ∧
      config.get? "grid_y" = some (.word extent.y) ∧
      config.get? "grid_z" = some (.word extent.z) ∧
      config.get? "debug" = some (.bool assembly.debug) ∧
      config.get? "serialized_metadata" = metadata.map .text := by
  have hget : ∀ key, config.get? key =
      (assembly.attributes extent bytecode metadata).lookup key := by
    intro key
    rw [LaunchConfig.get?, hconfig, LaunchConfig.entries_ofList]
  simp only [hget]
  cases metadata <;>
    simp [attributes, List.lookup_cons, Params.numStagesKey, Params.numWarpsKey,
      Params.metadataKey]

/-- No call is emitted for an interpreted site. -/
theorem CallSite.interpret_eq_false_of_custom {σ P V : Type} [ToString P] (compiler : Compiler σ P)
    {site : CallSite P V} {memory : σ} {call : CallDescriptor V}
    (hcall : (site.lower compiler memory).1.outcome = .ok (.custom call)) :
    site.interpret = false := by
  cases hinterpret : site.interpret with
  | false => rfl
  | true =>
    rw [lower_of_interpret compiler hinterpret] at hcall
    exact absurd hcall (by simp)

/-- An emitted call is assembled from the plan of its site and from what the compiler
made of it. -/
theorem CallSite.exists_assembly_of_custom {σ P V : Type} [ToString P] (compiler : Compiler σ P)
    {site : CallSite P V} {memory : σ} {call : CallDescriptor V}
    (hcall : (site.lower compiler memory).1.outcome = .ok (.custom call)) :
    ∃ plan compiled, site.plan = .ok plan ∧
      (compiler (site.request plan) memory).1 = .ok compiled ∧
      (site.assembly plan compiled).assemble = .ok call := by
  have hinterpret := interpret_eq_false_of_custom compiler hcall
  obtain ⟨plan, compiled, call', hplan, hanswer, hassemble, heq⟩ :=
    (outcome_eq_ok_iff compiler hinterpret memory).mp hcall
  obtain rfl : call = call' := by injection heq
  exact ⟨plan, compiled, hplan, hanswer, hassemble⟩

/-- An emitted call describes the site it was emitted for and the kernel that the
compiler returned. -/
theorem CallSite.describes_of_custom {σ P V : Type} [ToString P] (compiler : Compiler σ P)
    {site : CallSite P V} {memory : σ} {call : CallDescriptor V}
    (hcall : (site.lower compiler memory).1.outcome = .ok (.custom call)) :
    ∃ platform compiled,
      Platform.resolve site.platforms site.modulePlatforms = .ok platform ∧
      site.Answered compiler memory (.ok compiled) ∧
      call.Describes site platform compiled := by
  have hinterpret := interpret_eq_false_of_custom compiler hcall
  obtain ⟨plan, compiled, call', hplan, hanswer, hassemble, heq⟩ :=
    (outcome_eq_ok_iff compiler hinterpret memory).mp hcall
  obtain rfl : call = call' := by injection heq
  obtain ⟨_, hplatform, back, hback, htuning, hparams⟩ := plan_eq_ok_iff.mp hplan
  obtain ⟨extent, types, bytecode, metadata, hextent, htypes, hbytecode, hmetadata, hfields⟩ :=
    Assembly.assemble_eq_ok_iff.mp hassemble
  have hconfig : call.config =
      .ofList ((site.assembly plan compiled).attributes extent bytecode metadata) := by
    rw [hfields]
  refine ⟨plan.platform, compiled, hplatform, (answered_iff compiler hplan memory _).mpr hanswer,
    ?_⟩
  have hdetach : site.params.detachBackend = back := Params.detachBackend_of_backend hback
  have hbinding : back.get? "serialized_metadata" = metadata.map .text := by
    apply Params.metadata_eq_ok_iff.mp
    rw [← Params.metadata_leftover, ← hparams]
    exact hmetadata
  obtain ⟨hname, hir, hnumStages, hnumWarps, hx, hy, hz, hdebug, hmetadataText⟩ :=
    Assembly.get?_attributes hconfig
  have hpieces : bytecode = compiled.module.emission.pieces.flatten :=
    Emission.eq_flatten_of_bytes hbytecode
  obtain ⟨hwarps, hstages⟩ := Params.tuning_eq_ok_iff.mp htuning
  obtain ⟨hwarpsDefault, hstagesDefault⟩ := plan.platform.defaults_positive
  obtain ⟨hvalues, hpositive⟩ := Grid.toList_words hextent
  exact
    { keys := by
        rw [hdetach, Params.contains, hbinding, hconfig, LaunchConfig.keys_ofList,
          Assembly.keys_attributes, Option.isSome_map]
      name := hname
      bytecode := hpieces ▸ hir
      numStages := ⟨plan.tuning.numStages, hnumStages, hdetach ▸ hstages,
        hstages.positive hstagesDefault, toInt_le _⟩
      numWarps := ⟨plan.tuning.numWarps, hnumWarps, hdetach ▸ hwarps,
        hwarps.positive hwarpsDefault, toInt_le _⟩
      grid := ⟨extent.x, extent.y, extent.z, hx, hy, hz, hvalues,
        fun word hmem => ⟨hpositive word hmem, toInt_le word⟩⟩
      debug := hdebug
      metadata := ⟨metadata, hdetach ▸ hbinding, hmetadataText⟩
      resultTypes := by
        rw [hfields]
        exact TensorType.map_shape_of_mapM_ofShape htypes
      operandLayouts := by
        rw [hfields]
        rfl
      resultLayouts := by
        rw [hfields]
        rfl
      operands := by
        rw [hfields]
        rfl
      aliases := fun input => by
        rw [hfields]
        exact Keyed.lookup_ofList input site.aliases }

/-- A call whose back-end parameters have a table of their own, and whose kernel is
launched over another grid than the declared one. -/
theorem CallSite.describes_nested :
    let site :=
      { bare (.scalar 16)
          ⟨[("num_warps", .int 2),
            ("triton", .table [("num_warps", .int 8), ("serialized_metadata", .text "abc")])]⟩ with
        operands := [7]
        operandShapes := [⟨.bool, [2, 3]⟩]
        resultShapes := [⟨.bool, [5]⟩]
        outShapes := [⟨.real 8 23, [128, 64]⟩]
        aliases := [(0, 0)] }
    let compiled : Compiled := ⟨⟨⟨[[1], [2, 3]], none⟩, ""⟩, .list [5, 7]⟩
    let call : CallDescriptor Nat :=
      { resultTypes := [⟨.f32, [128, 64]⟩]
        operands := [7]
        config := ⟨[("name", .text "bare"), ("ir", .bytes [1, 2, 3]), ("num_stages", .word 3),
          ("num_warps", .word 8), ("grid_x", .word 5), ("grid_y", .word 7), ("grid_z", .word 1),
          ("debug", .bool false), ("serialized_metadata", .text "abc")]⟩
        operandLayouts := [[1, 0]]
        resultLayouts := [[0]]
        aliases := [(0, 0)] }
    (site.lower (.constant compiled) ()).1.outcome = .ok (.custom call) ∧
      ∃ platform compiled',
        Platform.resolve site.platforms site.modulePlatforms = .ok platform ∧
        site.Answered (.constant compiled) () (.ok compiled') ∧
        call.Describes site platform compiled' := by
  intro site compiled call
  have hcall : (site.lower (.constant compiled) ()).1.outcome = .ok (.custom call) := by
    decide +kernel
  exact ⟨hcall, describes_of_custom _ hcall⟩

end KernelLaunch
