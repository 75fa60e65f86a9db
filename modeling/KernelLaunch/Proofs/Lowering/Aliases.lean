import KernelLaunch.Proofs.Keyed
import KernelLaunch.Proofs.Lowering.Content

/-!
# The aliases of an emitted call

A call site pairs inputs with the outputs that they share their memory with, and
nothing is required of the pairs. A call has room for one output of each input, so
of the pairs of one input it keeps the last and drops all others without a word.
-/

namespace KernelLaunch

/-- What a call keeps of the pairs of inputs and outputs that it was given. -/
structure CallDescriptor.KeepsLast {V : Type} (call : CallDescriptor V)
    (pairs : List (Nat × Nat)) : Prop where
  /-- Each input is listed once, in ascending order. -/
  ascending : Keyed.Ascending call.aliases
  /-- A pair is kept exactly if no pair of its input comes after it. -/
  last : ∀ input output, (input, output) ∈ call.aliases ↔
    ∃ before behind, pairs = before ++ (input, output) :: behind ∧
      ∀ pair ∈ behind, pair.1 ≠ input
  /-- No pair is made up. -/
  given : ∀ pair ∈ call.aliases, pair ∈ pairs
  /-- No input is dropped. -/
  covered : ∀ pair ∈ pairs, ∃ output, (pair.1, output) ∈ call.aliases
  /-- All pairs are kept exactly if no input is paired with two outputs. -/
  exact_iff : (∀ pair, pair ∈ call.aliases ↔ pair ∈ pairs) ↔
    ∀ input first second, (input, first) ∈ pairs → (input, second) ∈ pairs → first = second

/-- An assembled call keeps the last pair of each input. -/
theorem Assembly.keepsLast {V : Type} {assembly : Assembly V} {call : CallDescriptor V}
    (hcall : assembly.assemble = .ok call) : call.KeepsLast assembly.aliases := by
  obtain ⟨_, _, _, _, _, _, _, _, hfields⟩ := assemble_eq_ok_iff.mp hcall
  have haliases : call.aliases = Keyed.ofList assembly.aliases := by rw [hfields]
  have hlast : ∀ input output, (input, output) ∈ call.aliases ↔
      ∃ before behind, assembly.aliases = before ++ (input, output) :: behind ∧
        ∀ pair ∈ behind, pair.1 ≠ input :=
    fun input output => haliases ▸ Keyed.mem_ofList_iff
  exact
    { ascending := haliases ▸ Keyed.ascending_ofList assembly.aliases
      last := hlast
      given := by
        rintro ⟨input, output⟩ hmem
        obtain ⟨before, behind, hpairs, _⟩ := (hlast input output).mp hmem
        simp [hpairs]
      covered := fun pair hmem => haliases ▸ Keyed.exists_mem_ofList hmem
      exact_iff := haliases ▸ Keyed.forall_mem_ofList_iff }

/-- Every call keeps of the pairs that it was given the last one of each input,
whether it is assembled by itself or emitted for a call site. -/
theorem CallSite.keepsLast_of_emitted {σ P V : Type} [ToString P] :
    (∀ (assembly : Assembly V) (call : CallDescriptor V), assembly.assemble = .ok call →
      call.KeepsLast assembly.aliases) ∧
    ∀ (compiler : Compiler σ P) (site : CallSite P V) (memory : σ) (call : CallDescriptor V),
      (site.lower compiler memory).1.outcome = .ok (.custom call) →
      call.KeepsLast site.aliases := by
  refine ⟨fun assembly call => Assembly.keepsLast, fun compiler site memory call hcall => ?_⟩
  obtain ⟨_, _, _, _, hassemble⟩ := exists_assembly_of_custom compiler hcall
  exact Assembly.keepsLast hassemble

/-- Pairs in any order, two of them of one input. -/
theorem CallSite.keepsLast_of_three :
    let site := { bare (.scalar 16) .empty with aliases := [(1, 0), (0, 0), (1, 2)] }
    let compiler := Compiler.constant ⟨⟨⟨[[1]], none⟩, ""⟩, .scalar 16⟩
    ∃ call : CallDescriptor Nat, (site.lower compiler ()).1.outcome = .ok (.custom call) ∧
      call.aliases = [(0, 0), (1, 2)] ∧ call.KeepsLast site.aliases := by
  intro site compiler
  let call : CallDescriptor Nat :=
    { resultTypes := []
      operands := []
      config := ⟨[("name", .text "bare"), ("ir", .bytes [1]), ("num_stages", .word 3),
        ("num_warps", .word 4), ("grid_x", .word 16), ("grid_y", .word 1), ("grid_z", .word 1),
        ("debug", .bool false)]⟩
      operandLayouts := []
      resultLayouts := []
      aliases := [(0, 0), (1, 2)] }
  have hcall : (site.lower compiler ()).1.outcome = .ok (.custom call) := by decide +kernel
  exact ⟨call, hcall, rfl, keepsLast_of_emitted.2 compiler site () call hcall⟩

/-- Of an input that shares its memory with both outputs of a kernel, a call is
emitted that knows the second one alone. -/
theorem CallSite.alias_lost :
    let array : Shape := ⟨.real 8 23, [8]⟩
    let site :=
      { bare (.scalar 16) .empty with
        operands := [7]
        operandShapes := [array]
        resultShapes := [array, array]
        inShapes := [array]
        outShapes := [array, array]
        aliases := [(0, 0), (0, 1)] }
    let compiler := Compiler.constant ⟨⟨⟨[[1]], none⟩, ""⟩, .scalar 16⟩
    ∃ call : CallDescriptor Nat, (site.lower compiler ()).1.outcome = .ok (.custom call) ∧
      call.aliases = [(0, 1)] ∧ (0, 0) ∈ site.aliases ∧ (0, 0) ∉ call.aliases := by
  intro array site compiler
  let call : CallDescriptor Nat :=
    { resultTypes := [⟨.f32, [8]⟩, ⟨.f32, [8]⟩]
      operands := [7]
      config := ⟨[("name", .text "bare"), ("ir", .bytes [1]), ("num_stages", .word 3),
        ("num_warps", .word 4), ("grid_x", .word 16), ("grid_y", .word 1), ("grid_z", .word 1),
        ("debug", .bool false)]⟩
      operandLayouts := [[0]]
      resultLayouts := [[0], [0]]
      aliases := [(0, 1)] }
  exact ⟨call, by decide +kernel, rfl, by decide, by decide⟩

end KernelLaunch
