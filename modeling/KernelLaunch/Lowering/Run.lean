import KernelLaunch.Lowering.CallSite
import KernelLaunch.Lowering.Report

/-!
# Lowering a call site

A site that is interpreted hands its operands back and nothing else is looked
at. Any other site is planned, its kernel is compiled, and the call is
assembled; the compiler is asked once if there is a plan and never otherwise.
-/

namespace KernelLaunch

namespace CallSite

variable {σ P V : Type}

/-- The record that a site is interpreted. -/
def interpretRecord (site : CallSite P V) : LogRecord :=
  ⟨.debug, site.name ++ ": interpret mode, skip kernel lowering"⟩

/-- The record of the platform and the tuning of a site. -/
def tuningRecord (site : CallSite P V) (plan : Plan) : LogRecord :=
  ⟨.debug, site.name ++ ": lowering for " ++ plan.platform.name ++
    " with num_warps = " ++ toString plan.tuning.numWarps.toInt ++
    ", num_stages = " ++ toString plan.tuning.numStages.toInt⟩

/-- Records about the kernel, which a site writes only while it is debugged. -/
def kernelRecords (site : CallSite P V) (texts : List String) : List LogRecord :=
  if site.debug then texts.map fun text => ⟨.info, text⟩ else []

/-- The records before the kernel is compiled. -/
def openingRecords [ToString P] (site : CallSite P V) (plan : Plan) : List LogRecord :=
  site.tuningRecord plan ::
    site.kernelRecords [toString site.program, site.mapping.toText]

/-- The report on a planned site after the compiler has answered. -/
def conclude [ToString P] (site : CallSite P V) (plan : Plan) :
    Except LoweringError Compiled → Report V
  | .error error => ⟨.error error, site.openingRecords plan⟩
  | .ok compiled =>
    ⟨.custom <$> (site.assembly plan compiled).assemble,
      site.openingRecords plan ++ site.kernelRecords [compiled.module.listing]⟩

/-- Lowers a site with a compiler in a given memory, and tells its memory
afterwards. -/
def lower [ToString P] (compiler : Compiler σ P) (site : CallSite P V) (memory : σ) :
    Report V × σ :=
  if site.interpret then (⟨.ok (.interpreted site.operands), [site.interpretRecord]⟩, memory)
  else
    match site.plan with
    | .error error => (⟨.error error, []⟩, memory)
    | .ok plan =>
      let (answer, memory) := compiler (site.request plan) memory
      (site.conclude plan answer, memory)

/-- An interpreted site hands its operands back and asks for nothing. -/
theorem lower_of_interpret [ToString P] (compiler : Compiler σ P) {site : CallSite P V}
    (hinterpret : site.interpret = true) (memory : σ) :
    site.lower compiler memory =
      (⟨.ok (.interpreted site.operands), [site.interpretRecord]⟩, memory) := by
  rw [lower, if_pos hinterpret]

/-- A site without a plan fails with the cause of that and asks for nothing. -/
theorem lower_of_plan_error [ToString P] (compiler : Compiler σ P) {site : CallSite P V}
    {error : LoweringError} (hinterpret : site.interpret = false)
    (hplan : site.plan = .error error) (memory : σ) :
    site.lower compiler memory = (⟨.error error, []⟩, memory) := by
  simp [lower, hinterpret, hplan]

/-- A planned site asks for one compilation and concludes from the answer. -/
theorem lower_of_plan [ToString P] (compiler : Compiler σ P) {site : CallSite P V} {plan : Plan}
    (hinterpret : site.interpret = false) (hplan : site.plan = .ok plan) (memory : σ) :
    site.lower compiler memory =
      (site.conclude plan (compiler (site.request plan) memory).1,
        (compiler (site.request plan) memory).2) := by
  simp [lower, hinterpret, hplan]

end CallSite

end KernelLaunch
