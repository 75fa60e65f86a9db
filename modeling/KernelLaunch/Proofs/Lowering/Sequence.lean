import KernelLaunch.Proofs.Lowering.Dialogue

/-!
# Runs of call sites

Call sites are lowered one after another with one compiler, which takes its
memory along from site to site. The memory is moved by the requests of the sites
and by nothing else, so a site that makes no request might as well not be there.
-/

namespace KernelLaunch

/-- The compiler that compiles one kernel and no more, with the number of the
requests it was asked as its memory. -/
def Compiler.once {P : Type} (compiled : Compiled) : Compiler Nat P :=
  fun _ asked =>
    (if asked = 0 then .ok compiled else .error (.reported .loweringFailure "busy"), asked + 1)

namespace CallSite

variable {σ P V : Type} [ToString P]

/-- Lowers sites one after another, each with the memory that the compiler has
after the one before. -/
def lowerAll (compiler : Compiler σ P) : List (CallSite P V) → σ → List (Report V) × σ
  | [], memory => ([], memory)
  | site :: rest, memory =>
    let (report, memory) := site.lower compiler memory
    let (reports, memory) := lowerAll compiler rest memory
    (report :: reports, memory)

/-- The requests that sites make, in the order of the sites. -/
def requestsOf (sites : List (CallSite P V)) : List (Request P) :=
  sites.filterMap request?

/-- The requests of a list are the one of its first site, if it makes one, and
those of the others. -/
theorem requestsOf_cons (site : CallSite P V) (rest : List (CallSite P V)) :
    requestsOf (site :: rest) = site.request?.toList ++ requestsOf rest := by
  unfold requestsOf
  cases hrequest : site.request? with
  | none => simp [hrequest]
  | some request => simp [hrequest]

/-- A site moves the memory of the compiler by its own request alone. -/
theorem lower_snd (compiler : Compiler σ P) (site : CallSite P V) (memory : σ) :
    (site.lower compiler memory).2 = compiler.memoryAfter memory site.request?.toList := by
  rw [lower_eq_hold, Dialogue.hold_snd]
  rfl

/-- A recording compiler lowers a site as the compiler itself does and takes down
the request of the site. -/
theorem lower_recording (compiler : Compiler σ P) (site : CallSite P V) (memory : σ)
    (requests : List (Request P)) :
    site.lower compiler.recording (memory, requests) =
      ((site.lower compiler memory).1, (site.lower compiler memory).2,
        requests ++ site.request?.toList) := by
  rw [lower_eq_hold, lower_eq_hold, Dialogue.hold_recording]
  rfl

/-- Over a run, a recording compiler does as the compiler itself and takes down
the requests of the sites. -/
theorem lowerAll_recording (compiler : Compiler σ P) (sites : List (CallSite P V)) (memory : σ)
    (requests : List (Request P)) :
    lowerAll compiler.recording sites (memory, requests) =
      ((lowerAll compiler sites memory).1, (lowerAll compiler sites memory).2,
        requests ++ requestsOf sites) := by
  induction sites generalizing memory requests with
  | nil => simp [lowerAll, requestsOf]
  | cons site rest ih =>
    simp only [lowerAll, lower_recording, ih, requestsOf_cons, List.append_assoc]

/-- Over a run, the memory of the compiler is moved by the requests of the sites
alone. -/
theorem lowerAll_snd (compiler : Compiler σ P) (sites : List (CallSite P V)) (memory : σ) :
    (lowerAll compiler sites memory).2 = compiler.memoryAfter memory (requestsOf sites) := by
  induction sites generalizing memory with
  | nil => rfl
  | cons site rest ih =>
    simp only [lowerAll, ih]
    rw [requestsOf_cons, Compiler.memoryAfter_append, lower_snd]

/-- In a run, each site is lowered with the memory that the requests of the sites
before it have left. -/
theorem getElem?_lowerAll (compiler : Compiler σ P) (sites : List (CallSite P V)) (memory : σ)
    (index : Nat) :
    (lowerAll compiler sites memory).1[index]? =
      sites[index]?.map fun site =>
        (site.lower compiler (compiler.memoryAfter memory (requestsOf (sites.take index)))).1 := by
  induction sites generalizing memory index with
  | nil => simp [lowerAll]
  | cons site rest ih =>
    cases index with
    | zero => rfl
    | succ index =>
      simp only [lowerAll, List.getElem?_cons_succ, ih, List.take_succ_cons]
      rw [requestsOf_cons, Compiler.memoryAfter_append, lower_snd]

/-- A run without some of the sites that make no request goes on as before. -/
theorem lowerAll_filter (compiler : Compiler σ P) {sites : List (CallSite P V)}
    {keep : CallSite P V → Bool} (memory : σ)
    (hkeep : ∀ site ∈ sites, site.request? ≠ none → keep site = true) :
    lowerAll compiler (sites.filter keep) memory =
      (((sites.zip (lowerAll compiler sites memory).1).filter fun entry => keep entry.1).map
          Prod.snd,
        (lowerAll compiler sites memory).2) := by
  induction sites generalizing memory with
  | nil => rfl
  | cons site rest ih =>
    obtain ⟨hsite, hrest⟩ := List.forall_mem_cons.mp hkeep
    cases hkept : keep site with
    | true => simp [lowerAll, hkept, ih _ hrest]
    | false =>
      have hsilent : site.request? = none := by
        cases hrequest : site.request? with
        | none => rfl
        | some request => simp [hrequest, hkept] at hsite
      -- A site that makes no request leaves the memory to the others as it is.
      have hmemory : (site.lower compiler memory).2 = memory := by
        rw [lower_snd, hsilent]
        rfl
      simp [lowerAll, hkept, hmemory, ih _ hrest]

/-- In every run, a compiler receives the requests of the sites that ask for one,
in the order of the sites and once for each, and it is moved by them alone. So an
interpreted site yields its operands in every run, and sites that ask for nothing
can be left out without a change of any other report. -/
theorem calls_of_lowerAll (compiler : Compiler σ P) (sites : List (CallSite P V)) (memory : σ) :
    let reports := (lowerAll compiler sites memory).1
    let after := (lowerAll compiler sites memory).2
    lowerAll compiler.recording sites (memory, []) = (reports, after, requestsOf sites) ∧
    (∀ site ∈ sites, ∀ request, site.request? = some request ↔ site.Asks request) ∧
    after = compiler.memoryAfter memory (requestsOf sites) ∧
    (∀ index : Nat, reports[index]? = sites[index]?.map fun site =>
      (site.lower compiler (compiler.memoryAfter memory (requestsOf (sites.take index)))).1) ∧
    (∀ (index : Nat) (site : CallSite P V), sites[index]? = some site → site.interpret = true →
      reports[index]?.map Report.outcome = some (.ok (.interpreted site.operands))) ∧
    (∀ keep : CallSite P V → Bool,
      (∀ site ∈ sites, (∃ request, site.Asks request) → keep site = true) →
      lowerAll compiler (sites.filter keep) memory =
        (((sites.zip reports).filter fun entry => keep entry.1).map Prod.snd, after)) := by
  intro reports after
  refine ⟨?_, fun site _ request => request?_eq_some_iff, lowerAll_snd compiler sites memory,
    getElem?_lowerAll compiler sites memory, ?_, ?_⟩
  · rw [lowerAll_recording, List.nil_append]
  · intro index site hsite hinterpret
    rw [getElem?_lowerAll, hsite, Option.map_some, lower_of_interpret compiler hinterpret]
    rfl
  · intro keep hkeep
    apply lowerAll_filter
    intro site hmem hrequest
    obtain ⟨request, hrequest⟩ := Option.ne_none_iff_exists'.mp hrequest
    exact hkeep site hmem ⟨request, request?_eq_some_iff.mp hrequest⟩

/-- Of an interpreted site, a site that asks, one that fails before and another one
that asks, the compiler hears the second and the last, and it refuses the last. -/
theorem calls_of_four_sites :
    let asking := bare (.list [2, 3]) .empty
    let sites :=
      [{ bare (.scalar 0) .empty with interpret := true, operands := [7] }, asking,
        { asking with platforms := ["cuda", "rocm"] }, { asking with name := "last" }]
    let compiler := Compiler.once ⟨⟨⟨[], none⟩, ""⟩, .scalar 1⟩
    let reports := (lowerAll compiler sites 0).1
    (requestsOf sites).map Request.name = ["bare", "last"] ∧
      (lowerAll compiler.recording sites (0, [])).2.2 = requestsOf sites ∧
      reports[0]?.map Report.outcome = some (.ok (.interpreted [7])) ∧
      reports[3]?.map Report.outcome = some (.error (.reported .loweringFailure "busy")) := by
  intro asking sites compiler reports
  obtain ⟨hrecorded, _, _, _, hinterpreted, _⟩ := calls_of_lowerAll compiler sites 0
  refine ⟨by decide +kernel, by rw [hrecorded], hinterpreted 0 _ rfl rfl, by decide +kernel⟩

end CallSite

end KernelLaunch
