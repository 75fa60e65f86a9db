import KernelLaunch.Proofs.Lowering.Content
import KernelLaunch.Proofs.Lowering.Dialogue

/-!
# Debugging is a side channel

A site that is being debugged writes records about its kernel, and its call says
that it is debugged. Nothing else depends on that, and nothing but the last of the
records depends on the readable listing of the kernel: a compiler that lists its
kernels differently is asked the same and leads to the same outcome. Which records
a debugged site writes tells how far it has got.
-/

namespace KernelLaunch

variable {σ τ P V : Type}

/-- A declared grid in the record of its mapping: its form and its numbers. -/
def Grid.shown : Grid → String
  | .scalar size => "Scalar(" ++ toString size.toNat ++ ")"
  | .list sizes =>
    "Dims(" ++ ("[" ++ ", ".intercalate (sizes.map fun size => toString size.toNat) ++ "]") ++ ")"

/-- A mapping in its record: the grid and the counts of the features it asks for. -/
def GridMapping.shown (mapping : GridMapping) : String :=
  "GridMapping \x7b grid: " ++ mapping.grid.shown ++
    ", num_dynamic_grid_bounds: " ++ toString mapping.dynamicBounds ++
    ", num_index_operands: " ++ toString mapping.indexOperands ++ " \x7d"

/-- The same configuration with another value of the debugging attribute. -/
def LaunchConfig.withDebug (flag : Bool) (config : LaunchConfig) : LaunchConfig :=
  ⟨Keyed.update "debug" (fun _ => .bool flag) config.entries⟩

/-- The same call with another value of the debugging attribute. -/
def CallDescriptor.withDebug (flag : Bool) (call : CallDescriptor V) : CallDescriptor V :=
  { call with config := call.config.withDebug flag }

/-- The same result, where a call has another value of the debugging attribute. -/
def Lowered.withDebug (flag : Bool) : Lowered V → Lowered V
  | .custom call => .custom (call.withDebug flag)
  | .interpreted operands => .interpreted operands

/-- The records that are written whether or not a site is being debugged. -/
def Report.withoutInfo (report : Report V) : List LogRecord :=
  report.log.filter fun record => record.level ≠ .info

/-- What is launched of a compiled kernel, which is all but its listing. -/
def Compiled.launched (compiled : Compiled) : Emission × Grid :=
  (compiled.module.emission, compiled.grid)

/-- The log shows a mapping in this way. -/
theorem GridMapping.toText_eq_shown (mapping : GridMapping) : mapping.toText = mapping.shown := by
  have hgrid : toText.gridText mapping.grid = mapping.grid.shown := by
    cases mapping.grid with
    | scalar size => rfl
    | list sizes =>
      exact congrArg (fun text => "Dims(" ++ text ++ ")") (Text.bracketed_eq_intercalate _)
  exact congrArg (fun text => "GridMapping \x7b grid: " ++ text ++
    ", num_dynamic_grid_bounds: " ++ toString mapping.dynamicBounds ++
    ", num_index_operands: " ++ toString mapping.indexOperands ++ " \x7d") hgrid

/-- Two compilers with corresponding memories give the same answers but for the
listings of the kernels. -/
structure Compiler.SameButListings (related : σ → τ → Prop) (first : Compiler σ P)
    (second : Compiler τ P) : Prop where
  /-- They fail with the same cause, or they make kernels that are launched alike. -/
  answer : ∀ request {m n}, related m n →
    Compiled.launched <$> (first request m).1 = Compiled.launched <$> (second request n).1
  /-- Their memories go on to correspond. -/
  memory : ∀ request {m n}, related m n → related (first request m).2 (second request n).2

/-- Answers that are the same but for the listing are the same cause of failure, or
they are kernels with the same emission and grid. -/
theorem Compiled.launched_cases {answer answer' : Except LoweringError Compiled}
    (hanswer : launched <$> answer = launched <$> answer') :
    (∃ error, answer = .error error ∧ answer' = .error error) ∨
      ∃ emission listing listing' grid, answer = .ok ⟨⟨emission, listing⟩, grid⟩ ∧
        answer' = .ok ⟨⟨emission, listing'⟩, grid⟩ := by
  cases answer with
  | error error =>
    cases answer' with
    | error error' =>
      obtain rfl : error = error' := by simpa [Functor.map, Except.map] using hanswer
      exact .inl ⟨error, rfl, rfl⟩
    | ok compiled' => simp [Functor.map, Except.map] at hanswer
  | ok compiled =>
    cases answer' with
    | error error' => simp [Functor.map, Except.map] at hanswer
    | ok compiled' =>
      obtain ⟨⟨emission, listing⟩, grid⟩ := compiled
      obtain ⟨⟨emission', listing'⟩, grid'⟩ := compiled'
      obtain ⟨rfl, rfl⟩ : emission = emission' ∧ grid = grid' := by
        simpa [Functor.map, Except.map, launched] using hanswer
      exact .inr ⟨emission, listing, listing', grid, rfl, rfl⟩

/-- A compiler gives the same answers as itself. -/
theorem Compiler.SameButListings.refl (compiler : Compiler σ P) :
    compiler.SameButListings Eq compiler where
  answer _ _ _ hmemory := by rw [hmemory]
  memory _ _ _ hmemory := by rw [hmemory]

/-- Two reports are the same but for debugging, where the second one is on a site
with a given flag. -/
structure Report.SameButDebug (flag : Bool) (report other : Report V) : Prop where
  /-- The outcomes differ at most in the debugging attribute. -/
  outcome : other.outcome = Lowered.withDebug flag <$> report.outcome
  /-- The logs differ at most in the records about the kernel. -/
  log : other.withoutInfo = report.withoutInfo

/-- Neither the debugging flag nor the listing has a part in assembling a call but
for the debugging attribute. -/
theorem Assembly.assemble_debug (assembly : Assembly V) (flag : Bool) (listing : String) :
    { assembly with debug := flag, module := ⟨assembly.module.emission, listing⟩ }.assemble =
      CallDescriptor.withDebug flag <$> assembly.assemble := by
  have hattributes : ∀ (extent : Extent Int32) (bytecode : List UInt8) (metadata : Option String),
      (LaunchConfig.ofList (assembly.attributes extent bytecode metadata)).withDebug flag =
        .ofList ({ assembly with debug := flag }.attributes extent bytecode metadata) := by
    intro extent bytecode metadata
    cases metadata <;> rfl
  simp only [assemble, map_bind, map_pure, CallDescriptor.withDebug, hattributes]
  rfl

namespace Dialogue

/-- Two dialogues ask the same, and after answers that are the same but for the
listing their reports are the same but for debugging. -/
inductive SameButDebug (flag : Bool) : Dialogue P V → Dialogue P V → Prop
  /-- Both ask nothing. -/
  | finished {report other : Report V} : report.SameButDebug flag other →
      SameButDebug flag (.finished report) (.finished other)
  /-- Both make the same request. -/
  | asking {request : Request P} {conclude conclude' : Except LoweringError Compiled → Report V} :
      (∀ {answer answer'}, Compiled.launched <$> answer = Compiled.launched <$> answer' →
        (conclude answer).SameButDebug flag (conclude' answer')) →
      SameButDebug flag (.asking request conclude) (.asking request conclude')

/-- Held with compilers that are the same but for the listings, such dialogues have
the same request and leave corresponding memories and reports. -/
theorem SameButDebug.hold {flag : Bool} {dialogue other : Dialogue P V}
    (hdialogue : dialogue.SameButDebug flag other) {related : σ → τ → Prop}
    {first : Compiler σ P} {second : Compiler τ P} (hsame : first.SameButListings related second)
    {m : σ} {n : τ} (hmemory : related m n) :
    dialogue.request? = other.request? ∧
      (dialogue.hold first m).1.SameButDebug flag (other.hold second n).1 ∧
      related (dialogue.hold first m).2 (other.hold second n).2 := by
  cases hdialogue with
  | finished hreport => exact ⟨rfl, hreport, hmemory⟩
  | @asking request conclude conclude' hconclude =>
    exact ⟨rfl, hconclude (hsame.answer request hmemory), hsame.memory request hmemory⟩

end Dialogue

namespace CallSite

variable [ToString P]

/-- Of a planned site, nothing but its tuning is told whether or not it is being
debugged. -/
theorem withoutInfo_conclude (site : CallSite P V) (plan : Plan)
    (answer : Except LoweringError Compiled) :
    (site.conclude plan answer).withoutInfo = [site.tuningRecord plan] := by
  cases answer <;> cases hdebug : site.debug <;>
    simp [Report.withoutInfo, conclude, openingRecords, kernelRecords, tuningRecord, hdebug]

/-- The reports on a planned site with one flag and with another are the same but
for debugging, after answers that are the same but for the listing. -/
theorem conclude_sameButDebug (site : CallSite P V) (plan : Plan) (a b : Bool)
    {answer answer' : Except LoweringError Compiled}
    (hanswer : Compiled.launched <$> answer = Compiled.launched <$> answer') :
    ({ site with debug := a }.conclude plan answer).SameButDebug b
      ({ site with debug := b }.conclude plan answer') := by
  refine ⟨?_, by rw [withoutInfo_conclude, withoutInfo_conclude]; rfl⟩
  rcases Compiled.launched_cases hanswer with
    ⟨error, rfl, rfl⟩ | ⟨emission, listing, listing', grid, rfl, rfl⟩
  · rfl
  · have hassemble :
        (assembly { site with debug := b } plan ⟨⟨emission, listing'⟩, grid⟩).assemble =
          CallDescriptor.withDebug b <$>
            (assembly { site with debug := a } plan ⟨⟨emission, listing⟩, grid⟩).assemble :=
      (assembly { site with debug := a } plan ⟨⟨emission, listing⟩, grid⟩).assemble_debug b
        listing'
    simp only [conclude, hassemble]
    cases (assembly { site with debug := a } plan ⟨⟨emission, listing⟩, grid⟩).assemble <;> rfl

/-- The dialogues of a site with one flag and with another are the same but for
debugging. -/
theorem dialogue_sameButDebug (site : CallSite P V) (a b : Bool) :
    { site with debug := a }.dialogue.SameButDebug b { site with debug := b }.dialogue := by
  unfold dialogue
  by_cases hinterpret : site.interpret = true
  · simp only [if_pos hinterpret]
    exact .finished ⟨rfl, rfl⟩
  · have hplan : ∀ flag, { site with debug := flag }.plan = site.plan := fun _ => rfl
    simp only [if_neg hinterpret, hplan]
    cases site.plan with
    | error error => exact .finished ⟨rfl, rfl⟩
    | ok plan => exact .asking (conclude_sameButDebug site plan a b)

/-- A site that is not being debugged writes no record about its kernel. -/
theorem withoutInfo_lower (compiler : Compiler σ P) {site : CallSite P V}
    (hdebug : site.debug = false) (memory : σ) :
    (site.lower compiler memory).1.withoutInfo = (site.lower compiler memory).1.log := by
  cases hinterpret : site.interpret with
  | true =>
    rw [lower_of_interpret compiler hinterpret]
    rfl
  | false =>
    cases hplan : site.plan with
    | error error =>
      rw [lower_of_plan_error compiler hinterpret hplan]
      rfl
    | ok plan =>
      rw [lower_of_plan compiler hinterpret hplan, withoutInfo_conclude]
      cases (compiler (site.request plan) memory).1 <;>
        simp [conclude, openingRecords, kernelRecords, hdebug]

/-- An emitted call says whether its site is being debugged. -/
theorem get?_debug_of_emitted (compiler : Compiler σ P) {site : CallSite P V} {memory : σ}
    {call : CallDescriptor V}
    (hcall : (site.lower compiler memory).1.outcome = .ok (.custom call)) :
    call.config.get? "debug" = some (.bool site.debug) := by
  obtain ⟨plan, compiled, _, _, hassemble⟩ := exists_assembly_of_custom compiler hcall
  obtain ⟨extent, _, bytecode, metadata, _, _, _, _, hfields⟩ :=
    Assembly.assemble_eq_ok_iff.mp hassemble
  have hconfig : call.config =
      .ofList ((site.assembly plan compiled).attributes extent bytecode metadata) := by
    rw [hfields]
  obtain ⟨_, _, _, _, _, _, _, hdebug, _⟩ := Assembly.get?_attributes hconfig
  exact hdebug

/-- All records of a site that is being debugged, in order. -/
def debugRecords (site : CallSite P V) (platform : Platform) (tuning : Tuning)
    (listing : String) : List LogRecord :=
  [⟨.debug, site.name ++ ": lowering for " ++ platform.name ++
      " with num_warps = " ++ toString tuning.numWarps.toInt ++
      ", num_stages = " ++ toString tuning.numStages.toInt⟩,
    ⟨.info, toString site.program⟩, ⟨.info, site.mapping.shown⟩, ⟨.info, listing⟩]

omit [ToString P] in
/-- The check of a site, its platform or its tuning fails. -/
inductive Refused (site : CallSite P V) : Prop
  /-- The grid mapping does not pass the check. -/
  | check {error : LoweringError} : site.mapping.check = .error error → Refused site
  /-- The platform is not resolved. -/
  | platform {error : LoweringError} :
      Platform.resolve site.platforms site.modulePlatforms = .error error → Refused site
  /-- The tuning for the platform is not extracted. -/
  | tuning {platform : Platform} {error : LoweringError} {rest : Params} :
      Platform.resolve site.platforms site.modulePlatforms = .ok platform →
      site.params.extractTuning platform = (.error error, rest) → Refused site

omit [ToString P] in
/-- A site is refused exactly if it has no plan. -/
theorem refused_iff {site : CallSite P V} : site.Refused ↔ ∃ error, site.plan = .error error := by
  constructor
  · intro hrefused
    cases hplan : site.plan with
    | error error => exact ⟨error, rfl⟩
    | ok plan =>
      obtain ⟨hcheck, hplatform, back, hback, htuning, _⟩ := plan_eq_ok_iff.mp hplan
      obtain ⟨_, hextract⟩ := Params.exists_extractTuning_iff.mpr ⟨back, hback, htuning⟩
      cases hrefused with
      | check herror => simp [hcheck] at herror
      | platform herror => simp [hplatform] at herror
      | tuning hplatform' herror =>
        obtain rfl := Except.ok.inj (hplatform.symm.trans hplatform')
        simp [hextract] at herror
  · rintro ⟨error, hplan⟩
    cases hcheck : site.mapping.check with
    | error error => exact .check hcheck
    | ok =>
      cases hplatform : Platform.resolve site.platforms site.modulePlatforms with
      | error error => exact .platform hplatform
      | ok platform =>
        cases hextract : site.params.extractTuning platform with
        | mk tuning rest =>
          cases tuning with
          | error error => exact .tuning hplatform hextract
          | ok tuning =>
            simp [plan, hcheck, hplatform, Params.splitTuning, hextract, bind, Except.bind, pure,
              Except.pure] at hplan

/-- What the log of a site that is being debugged tells. -/
structure TellsProgress (compiler : Compiler σ P) (site : CallSite P V) (memory : σ)
    (log : List LogRecord) : Prop where
  /-- There is nothing, or there are the first of the records, about the tuning that
  was extracted and the kernel that was compiled. -/
  initial : log = [] ∨ ∃ platform tuning rest listing,
    Platform.resolve site.platforms site.modulePlatforms = .ok platform ∧
    site.params.extractTuning platform = (.ok tuning, rest) ∧
    (∀ request compiled, site.Asks request → (compiler request memory).1 = .ok compiled →
      listing = compiled.module.listing) ∧
    log <+: site.debugRecords platform tuning listing
  /-- There is nothing exactly if the site is refused. -/
  refused : log = [] ↔ site.Refused
  /-- There are three records exactly if the compiler was asked and failed. -/
  failed : log.length = 3 ↔
    ∃ request error, site.Asks request ∧ (compiler request memory).1 = .error error
  /-- There are all four exactly if the compiler was asked and succeeded. -/
  compiled : log.length = 4 ↔
    ∃ request compiled, site.Asks request ∧ (compiler request memory).1 = .ok compiled

/-- A planned site that is being debugged writes the first three records, and the
last one if its kernel is compiled. -/
theorem log_conclude {site : CallSite P V} (hdebug : site.debug = true) (plan : Plan) :
    (∀ error listing, (site.conclude plan (.error error)).log =
      (site.debugRecords plan.platform plan.tuning listing).take 3) ∧
    ∀ compiled, (site.conclude plan (.ok compiled)).log =
      site.debugRecords plan.platform plan.tuning compiled.module.listing := by
  simp [conclude, openingRecords, kernelRecords, tuningRecord, debugRecords, hdebug,
    GridMapping.toText_eq_shown]

/-- Without a plan, an empty log tells the progress. -/
theorem tellsProgress_of_plan_error (compiler : Compiler σ P) {site : CallSite P V}
    {error : LoweringError} (hinterpret : site.interpret = false)
    (hplan : site.plan = .error error) (memory : σ) : site.TellsProgress compiler memory [] := by
  have hasks : ∀ request, ¬site.Asks request := by
    intro request hrequest
    obtain ⟨plan, hplan', _⟩ := (asks_iff hinterpret).mp hrequest
    exact absurd (hplan.symm.trans hplan') (by simp)
  exact
    { initial := .inl rfl
      refused := ⟨fun _ => refused_iff.mpr ⟨error, hplan⟩, fun _ => rfl⟩
      failed := by simp [hasks]
      compiled := by simp [hasks] }

/-- With a plan, the log of the report on the answer of the compiler tells the
progress. -/
theorem tellsProgress_of_plan (compiler : Compiler σ P) {site : CallSite P V} {plan : Plan}
    (hinterpret : site.interpret = false) (hplan : site.plan = .ok plan)
    (hdebug : site.debug = true) (memory : σ) :
    site.TellsProgress compiler memory
      (site.conclude plan (compiler (site.request plan) memory).1).log := by
  have hasks : ∀ request, site.Asks request ↔ request = site.request plan := by
    intro request
    simp [asks_iff hinterpret, hplan]
  have hrefused : ¬site.Refused := by simp [refused_iff, hplan]
  obtain ⟨_, hplatform, back, hback, htuning, _⟩ := plan_eq_ok_iff.mp hplan
  obtain ⟨rest, hextract⟩ := Params.exists_extractTuning_iff.mpr ⟨back, hback, htuning⟩
  obtain ⟨hfailed, hcompiled⟩ := log_conclude hdebug plan
  cases hanswer : (compiler (site.request plan) memory).1 with
  | error error =>
    have hlog := hfailed error ""
    exact
      { initial := by
          refine .inr ⟨plan.platform, plan.tuning, rest, "", hplatform, hextract, ?_, ?_⟩
          · rintro request compiled hrequest hok
            rw [(hasks request).mp hrequest, hanswer] at hok
            cases hok
          · exact hlog ▸ List.take_prefix 3 _
        refused := by simp [hlog, debugRecords, hrefused]
        failed := by simp [hlog, debugRecords, hasks, hanswer]
        compiled := by simp [hlog, debugRecords, hasks, hanswer] }
  | ok compiled =>
    rw [hcompiled compiled]
    exact
      { initial := by
          refine .inr ⟨plan.platform, plan.tuning, rest, compiled.module.listing, hplatform,
            hextract, ?_, List.prefix_rfl⟩
          rintro request compiled' hrequest hok
          rw [(hasks request).mp hrequest, hanswer] at hok
          rw [Except.ok.inj hok]
        refused := by simp [debugRecords, hrefused]
        failed := by simp [debugRecords, hasks, hanswer]
        compiled := by simp [debugRecords, hasks, hanswer] }

/-- The log of a site that is being debugged tells how far the site has got. -/
theorem tellsProgress_lower (compiler : Compiler σ P) {site : CallSite P V}
    (hinterpret : site.interpret = false) (hdebug : site.debug = true) (memory : σ) :
    site.TellsProgress compiler memory (site.lower compiler memory).1.log := by
  cases hplan : site.plan with
  | error error =>
    rw [lower_of_plan_error compiler hinterpret hplan]
    exact tellsProgress_of_plan_error compiler hinterpret hplan memory
  | ok plan =>
    rw [lower_of_plan compiler hinterpret hplan]
    exact tellsProgress_of_plan compiler hinterpret hplan hdebug memory

/-- Whether a site is being debugged, and which of two compilers it has, counts for
nothing but the debugging attribute and the records about the kernel. -/
structure DebugAside (related : σ → τ → Prop) (first : Compiler σ P) (second : Compiler τ P)
    (site : CallSite P V) (m : σ) (n : τ) : Prop where
  /-- The compilers are asked the same. -/
  requests : ∀ a b requests,
    ({ site with debug := a }.lower first.recording (m, requests)).2.2 =
      ({ site with debug := b }.lower second.recording (n, requests)).2.2
  /-- Their memories correspond afterwards. -/
  memory : ∀ a b, related ({ site with debug := a }.lower first m).2
    ({ site with debug := b }.lower second n).2
  /-- The outcomes are the same but for the debugging attribute of a call. -/
  outcome : ∀ a b, ({ site with debug := b }.lower second n).1.outcome =
    Lowered.withDebug b <$> ({ site with debug := a }.lower first m).1.outcome
  /-- The debugging attribute of a call is the flag. -/
  debug : ∀ flag call,
    ({ site with debug := flag }.lower second n).1.outcome = .ok (.custom call) →
      call.config.get? "debug" = some (.bool flag)
  /-- Without debugging, the records about the kernel are missing and no others. -/
  log : ({ site with debug := false }.lower second n).1.log =
    ({ site with debug := true }.lower first m).1.withoutInfo

/-- Between compilers that are the same but for the listings, debugging counts for
nothing else. -/
theorem debugAside_of_same {related : σ → τ → Prop} {first : Compiler σ P}
    {second : Compiler τ P} (hsame : first.SameButListings related second) {m : σ} {n : τ}
    (hmemory : related m n) (site : CallSite P V) :
    site.DebugAside related first second m n := by
  have hold := fun a b => (site.dialogue_sameButDebug a b).hold hsame hmemory
  exact
    { requests := fun a b requests => by
        simp only [lower_eq_hold, Dialogue.hold_recording, (hold a b).1]
      memory := fun a b => by
        rw [lower_eq_hold, lower_eq_hold]
        exact (hold a b).2.2
      outcome := fun a b => by
        rw [lower_eq_hold, lower_eq_hold]
        exact (hold a b).2.1.outcome
      debug := fun flag call hcall => get?_debug_of_emitted second hcall
      log := by
        rw [← withoutInfo_lower second rfl n, lower_eq_hold, lower_eq_hold]
        exact (hold true false).2.1.log }

/-- Debugging a site, or listing its kernels differently, changes nothing but the
debugging attribute and the records about the kernel. These follow the record of the
tuning and tell how far the site has got; an interpreted site has one record of its
own. -/
theorem debugging_is_aside (site : CallSite P V) :
    (∀ (σ : Type) (compiler : Compiler σ P) (memory : σ),
      site.DebugAside Eq compiler compiler memory memory ∧
      (site.interpret = false → { site with debug := true }.TellsProgress compiler memory
        ({ site with debug := true }.lower compiler memory).1.log) ∧
      (site.interpret = true → ∀ flag,
        ({ site with debug := flag }.lower compiler memory).1.log =
          [⟨.debug, site.name ++ ": interpret mode, skip kernel lowering"⟩])) ∧
    ∀ (σ τ : Type) (related : σ → τ → Prop) (first : Compiler σ P) (second : Compiler τ P),
      first.SameButListings related second → ∀ m n, related m n →
        site.DebugAside related first second m n := by
  refine ⟨fun σ compiler memory => ⟨?_, fun hinterpret => ?_, fun hinterpret flag => ?_⟩, ?_⟩
  · exact debugAside_of_same (.refl compiler) rfl site
  · have hdebugged : { site with debug := true }.interpret = false := hinterpret
    exact tellsProgress_lower compiler hdebugged rfl memory
  · have hflag : { site with debug := flag }.interpret = true := hinterpret
    rw [lower_of_interpret compiler hflag]
    rfl
  · intro σ τ related first second hsame m n hmemory
    exact debugAside_of_same hsame hmemory site

/-- A compiler that counts its answers in the listings and one that lists nothing,
asked for a kernel whose grid does not fit into words: all four records are written
although the call is not assembled, and an interpreted site has one record. -/
theorem debugging_oversized_grid :
    let oversized : Grid := .scalar 4294967295
    let counting : Compiler Nat String := fun _ count =>
      (.ok ⟨⟨⟨[[1]], none⟩, toString count⟩, oversized⟩, count + 1)
    let silent : Compiler Unit String := .constant ⟨⟨⟨[[1]], none⟩, ""⟩, oversized⟩
    let site := bare (.scalar 16) .empty
    let log : List LogRecord :=
      [⟨.debug, "bare: lowering for cuda with num_warps = 4, num_stages = 3"⟩,
        ⟨.info, "kernel"⟩,
        ⟨.info, "GridMapping \x7b grid: Scalar(16), num_dynamic_grid_bounds: 0, " ++
          "num_index_operands: 0 \x7d"⟩,
        ⟨.info, "3"⟩]
    counting.SameButListings (fun _ _ => True) silent ∧
      site.DebugAside (fun _ _ => True) counting silent 3 () ∧
      ({ site with debug := true }.lower counting 3).1.outcome =
        .error (.axisOverflow .x 4294967295) ∧
      ({ site with debug := true }.lower counting 3).1.log = log ∧
      { site with debug := true }.TellsProgress counting 3 log ∧
      ({ site with interpret := true }.lower counting 3).1.log =
        [⟨.debug, "bare: interpret mode, skip kernel lowering"⟩] := by
  intro oversized counting silent site log
  have hsame : counting.SameButListings (fun _ _ => True) silent :=
    { answer := fun _ _ _ _ => rfl, memory := fun _ _ _ _ => trivial }
  have hlog : ({ site with debug := true }.lower counting 3).1.log = log := by decide +kernel
  obtain ⟨hone, htwo⟩ := debugging_is_aside site
  obtain ⟨_, hprogress, _⟩ := hone Nat counting 3
  obtain ⟨_, _, hinterpreted⟩ :=
    (debugging_is_aside { site with interpret := true }).1 Nat counting 3
  exact ⟨hsame, htwo Nat Unit _ counting silent hsame 3 () trivial, by decide +kernel, hlog,
    hlog ▸ hprogress rfl, hinterpreted rfl false⟩

end CallSite

end KernelLaunch
