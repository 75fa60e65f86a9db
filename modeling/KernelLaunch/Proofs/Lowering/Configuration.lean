import KernelLaunch.Proofs.Keyed
import KernelLaunch.Proofs.Lowering.Acceptance
import KernelLaunch.Proofs.Lowering.Content

/-!
# The configuration of an emitted call

A configuration takes whatever is pushed into it, and a look-up stops at the first entry
of its key. So looking keys up and going through the entries tell the same only while no
key is pushed twice. This file shows that they do as long as every push finds its key
unbound, and that the attributes of a call are pushed in this way.
-/

namespace KernelLaunch

namespace LaunchConfig

/-- Looking keys up and going through the entries tell the same. -/
structure Faithful (config : LaunchConfig) : Prop where
  /-- Each key occurs once. -/
  distinct : config.keys.Nodup
  /-- Exactly the entries are found. -/
  found : ∀ key value, config.get? key = some value ↔ (key, value) ∈ config.entries
  /-- Nothing is found exactly under a key that does not occur. -/
  missing : ∀ key, config.get? key = none ↔ key ∉ config.keys
  /-- The keys are those of the entries, in order. -/
  keys : config.keys = config.entries.map Prod.fst
  /-- The size is the number of the entries. -/
  size : config.size = config.entries.length
  /-- The keys looked up in order yield the values in order. -/
  values : config.keys.map config.get? = config.entries.map fun entry => some entry.2

/-- Attributes are pushed one after another, each under a key that is unbound by then. -/
def PushesFresh (config : LaunchConfig) : List (String × Attribute) → Prop
  | [] => True
  | (key, value) :: rest => config.get? key = none ∧ (config.push key value).PushesFresh rest

variable {config : LaunchConfig} {key : String} {entries : List (String × Attribute)}

/-- Nothing is found exactly under a key that does not occur. -/
theorem get?_eq_none_iff : config.get? key = none ↔ key ∉ config.keys := by
  rw [get?, List.lookup_eq_none_iff, keys, List.mem_map]
  constructor
  · rintro hne ⟨entry, hentry, rfl⟩
    exact absurd rfl (bne_iff_ne.mp (hne entry hentry))
  · intro hnot entry hentry
    exact bne_iff_ne.mpr fun hkey => hnot ⟨entry, hentry, hkey.symm⟩

/-- Where each key occurs once, look-ups and entries tell the same. -/
theorem faithful_of_distinct (hdistinct : config.keys.Nodup) : config.Faithful where
  distinct := hdistinct
  found _ _ := Keyed.lookup_eq_some_iff_mem hdistinct
  missing _ := get?_eq_none_iff
  keys := rfl
  size := rfl
  values := by
    rw [LaunchConfig.keys, List.map_map]
    refine List.map_congr_left fun entry hentry => ?_
    exact (Keyed.lookup_eq_some_iff_mem hdistinct).mpr hentry

/-- A push under an unbound key keeps the keys distinct. -/
theorem distinct_push (hdistinct : config.keys.Nodup) (hfresh : config.get? key = none)
    (value : Attribute) : (config.push key value).keys.Nodup := by
  rw [keys_push, List.nodup_append]
  refine ⟨hdistinct, List.nodup_singleton key, fun bound hbound other hother => ?_⟩
  obtain rfl : other = key := List.mem_singleton.mp hother
  rintro rfl
  exact get?_eq_none_iff.mp hfresh hbound

/-- Attributes can be pushed under unbound keys exactly if neither the keys that are there
nor those to be pushed repeat a key. -/
theorem pushesFresh_iff (hdistinct : config.keys.Nodup) :
    config.PushesFresh entries ↔ (config.keys ++ entries.map Prod.fst).Nodup := by
  induction entries generalizing config with
  | nil => simpa [PushesFresh] using hdistinct
  | cons entry rest ih =>
    obtain ⟨key, value⟩ := entry
    have hkeys : config.keys ++ ((key, value) :: rest).map Prod.fst =
        (config.push key value).keys ++ rest.map Prod.fst := by simp
    rw [hkeys, PushesFresh]
    constructor
    · rintro ⟨hfresh, hrest⟩
      exact (ih (distinct_push hdistinct hfresh value)).mp hrest
    · intro hnodup
      have hpushed : (config.push key value).keys.Nodup := (List.nodup_append.mp hnodup).1
      refine ⟨get?_eq_none_iff.mpr fun hbound => ?_, (ih hpushed).mpr hnodup⟩
      rw [keys_push, List.nodup_append] at hpushed
      exact hpushed.2.2 key hbound key (List.mem_singleton_self key) rfl

/-- A configuration that is pushed together under unbound keys is faithful. -/
theorem PushesFresh.faithful_ofList (hfresh : empty.PushesFresh entries) :
    (ofList entries).Faithful := by
  have hempty : empty.keys.Nodup := List.nodup_nil
  have hnodup : (empty.keys ++ entries.map Prod.fst).Nodup := (pushesFresh_iff hempty).mp hfresh
  apply faithful_of_distinct
  rw [keys_ofList]
  exact hnodup

end LaunchConfig

namespace Assembly

variable {V : Type}

/-- The attributes of a call are pushed under unbound keys. -/
theorem pushesFresh_attributes (assembly : Assembly V) (extent : Extent Int32)
    (bytecode : List UInt8) (metadata : Option String) :
    LaunchConfig.empty.PushesFresh (assembly.attributes extent bytecode metadata) := by
  have hempty : LaunchConfig.empty.keys.Nodup := List.nodup_nil
  rw [LaunchConfig.pushesFresh_iff hempty, keys_attributes]
  cases metadata.isSome <;> decide

/-- The configuration of an assembled call holds the attributes, with metadata exactly if
there are any. -/
theorem exists_config_eq {assembly : Assembly V} {call : CallDescriptor V}
    (hcall : assembly.assemble = .ok call) :
    ∃ extent bytecode metadata,
      call.config = .ofList (assembly.attributes extent bytecode metadata) ∧
        metadata.isSome = assembly.params.contains Params.metadataKey := by
  obtain ⟨extent, _, bytecode, metadata, _, _, _, hmetadata, rfl⟩ := assemble_eq_ok_iff.mp hcall
  refine ⟨extent, bytecode, metadata, rfl, ?_⟩
  rw [Params.contains, Params.metadata_eq_ok_iff.mp hmetadata, Option.isSome_map]

/-- The configuration of an assembled call is faithful. -/
theorem faithful_config {assembly : Assembly V} {call : CallDescriptor V}
    (hcall : assembly.assemble = .ok call) : call.config.Faithful := by
  obtain ⟨extent, bytecode, metadata, hconfig, _⟩ := exists_config_eq hcall
  rw [hconfig]
  exact (assembly.pushesFresh_attributes extent bytecode metadata).faithful_ofList

/-- The configuration of an assembled call has eight keys, and a ninth if there are
metadata. -/
theorem keys_config {assembly : Assembly V} {call : CallDescriptor V}
    (hcall : assembly.assemble = .ok call) :
    call.config.keys =
      ["name", "ir", "num_stages", "num_warps", "grid_x", "grid_y", "grid_z", "debug"] ++
        if assembly.params.contains Params.metadataKey then ["serialized_metadata"] else [] := by
  obtain ⟨extent, bytecode, metadata, hconfig, hsome⟩ := exists_config_eq hcall
  rw [hconfig, LaunchConfig.keys_ofList, keys_attributes, hsome]

/-- So the size of the configuration tells whether there are metadata. -/
theorem size_config {assembly : Assembly V} {call : CallDescriptor V}
    (hcall : assembly.assemble = .ok call) :
    (call.config.size = if assembly.params.contains Params.metadataKey then 9 else 8) ∧
      ("serialized_metadata" ∈ call.config.keys ↔
        assembly.params.contains Params.metadataKey = true) := by
  have hkeys := keys_config hcall
  have hsize : call.config.size = call.config.keys.length := (List.length_map _).symm
  rw [hsize, hkeys]
  cases assembly.params.contains Params.metadataKey <;> decide

end Assembly

/-- In every assembly each attribute is pushed under a key that is unbound by then,
whatever comes before it and whether or not there are metadata to follow. So in the
configuration of every call, looking keys up and going through the entries tell the same;
and the configuration has eight entries, or nine exactly if there are metadata. -/
theorem CallSite.faithful_of_emitted {σ P V : Type} [ToString P] :
    (∀ (assembly : Assembly V) (extent : Extent Int32) (bytecode : List UInt8)
      (metadata : Option String),
      LaunchConfig.empty.PushesFresh (assembly.attributes extent bytecode metadata)) ∧
    (∀ (assembly : Assembly V) (call : CallDescriptor V), assembly.assemble = .ok call →
      call.config.Faithful ∧
      (call.config.size = if assembly.params.contains "serialized_metadata" then 9 else 8) ∧
      ("serialized_metadata" ∈ call.config.keys ↔
        assembly.params.contains "serialized_metadata" = true)) ∧
    ∀ (compiler : Compiler σ P) (site : CallSite P V) (memory : σ) (call : CallDescriptor V),
      (site.lower compiler memory).1.outcome = .ok (.custom call) →
      call.config.Faithful ∧
      call.config.size = if "serialized_metadata" ∈ call.config.keys then 9 else 8 := by
  refine ⟨Assembly.pushesFresh_attributes,
    fun assembly call hcall => ⟨Assembly.faithful_config hcall, Assembly.size_config hcall⟩,
    fun compiler site memory call hcall => ?_⟩
  obtain ⟨plan, compiled, _, _, hassemble⟩ := exists_assembly_of_custom compiler hcall
  obtain ⟨hsize, hmetadata⟩ := Assembly.size_config hassemble
  refine ⟨Assembly.faithful_config hassemble, ?_⟩
  simp only [hmetadata]
  exact hsize

/-- The ninth entry is found where it stands, and nothing is found under a key that differs
from one of the nine in a capital letter. -/
theorem CallSite.faithful_with_metadata :
    let site := bare (.scalar 16) ⟨[("num_warps", .int 8), ("serialized_metadata", .text "abc")]⟩
    let compiler := Compiler.constant ⟨⟨⟨[[1]], none⟩, ""⟩, .scalar 16⟩
    ∃ call : CallDescriptor Nat, (site.lower compiler ()).1.outcome = .ok (.custom call) ∧
      call.config.Faithful ∧ call.config.size = 9 ∧
      call.config.get? "serialized_metadata" = some (.text "abc") ∧
      call.config.get? "Debug" = none := by
  intro site compiler
  let call : CallDescriptor Nat :=
    { resultTypes := []
      operands := []
      config := ⟨[("name", .text "bare"), ("ir", .bytes [1]), ("num_stages", .word 3),
        ("num_warps", .word 8), ("grid_x", .word 16), ("grid_y", .word 1), ("grid_z", .word 1),
        ("debug", .bool false), ("serialized_metadata", .text "abc")]⟩
      operandLayouts := []
      resultLayouts := []
      aliases := [] }
  have hcall : (site.lower compiler ()).1.outcome = .ok (.custom call) := by decide +kernel
  obtain ⟨hfaithful, hsize⟩ := faithful_of_emitted.2.2 compiler site () call hcall
  refine ⟨call, hcall, hfaithful, hsize, (hfaithful.found _ _).mpr ?_,
    (hfaithful.missing _).mpr ?_⟩
  · exact List.mem_of_getLast? rfl
  · decide

end KernelLaunch
