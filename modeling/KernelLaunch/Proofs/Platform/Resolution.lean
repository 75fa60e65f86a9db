import KernelLaunch.Platform
import KernelLaunch.Proofs.Text.LetterCase

/-!
# Which platform two lists of names leave

One list of names is active, the one of the call site or else the one of the module. It
leaves a platform exactly if it holds one name and this is the name of a platform but for
the case of its letters. Every other number of names is ambiguous, whatever the names
are, and a single name of no platform is told as it was given.
-/

namespace KernelLaunch.Platform

/-- The names that are active: those of the call site, or those of the module if there are
none. -/
def active : List String → List String → List String
  | [], module => module
  | first :: rest, _ => first :: rest

/-- The name of a platform has no capital letters. -/
theorem toLower_name (platform : Platform) : platform.name.toLower = platform.name := by
  cases platform <;> decide +kernel

/-- Different platforms have different names. -/
theorem name_injective {a b : Platform} (hname : a.name = b.name) : a = b := by
  revert hname
  cases a <;> cases b <;> decide

/-- A text is the name of a platform but for the case of its letters exactly if its small
form is the name. -/
theorem sameButCase_name_iff {name : String} {platform : Platform} :
    Text.SameButCase name platform.name ↔ name.toLower = platform.name := by
  rw [← Text.string_toLower_eq_iff, toLower_name]

/-- Either a name has a platform, or it is told as it was given. -/
theorem ofName_cases (name : String) :
    (∃ platform : Platform, name.toLower = platform.name ∧ ofName name = .ok platform) ∨
      (∀ platform : Platform, name.toLower ≠ platform.name) ∧
        ofName name = .error (.unknownPlatform name) := by
  by_cases hcuda : name.toLower = Platform.cuda.name
  · exact .inl ⟨.cuda, hcuda, by rw [ofName, if_pos hcuda]⟩
  · by_cases hrocm : name.toLower = Platform.rocm.name
    · exact .inl ⟨.rocm, hrocm, by rw [ofName, if_neg hcuda, if_pos hrocm]⟩
    · refine .inr ⟨fun platform => ?_, by rw [ofName, if_neg hcuda, if_neg hrocm]⟩
      cases platform with
      | cuda => exact hcuda
      | rocm => exact hrocm

/-- The platform of a name is the one whose name it is but for the case of letters. -/
theorem ofName_eq_ok_iff {name : String} {platform : Platform} :
    ofName name = .ok platform ↔ Text.SameButCase name platform.name := by
  rw [sameButCase_name_iff]
  obtain ⟨known, hknown, hok⟩ | ⟨hunknown, herror⟩ := ofName_cases name
  · rw [hok, hknown, Except.ok.injEq]
    exact ⟨congrArg Platform.name, name_injective⟩
  · rw [herror]
    exact iff_of_false (by simp) (hunknown platform)

/-- A name of no platform is told as it was given. -/
theorem ofName_of_unknown {name : String}
    (hunknown : ∀ platform : Platform, ¬Text.SameButCase name platform.name) :
    ofName name = .error (.unknownPlatform name) := by
  obtain ⟨platform, hknown, _⟩ | ⟨_, herror⟩ := ofName_cases name
  · exact absurd (sameButCase_name_iff.mpr hknown) (hunknown platform)
  · exact herror

variable {site module : List String}

/-- The active names leave the same as if the call site had them. -/
theorem resolve_eq_active (site module : List String) :
    resolve site module = resolve (active site module) [] := by
  cases site with
  | nil => cases module <;> rfl
  | cons first rest => rfl

/-- A single active name is taken for the name of the platform. -/
theorem resolve_of_single {name : String} (hactive : active site module = [name]) :
    resolve site module = ofName name := by
  rw [resolve_eq_active, hactive]
  rfl

/-- Every other number of active names is ambiguous. -/
theorem resolve_of_ambiguous (hactive : (active site module).length ≠ 1) :
    ∃ error, resolve site module = .error error ∧ error.kind = .configurationAmbiguity := by
  rw [resolve_eq_active]
  cases hnames : active site module with
  | nil => exact ⟨.noPlatform, rfl, rfl⟩
  | cons first rest =>
    cases rest with
    | nil => exact absurd (by rw [hnames]; rfl) hactive
    | cons second rest => exact ⟨.severalPlatforms (first :: second :: rest), rfl, rfl⟩

/-- A list is a single name or it is of another length. -/
theorem exists_single_or_length_ne (names : List String) :
    (∃ name, names = [name]) ∨ names.length ≠ 1 := by
  rw [← List.length_eq_one_iff]
  exact Decidable.em _

/-- The active names decide the platform. It is the one whose name is the only active one
but for the case of letters; no name and more than one are ambiguous; and a single name
of no platform is told as it was given. The names of the module count for nothing if the
call site has some, and every platform is found by its name in any case of its letters. -/
theorem resolve_by_active (site module : List String) :
    (∀ platform, resolve site module = .ok platform ↔
      ∃ name, active site module = [name] ∧ Text.SameButCase name platform.name) ∧
    ((∃ error, resolve site module = .error error ∧ error.kind = .configurationAmbiguity) ↔
      (active site module).length ≠ 1) ∧
    (∀ name, active site module = [name] →
      (∀ platform : Platform, ¬Text.SameButCase name platform.name) →
      ∃ error, resolve site module = .error error ∧ error.kind = .platformNotSupported ∧
        ∃ before behind, error.message = before ++ name ++ behind) ∧
    (site ≠ [] → ∀ other, resolve site other = resolve site module) ∧
    ∀ (platform : Platform) (name : String), Text.SameButCase name platform.name →
      ofName name = .ok platform := by
  refine ⟨fun platform => ?_, ⟨?_, resolve_of_ambiguous⟩, ?_, ?_,
    fun platform name hsame => ofName_eq_ok_iff.mpr hsame⟩
  · obtain ⟨name, hname⟩ | hlength := exists_single_or_length_ne (active site module)
    · rw [resolve_of_single hname, ofName_eq_ok_iff, hname]
      simp
    · obtain ⟨error, herror, _⟩ := resolve_of_ambiguous hlength
      rw [herror]
      refine iff_of_false (by simp) ?_
      rintro ⟨name, hname, _⟩
      exact hlength (by rw [hname]; rfl)
  · rintro ⟨error, herror, hkind⟩ hlength
    obtain ⟨name, hname⟩ := List.length_eq_one_iff.mp hlength
    rw [resolve_of_single hname] at herror
    obtain ⟨platform, _, hok⟩ | ⟨_, htold⟩ := ofName_cases name
    · exact absurd (herror.symm.trans hok) (by simp)
    · obtain rfl := Except.error.inj (herror.symm.trans htold)
      cases hkind
  · intro name hname hunknown
    exact ⟨_, (resolve_of_single hname).trans (ofName_of_unknown hunknown), rfl,
      "unknown platform \"", "\"", rfl⟩
  · intro hsite other
    cases site with
    | nil => exact absurd rfl hsite
    | cons first rest => rfl

/-- A name in another case than the platform's, before an ambiguous list of the module,
and a name that starts with a space. -/
theorem resolve_by_active_mixed_case :
    resolve ["ROCm"] ["cuda", "cuda"] = .ok .rocm ∧
      resolve ["ROCm"] [] = resolve ["ROCm"] ["cuda", "cuda"] ∧
      ofName "CuDa" = .ok .cuda ∧
      ∃ error, resolve [] [" cuda"] = .error error ∧ error.kind = .platformNotSupported ∧
        ∃ before behind, error.message = before ++ " cuda" ++ behind := by
  obtain ⟨hplatform, _, _, hmodule, hname⟩ := resolve_by_active ["ROCm"] ["cuda", "cuda"]
  obtain ⟨_, _, htold, _, _⟩ := resolve_by_active [] [" cuda"]
  have hrocm : Text.SameButCase "ROCm" Platform.rocm.name :=
    sameButCase_name_iff.mpr (by decide +kernel)
  have hcuda : Text.SameButCase "CuDa" Platform.cuda.name :=
    sameButCase_name_iff.mpr (by decide +kernel)
  have hspace : ∀ platform : Platform, ¬Text.SameButCase " cuda" platform.name := by
    intro platform
    rw [sameButCase_name_iff]
    cases platform <;> decide +kernel
  exact ⟨(hplatform .rocm).mpr ⟨"ROCm", rfl, hrocm⟩, hmodule (by simp) [],
    hname .cuda "CuDa" hcuda, htold " cuda" rfl hspace⟩

end KernelLaunch.Platform
