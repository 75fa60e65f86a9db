import KernelLaunch.Proofs.Param.Extraction

/-!
# When parameters are accepted

Four names can make a table of parameters unacceptable: the one of the back-end
parameters, the two of the tuning, and the one of the metadata. Each of them may
be unbound, and where it is bound, its value is judged on its own.
-/

namespace KernelLaunch

namespace Param

/-- The value is a table. -/
def IsTable : Param → Prop
  | .table _ => True
  | _ => False

/-- The value is a text. -/
def IsText : Param → Prop
  | .text _ => True
  | _ => False

/-- The value is an integer from 1 to the largest signed 32-bit word. -/
def IsPositiveWord : Param → Prop
  | .int value => 1 ≤ value.toInt ∧ value.toInt ≤ 2147483647
  | _ => False

/-- What is told of a value that is no positive word. -/
def wordFault (key : String) : Param → LoweringError
  | .int value => .paramRange key value
  | found => .paramSort key .integer found

/-- The message about a value that is no positive word. -/
def wordMessage (key : String) : Param → String
  | .int value => "`" ++ key ++ "` = " ++ toString value.toInt ++ ", positive i32 expected"
  | found => "`" ++ key ++ "` must be an integer, got " ++ found.toText

/-- A value that is no integer is shown as a whole behind what was expected. -/
theorem shows_integerSort (key : String) (found : Param) :
    (LoweringError.paramSort key .integer found).Shows .invalidParams
      ("`" ++ key ++ "` must be an integer, got " ++ found.toText) := by
  have hphrase : "` must be " ++ "an integer" ++ ", got " = "` must be an integer, got " := rfl
  have hmessage : (LoweringError.paramSort key .integer found).message =
      "`" ++ key ++ "` must be " ++ "an integer" ++ ", got " ++ found.toText := rfl
  refine ⟨rfl, ?_⟩
  rw [hmessage, ← hphrase]
  simp only [String.append_assoc]

/-- What is told of a value that is no positive word is shown with its message. -/
theorem shows_wordFault (key : String) (found : Param) :
    (found.wordFault key).Shows .invalidParams (found.wordMessage key) := by
  cases found with
  | int value => exact ⟨rfl, rfl⟩
  | bool | text | table => exact shows_integerSort key _

end Param

namespace Requirement

/-- A name is unbound or bound to an acceptable value. -/
def binding (params : Params) (key : String) (accepts : Param → Prop)
    (fault : Param → LoweringError) (message : Param → String) : Requirement where
  holds := ∀ value, params.get? key = some value → accepts value
  tells error := ∃ value, params.get? key = some value ∧ ¬accepts value ∧ error = fault value ∧
    error.Shows .invalidParams (message value)

/-- The back-end parameters, if they have a name of their own, are a table. -/
def backendTable (params : Params) : Requirement :=
  binding params Params.backendKey Param.IsTable (.paramSort Params.backendKey .table)
    fun found => "`triton` must be a map, got " ++ found.toText

/-- A name of the tuning is bound to a positive word, if it is bound. -/
def tuningWord (back : Params) (key : String) : Requirement :=
  binding back key Param.IsPositiveWord (Param.wordFault key) (Param.wordMessage key)

/-- The metadata are a text, if there are any. -/
def metadataText (back : Params) : Requirement :=
  binding back Params.metadataKey Param.IsText (.paramSort Params.metadataKey .text)
    fun found => "`serialized_metadata` must be a string, got " ++ found.toText

/-- What is read off a name is decided by its binding, provided that the reading
refuses exactly the bound values that are not acceptable, and that each of them is shown
with its message. -/
theorem decide_binding {α : Type} {params : Params} {key : String} {accepts : Param → Prop}
    {fault : Param → LoweringError} {message : Param → String} {result : Except LoweringError α}
    (hshows : ∀ found, (fault found).Shows .invalidParams (message found))
    (hunbound : params.get? key = none → ∃ value, result = .ok value)
    (haccepted : ∀ found, params.get? key = some found → accepts found →
      ∃ value, result = .ok value)
    (hrefused : ∀ found, params.get? key = some found → ¬accepts found →
      result = .error (fault found)) :
    Decide [binding params key accepts fault message] result := by
  apply decide_singleton
  · intro hholds
    cases hkey : params.get? key with
    | none => exact hunbound hkey
    | some found => exact haccepted found hkey (hholds found hkey)
  · intro hviolated
    simp only [binding, Classical.not_forall] at hviolated
    obtain ⟨found, hkey, hnot⟩ := hviolated
    exact ⟨_, ⟨found, hkey, hnot, rfl, hshows found⟩, hrefused found hkey hnot⟩

/-- A requirement on a binding is one on what the name is bound to. -/
theorem binding_congr {a b : Params} {key : String} (hkey : a.get? key = b.get? key)
    (accepts : Param → Prop) (fault : Param → LoweringError) (message : Param → String) :
    binding a key accepts fault message = binding b key accepts fault message := by
  simp only [binding, hkey]

end Requirement

namespace Params

open Requirement

/-- The look for the back-end parameters is decided by the name they have. -/
theorem decide_backend (params : Params) : Decide [backendTable params] params.backend := by
  apply decide_binding
  · exact fun found => ⟨rfl, rfl⟩
  · intro hnone
    exact ⟨params, by simp [backend, hnone]⟩
  · intro found hkey haccepts
    cases found with
    | table bindings => exact ⟨⟨bindings⟩, by simp [backend, hkey]⟩
    | int | bool | text => exact haccepts.elim
  · intro found hkey hnot
    cases found with
    | table bindings => exact absurd trivial hnot
    | int | bool | text => simp [backend, hkey]

/-- A word of the tuning is decided by the binding of its name. -/
theorem decide_positiveWord (back : Params) (key : String) (default : Int32) :
    Decide [tuningWord back key] (back.positiveWord key default) := by
  apply decide_binding
  · exact fun found => found.shows_wordFault key
  · intro hnone
    exact ⟨default, by simp [positiveWord, hnone]⟩
  · intro found hkey haccepts
    cases found with
    | int value =>
      have hrange : 1 ≤ value.toInt ∧ value.toInt ≤ 2147483647 := haccepts
      exact ⟨.ofInt value.toInt, by simp only [positiveWord, hkey, if_pos hrange]⟩
    | table | bool | text => exact haccepts.elim
  · intro found hkey hnot
    cases found with
    | int value =>
      have hrange : ¬(1 ≤ value.toInt ∧ value.toInt ≤ 2147483647) := hnot
      simp only [positiveWord, hkey, if_neg hrange, Param.wordFault]
    | table | bool | text => simp [positiveWord, hkey, Param.wordFault]

/-- The metadata are decided by the binding of their name. -/
theorem decide_metadata (back : Params) : Decide [metadataText back] back.metadata := by
  apply decide_binding
  · exact fun found => ⟨rfl, rfl⟩
  · intro hnone
    exact ⟨none, by simp [metadata, hnone]⟩
  · intro found hkey haccepts
    cases found with
    | text value => exact ⟨some value, by simp [metadata, hkey]⟩
    | int | bool | table => exact haccepts.elim
  · intro found hkey hnot
    cases found with
    | text value => exact absurd trivial hnot
    | int | bool | table => simp [metadata, hkey]

/-- The tuning is decided by the number of warps and then by the number of
stages. -/
theorem decide_tuning (defaults : Tuning) (back : Params) :
    Decide [tuningWord back numWarpsKey, tuningWord back numStagesKey] (back.tuning defaults) := by
  refine (back.decide_positiveWord numWarpsKey _).bind fun numWarps _ => ?_
  exact (back.decide_positiveWord numStagesKey _).bind fun numStages _ => .accept _

/-- Splitting off the tuning is decided by the place of the back-end parameters
and then by their tuning. -/
theorem decide_splitTuning (platform : Platform) (params : Params) :
    Decide [backendTable params, tuningWord params.detachBackend numWarpsKey,
      tuningWord params.detachBackend numStagesKey] (params.splitTuning platform) := by
  rw [splitTuning_eq]
  refine (params.decide_backend).bind fun back hback => ?_
  rw [detachBackend_of_backend hback]
  exact (back.decide_tuning platform.defaults).bind fun tuning _ => .accept _

end Params

end KernelLaunch
