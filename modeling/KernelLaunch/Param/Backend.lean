import KernelLaunch.LoweringError

/-!
# Back-end parameters

The parameters meant for the compiling back end are either the whole table or a
table of their own, bound to one fixed name of the whole table. Where that name
is bound to anything but a table, there are no back-end parameters.
-/

namespace KernelLaunch.Params

/-- The name under which back-end parameters have a table of their own. -/
def backendKey : String := "triton"

/-- The name of the metadata among the back-end parameters. -/
def metadataKey : String := "serialized_metadata"

/-- The back-end parameters. -/
def backend (params : Params) : Except LoweringError Params :=
  match params.get? backendKey with
  | none => .ok params
  | some (.table bindings) => .ok ⟨bindings⟩
  | some found => .error (.paramSort backendKey .table found)

/-- The same parameters with other back-end parameters. They take the place of
the former ones: of the table under the name, or of the whole. -/
def withBackend (params backend : Params) : Params :=
  match params.get? backendKey with
  | none => backend
  | some _ => params.update backendKey fun _ => .table backend.bindings

/-- An operation on the back-end parameters, done inside the whole table. It
fails without a change where there are none. -/
def onBackend {β : Type} (params : Params) (operation : Params → β × Params) :
    Except LoweringError (β × Params) := do
  let (result, backend) := operation (← params.backend)
  return (result, params.withBackend backend)

/-- The table of the back-end parameters if they have one, else the whole. -/
def detachBackend (params : Params) : Params :=
  match params.get? backendKey with
  | some (.table bindings) => ⟨bindings⟩
  | _ => params

/-- The metadata, which have to be a text where they are present. -/
def metadata (params : Params) : Except LoweringError (Option String) :=
  match params.get? metadataKey with
  | none => .ok none
  | some (.text text) => .ok (some text)
  | some found => .error (.paramSort metadataKey .text found)

/-- Where there are back-end parameters, they are what detaching yields. -/
theorem detachBackend_of_backend {params back : Params} (hback : params.backend = .ok back) :
    params.detachBackend = back := by
  unfold backend at hback
  unfold detachBackend
  split at hback
  · next hnone => simpa [hnone] using hback
  · next bindings htable => simpa [htable] using hback
  · exact absurd hback (by simp)

/-- Replacing the table under the name leaves the replacement in place. -/
theorem backend_withBackend_of_table {params replacement : Params}
    {bindings : List (String × Param)}
    (htable : params.get? backendKey = some (.table bindings)) :
    (params.withBackend replacement).backend = .ok replacement := by
  have hget : (params.withBackend replacement).get? backendKey =
      some (.table replacement.bindings) := by
    simp [withBackend, htable, get?_update]
  simp [backend, hget]

/-- An operation on the back-end parameters is done where they are. -/
theorem onBackend_of_backend {β : Type} {params back : Params} (hback : params.backend = .ok back)
    (operation : Params → β × Params) :
    params.onBackend operation =
      .ok ((operation back).1, params.withBackend (operation back).2) := by
  simp only [onBackend, hback]
  rfl

/-- Without back-end parameters, an operation on them has the same cause of
failure as the look for them. -/
theorem onBackend_of_error {β : Type} {params : Params} {error : LoweringError}
    (hback : params.backend = .error error) (operation : Params → β × Params) :
    params.onBackend operation = .error error := by
  simp only [onBackend, hback]
  rfl

end KernelLaunch.Params
