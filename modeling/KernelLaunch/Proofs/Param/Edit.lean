import KernelLaunch.Param.Tuning
import KernelLaunch.Proofs.Param.Tree

/-!
# Edits of parameters

A table of parameters is edited by its names, by the names of its back-end
parameters and by the extraction of a tuning. This file says what an edit does to
a table, and what it does to a partial map: there it sets single names under a
path, and the path of the back-end parameters is looked for anew before every
edit. No path is changed but those that an edit sets.
-/

namespace KernelLaunch

/-- A value as it is handed in: all tables in it are in ascending order. -/
abbrev OrderedParam := { value : Param // value.Ordered }

/-- A change of a single name. -/
inductive Change where
  /-- Binds the name. -/
  | insert (key : String) (value : OrderedParam)
  /-- Unbinds the name. -/
  | remove (key : String)

/-- What is done with a table of parameters. -/
inductive Edit where
  /-- A change of the table, which tells what the name was bound to before. -/
  | whole (change : Change)
  /-- Binds a name of the table and tells nothing. -/
  | bind (key : String) (value : OrderedParam)
  /-- A change of the back-end parameters inside the table. -/
  | backend (change : Change)
  /-- The extraction of the tuning for a platform. -/
  | extract (platform : Platform)

/-- What an edit answers, in terms of values and of causes of failure. -/
inductive Reply (α ε : Type) where
  /-- What a name was bound to before. -/
  | previous (value : Option α)
  /-- Nothing. -/
  | done
  /-- A tuning. -/
  | tuned (tuning : Tuning)
  /-- The edit has failed. -/
  | refused (cause : ε)

/-- What is wrong with a parameter, which is shown as a tree. -/
inductive Fault where
  /-- The parameter is of the wrong sort. -/
  | sort (key : String) (expected : ParamSort) (found : Tree)
  /-- The integer is not a positive signed 32-bit word. -/
  | range (key : String) (value : Int64)

namespace Change

/-- The name that is changed. -/
def key : Change → String
  | .insert key _ => key
  | .remove key => key

/-- The tree that the name is bound to afterwards. -/
def binding : Change → Option Tree
  | .insert _ value => some value.val.tree
  | .remove _ => none

/-- Changes a table and tells what the name was bound to before. -/
def apply : Change → Params → Option Param × Params
  | .insert key value, params => params.exchange key value.val
  | .remove key, params => params.take key

end Change

namespace Edit

variable {σ τ ρ π : Type}

/-- Makes edits one after another and lists what they answer. -/
def run (step : σ → Edit → ρ × σ) : List Edit → σ → List ρ × σ
  | [], state => ([], state)
  | edit :: rest, state =>
    let (reply, state) := step state edit
    let (replies, state) := run step rest state
    (reply :: replies, state)

/-- If every edit on one kind of states is matched by the edit on the other, then
so is every run. -/
theorem run_simulation {f : σ → Edit → ρ × σ} {g : τ → Edit → π × τ} {related : σ → τ → Prop}
    {agree : ρ → π → Prop}
    (hstep : ∀ {s t}, related s t → ∀ edit,
      agree (f s edit).1 (g t edit).1 ∧ related (f s edit).2 (g t edit).2)
    (edits : List Edit) {s : σ} {t : τ} (hrelated : related s t) :
    List.Forall₂ agree (run f edits s).1 (run g edits t).1 ∧
      related (run f edits s).2 (run g edits t).2 := by
  induction edits generalizing s t with
  | nil => exact ⟨.nil, hrelated⟩
  | cons edit rest ih =>
    obtain ⟨hagree, hafter⟩ := hstep hrelated edit
    obtain ⟨hreplies, hend⟩ := ih hafter
    exact ⟨.cons hagree hreplies, hend⟩

end Edit

namespace Params

/-- The table of a list of names and the values handed in for them. -/
def ofGiven (given : List (String × OrderedParam)) : Params :=
  .ofList (given.map fun entry => (entry.1, entry.2.val))

/-- Makes an edit. -/
def edit (params : Params) : Edit → Reply Param LoweringError × Params
  | .whole change =>
    let (previous, after) := change.apply params
    (.previous previous, after)
  | .bind key value => (.done, params.insert key value.val)
  | .backend change =>
    match params.onBackend change.apply with
    | .error error => (.refused error, params)
    | .ok (previous, after) => (.previous previous, after)
  | .extract platform =>
    match params.extractTuning platform with
    | (.error error, after) => (.refused error, after)
    | (.ok tuning, after) => (.tuned tuning, after)

end Params

namespace Branches

/-- The partial map of a list of names and the values handed in for them. -/
def ofGiven (given : List (String × OrderedParam)) : Branches :=
  given.foldl (fun branches entry => Function.update branches entry.1 (some entry.2.val.tree))
    fun _ => none

/-- The path of the back-end parameters. It is the root if their name is unbound,
and there is none if the name is bound to a scalar. -/
def view (branches : Branches) : Except Fault (List String) :=
  match branches Params.backendKey with
  | none => .ok []
  | some (.node _) => .ok [Params.backendKey]
  | some found => .error (.sort Params.backendKey .table found)

/-- The positive word that a name asks for with a tree, or a default without one. -/
def positiveWord (key : String) (default : Int32) : Option Tree → Except Fault Int32
  | none => .ok default
  | some (.leaf (.int value)) =>
    if 1 ≤ value.toInt ∧ value.toInt ≤ 2147483647 then .ok (Int32.ofInt value.toInt)
    else .error (.range key value)
  | some found => .error (.sort key .integer found)

/-- Takes a positive word and its name out of the partial map under a path. -/
def takeWord (path : List String) (key : String) (default : Int32) (branches : Branches) :
    Except Fault Int32 × Branches :=
  (positiveWord key default (branches.look path key), branches.put path key none)

/-- Takes the tuning out of the partial map under a path, the warps before the
stages. -/
def takeTuning (path : List String) (defaults : Tuning) (branches : Branches) :
    Reply Tree Fault × Branches :=
  match branches.takeWord path Params.numWarpsKey defaults.numWarps with
  | (.error fault, rest) => (.refused fault, rest)
  | (.ok numWarps, rest) =>
    match rest.takeWord path Params.numStagesKey defaults.numStages with
    | (.error fault, rest) => (.refused fault, rest)
    | (.ok numStages, rest) => (.tuned ⟨numWarps, numStages⟩, rest)

/-- Makes an edit. -/
def edit (branches : Branches) : Edit → Reply Tree Fault × Branches
  | .whole change =>
    (.previous (branches.look [] change.key), branches.put [] change.key change.binding)
  | .bind key value => (.done, branches.put [] key (some value.val.tree))
  | .backend change =>
    match branches.view with
    | .error fault => (.refused fault, branches)
    | .ok path =>
      (.previous (branches.look path change.key), branches.put path change.key change.binding)
  | .extract platform =>
    match branches.view with
    | .error fault => (.refused fault, branches)
    | .ok path => branches.takeTuning path platform.defaults

/-- The paths that an edit sets to something else or to nothing. -/
def touched (branches : Branches) : Edit → List (List String)
  | .whole change => [[change.key]]
  | .bind key _ => [[key]]
  | .backend change =>
    match branches.view with
    | .error _ => []
    | .ok path => [path ++ [change.key]]
  | .extract _ =>
    match branches.view with
    | .error _ => []
    | .ok path => [path ++ [Params.numWarpsKey], path ++ [Params.numStagesKey]]

/-- Taking the tuning changes nothing at a path that diverges from its two names. -/
theorem at?_takeTuning (branches : Branches) {path : List String} (defaults : Tuning)
    {other : List String} (hwarps : Diverge (path ++ [Params.numWarpsKey]) other)
    (hstages : Diverge (path ++ [Params.numStagesKey]) other) :
    (Tree.node (branches.takeTuning path defaults).2).at? other =
      (Tree.node branches).at? other := by
  have honce := at?_put_of_diverge branches none hwarps
  have htwice := at?_put_of_diverge (branches.put path Params.numWarpsKey none) none hstages
  unfold takeTuning takeWord
  split
  · next heq => exact (Prod.mk.inj heq).2 ▸ honce
  · next heq =>
    rw [(Prod.mk.inj heq).2] at honce htwice
    split
    · next heq => exact (Prod.mk.inj heq).2 ▸ htwice.trans honce
    · next heq => exact (Prod.mk.inj heq).2 ▸ htwice.trans honce

/-- An edit changes nothing at a path that diverges from all that it touches. -/
theorem at?_edit (branches : Branches) (edit : Edit) {other : List String}
    (hother : ∀ path ∈ branches.touched edit, Diverge path other) :
    (Tree.node (branches.edit edit).2).at? other = (Tree.node branches).at? other := by
  cases edit with
  | whole change =>
    have hdiverge : Diverge ([] ++ [change.key]) other := hother _ (by simp [touched])
    exact at?_put_of_diverge branches _ hdiverge
  | bind key value =>
    have hdiverge : Diverge ([] ++ [key]) other := hother _ (by simp [touched])
    exact at?_put_of_diverge branches _ hdiverge
  | backend change =>
    cases hview : branches.view with
    | error fault => simp [edit, hview]
    | ok path =>
      have hdiverge : Diverge (path ++ [change.key]) other := hother _ (by simp [touched, hview])
      simpa [edit, hview] using at?_put_of_diverge branches _ hdiverge
  | extract platform =>
    cases hview : branches.view with
    | error fault => simp [edit, hview]
    | ok path =>
      have hwarps : Diverge (path ++ [Params.numWarpsKey]) other :=
        hother _ (by simp [touched, hview])
      have hstages : Diverge (path ++ [Params.numStagesKey]) other :=
        hother _ (by simp [touched, hview])
      simpa [edit, hview] using at?_takeTuning branches platform.defaults hwarps hstages

end Branches

end KernelLaunch
