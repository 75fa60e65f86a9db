import KernelLaunch.Proofs.Param.Edit
import KernelLaunch.Proofs.Param.Extraction
import KernelLaunch.Proofs.Param.Reading

/-!
# Tables of parameters under edits

An edit of a table is the same edit of the partial map that the table stands for,
with the same reply and with the same causes of failure. So a run of edits on a
table is followed by the run on the partial map, however the edits change the
place of the back-end parameters on the way.
-/

namespace KernelLaunch

/-- A fault tells the same as a cause of failure. -/
inductive Fault.Tells : Fault → LoweringError → Prop
  | sort (key : String) (expected : ParamSort) (found : Param) :
      Tells (.sort key expected found.tree) (.paramSort key expected found)
  | range (key : String) (value : Int64) : Tells (.range key value) (.paramRange key value)

/-- A reply in terms of values tells the same as one in terms of trees. -/
inductive Reply.Agrees : Reply Param LoweringError → Reply Tree Fault → Prop
  | previous (value : Option Param) : Agrees (.previous value) (.previous (value.map Param.tree))
  | done : Agrees .done .done
  | tuned (tuning : Tuning) : Agrees (.tuned tuning) (.tuned tuning)
  | refused {error : LoweringError} {fault : Fault} : fault.Tells error →
      Agrees (.refused error) (.refused fault)

/-- Every fault is one of the parameters. -/
theorem Fault.Tells.kind_eq {fault : Fault} {error : LoweringError} (htells : fault.Tells error) :
    error.kind = .invalidParams := by
  cases htells <;> rfl

namespace Change

variable (change : Change) (params : Params)

/-- A change tells what its name was bound to. -/
theorem apply_fst : (change.apply params).1 = params.get? change.key := by
  cases change <;> rfl

/-- A change sets its name in the partial map. -/
theorem branches_apply_snd : (change.apply params).2.branches =
    Function.update params.branches change.key change.binding := by
  cases change with
  | insert key value => exact params.branches_insert key value.val
  | remove key => exact params.branches_erase key

/-- A change keeps a table ordered. -/
theorem ordered_apply_snd {params : Params} (hordered : params.Ordered) :
    (change.apply params).2.Ordered := by
  cases change with
  | insert key value => exact hordered.insert key value.property
  | remove key => exact hordered.erase key

end Change

namespace Params

/-- A path leads from a table to its back-end parameters. -/
structure Leads (params : Params) (path : List String) (back : Params) : Prop where
  /-- The path is the one of the back-end parameters. -/
  view : params.branches.view = .ok path
  /-- Under the path are the back-end parameters. -/
  at? : params.at? path = some (.table back.bindings)
  /-- Replacing the back-end parameters is a change under the path. -/
  withBackend : ∀ replacement, (params.withBackend replacement).branches =
    params.branches.modify (fun _ => replacement.branches) path

variable {params back : Params} {path : List String}

/-- A path leads to the back-end parameters wherever there are any. -/
theorem exists_leads (hback : params.backend = .ok back) : ∃ path, params.Leads path back := by
  cases backend_eq_ok_iff.mp hback with
  | whole hnone =>
    refine ⟨[], ?_, rfl, fun replacement => ?_⟩
    · simp [Branches.view, branches_apply, hnone]
    · simp [withBackend, hnone, Branches.modify]
  | @nested bindings htable =>
    have hbound : params.branches backendKey = some (.node (branches ⟨bindings⟩)) := by
      rw [branches_apply, htable]
      rfl
    refine ⟨[backendKey], ?_, ?_, fun replacement => ?_⟩
    · simp [Branches.view, hbound]
    · have hroot : params.at? ([] ++ [backendKey]) = params.get? backendKey :=
        at?_append_singleton rfl backendKey
      exact hroot.trans htable
    · funext key
      simp only [Branches.modify, hbound, withBackend, htable, branches_apply, get?_update,
        Function.update_apply]
      by_cases hkey : key = backendKey
      · subst hkey
        simp [htable, Param.tree, branches]
      · simp [hkey]

/-- Without back-end parameters there is no path, and the cause is the same. -/
theorem view_of_error {error : LoweringError} (hback : params.backend = .error error) :
    ∃ fault : Fault, fault.Tells error ∧ params.branches.view = .error fault := by
  unfold backend at hback
  split at hback
  · exact absurd hback (by simp)
  · exact absurd hback (by simp)
  · next found hnot hfound =>
    obtain rfl : LoweringError.paramSort backendKey .table found = error := by
      simpa using hback
    refine ⟨_, .sort backendKey .table found, ?_⟩
    cases found with
    | table bindings => exact absurd rfl (hnot bindings)
    | int | bool | text => simp [Branches.view, branches_apply, hfound, Param.tree]

/-- Under the path that leads to the back-end parameters is the partial map that they
stand for. -/
theorem Leads.tree_at? (hleads : params.Leads path back) :
    (Tree.node params.branches).at? path = some (.node back.branches) := by
  have hread : (params.at? path).map Param.tree = (Tree.node params.branches).at? path :=
    Param.map_tree_at? (.table params.bindings) path
  rw [← hread, hleads.at?]
  rfl

/-- A path of back-end parameters leads to them. -/
theorem leads_of_view (hview : params.branches.view = .ok path) :
    ∃ back, params.backend = .ok back ∧ params.Leads path back := by
  cases hback : params.backend with
  | error error =>
    obtain ⟨fault, _, hfault⟩ := view_of_error hback
    exact absurd (hview.symm.trans hfault) (by simp)
  | ok back =>
    obtain ⟨path', hleads⟩ := exists_leads hback
    obtain rfl : path = path' := Except.ok.inj (hview.symm.trans hleads.view)
    exact ⟨back, rfl, hleads⟩

/-- What is done to the back-end parameters is done under the path that leads to
them. -/
theorem Leads.branches_withBackend (hleads : params.Leads path back) {replacement : Params}
    {f : Branches → Branches} (hf : f back.branches = replacement.branches) :
    (params.withBackend replacement).branches = params.branches.modify f path := by
  rw [hleads.withBackend]
  exact Branches.modify_congr hleads.tree_at? hf.symm

/-- A word is read off a name as it is read off the tree under the name. -/
theorem positiveWord_agrees (params : Params) (key : String) (default : Int32) :
    (∃ word, params.positiveWord key default = .ok word ∧
        Branches.positiveWord key default (params.branches key) = .ok word) ∨
      ∃ error fault, params.positiveWord key default = .error error ∧
        Branches.positiveWord key default (params.branches key) = .error fault ∧
        fault.Tells error := by
  rw [branches_apply, positiveWord]
  cases hkey : params.get? key with
  | none => exact .inl ⟨default, rfl, rfl⟩
  | some found =>
    cases found with
    | table bindings => exact .inr ⟨_, _, rfl, rfl, .sort key .integer (.table bindings)⟩
    | bool value => exact .inr ⟨_, _, rfl, rfl, .sort key .integer (.bool value)⟩
    | text value => exact .inr ⟨_, _, rfl, rfl, .sort key .integer (.text value)⟩
    | int value =>
      by_cases hrange : 1 ≤ value.toInt ∧ value.toInt ≤ 2147483647
      · exact .inl ⟨.ofInt value.toInt, by simp [hrange, Branches.positiveWord, Param.tree]⟩
      · exact .inr ⟨.paramRange key value, .range key value,
          by simp only [if_neg hrange], by simp [hrange, Branches.positiveWord, Param.tree],
          .range key value⟩

/-- The extraction of a tuning from back-end parameters is the one from the partial
map under the path that leads to them. -/
theorem Leads.takeTuning_agrees (hleads : params.Leads path back) (defaults : Tuning) :
    ((∃ tuning, (takeTuning defaults back).1 = .ok tuning ∧
        (params.branches.takeTuning path defaults).1 = .tuned tuning) ∨
      ∃ error fault, (takeTuning defaults back).1 = .error error ∧
        (params.branches.takeTuning path defaults).1 = .refused fault ∧ fault.Tells error) ∧
    (params.withBackend (takeTuning defaults back).2).branches =
      (params.branches.takeTuning path defaults).2 := by
  have hlookWarps : params.branches.look path numWarpsKey = back.branches numWarpsKey :=
    Branches.look_of_at? hleads.tree_at? numWarpsKey
  have herase : ∀ key, (back.erase key).branches = Function.update back.branches key none :=
    back.branches_erase
  -- Each branch leaves the map with the first name or with both names taken out of it.
  have honce : (params.withBackend (back.erase numWarpsKey)).branches =
      params.branches.put path numWarpsKey none :=
    hleads.branches_withBackend (herase numWarpsKey).symm
  have htwice : (params.withBackend ((back.erase numWarpsKey).erase numStagesKey)).branches =
      (params.branches.put path numWarpsKey none).put path numStagesKey none := by
    rw [Branches.put_put]
    apply hleads.branches_withBackend
    rw [branches_erase, herase]
  rcases back.positiveWord_agrees numWarpsKey defaults.numWarps with
    ⟨numWarps, hwarps, hwarps'⟩ | ⟨error, fault, hwarps, hwarps', htells⟩
  · have hlookStages : (params.branches.put path numWarpsKey none).look path numStagesKey =
        (back.erase numWarpsKey).branches numStagesKey := by
      rw [Branches.look_of_at? (Branches.at?_put hleads.tree_at? numWarpsKey none), herase]
    rcases (back.erase numWarpsKey).positiveWord_agrees numStagesKey defaults.numStages with
      ⟨numStages, hstages, hstages'⟩ | ⟨error, fault, hstages, hstages', htells⟩
    · simp [takeTuning, Branches.takeTuning, Branches.takeWord, hlookWarps, hwarps, hwarps',
        hlookStages, hstages, hstages', htwice]
    · simp [takeTuning, Branches.takeTuning, Branches.takeWord, hlookWarps, hwarps, hwarps',
        hlookStages, hstages, hstages', htwice, htells]
  · simp [takeTuning, Branches.takeTuning, Branches.takeWord, hlookWarps, hwarps, hwarps', honce,
      htells]

/-- The extraction of a tuning keeps back-end parameters ordered. -/
theorem Ordered.takeTuning (hordered : back.Ordered) (defaults : Tuning) :
    (Params.takeTuning defaults back).2.Ordered := by
  unfold Params.takeTuning
  split
  · exact hordered.erase _
  · simp only
    split
    · exact (hordered.erase _).erase _
    · exact (hordered.erase _).erase _

/-- An edit keeps a table ordered. -/
theorem Ordered.edit (hordered : params.Ordered) (edit : Edit) : (params.edit edit).2.Ordered := by
  cases edit with
  | whole change => exact change.ordered_apply_snd hordered
  | bind key value => exact hordered.insert key value.property
  | backend change =>
    cases hback : params.backend with
    | error error => simpa [Params.edit, onBackend_of_error hback] using hordered
    | ok back =>
      have hafter := change.ordered_apply_snd (hordered.backend hback)
      simpa [Params.edit, onBackend_of_backend hback] using hordered.withBackend hafter
  | extract platform =>
    have hafter : (params.extractTuning platform).2.Ordered := by
      cases hback : params.backend with
      | error error => simpa [extractTuning_of_error hback] using hordered
      | ok back =>
        rw [extractTuning_of_backend hback]
        exact hordered.withBackend ((hordered.backend hback).takeTuning platform.defaults)
    simp only [Params.edit]
    split
    · next hextract => simpa [hextract] using hafter
    · next hextract => simpa [hextract] using hafter

/-- An edit of a table is the edit of the partial map that the table stands for. -/
theorem edit_agrees (params : Params) (edit : Edit) :
    (params.edit edit).1.Agrees (params.branches.edit edit).1 ∧
      (params.edit edit).2.branches = (params.branches.edit edit).2 := by
  cases edit with
  | whole change =>
    refine ⟨?_, change.branches_apply_snd params⟩
    have hlook : params.branches.look [] change.key = (params.get? change.key).map Param.tree := by
      rw [Branches.look_of_at? rfl, branches_apply]
    simp only [Params.edit, Branches.edit, hlook, ← change.apply_fst]
    exact .previous _
  | bind key value => exact ⟨.done, params.branches_insert key value.val⟩
  | backend change =>
    cases hback : params.backend with
    | error error =>
      obtain ⟨fault, htells, hview⟩ := view_of_error hback
      simpa [Params.edit, Branches.edit, onBackend_of_error hback, hview] using .refused htells
    | ok back =>
      obtain ⟨path, hleads⟩ := exists_leads hback
      have hlook : params.branches.look path change.key =
          ((change.apply back).1).map Param.tree := by
        rw [Branches.look_of_at? hleads.tree_at?, branches_apply, change.apply_fst]
      simp only [Params.edit, Branches.edit, onBackend_of_backend hback, hleads.view, hlook]
      exact ⟨.previous _, hleads.branches_withBackend (change.branches_apply_snd back).symm⟩
  | extract platform =>
    cases hback : params.backend with
    | error error =>
      obtain ⟨fault, htells, hview⟩ := view_of_error hback
      simpa [Params.edit, Branches.edit, extractTuning_of_error hback, hview] using .refused htells
    | ok back =>
      obtain ⟨path, hleads⟩ := exists_leads hback
      obtain ⟨hreply, hafter⟩ := hleads.takeTuning_agrees platform.defaults
      simp only [Params.edit, Branches.edit, extractTuning_of_backend hback, hleads.view]
      rcases hreply with ⟨tuning, htuning, htuning'⟩ | ⟨error, fault, herror, hfault, htells⟩
      · rw [htuning, htuning']
        exact ⟨.tuned tuning, hafter⟩
      · rw [herror, hfault]
        exact ⟨.refused htells, hafter⟩

/-- A table in order and the partial map that it stands for. -/
def StandsFor (params : Params) (branches : Branches) : Prop :=
  params.Ordered ∧ params.branches = branches

/-- A table of given values stands for the partial map of the same values. -/
theorem ofGiven_standsFor (given : List (String × OrderedParam)) :
    (ofGiven given).StandsFor (.ofGiven given) := by
  have general : ∀ (rest : List (String × OrderedParam)) (params : Params), params.Ordered →
      let after : Params := ⟨(rest.map fun entry => (entry.1, entry.2.val)).foldl
        (fun table entry => Keyed.insert entry.1 entry.2 table) params.bindings⟩
      after.StandsFor (rest.foldl
        (fun (branches : Branches) entry =>
          Function.update branches entry.1 (some entry.2.val.tree)) params.branches) := by
    intro rest
    induction rest with
    | nil => exact fun params hordered => ⟨hordered, rfl⟩
    | cons entry rest ih =>
      intro params hordered
      have hinsert := ih (params.insert entry.1 entry.2.val)
        (hordered.insert entry.1 entry.2.property)
      rwa [branches_insert] at hinsert
  exact general given .empty ordered_empty

/-- A run of edits on a table of given values is matched by the run on the partial
map. -/
theorem run_agrees (given : List (String × OrderedParam)) (edits : List Edit) :
    List.Forall₂ Reply.Agrees (Edit.run Params.edit edits (ofGiven given)).1
        (Edit.run Branches.edit edits (.ofGiven given)).1 ∧
      (Edit.run Params.edit edits (ofGiven given)).2.StandsFor
        (Edit.run Branches.edit edits (.ofGiven given)).2 := by
  apply Edit.run_simulation
  · rintro params _ ⟨hordered, rfl⟩ edit
    obtain ⟨hreply, hafter⟩ := params.edit_agrees edit
    exact ⟨hreply, hordered.edit edit, hafter⟩
  · exact ofGiven_standsFor given

/-- Ordered tables that stand for the same at a path have the same there. -/
theorem Ordered.at?_eq {a b : Params} (ha : a.Ordered) (hb : b.Ordered) {path : List String}
    (hpath : (Tree.node a.branches).at? path = (Tree.node b.branches).at? path) :
    a.at? path = b.at? path := by
  rw [← ha.represents.at?, ← hb.represents.at?] at hpath
  cases hfound : a.at? path with
  | none =>
    rw [hfound, Option.map_none] at hpath
    exact (Option.map_eq_none_iff.mp hpath.symm).symm
  | some value =>
    rw [hfound, Option.map_some] at hpath
    obtain ⟨value', hfound', htree⟩ := Option.map_eq_some_iff.mp hpath.symm
    rw [hfound', Param.Ordered.eq_of_tree (Param.Ordered.of_at? ha hfound)
      (Param.Ordered.of_at? hb hfound') htree.symm]

/-- A table reads like a partial map, and so it does under every next edit. -/
structure Follows (params : Params) (branches : Branches) : Prop extends
    params.Represents branches where
  /-- A change of the table tells exactly what its name was bound to. -/
  whole : ∀ change, (params.edit (.whole change)).1 = .previous (params.at? [change.key])
  /-- So does a change of the back-end parameters, at their present path. -/
  backend : ∀ path, branches.view = .ok path → ∀ change,
    (params.edit (.backend change)).1 = .previous (params.at? (path ++ [change.key]))
  /-- Where the name of the back-end parameters is bound to a scalar, all edits of them
  fail with one cause and change nothing. -/
  refused : ∀ fault, branches.view = .error fault → ∃ error : LoweringError,
    fault.Tells error ∧ error.kind = .invalidParams ∧
    (∀ change, params.edit (.backend change) = (.refused error, params)) ∧
    ∀ platform, params.edit (.extract platform) = (.refused error, params)
  /-- A table that is bound to their name becomes the back-end parameters. -/
  moved : branches.view = .ok [] → ∀ (value : OrderedParam) (inner : Branches),
    value.val.tree = .node inner →
    (params.edit (.backend (.insert backendKey value))).2.branches.view = .ok [backendKey]
  /-- An edit changes nothing at a path that diverges from all that it touches. -/
  untouched : ∀ edit other, (∀ path ∈ branches.touched edit, Diverge path other) →
    (params.edit edit).2.at? other = params.at? other

/-- An ordered table follows the partial map that it stands for. -/
theorem Ordered.follows (hordered : params.Ordered) : params.Follows params.branches where
  toRepresents := hordered.represents
  whole change := by
    have hroot : params.at? ([] ++ [change.key]) = params.get? change.key :=
      at?_append_singleton rfl change.key
    rw [← List.nil_append [change.key], hroot, ← change.apply_fst]
    rfl
  backend path hview change := by
    obtain ⟨back, hback, hleads⟩ := leads_of_view hview
    rw [at?_append_singleton hleads.at?, ← change.apply_fst]
    simp only [Params.edit, onBackend_of_backend hback]
  refused fault hview := by
    cases hback : params.backend with
    | ok back =>
      obtain ⟨path, hleads⟩ := exists_leads hback
      exact absurd (hview.symm.trans hleads.view) (by simp)
    | error error =>
      obtain ⟨fault', htells, hfault⟩ := view_of_error hback
      obtain rfl : fault = fault' := Except.error.inj (hview.symm.trans hfault)
      refine ⟨error, htells, htells.kind_eq, fun change => ?_, fun platform => ?_⟩
      · simp only [Params.edit, onBackend_of_error hback]
      · simp only [Params.edit, extractTuning_of_error hback]
  moved hview value inner htree := by
    rw [(params.edit_agrees _).2]
    simp only [Branches.edit, hview]
    simp [Branches.put, Branches.modify, Branches.view, Change.key, Change.binding, htree]
  untouched edit other hother := by
    refine (hordered.edit edit).at?_eq hordered ?_
    rw [(params.edit_agrees edit).2]
    exact params.branches.at?_edit edit hother

/-- After any edits of a table of given values, the table follows the partial map to
which the same edits lead, and each edit on the way has replied the same. Tables that
were come to in different ways are equal exactly if their partial maps are. -/
theorem follows_of_run (given : List (String × OrderedParam)) (edits : List Edit) :
    let (replies, params) := Edit.run Params.edit edits (ofGiven given)
    let (replies', branches) := Edit.run Branches.edit edits (.ofGiven given)
    List.Forall₂ Reply.Agrees replies replies' ∧ params.Follows branches ∧
      ∀ given' edits', params = (Edit.run Params.edit edits' (ofGiven given')).2 ↔
        branches = (Edit.run Branches.edit edits' (.ofGiven given')).2 := by
  obtain ⟨hreplies, hordered, hbranches⟩ := run_agrees given edits
  refine ⟨hreplies, hbranches ▸ hordered.follows, fun given' edits' => ?_⟩
  obtain ⟨_, hordered', hbranches'⟩ := run_agrees given' edits'
  rw [← hbranches, ← hbranches']
  exact ⟨congrArg branches, hordered.eq_of_branches hordered'⟩

/-- A table that is bound through the flat back-end parameters receives what is bound
through them next. -/
example :
    let opened : OrderedParam := ⟨.table [], .table List.Pairwise.nil (by simp)⟩
    let eight : OrderedParam := ⟨.int 8, .int 8⟩
    (Edit.run Params.edit
      [.backend (.insert "triton" opened), .backend (.insert "num_warps" eight)] empty).2 =
        ⟨[("triton", .table [("num_warps", .int 8)])]⟩ := by
  decide +kernel

end Params

end KernelLaunch
