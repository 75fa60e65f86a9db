import KernelLaunch.Param.Backend
import KernelLaunch.Proofs.Param.Tree
import KernelLaunch.Proofs.Text.ByteOrder
import Mathlib.Data.Set.Card

/-!
# Reading a table of parameters

Every reading of an ordered table is a reading of the partial map that the table
stands for, and every change of a table is a change of single names of the map.
Here this is shown for the operations on one table; what they come to over a
sequence of edits is built on it.
-/

namespace KernelLaunch.Params

/-- The partial map that a table stands for. -/
def branches (params : Params) : Branches :=
  Param.branchesOf params.bindings

/-- The table and all tables in it are in ascending order. -/
def Ordered (params : Params) : Prop :=
  (Param.table params.bindings).Ordered

/-- The value under a path of names, which is the table itself for no names. -/
def at? (params : Params) (path : List String) : Option Param :=
  (Param.table params.bindings).at? path

/-- Every way to read a table reads the partial map that it stands for. -/
structure Reads (params : Params) (branches : Branches) : Prop where
  /-- A name is bound to the value that stands for its tree. -/
  get? : ∀ key, (params.get? key).map Param.tree = branches key
  /-- Exactly the bound names are contained. -/
  contains : ∀ key, params.contains key = true ↔ branches key ≠ none
  /-- The size is the number of bound names. -/
  size : params.size = {key | branches key ≠ none}.ncard
  /-- A table is empty if no name is bound. -/
  isEmpty : params.isEmpty = true ↔ ∀ key, branches key = none
  /-- The bindings are those of the partial map. -/
  mem : ∀ key child, (key, child) ∈ params.bindings.map (fun entry => (entry.1, entry.2.tree)) ↔
    branches key = some child
  /-- The names are listed once each, in strictly ascending order of their bytes. -/
  ascending : (params.bindings.map fun entry => Text.utf8 entry.1).Pairwise (· < ·)

/-- A table stands for its partial map as a whole and at every path. -/
structure Represents (params : Params) (branches : Branches) : Prop where
  /-- All partial maps are finite. -/
  finite : (Tree.node branches).IsFinite
  /-- At every path is the value that stands for the tree there. -/
  at? : ∀ path, (params.at? path).map Param.tree = (Tree.node branches).at? path
  /-- Wherever there is a partial map, the table there reads like it. -/
  reads : ∀ path inner, (Tree.node branches).at? path = some (.node inner) →
    ∃ table : Params, params.at? path = some (.table table.bindings) ∧ table.Reads inner

variable {params : Params}

/-- A name has the tree of what it is bound to. -/
theorem branches_apply (params : Params) (key : String) :
    params.branches key = (params.get? key).map Param.tree :=
  Param.branchesOf_apply params.bindings key

/-- A name of the table under a path is read at the path that ends with the name. -/
theorem at?_append_singleton {table : Params} {path : List String}
    (htable : params.at? path = some (.table table.bindings)) (key : String) :
    params.at? (path ++ [key]) = table.get? key := by
  rw [at?] at htable
  rw [at?, Param.at?_append, htable]
  simp [Param.at?, get?]

/-- In an ordered table the names ascend. -/
theorem Ordered.ascending (hordered : params.Ordered) : Keyed.Ascending params.bindings := by
  cases hordered with
  | table hascending _ => exact hascending

/-- The values of an ordered table are ordered. -/
theorem Ordered.of_mem (hordered : params.Ordered) {entry : String × Param}
    (hmem : entry ∈ params.bindings) : entry.2.Ordered := by
  cases hordered with
  | table _ hvalues => exact hvalues entry hmem

/-- The table without bindings is ordered. -/
theorem ordered_empty : empty.Ordered :=
  .table List.Pairwise.nil (by simp [empty])

/-- Binding a name to an ordered value keeps a table ordered. -/
theorem Ordered.insert (hordered : params.Ordered) (key : String) {value : Param}
    (hvalue : value.Ordered) : (params.insert key value).Ordered := by
  refine .table (Keyed.ascending_insert hordered.ascending) fun entry hmem => ?_
  rcases Keyed.mem_insert hmem with rfl | hold
  · exact hvalue
  · exact hordered.of_mem hold

/-- Unbinding a name keeps a table ordered. -/
theorem Ordered.erase (hordered : params.Ordered) (key : String) : (params.erase key).Ordered :=
  .table (Keyed.ascending_erase hordered.ascending) fun _ hmem =>
    hordered.of_mem (List.mem_of_mem_filter hmem)

/-- Replacing the back-end parameters by ordered ones keeps a table ordered. -/
theorem Ordered.withBackend (hordered : params.Ordered) {replacement : Params}
    (hreplacement : replacement.Ordered) : (params.withBackend replacement).Ordered := by
  unfold Params.withBackend
  split
  · exact hreplacement
  · refine .table (Keyed.ascending_update backendKey (fun _ => Param.table replacement.bindings)
      hordered.ascending) fun entry hmem => ?_
    obtain ⟨before, hbefore, rfl⟩ := List.mem_map.mp hmem
    split
    · exact hreplacement
    · exact hordered.of_mem hbefore

/-- The back-end parameters of an ordered table are ordered. -/
theorem Ordered.backend (hordered : params.Ordered) {back : Params}
    (hback : params.backend = .ok back) : back.Ordered := by
  unfold Params.backend at hback
  split at hback
  · exact Except.ok.inj hback ▸ hordered
  · next bindings htable =>
    obtain rfl : ⟨bindings⟩ = back := Except.ok.inj hback
    exact Param.Ordered.of_lookup hordered htable
  · exact absurd hback (by simp)

/-- Ordered tables that stand for the same partial map are equal. -/
theorem Ordered.eq_of_branches {a b : Params} (ha : a.Ordered) (hb : b.Ordered)
    (hbranches : a.branches = b.branches) : a = b := by
  have htree : (Param.table a.bindings).tree = (Param.table b.bindings).tree :=
    congrArg Tree.node hbranches
  exact congrArg Params.mk (Param.table.inj (Param.Ordered.eq_of_tree ha hb htree))

/-- Binding a name sets it in the partial map. -/
theorem branches_insert (params : Params) (key : String) (value : Param) :
    (params.insert key value).branches =
      Function.update params.branches key (some value.tree) := by
  funext other
  rw [branches_apply, get?_insert, Function.update_apply, branches_apply]
  split <;> rfl

/-- Unbinding a name removes it from the partial map. -/
theorem branches_erase (params : Params) (key : String) :
    (params.erase key).branches = Function.update params.branches key none := by
  funext other
  rw [branches_apply, get?_erase, Function.update_apply, branches_apply]
  split <;> rfl

/-- A table binds the names that stand in its bindings. -/
theorem branches_ne_none_iff (params : Params) (key : String) :
    params.branches key ≠ none ↔ key ∈ params.bindings.map Prod.fst := by
  rw [branches_apply, ne_eq, Option.map_eq_none_iff, get?, List.lookup_eq_none_iff, List.mem_map]
  simp only [bne_iff_ne, ne_eq, not_forall, not_not, exists_prop]
  exact exists_congr fun entry => and_congr_right fun _ => eq_comm

/-- In an ordered table, a name has a tree if it is bound to a value that stands for
it. -/
theorem Ordered.branches_eq_some_iff (hordered : params.Ordered) {key : String} {child : Tree} :
    params.branches key = some child ↔
      ∃ value, (key, value) ∈ params.bindings ∧ value.tree = child := by
  rw [branches_apply, Option.map_eq_some_iff]
  simp only [get?, hordered.ascending.lookup_eq_some_iff]

/-- An ordered table reads like the partial map that it stands for. -/
theorem Ordered.reads (hordered : params.Ordered) : params.Reads params.branches where
  get? key := (branches_apply params key).symm
  contains key := by
    rw [branches_apply, contains, Option.isSome_iff_ne_none, ne_eq, ne_eq, Option.map_eq_none_iff]
  size := by
    have hbound : {key | params.branches key ≠ none} =
        ((params.bindings.map Prod.fst).toFinset : Set String) := by
      ext key
      rw [List.coe_toFinset]
      exact branches_ne_none_iff params key
    rw [hbound, Set.ncard_coe_finset, List.toFinset_card_of_nodup hordered.ascending.nodup_keys,
      List.length_map, size]
  isEmpty := by
    have hnames : (∀ key, params.branches key = none) ↔ params.bindings.map Prod.fst = [] := by
      rw [List.eq_nil_iff_forall_not_mem]
      exact forall_congr' fun key => not_iff_not.mp (by simpa using branches_ne_none_iff params key)
    rw [hnames, isEmpty, List.isEmpty_iff, List.map_eq_nil_iff]
  mem key child := by
    rw [hordered.branches_eq_some_iff, List.mem_map]
    constructor
    · rintro ⟨⟨_, value⟩, hmem, hentry⟩
      obtain ⟨rfl, rfl⟩ := Prod.mk.inj hentry
      exact ⟨value, hmem, rfl⟩
    · rintro ⟨value, hmem, rfl⟩
      exact ⟨(key, value), hmem, rfl⟩
  ascending := by
    refine List.pairwise_map.mpr (hordered.ascending.imp fun hlt => ?_)
    exact Text.utf8_lt_of_lt hlt

/-- An ordered table stands for its partial map. -/
theorem Ordered.represents (hordered : params.Ordered) : params.Represents params.branches where
  finite := Param.isFinite_tree hordered
  at? path := Param.map_tree_at? (.table params.bindings) path
  reads path inner hinner := by
    have hread := Param.map_tree_at? (.table params.bindings) path
    obtain ⟨value, hvalue, htree⟩ := Option.map_eq_some_iff.mp (hread.trans hinner)
    have hordered' : value.Ordered := Param.Ordered.of_at? hordered hvalue
    cases value with
    | int | bool | text => simp [Param.tree] at htree
    | table bindings =>
      obtain rfl : branches ⟨bindings⟩ = inner := Tree.node.inj htree
      have htable : Ordered ⟨bindings⟩ := hordered'
      exact ⟨⟨bindings⟩, hvalue, htable.reads⟩

end KernelLaunch.Params
