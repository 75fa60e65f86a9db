import KernelLaunch.Param.Basic
import KernelLaunch.Proofs.Keyed
import Mathlib.Data.Set.Finite.Basic
import Mathlib.Logic.Function.Basic

/-!
# Parameters as trees of partial maps

A table of parameters stands for a partial map from names to values, which may
again be tables. This file says which tree a value stands for and how a tree is
read and changed at a path of names. Values whose tables are in ascending order
at every depth are determined by their trees.
-/

namespace KernelLaunch

/-- A value that holds no further values. -/
inductive Scalar where
  /-- A signed 64-bit integer. -/
  | int (value : Int64)
  /-- A truth value. -/
  | bool (value : Bool)
  /-- A text. -/
  | text (value : String)

/-- A scalar, or a partial map from names to trees. -/
inductive Tree where
  /-- A scalar. -/
  | leaf (scalar : Scalar)
  /-- A partial map. -/
  | node (branches : String → Option Tree)

/-- The partial map at the root of a tree. -/
abbrev Branches := String → Option Tree

/-- Every partial map in a tree, at every depth, binds finitely many names. -/
inductive Tree.IsFinite : Tree → Prop
  | leaf (scalar : Scalar) : IsFinite (.leaf scalar)
  | node {branches : Branches} : {key | branches key ≠ none}.Finite →
      (∀ key child, branches key = some child → IsFinite child) → IsFinite (.node branches)

/-- The tree under a path of names. -/
def Tree.at? : Tree → List String → Option Tree
  | tree, [] => some tree
  | .node branches, key :: path => (branches key).bind fun child => child.at? path
  | .leaf _, _ :: _ => none

/-- A path of several names that leads to a partial map leads through one under the
first name. -/
theorem Tree.exists_of_at?_cons {branches inner : Branches} {next : String} {path : List String}
    (hinner : (Tree.node branches).at? (next :: path) = some (.node inner)) :
    ∃ below, branches next = some (.node below) ∧
      (Tree.node below).at? path = some (.node inner) := by
  obtain ⟨child, hchild, hpath⟩ := Option.bind_eq_some_iff.mp hinner
  cases child with
  | leaf scalar => cases path <;> simp [Tree.at?] at hpath
  | node below => exact ⟨below, hchild, hpath⟩

/-- Neither of two paths leads on from the other. -/
def Diverge (a b : List String) : Prop :=
  ¬a <+: b ∧ ¬b <+: a

namespace Branches

/-- Changes the partial map under a path. Nothing is changed by a path that leads
to none. -/
def modify (f : Branches → Branches) : List String → Branches → Branches
  | [], branches => f branches
  | next :: path, branches =>
    match branches next with
    | some (.node inner) => Function.update branches next (some (.node (modify f path inner)))
    | _ => branches

/-- Sets a single name in the partial map under a path. -/
def put (path : List String) (key : String) (value : Option Tree) : Branches → Branches :=
  modify (fun inner => Function.update inner key value) path

/-- What a name is bound to in the partial map under a path. -/
def look (path : List String) (key : String) (branches : Branches) : Option Tree :=
  (Tree.node branches).at? (path ++ [key])

/-- Changing the partial map under a path yields the changed one there. -/
theorem at?_modify {branches inner : Branches} {path : List String} (f : Branches → Branches)
    (hinner : (Tree.node branches).at? path = some (.node inner)) :
    (Tree.node (branches.modify f path)).at? path = some (.node (f inner)) := by
  induction path generalizing branches with
  | nil =>
    obtain rfl : branches = inner := by simpa [Tree.at?] using hinner
    simp [modify, Tree.at?]
  | cons next path ih =>
    obtain ⟨below, hchild, hpath⟩ := Tree.exists_of_at?_cons hinner
    simp [modify, hchild, Tree.at?, ih hpath]

/-- Two changes under one path are the change by both, one after the other. -/
theorem modify_modify (f g : Branches → Branches) (path : List String) (branches : Branches) :
    (branches.modify f path).modify g path = branches.modify (fun inner => g (f inner)) path := by
  induction path generalizing branches with
  | nil => rfl
  | cons next path ih =>
    simp only [modify]
    cases hchild : branches next with
    | none => simp [hchild]
    | some child =>
      cases child with
      | leaf scalar => simp [hchild]
      | node below => simp [ih]

/-- A change that agrees with another one where the path leads is the same. -/
theorem modify_congr {branches inner : Branches} {path : List String} {f g : Branches → Branches}
    (hinner : (Tree.node branches).at? path = some (.node inner)) (hfg : f inner = g inner) :
    branches.modify f path = branches.modify g path := by
  induction path generalizing branches with
  | nil =>
    obtain rfl : branches = inner := by simpa [Tree.at?] using hinner
    exact hfg
  | cons next path ih =>
    obtain ⟨below, hchild, hpath⟩ := Tree.exists_of_at?_cons hinner
    simp only [modify, hchild, ih hpath]

/-- A name is looked up in the partial map where the path leads. -/
theorem look_of_at? {branches inner : Branches} {path : List String}
    (hinner : (Tree.node branches).at? path = some (.node inner)) (key : String) :
    branches.look path key = inner key := by
  unfold look
  induction path generalizing branches with
  | nil =>
    obtain rfl : branches = inner := by simpa [Tree.at?] using hinner
    cases hkey : branches key <;> simp [Tree.at?, hkey]
  | cons next path ih =>
    obtain ⟨below, hchild, hpath⟩ := Tree.exists_of_at?_cons hinner
    simpa [Tree.at?, hchild] using ih hpath

/-- Setting a name under a path yields the partial map with the name set there. -/
theorem at?_put {branches inner : Branches} {path : List String}
    (hinner : (Tree.node branches).at? path = some (.node inner)) (key : String)
    (value : Option Tree) :
    (Tree.node (branches.put path key value)).at? path =
      some (.node (Function.update inner key value)) :=
  at?_modify _ hinner

/-- Setting two names under one path is one change of the partial map there. -/
theorem put_put (branches : Branches) (path : List String) (key key' : String)
    (value value' : Option Tree) :
    (branches.put path key value).put path key' value' =
      branches.modify
        (fun inner => Function.update (Function.update inner key value) key' value') path :=
  modify_modify _ _ path branches

/-- Setting a name under a path changes nothing at a path that diverges from it. -/
theorem at?_put_of_diverge (branches : Branches) {path : List String} {key : String}
    (value : Option Tree) {other : List String} (hdiverge : Diverge (path ++ [key]) other) :
    (Tree.node (branches.put path key value)).at? other = (Tree.node branches).at? other := by
  induction path generalizing branches other with
  | nil =>
    cases other with
    | nil => exact absurd List.nil_prefix hdiverge.2
    | cons first rest =>
      have hne : first ≠ key := by
        rintro rfl
        exact hdiverge.1 (by simp)
      simp [put, modify, Tree.at?, Function.update_of_ne hne]
  | cons next path ih =>
    cases other with
    | nil => exact absurd List.nil_prefix hdiverge.2
    | cons first rest =>
      simp only [put, modify]
      cases hchild : branches next with
      | none => rfl
      | some child =>
        cases child with
        | leaf scalar => rfl
        | node below =>
          by_cases hfirst : first = next
          · subst hfirst
            have hrest : Diverge (path ++ [key]) rest := by simpa [Diverge] using hdiverge
            simpa [Tree.at?, hchild, put] using ih below hrest
          · simp [Tree.at?, Function.update_of_ne hfirst]

end Branches

namespace Param

mutual

/-- The tree that a value stands for. -/
def tree : Param → Tree
  | .int value => .leaf (.int value)
  | .bool value => .leaf (.bool value)
  | .text value => .leaf (.text value)
  | .table bindings => .node (branchesOf bindings)

/-- The partial map of a list of bindings, of which the first one of a name
counts. -/
def branchesOf : List (String × Param) → Branches
  | [] => fun _ => none
  | (key, value) :: rest => fun other =>
    if other = key then some value.tree else branchesOf rest other

end

/-- The value under a path of names. -/
def at? : Param → List String → Option Param
  | value, [] => some value
  | .table bindings, key :: path => (bindings.lookup key).bind fun child => child.at? path
  | .int _, _ :: _ | .bool _, _ :: _ | .text _, _ :: _ => none

/-- Every table in a value, at every depth, is in ascending order. -/
inductive Ordered : Param → Prop
  | int (value : Int64) : Ordered (.int value)
  | bool (value : Bool) : Ordered (.bool value)
  | text (value : String) : Ordered (.text value)
  | table {bindings : List (String × Param)} : Keyed.Ascending bindings →
      (∀ entry ∈ bindings, Ordered entry.2) → Ordered (.table bindings)

/-- A name has the tree of what it is bound to. -/
theorem branchesOf_apply (bindings : List (String × Param)) (key : String) :
    branchesOf bindings key = (bindings.lookup key).map tree := by
  induction bindings with
  | nil => simp [branchesOf]
  | cons entry rest ih =>
    obtain ⟨name, value⟩ := entry
    by_cases hkey : key = name
    · simp [branchesOf, hkey]
    · have hne : (key == name) = false := beq_eq_false_iff_ne.mpr hkey
      simp [branchesOf, hkey, ih, List.lookup_cons, hne]

/-- Reading a value at a path is reading its tree there. -/
theorem map_tree_at? (value : Param) (path : List String) :
    (value.at? path).map tree = value.tree.at? path := by
  induction path generalizing value with
  | nil => simp [at?, Tree.at?]
  | cons key path ih =>
    cases value with
    | int | bool | text => rfl
    | table bindings =>
      simp only [at?, tree, Tree.at?, branchesOf_apply]
      cases bindings.lookup key with
      | none => rfl
      | some child => exact ih child

/-- Reading at one path after another is reading at both together. -/
theorem at?_append (value : Param) (path rest : List String) :
    value.at? (path ++ rest) = (value.at? path).bind fun found => found.at? rest := by
  induction path generalizing value with
  | nil => rfl
  | cons key path ih =>
    cases value with
    | int | bool | text => rfl
    | table bindings =>
      simp only [List.cons_append, at?]
      cases bindings.lookup key with
      | none => rfl
      | some child => exact ih child

/-- What is found in an ordered table is ordered. -/
theorem Ordered.of_lookup {bindings : List (String × Param)} {key : String} {value : Param}
    (hordered : Ordered (.table bindings)) (hfound : bindings.lookup key = some value) :
    value.Ordered := by
  cases hordered with
  | table _ hvalues => exact hvalues _ (Keyed.mem_of_lookup hfound)

/-- What is found under a path of an ordered value is ordered. -/
theorem Ordered.of_at? {value found : Param} {path : List String} (hordered : value.Ordered)
    (hfound : value.at? path = some found) : found.Ordered := by
  induction path generalizing value with
  | nil =>
    obtain rfl : value = found := by simpa [at?] using hfound
    exact hordered
  | cons key path ih =>
    cases value with
    | int | bool | text => simp [at?] at hfound
    | table bindings =>
      obtain ⟨child, hchild, hpath⟩ := Option.bind_eq_some_iff.mp hfound
      exact ih (hordered.of_lookup hchild) hpath

/-- Ordered values that stand for the same tree are equal. -/
theorem Ordered.eq_of_tree {a b : Param} (ha : a.Ordered) (hb : b.Ordered)
    (htree : a.tree = b.tree) : a = b := by
  induction ha generalizing b with
  | int value => cases hb <;> simp_all [tree]
  | bool value => cases hb <;> simp_all [tree]
  | text value => cases hb <;> simp_all [tree]
  | @table bindings hascending _ ih =>
    cases hb with
    | int | bool | text => simp [tree] at htree
    | @table bindings' hascending' hvalues' =>
      congr 1
      refine hascending.eq_of_lookup hascending' fun key => ?_
      have hkey : (bindings.lookup key).map tree = (bindings'.lookup key).map tree := by
        rw [← branchesOf_apply, ← branchesOf_apply, Tree.node.inj htree]
      cases hfound : bindings.lookup key with
      | none =>
        rw [hfound, Option.map_none] at hkey
        exact (Option.map_eq_none_iff.mp hkey.symm).symm
      | some value =>
        rw [hfound, Option.map_some] at hkey
        obtain ⟨value', hfound', hvalue⟩ := Option.map_eq_some_iff.mp hkey.symm
        have hordered' : value'.Ordered := hvalues' _ (Keyed.mem_of_lookup hfound')
        rw [hfound', ← ih (key, value) (Keyed.mem_of_lookup hfound) hordered' hvalue.symm]

/-- Values stand for finite trees. -/
theorem isFinite_tree {value : Param} (hordered : value.Ordered) : value.tree.IsFinite := by
  induction hordered with
  | int | bool | text => exact .leaf _
  | @table bindings _ _ ih =>
    refine .node ?_ fun key child hchild => ?_
    · refine (List.finite_toSet (bindings.map Prod.fst)).subset fun key hbound => ?_
      obtain ⟨child, hchild⟩ := Option.ne_none_iff_exists'.mp hbound
      rw [branchesOf_apply] at hchild
      obtain ⟨value, hfound, _⟩ := Option.map_eq_some_iff.mp hchild
      have hmem : key ∈ bindings.map Prod.fst := List.mem_map_of_mem (Keyed.mem_of_lookup hfound)
      exact hmem
    · rw [branchesOf_apply] at hchild
      obtain ⟨value, hfound, rfl⟩ := Option.map_eq_some_iff.mp hchild
      exact ih _ (Keyed.mem_of_lookup hfound)

end Param

end KernelLaunch
