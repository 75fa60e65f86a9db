import KernelLaunch.Keyed

/-!
# Compiler parameters

A call site hands its compiler parameters over as a table from names to values,
and a value may again be a table. Tables list their bindings in ascending order
of the names, compared by code point, at every depth; so a table is determined
by what its names are bound to.
-/

namespace KernelLaunch

/-- The value of a compiler parameter. -/
inductive Param where
  /-- A signed 64-bit integer. -/
  | int (value : Int64)
  /-- A truth value. -/
  | bool (value : Bool)
  /-- A text. -/
  | text (value : String)
  /-- A table of further parameters. -/
  | table (bindings : List (String × Param))

namespace Param

mutual

/-- Equality of parameters is decided by going through both trees. -/
def decEq : (a b : Param) → Decidable (a = b)
  | .int a, .int b => decidable_of_iff (a = b) (by simp)
  | .bool a, .bool b => decidable_of_iff (a = b) (by simp)
  | .text a, .text b => decidable_of_iff (a = b) (by simp)
  | .table a, .table b =>
    have := decEqBindings a b
    decidable_of_iff (a = b) (by simp)
  | .int _, .bool _ | .int _, .text _ | .int _, .table _
  | .bool _, .int _ | .bool _, .text _ | .bool _, .table _
  | .text _, .int _ | .text _, .bool _ | .text _, .table _
  | .table _, .int _ | .table _, .bool _ | .table _, .text _ => isFalse (by simp)

/-- Equality of tables is decided binding by binding. -/
def decEqBindings : (a b : List (String × Param)) → Decidable (a = b)
  | [], [] => isTrue rfl
  | [], _ :: _ => isFalse (by simp)
  | _ :: _, [] => isFalse (by simp)
  | (key, value) :: rest, (key', value') :: rest' =>
    have := decEq value value'
    have := decEqBindings rest rest'
    decidable_of_iff (key = key' ∧ value = value' ∧ rest = rest') (by simp [and_assoc])

end

instance : DecidableEq Param := decEq

end Param

/-- A table of compiler parameters. -/
structure Params where
  /-- The bindings, in ascending order of their names. -/
  bindings : List (String × Param) := []
  deriving DecidableEq

namespace Params

/-- The table without bindings. -/
def empty : Params := ⟨[]⟩

/-- The table of a list of bindings, of which the last one of each name counts. -/
def ofList (bindings : List (String × Param)) : Params :=
  ⟨Keyed.ofList bindings⟩

/-- What a name is bound to. -/
def get? (params : Params) (key : String) : Option Param :=
  params.bindings.lookup key

/-- A name is bound. -/
def contains (params : Params) (key : String) : Bool :=
  (params.get? key).isSome

/-- The number of bindings. -/
def size (params : Params) : Nat :=
  params.bindings.length

/-- Nothing is bound. -/
def isEmpty (params : Params) : Bool :=
  params.bindings.isEmpty

/-- Binds a name, in place of what it was bound to before. -/
def insert (params : Params) (key : String) (value : Param) : Params :=
  ⟨Keyed.insert key value params.bindings⟩

/-- Unbinds a name. -/
def erase (params : Params) (key : String) : Params :=
  ⟨Keyed.erase key params.bindings⟩

/-- Changes what a bound name is bound to. -/
def update (params : Params) (key : String) (f : Param → Param) : Params :=
  ⟨Keyed.update key f params.bindings⟩

/-- Binds a name and tells what it was bound to before. -/
def exchange (params : Params) (key : String) (value : Param) : Option Param × Params :=
  (params.get? key, params.insert key value)

/-- Unbinds a name and tells what it was bound to before. -/
def take (params : Params) (key : String) : Option Param × Params :=
  (params.get? key, params.erase key)

/-- A bound name is found, and all others are as before. -/
theorem get?_insert (params : Params) (key other : String) (value : Param) :
    (params.insert key value).get? other = if other = key then some value else params.get? other :=
  Keyed.lookup_insert key other value params.bindings

/-- A name is unbound after its erasure, and all others are as before. -/
theorem get?_erase (params : Params) (key other : String) :
    (params.erase key).get? other = if other = key then none else params.get? other :=
  Keyed.lookup_erase key other params.bindings

/-- An update changes its own name alone. -/
theorem get?_update (params : Params) (key other : String) (f : Param → Param) :
    (params.update key f).get? other =
      if other = key then (params.get? other).map f else params.get? other :=
  Keyed.lookup_update key other f params.bindings

end Params

end KernelLaunch
