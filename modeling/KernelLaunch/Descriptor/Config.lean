/-!
# Launch configurations

The attributes of a launch form a table from keys to values that keeps the order
in which its entries were pushed.
-/

namespace KernelLaunch

/-- The value of an attribute. -/
inductive Attribute where
  /-- A text. -/
  | text (value : String)
  /-- A string of bytes. -/
  | bytes (value : List UInt8)
  /-- A signed 32-bit word. -/
  | word (value : Int32)
  /-- A truth value. -/
  | bool (value : Bool)
  deriving DecidableEq

/-- Attributes in the order they were pushed. -/
structure LaunchConfig where
  /-- The keys and their values. -/
  entries : List (String × Attribute) := []
  deriving DecidableEq

namespace LaunchConfig

/-- The configuration without attributes. -/
def empty : LaunchConfig := ⟨[]⟩

/-- Adds an attribute behind the others. -/
def push (config : LaunchConfig) (key : String) (value : Attribute) : LaunchConfig :=
  ⟨config.entries ++ [(key, value)]⟩

/-- The configuration that a list of attributes is pushed into, one by one. -/
def ofList (entries : List (String × Attribute)) : LaunchConfig :=
  entries.foldl (fun config entry => config.push entry.1 entry.2) empty

/-- The first value under a key. -/
def get? (config : LaunchConfig) (key : String) : Option Attribute :=
  config.entries.lookup key

/-- The keys in order. -/
def keys (config : LaunchConfig) : List String :=
  config.entries.map Prod.fst

/-- The number of attributes. -/
def size (config : LaunchConfig) : Nat :=
  config.entries.length

/-- There are no attributes. -/
def isEmpty (config : LaunchConfig) : Bool :=
  config.entries.isEmpty

/-- Pushing a list of attributes keeps its order. -/
@[simp] theorem entries_ofList (entries : List (String × Attribute)) :
    (ofList entries).entries = entries := by
  have general : ∀ (rest : List (String × Attribute)) (config : LaunchConfig),
      (rest.foldl (fun config entry => config.push entry.1 entry.2) config).entries =
        config.entries ++ rest := by
    intro rest
    induction rest with
    | nil => intro config; simp
    | cons entry rest ih =>
      intro config
      rw [List.foldl_cons, ih]
      simp [push]
  exact general entries empty

/-- So the keys of a configuration are those that were pushed. -/
@[simp] theorem keys_ofList (entries : List (String × Attribute)) :
    (ofList entries).keys = entries.map Prod.fst := by
  rw [keys, entries_ofList]

/-- A pushed key is the last one. -/
@[simp] theorem keys_push (config : LaunchConfig) (key : String) (value : Attribute) :
    (config.push key value).keys = config.keys ++ [key] := by
  simp [keys, push]

end LaunchConfig

end KernelLaunch
