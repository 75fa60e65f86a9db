/-!
# Tables in ascending order of their keys

A table is a list of bindings whose keys ascend strictly, read with
`List.lookup`. What an update does to a look-up is stated for every list, so
that a reader of a table never needs the order; that the updates keep the order
is stated beside it.
-/

namespace KernelLaunch.Keyed

variable {κ α : Type} [DecidableEq κ]

/-- The keys ascend strictly, so each of them occurs once. -/
def Ascending [LT κ] (table : List (κ × α)) : Prop :=
  table.Pairwise fun a b => a.1 < b.1

/-- Binds a key. A bound key keeps its place and a new one goes before the
first larger key. -/
def insert [LT κ] [DecidableLT κ] (key : κ) (value : α) : List (κ × α) → List (κ × α)
  | [] => [(key, value)]
  | (k, v) :: rest =>
    if k = key then (key, value) :: rest
    else if key < k then (key, value) :: (k, v) :: rest
    else (k, v) :: insert key value rest

/-- Unbinds a key. -/
def erase (key : κ) (table : List (κ × α)) : List (κ × α) :=
  table.filter fun entry => entry.1 ≠ key

/-- Changes what a key is bound to, in place. An unbound key stays unbound. -/
def update (key : κ) (f : α → α) (table : List (κ × α)) : List (κ × α) :=
  table.map fun entry => if entry.1 = key then (entry.1, f entry.2) else entry

/-- The table of a list of bindings, of which the last one of each key counts. -/
def ofList [LT κ] [DecidableLT κ] (bindings : List (κ × α)) : List (κ × α) :=
  bindings.foldl (fun table entry => insert entry.1 entry.2 table) []

/-- A look-up compares the first key and goes on. -/
private theorem lookup_entry (key k : κ) (v : α) (rest : List (κ × α)) :
    List.lookup key ((k, v) :: rest) = if key = k then some v else rest.lookup key := by
  by_cases h : key = k
  · simp [h]
  · have hne : (key == k) = false := beq_eq_false_iff_ne.mpr h
    simp [List.lookup_cons, h, hne]

/-- An inserted binding is found, and all others are as before. -/
theorem lookup_insert [LT κ] [DecidableLT κ] (key other : κ) (value : α)
    (table : List (κ × α)) :
    (insert key value table).lookup other =
      if other = key then some value else table.lookup other := by
  induction table with
  | nil => simp [insert, lookup_entry]
  | cons entry rest ih =>
    obtain ⟨k, v⟩ := entry
    by_cases heq : k = key
    · subst heq
      by_cases hother : other = k <;> simp [insert, lookup_entry, hother]
    · by_cases hlt : key < k
      · simp [insert, heq, hlt, lookup_entry]
      · simp only [insert, if_neg heq, if_neg hlt, lookup_entry, ih]
        by_cases hother : other = k
        · simp [hother, heq]
        · simp [hother]

/-- An erasure passes over its key and keeps every other binding. -/
private theorem erase_entry (key k : κ) (v : α) (rest : List (κ × α)) :
    erase key ((k, v) :: rest) = if k = key then erase key rest else (k, v) :: erase key rest := by
  by_cases h : k = key <;> simp [erase, h]

/-- An erased key is unbound, and all other bindings are as before. -/
theorem lookup_erase (key other : κ) (table : List (κ × α)) :
    (erase key table).lookup other = if other = key then none else table.lookup other := by
  induction table with
  | nil => simp [erase]
  | cons entry rest ih =>
    obtain ⟨k, v⟩ := entry
    by_cases heq : k = key
    · subst heq
      rw [erase_entry, if_pos rfl, ih, lookup_entry]
      by_cases hother : other = k <;> simp [hother]
    · rw [erase_entry, if_neg heq, lookup_entry, lookup_entry, ih]
      by_cases hother : other = k
      · simp [hother, heq]
      · simp [hother]

/-- In the table of a list of bindings, a key is bound as in its last binding. -/
theorem lookup_ofList [LT κ] [DecidableLT κ] (key : κ) (bindings : List (κ × α)) :
    (ofList bindings).lookup key = bindings.reverse.lookup key := by
  have general : ∀ (rest table : List (κ × α)),
      (rest.foldl (fun table entry => insert entry.1 entry.2 table) table).lookup key =
        (rest.reverse.lookup key).or (table.lookup key) := by
    intro rest
    induction rest with
    | nil => intro table; simp
    | cons entry rest ih =>
      intro table
      obtain ⟨k, v⟩ := entry
      rw [List.foldl_cons, ih, lookup_insert, List.reverse_cons, List.lookup_append,
        Option.or_assoc, lookup_entry]
      by_cases hkey : key = k <;> simp [hkey]
  rw [ofList, general, List.lookup_nil, Option.or_none]

/-- An update changes what its own key is bound to and nothing else. -/
theorem lookup_update (key other : κ) (f : α → α) (table : List (κ × α)) :
    (update key f table).lookup other =
      if other = key then (table.lookup other).map f else table.lookup other := by
  induction table with
  | nil => simp [update]
  | cons entry rest ih =>
    obtain ⟨k, v⟩ := entry
    simp only [update] at ih
    by_cases heq : k = key
    · subst heq
      by_cases hother : other = k <;> simp [update, lookup_entry, ih, hother]
    · by_cases hother : other = k
      · subst hother
        simp [update, heq]
      · simp [update, heq, lookup_entry, ih, hother]

/-- An update keeps the keys and their order. -/
@[simp] theorem keys_update (key : κ) (f : α → α) (table : List (κ × α)) :
    (update key f table).map Prod.fst = table.map Prod.fst := by
  induction table with
  | nil => rfl
  | cons entry rest ih =>
    simp only [update] at ih
    by_cases heq : entry.1 = key <;> simp [update, heq, ih]

/-- The keys of an inserted table are the inserted key and those before. -/
theorem mem_insert [LT κ] [DecidableLT κ] {key : κ} {value : α} {table : List (κ × α)}
    {entry : κ × α} (hmem : entry ∈ insert key value table) :
    entry = (key, value) ∨ entry ∈ table := by
  induction table with
  | nil => simpa [insert] using hmem
  | cons first rest ih =>
    obtain ⟨k, v⟩ := first
    by_cases heq : k = key
    · simp only [insert, if_pos heq, List.mem_cons] at hmem
      exact hmem.imp_right fun h => List.mem_cons_of_mem _ h
    · by_cases hlt : key < k
      · simpa [insert, heq, hlt] using hmem
      · simp only [insert, if_neg heq, if_neg hlt, List.mem_cons] at hmem
        rcases hmem with hfirst | hrest
        · exact Or.inr (hfirst ▸ List.mem_cons_self)
        · exact (ih hrest).imp_right fun h => List.mem_cons_of_mem _ h

section Order

variable [LT κ]

/-- An insertion keeps the order. -/
theorem ascending_insert [DecidableLT κ] [Trans (α := κ) (· < ·) (· < ·) (· < ·)]
    [Std.Trichotomous (α := κ) (· < ·)] {key : κ} {value : α} {table : List (κ × α)}
    (horder : Ascending table) : Ascending (insert key value table) := by
  induction table with
  | nil => exact List.pairwise_singleton _ _
  | cons first rest ih =>
    obtain ⟨k, v⟩ := first
    obtain ⟨hfirst, hrest⟩ := List.pairwise_cons.mp horder
    by_cases heq : k = key
    · subst heq
      simp only [insert, if_true]
      exact List.pairwise_cons.mpr ⟨fun entry h => hfirst entry h, hrest⟩
    · by_cases hlt : key < k
      · simp only [insert, if_neg heq, if_pos hlt]
        refine List.pairwise_cons.mpr ⟨fun entry hmem => ?_, horder⟩
        rcases List.mem_cons.mp hmem with h | h
        · exact h ▸ hlt
        · exact Trans.trans hlt (hfirst entry h)
      · simp only [insert, if_neg heq, if_neg hlt]
        refine List.pairwise_cons.mpr ⟨fun entry hmem => ?_, ih hrest⟩
        rcases mem_insert hmem with h | h
        · have hle : k < key := by
            by_cases hlt' : k < key
            · exact hlt'
            · exact absurd (Std.Trichotomous.trichotomous k key hlt' hlt) heq
          exact h ▸ hle
        · exact hfirst entry h

/-- An erasure keeps the order. -/
theorem ascending_erase {key : κ} {table : List (κ × α)} (horder : Ascending table) :
    Ascending (erase key table) :=
  List.Pairwise.filter _ horder

/-- The table of a list of bindings is in order. -/
theorem ascending_ofList [DecidableLT κ] [Trans (α := κ) (· < ·) (· < ·) (· < ·)]
    [Std.Trichotomous (α := κ) (· < ·)] (bindings : List (κ × α)) :
    Ascending (ofList bindings) := by
  have general : ∀ (rest : List (κ × α)) {table : List (κ × α)}, Ascending table →
      Ascending (rest.foldl (fun table entry => insert entry.1 entry.2 table) table) := by
    intro rest
    induction rest with
    | nil => exact fun horder => horder
    | cons entry rest ih => exact fun horder => ih (ascending_insert horder)
  exact general bindings List.Pairwise.nil

end Order

end KernelLaunch.Keyed
