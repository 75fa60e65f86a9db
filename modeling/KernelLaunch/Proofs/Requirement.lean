import KernelLaunch.LoweringError

/-!
# Requirements in order

A lowering goes through its requirements in a fixed order and stops at the first
one that is violated. This file says what it means that a list of requirements
decides a result in this way. A cause is told with its kind and its message, since
these are all that is seen of it. Deciding goes through the steps of a computation,
so that the requirements of a stage are proved beside the stage alone.
-/

namespace KernelLaunch

/-- The entry at an index of a list has a property, and no entry before it has. -/
def IsFirst {α : Type} (p : α → Prop) (list : List α) (index : Nat) (x : α) : Prop :=
  list[index]? = some x ∧ p x ∧ ∀ earlier < index, ∀ y, list[earlier]? = some y → ¬p y

/-- The head of a list is the first entry with a property that it has. -/
theorem IsFirst.head {α : Type} {p : α → Prop} {x : α} (list : List α) (hp : p x) :
    IsFirst p (x :: list) 0 x :=
  ⟨rfl, hp, fun _ hlt => absurd hlt (Nat.not_lt_zero _)⟩

/-- Behind an entry without a property, the first entry with it stays the first. -/
theorem IsFirst.cons {α : Type} {p : α → Prop} {list : List α} {index : Nat} {x y : α}
    (hy : ¬p y) (hfirst : IsFirst p list index x) : IsFirst p (y :: list) (index + 1) x := by
  obtain ⟨hat, hp, hbefore⟩ := hfirst
  refine ⟨by simpa using hat, hp, fun earlier hearlier z hz => ?_⟩
  cases earlier with
  | zero =>
    obtain rfl : y = z := by simpa using hz
    exact hy
  | succ earlier => exact hbefore earlier (by omega) z (by simpa using hz)

/-- A search for an index yields the first entry that satisfies the test. -/
theorem isFirst_of_findIdx? {α : Type} {p : α → Prop} [DecidablePred p] {list : List α}
    {index : Nat} (hfound : list.findIdx? (fun x => p x) = some index) :
    ∃ x, IsFirst p list index x := by
  obtain ⟨hlt, hp, hbefore⟩ := List.findIdx?_eq_some_iff_getElem.mp hfound
  refine ⟨list[index], List.getElem?_eq_getElem hlt, by simpa using hp, ?_⟩
  intro earlier hearlier y hy
  obtain ⟨_, rfl⟩ := List.getElem?_eq_some_iff.mp hy
  simpa using hbefore earlier hearlier

/-- The first entry with a property does not stand in a part without any. -/
theorem IsFirst.of_append {α : Type} {p : α → Prop} {list rest : List α} {index : Nat} {x : α}
    (hfirst : IsFirst p (list ++ rest) index x) (hrest : ∀ y ∈ rest, ¬p y) :
    IsFirst p list index x := by
  obtain ⟨hat, hp, hbefore⟩ := hfirst
  have hlt : index < list.length := by
    apply Nat.lt_of_not_le
    intro hge
    rw [List.getElem?_append_right hge] at hat
    exact hrest x (List.mem_of_getElem? hat) hp
  refine ⟨by rwa [List.getElem?_append_left hlt] at hat, hp, fun earlier hearlier y hy => ?_⟩
  exact hbefore earlier hearlier y (by rwa [List.getElem?_append_left (by omega)])

/-- The first entry with a property stays the first when more entries follow. -/
theorem IsFirst.append {α : Type} {p : α → Prop} {list : List α} {index : Nat} {x : α}
    (hfirst : IsFirst p list index x) (rest : List α) : IsFirst p (list ++ rest) index x := by
  obtain ⟨hat, hp, hbefore⟩ := hfirst
  obtain ⟨hlt, _⟩ := List.getElem?_eq_some_iff.mp hat
  refine ⟨by rwa [List.getElem?_append_left hlt], hp, fun earlier hearlier y hy => ?_⟩
  exact hbefore earlier hearlier y (by rwa [List.getElem?_append_left (by omega)] at hy)

/-- There is only one first entry with a property. -/
theorem IsFirst.unique {α : Type} {p : α → Prop} {list : List α} {index index' : Nat} {x x' : α}
    (hfirst : IsFirst p list index x) (hfirst' : IsFirst p list index' x') :
    index = index' ∧ x = x' := by
  obtain ⟨hat, hp, hbefore⟩ := hfirst
  obtain ⟨hat', hp', hbefore'⟩ := hfirst'
  have hle : index ≤ index' := Nat.le_of_not_lt fun hlt => hbefore index' hlt x' hat' hp'
  have hge : index' ≤ index := Nat.le_of_not_lt fun hlt => hbefore' index hlt x hat hp
  obtain rfl : index = index' := by omega
  exact ⟨rfl, Option.some.inj (hat.symm.trans hat')⟩

/-- A cause is seen with a kind and a message. -/
structure LoweringError.Shows (error : LoweringError) (kind : ErrorKind) (message : String) :
    Prop where
  /-- The kind of the cause. -/
  kind : error.kind = kind
  /-- Its message. -/
  message : error.message = message

/-- Something that has to hold, and the causes that tell its violation. -/
structure Requirement where
  /-- What has to hold. -/
  holds : Prop
  /-- What a failure says if it does not hold. -/
  tells : LoweringError → Prop

namespace Requirement

/-- Requirements decide a result: it has a value if all of them hold, and else
it fails with a cause that tells the violation of the first that does not. -/
inductive Decide {α : Type} : List Requirement → Except LoweringError α → Prop
  | accept (value : α) : Decide [] (.ok value)
  | met {first : Requirement} {rest : List Requirement} {result : Except LoweringError α} :
      first.holds → Decide rest result → Decide (first :: rest) result
  | violated {first : Requirement} {rest : List Requirement} {error : LoweringError} :
      ¬first.holds → first.tells error → Decide (first :: rest) (.error error)

/-- A requirement on every value with a property. -/
def ofEach {α : Type} (p : α → Prop) (requirement : α → Requirement) : Requirement where
  holds := ∀ value, p value → (requirement value).holds
  tells error := ∃ value, p value ∧ (requirement value).tells error

/-- A requirement on every value is one on the only value there is. -/
theorem ofEach_eq {α : Type} {p : α → Prop} {only : α} (honly : ∀ value, p value ↔ value = only)
    (requirement : α → Requirement) : ofEach p requirement = requirement only := by
  simp [ofEach, honly]

variable {α β : Type}

/-- A decided result has a value exactly if all requirements hold. -/
theorem Decide.exists_ok_iff {requirements : List Requirement} {result : Except LoweringError α}
    (hdecide : Decide requirements result) :
    (∃ value, result = .ok value) ↔ ∀ requirement ∈ requirements, requirement.holds := by
  induction hdecide with
  | accept value => simp
  | met hfirst _ ih => simpa [hfirst] using ih
  | violated hfirst _ => simp [hfirst]

/-- A decided result fails, where some requirement does not hold, with a cause
that tells the violation of the first one. -/
theorem Decide.exists_error {requirements : List Requirement} {result : Except LoweringError α}
    (hdecide : Decide requirements result)
    (hviolated : ¬∀ requirement ∈ requirements, requirement.holds) :
    ∃ index requirement error,
      IsFirst (fun requirement => ¬requirement.holds) requirements index requirement ∧
        requirement.tells error ∧ result = .error error := by
  induction hdecide with
  | accept value => exact absurd (by simp) hviolated
  | met hholds _ ih =>
    have hrest := fun hall => hviolated (List.forall_mem_cons.mpr ⟨hholds, hall⟩)
    obtain ⟨index, requirement, error, hfirst, htells, herror⟩ := ih hrest
    exact ⟨index + 1, requirement, error, .cons (not_not_intro hholds) hfirst, htells, herror⟩
  | @violated first rest error hnot htells =>
    exact ⟨0, first, error, .head rest hnot, htells, rfl⟩

/-- A decided result that fails tells the violation of some requirement. -/
theorem Decide.exists_tells {requirements : List Requirement} {error : LoweringError}
    (hdecide : Decide requirements (.error error : Except LoweringError α)) :
    ∃ requirement ∈ requirements, requirement.tells error := by
  generalize hresult : (.error error : Except LoweringError α) = result at hdecide
  induction hdecide with
  | accept value => exact absurd hresult (by simp)
  | met _ _ ih =>
    obtain ⟨requirement, hmem, htells⟩ := ih hresult
    exact ⟨requirement, List.mem_cons_of_mem _ hmem, htells⟩
  | violated _ htells =>
    obtain rfl := Except.error.inj hresult
    exact ⟨_, List.mem_cons_self, htells⟩

/-- A result that one requirement decides fails where that does not hold. -/
theorem Decide.error_of_not_holds {requirement : Requirement} {result : Except LoweringError α}
    (hdecide : Decide [requirement] result) (hviolated : ¬requirement.holds) :
    ∃ error, requirement.tells error ∧ result = .error error := by
  cases hdecide with
  | met hholds _ => exact absurd hholds hviolated
  | violated _ htells => exact ⟨_, htells, rfl⟩

/-- Requirements of a first step and of what follows it decide the whole, in
this order. -/
theorem Decide.bind {before after : List Requirement} {step : Except LoweringError α}
    {next : α → Except LoweringError β} (hstep : Decide before step)
    (hnext : ∀ value, step = .ok value → Decide after (next value)) :
    Decide (before ++ after) (step >>= next) := by
  induction hstep with
  | accept value => exact hnext value rfl
  | met hholds _ ih => exact .met hholds (ih hnext)
  | violated hviolated htells => exact .violated hviolated htells

/-- What is made of a value in the end needs no further requirement. -/
theorem Decide.map {requirements : List Requirement} {result : Except LoweringError α}
    (hdecide : Decide requirements result) (f : α → β) : Decide requirements (f <$> result) := by
  induction hdecide with
  | accept value => exact .accept (f value)
  | met hholds _ ih => exact .met hholds ih
  | violated hviolated htells => exact .violated hviolated htells

/-- A single requirement decides a result from its two sides. -/
theorem decide_singleton {requirement : Requirement} {result : Except LoweringError α}
    (hmet : requirement.holds → ∃ value, result = .ok value)
    (hviolated : ¬requirement.holds → ∃ error, requirement.tells error ∧ result = .error error) :
    Decide [requirement] result := by
  by_cases hholds : requirement.holds
  · obtain ⟨value, rfl⟩ := hmet hholds
    exact .met hholds (.accept value)
  · obtain ⟨error, htells, rfl⟩ := hviolated hholds
    exact .violated hholds htells

end Requirement

/-- A computation of two steps has a value if the first step has one from which
the second step yields it. -/
theorem bind_eq_ok_iff {α β : Type} {step : Except LoweringError α}
    {next : α → Except LoweringError β} {value : β} :
    step >>= next = .ok value ↔ ∃ first, step = .ok first ∧ next first = .ok value := by
  cases step with
  | error error => simp [bind, Except.bind]
  | ok first => simp [bind, Except.bind]

/-- What is made of the value of a computation is a value if there is one. -/
theorem map_eq_ok_iff {α β : Type} {result : Except LoweringError α} {f : α → β} {value : β} :
    f <$> result = .ok value ↔ ∃ before, result = .ok before ∧ f before = value := by
  cases result with
  | error error => simp [Functor.map, Except.map]
  | ok before => simp [Functor.map, Except.map]

end KernelLaunch
