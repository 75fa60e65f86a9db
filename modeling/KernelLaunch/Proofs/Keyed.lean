import KernelLaunch.Keyed
import Mathlib.Data.List.Nodup

/-!
# Tables are determined by their look-ups

Where each key occurs once, a binding occurs exactly if it is found. So two
tables in ascending order that find the same under every key are equal, binding
by binding and in the same order. The table of a list of bindings keeps of each
key the last binding, and so it keeps all of them only where no key is bound to
two values.
-/

namespace KernelLaunch.Keyed

variable {κ α : Type} [DecidableEq κ] {table : List (κ × α)}

/-- What is found is a binding of the table. -/
theorem mem_of_lookup {key : κ} {value : α} (hfound : table.lookup key = some value) :
    (key, value) ∈ table := by
  obtain ⟨before, behind, htable, _⟩ := List.lookup_eq_some_iff.mp hfound
  simp [htable]

/-- Where each key occurs once, exactly the bindings are found. -/
theorem lookup_eq_some_iff_mem (hkeys : (table.map Prod.fst).Nodup) {key : κ} {value : α} :
    table.lookup key = some value ↔ (key, value) ∈ table := by
  refine ⟨mem_of_lookup, fun hmem => ?_⟩
  obtain ⟨before, behind, rfl⟩ := List.append_of_mem hmem
  refine List.lookup_eq_some_iff.mpr ⟨before, behind, rfl, fun entry hentry => ?_⟩
  rw [List.map_append, List.nodup_append] at hkeys
  have hne : entry.1 ≠ key := hkeys.2.2 _ (List.mem_map_of_mem hentry) _ (by simp)
  exact bne_iff_ne.mpr hne.symm

section Order

variable [LT κ]

omit [DecidableEq κ] in
/-- In ascending order each key occurs once. -/
theorem Ascending.nodup_keys [Std.Irrefl (α := κ) (· < ·)] (horder : Ascending table) :
    (table.map Prod.fst).Nodup := by
  rw [List.nodup_iff_pairwise_ne, List.pairwise_map]
  refine List.Pairwise.imp (fun {a b} hlt heq => ?_) horder
  rw [heq] at hlt
  exact Std.Irrefl.irrefl b.1 hlt

/-- In ascending order exactly the bindings are found. -/
theorem Ascending.lookup_eq_some_iff [Std.Irrefl (α := κ) (· < ·)] (horder : Ascending table)
    {key : κ} {value : α} : table.lookup key = some value ↔ (key, value) ∈ table :=
  lookup_eq_some_iff_mem horder.nodup_keys

/-- Tables in ascending order that find the same are equal. -/
theorem Ascending.eq_of_lookup [Std.Asymm (α := κ) (· < ·)] {a b : List (κ × α)}
    (ha : Ascending a) (hb : Ascending b) (hlookup : ∀ key, a.lookup key = b.lookup key) :
    a = b := by
  have hmem : ∀ entry, entry ∈ a ↔ entry ∈ b := by
    rintro ⟨key, value⟩
    rw [← ha.lookup_eq_some_iff, ← hb.lookup_eq_some_iff, hlookup]
  have hperm : a.Perm b :=
    (List.perm_ext_iff_of_nodup (List.Nodup.of_map _ ha.nodup_keys)
      (List.Nodup.of_map _ hb.nodup_keys)).mpr hmem
  refine hperm.eq_of_pairwise (fun x y _ _ hxy hyx => ?_) ha hb
  exact absurd hyx (Std.Asymm.asymm x.1 y.1 hxy)

/-- An update keeps the order. -/
theorem ascending_update (key : κ) (f : α → α) (horder : Ascending table) :
    Ascending (update key f table) := by
  have hkeys : (table.map Prod.fst).Pairwise (· < ·) := List.pairwise_map.mpr horder
  rw [← keys_update key f] at hkeys
  exact List.pairwise_map.mp hkeys

end Order

section OfList

variable [LT κ] [DecidableLT κ] {bindings : List (κ × α)}

/-- Each key of a list of bindings has its last binding in the table. -/
theorem exists_mem_ofList {entry : κ × α} (hmem : entry ∈ bindings) :
    ∃ value, (entry.1, value) ∈ ofList bindings := by
  cases hlast : bindings.reverse.lookup entry.1 with
  | some value =>
    refine ⟨value, mem_of_lookup ?_⟩
    rw [lookup_ofList, hlast]
  | none =>
    have hne := List.lookup_eq_none_iff.mp hlast entry (List.mem_reverse.mpr hmem)
    exact absurd rfl (bne_iff_ne.mp hne)

variable [Trans (α := κ) (· < ·) (· < ·) (· < ·)] [Std.Trichotomous (α := κ) (· < ·)]
  [Std.Irrefl (α := κ) (· < ·)]

/-- A binding is in the table of a list of bindings exactly if it is the last one of
its key. -/
theorem mem_ofList_iff {key : κ} {value : α} :
    (key, value) ∈ ofList bindings ↔
      ∃ before behind, bindings = before ++ (key, value) :: behind ∧
        ∀ entry ∈ behind, entry.1 ≠ key := by
  rw [← (ascending_ofList bindings).lookup_eq_some_iff, lookup_ofList, List.lookup_eq_some_iff]
  -- What stands before the binding in the reversed list stands behind it in the list.
  constructor
  · rintro ⟨behind, before, hbindings, hbehind⟩
    refine ⟨before.reverse, behind.reverse, ?_, fun entry hentry => ?_⟩
    · rw [← List.reverse_reverse bindings, hbindings]
      simp
    · exact (bne_iff_ne.mp (hbehind entry (List.mem_reverse.mp hentry))).symm
  · rintro ⟨before, behind, rfl, hbehind⟩
    refine ⟨behind.reverse, before.reverse, by simp, fun entry hentry => ?_⟩
    exact bne_iff_ne.mpr (hbehind entry (List.mem_reverse.mp hentry)).symm

/-- The table of a list of bindings holds exactly these bindings if and only if they
bind no key to two values. -/
theorem forall_mem_ofList_iff :
    (∀ entry, entry ∈ ofList bindings ↔ entry ∈ bindings) ↔
      ∀ key a b, (key, a) ∈ bindings → (key, b) ∈ bindings → a = b := by
  constructor
  · intro hexact key a b ha hb
    rw [← hexact, ← (ascending_ofList bindings).lookup_eq_some_iff] at ha hb
    exact Option.some.inj (ha.symm.trans hb)
  · rintro hunique ⟨key, value⟩
    have hsound : ∀ value, (key, value) ∈ ofList bindings → (key, value) ∈ bindings := by
      intro value hmem
      obtain ⟨before, behind, hbindings, _⟩ := mem_ofList_iff.mp hmem
      simp [hbindings]
    refine ⟨hsound value, fun hmem => ?_⟩
    obtain ⟨last, hlast⟩ := exists_mem_ofList hmem
    rwa [hunique key value last hmem (hsound last hlast)]

end OfList

end KernelLaunch.Keyed
