import RamlScaffold.Keyed

/-
  The keys of entries that are put in one after the other.

  The keys are strictly ascending, so each of them is there
  once, and they are the keys of what was put in.

  Main declarations:
    * `Keyed.mem_keys_insert`
    * `Keyed.Ascending`, `Keyed.Ascending.insert`
    * `Keyed.mem_insert_self`, `Keyed.mem_insert_of_mem`
    * `Keyed.ascending_ofList`
    * `Keyed.mem_keys_ofList`, `Keyed.mem_of_mem_ofList`
-/

------------------------------------------------------------
-- Ascending Keys
------------------------------------------------------------

namespace RamlScaffold.Keyed

variable {α : Type}

/- Whether the keys are strictly ascending. -/
def Ascending (entries : Keyed α) : Prop :=
  (keys entries).Pairwise (fun a b => a < b)

instance (entries : Keyed α) : Decidable entries.Ascending :=
  inferInstanceAs
    (Decidable ((keys entries).Pairwise (fun a b => a < b)))

/- An inserted key is the only one that is added. -/
theorem mem_keys_insert
    (key : String)
    (value : α)
    (entries : Keyed α)
    (other : String) :
    other ∈ keys (entries.insert key value) ↔
      other = key ∨ other ∈ keys entries := by
  induction entries with
  | nil => simp [insert, keys]
  | cons first rest ih =>
      rcases first with ⟨next, current⟩
      rw [insert]
      split
      · next hSame => simp [keys, hSame]
      · split
        · simp [keys]
        · simp only [keys, List.map_cons, List.mem_cons] at ih ⊢
          rw [ih]
          exact or_left_comm

theorem ascending_nil : Ascending ([] : Keyed α) :=
  List.Pairwise.nil

theorem Ascending.insert
    {entries : Keyed α}
    (hEntries : entries.Ascending)
    (key : String)
    (value : α) :
    (entries.insert key value).Ascending := by
  induction entries with
  | nil => exact List.pairwise_singleton _ key
  | cons first rest ih =>
      rcases first with ⟨next, current⟩
      have hParts := List.pairwise_cons.mp hEntries
      rw [Keyed.insert]
      split
      · next hSame =>
          rw [hSame]
          exact hEntries
      · next hOther =>
          split
          · next hBefore =>
              refine List.pairwise_cons.mpr ⟨?_, hEntries⟩
              intro other hMem
              rcases List.mem_cons.mp hMem with rfl | hMem
              · exact hBefore
              · exact String.lt_trans hBefore
                  (hParts.1 other hMem)
          · next hAfter =>
              refine
                List.pairwise_cons.mpr ⟨?_, ih hParts.2⟩
              intro other hMem
              rcases (mem_keys_insert key value rest other).mp
                  hMem with
                rfl | hMem
              · exact Std.lt_of_le_of_ne
                  (String.not_lt.mp hAfter) (Ne.symm hOther)
              · exact hParts.1 other hMem

end RamlScaffold.Keyed

------------------------------------------------------------
-- Entries Put In
------------------------------------------------------------

namespace RamlScaffold.Keyed

variable {α : Type}

/- An entry is the one put in or was there before. -/
theorem mem_of_mem_insert
    {key : String}
    {value : α}
    {entries : Keyed α}
    {entry : String × α}
    (hEntry : entry ∈ entries.insert key value) :
    entry = (key, value) ∨ entry ∈ entries := by
  induction entries with
  | nil => exact Or.inl (List.mem_singleton.mp hEntry)
  | cons first rest ih =>
      rcases first with ⟨next, current⟩
      rw [insert] at hEntry
      split at hEntry
      · rcases List.mem_cons.mp hEntry with hSame | hRest
        · exact Or.inl hSame
        · exact Or.inr (List.mem_cons_of_mem _ hRest)
      · split at hEntry
        · exact List.mem_cons.mp hEntry
        · rcases List.mem_cons.mp hEntry with hFirst | hRest
          · exact Or.inr (List.mem_cons.mpr (Or.inl hFirst))
          · exact (ih hRest).imp_right
              (List.mem_cons_of_mem _)

/- What is put in is there. -/
theorem mem_insert_self
    (key : String)
    (value : α)
    (entries : Keyed α) :
    (key, value) ∈ entries.insert key value := by
  induction entries with
  | nil => exact List.mem_cons_self
  | cons first rest ih =>
      rw [insert]
      split
      · exact List.mem_cons_self
      · split
        · exact List.mem_cons_self
        · exact List.mem_cons_of_mem _ ih

/- The entry of another key stays. -/
theorem mem_insert_of_mem
    {key : String}
    {entries : Keyed α}
    {entry : String × α}
    (hEntry : entry ∈ entries)
    (hKey : entry.1 ≠ key)
    (value : α) :
    entry ∈ entries.insert key value := by
  induction entries with
  | nil => cases hEntry
  | cons first rest ih =>
      rcases first with ⟨next, current⟩
      rw [insert]
      split
      · next hSame =>
          rcases List.mem_cons.mp hEntry with rfl | hRest
          · exact absurd hSame.symm hKey
          · exact List.mem_cons_of_mem _ hRest
      · split
        · exact List.mem_cons_of_mem _ hEntry
        · rcases List.mem_cons.mp hEntry with rfl | hRest
          · exact List.mem_cons_self
          · exact List.mem_cons_of_mem _ (ih hRest)

theorem ascending_ofList (entries : List (String × α)) :
    (ofList entries).Ascending :=
  List.foldlRecOn entries _ ascending_nil
    (fun _ hKept entry _ => hKept.insert entry.1 entry.2)

/- The keys are those of the entries that were put in. -/
theorem mem_keys_ofList
    (entries : List (String × α))
    (key : String) :
    key ∈ keys (ofList entries) ↔
      key ∈ entries.map Prod.fst := by
  have hFold (kept : Keyed α) :
      key ∈ keys
        (entries.foldl
          (fun kept entry => kept.insert entry.1 entry.2)
          kept) ↔
        key ∈ keys kept ∨ key ∈ entries.map Prod.fst := by
    induction entries generalizing kept with
    | nil => simp
    | cons entry entries ih =>
        rw [List.foldl_cons, ih, mem_keys_insert,
          List.map_cons, List.mem_cons, or_assoc]
        exact or_left_comm
  exact (hFold []).trans (by simp [keys])

/- Nothing else is there than what was put in. -/
theorem mem_of_mem_ofList
    {entries : List (String × α)}
    {entry : String × α}
    (hEntry : entry ∈ ofList entries) :
    entry ∈ entries := by
  refine List.foldlRecOn
    (motive := fun kept => ∀ entry ∈ kept, entry ∈ entries)
    entries _ ?_ ?_ entry hEntry
  · intro first hFirst
    cases hFirst
  · intro kept hKept added hAdded first hFirst
    rcases mem_of_mem_insert hFirst with rfl | hFirst
    · exact hAdded
    · exact hKept first hFirst

end RamlScaffold.Keyed
