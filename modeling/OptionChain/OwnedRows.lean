import Mathlib.Data.List.Range

/-!
# Rows owned through stored indices

Owners share one table and remember the index of their row in it. In an owned table
every row has one owner, whatever the order of the owners, and fits it. An owner
without a row may take a new one at the end of the table, and the owner of a row may
change with it.
-/

namespace OptionChain.OwnedRows

variable {α ρ : Type} (index : α → Option Nat) (fits : α → ρ → Prop)

/-- Every row of the table is owned once, by an owner that it fits. -/
structure Owned (owners : List α) (table : List ρ) : Prop where
  oneToOne : (owners.filterMap index).Perm (List.range table.length)
  fitting : ∀ owner ∈ owners, ∀ position ∈ index owner,
    ∃ row, table[position]? = some row ∧ fits owner row

variable {index} {fits} {owner changed : α} {owners others : List α} {table : List ρ} {row : ρ}

theorem owned_nil : Owned index fits [] [] := by
  constructor
  · exact List.Perm.nil
  · intro owner member
    cases member

/-- The order of the owners does not matter. -/
theorem Owned.unordered (owned : Owned index fits owners table) (permuted : owners.Perm others) :
    Owned index fits others table := by
  constructor
  · exact (permuted.filterMap index).symm.trans owned.oneToOne
  · intro owner member
    exact owned.fitting owner (permuted.mem_iff.mpr member)

/-- No two owners have the same row. -/
theorem Owned.injective (owned : Owned index fits owners table) :
    (owners.filterMap index).Nodup :=
  owned.oneToOne.nodup_iff.mpr List.nodup_range

theorem Owned.bounded (owned : Owned index fits owners table) {position : Nat}
    (member : owner ∈ owners) (own : index owner = some position) : position < table.length := by
  obtain ⟨row, found, _⟩ := owned.fitting owner member position own
  exact (List.getElem?_eq_some_iff.mp found).1

/-- An owner without a row. -/
theorem Owned.cons_none (owned : Owned index fits owners table) (none : index owner = none) :
    Owned index fits (owner :: owners) table := by
  constructor
  · rw [List.filterMap_cons_none none]
    exact owned.oneToOne
  · intro other member position own
    rcases List.mem_cons.mp member with rfl | old
    · rw [none] at own
      cases own
    · exact owned.fitting other old position own

theorem Owned.of_cons_none (owned : Owned index fits (owner :: owners) table)
    (none : index owner = none) : Owned index fits owners table := by
  constructor
  · have oneToOne := owned.oneToOne
    rwa [List.filterMap_cons_none none] at oneToOne
  · intro other member
    exact owned.fitting other (List.mem_cons_of_mem _ member)

/-- A new row at the end of the table, with an owner of its own. -/
theorem Owned.append (owned : Owned index fits owners table)
    (own : index owner = some table.length) (fitting : fits owner row) :
    Owned index fits (owner :: owners) (table ++ [row]) := by
  constructor
  · rw [List.filterMap_cons_some own, List.length_append, List.length_singleton, List.range_succ]
    exact (owned.oneToOne.cons _).trans (List.perm_append_singleton _ _).symm
  · intro other member position owns
    rcases List.mem_cons.mp member with rfl | old
    · obtain rfl := Option.some.inj (own.symm.trans owns)
      exact ⟨row, List.getElem?_concat_length, fitting⟩
    · obtain ⟨stored, found, fit⟩ := owned.fitting other old position owns
      exact ⟨stored, by rw [List.getElem?_append_left (owned.bounded old owns), found], fit⟩

/-- The owner of a row changes with it. -/
theorem Owned.modify (owned : Owned index fits (owner :: owners) table) {position : Nat}
    (own : index owner = some position) (still : index changed = some position)
    (change : ρ → ρ) (fitting : ∀ row, fits owner row → fits changed (change row)) :
    Owned index fits (changed :: owners) (table.modify position change) := by
  constructor
  · have oneToOne := owned.oneToOne
    rw [List.filterMap_cons_some own] at oneToOne
    rw [List.filterMap_cons_some still, List.length_modify]
    exact oneToOne
  · intro other member here owns
    rcases List.mem_cons.mp member with rfl | old
    · obtain rfl := Option.some.inj (still.symm.trans owns)
      obtain ⟨row, found, fit⟩ := owned.fitting owner List.mem_cons_self position own
      exact ⟨change row, by rw [List.getElem?_modify_eq, found]; rfl, fitting row fit⟩
    · have apart : position ≠ here := by
        rintro rfl
        have distinct := owned.injective
        rw [List.filterMap_cons_some own, List.nodup_cons] at distinct
        exact distinct.1 (List.mem_filterMap.mpr ⟨other, old, owns⟩)
      obtain ⟨row, found, fit⟩ := owned.fitting other (List.mem_cons_of_mem _ old) here owns
      exact ⟨row, by rw [List.getElem?_modify_ne _ _ apart, found], fit⟩

end OptionChain.OwnedRows
