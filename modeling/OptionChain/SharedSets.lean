import Mathlib.Data.Finset.Lattice.Lemmas
import Mathlib.Data.Finset.Union

/-!
# Sets that several owners share

Every item has an owner, and each owner adds and removes items of its own. Then the part
of one owner is not touched by the others. An owner that remembers what is there brings
its part to what it wants by the differences alone.
-/

namespace OptionChain.SharedSets

variable {α ω : Type} [DecidableEq α] [DecidableEq ω] (owner : α → ω)

/-- The items of one owner. -/
def part (own : ω) (items : Finset α) : Finset α := items.filter fun item => owner item = own

/-- All items are one owner's. -/
def Owned (own : ω) (items : Finset α) : Prop := ∀ item ∈ items, owner item = own

variable {owner} {own other : ω} {items change : Finset α}

omit [DecidableEq α] in
theorem mem_part {item : α} : item ∈ part owner own items ↔ item ∈ items ∧ owner item = own := by
  simp [part]

theorem part_union (owned : Owned owner own change) :
    part owner own (items ∪ change) = part owner own items ∪ change := by
  ext item
  simp only [mem_part, Finset.mem_union]
  constructor
  · rintro ⟨member | added, mine⟩
    · exact Or.inl ⟨member, mine⟩
    · exact Or.inr added
  · rintro (⟨member, mine⟩ | added)
    · exact ⟨Or.inl member, mine⟩
    · exact ⟨Or.inr added, owned item added⟩

theorem part_sdiff : part owner own (items \ change) = part owner own items \ change := by
  ext item
  simp only [mem_part, Finset.mem_sdiff]
  tauto

theorem part_union_other (owned : Owned owner own change) (unlike : other ≠ own) :
    part owner other (items ∪ change) = part owner other items := by
  ext item
  simp only [mem_part, Finset.mem_union]
  constructor
  · rintro ⟨member | added, mine⟩
    · exact ⟨member, mine⟩
    · exact absurd (mine.symm.trans (owned item added)) unlike
  · rintro ⟨member, mine⟩
    exact ⟨Or.inl member, mine⟩

theorem part_sdiff_other (owned : Owned owner own change) (unlike : other ≠ own) :
    part owner other (items \ change) = part owner other items := by
  ext item
  simp only [mem_part, Finset.mem_sdiff]
  constructor
  · rintro ⟨⟨member, -⟩, mine⟩
    exact ⟨member, mine⟩
  · rintro ⟨member, mine⟩
    exact ⟨⟨member, fun removed => unlike (mine.symm.trans (owned item removed))⟩, mine⟩

/-- To add what is wanted and not remembered and to remove what is remembered and not
wanted leaves what is wanted, if what is there is wanted or remembered. -/
theorem reconciled {want known : Finset α} (remembered : want ∩ known ⊆ items)
    (explained : items ⊆ want ∪ known) : (items ∪ (want \ known)) \ (known \ want) = want := by
  ext item
  have old := @remembered item
  have new := @explained item
  simp only [Finset.mem_union, Finset.mem_inter, Finset.mem_sdiff] at old new ⊢
  tauto

end OptionChain.SharedSets
