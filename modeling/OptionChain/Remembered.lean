import Mathlib.Data.List.Nodup

/-!
# Lists that remember

A list without repetitions stands for a set whose members come and go: new items are
appended unless they are there, items that go are removed one by one. `Lists` ties such
a list to the members it should have. Leaving some items out of sight commutes with
both operations, so a list may hold items of another owner.
-/

namespace OptionChain.Remembered

variable {α : Type} {known items : List α} {wanted other : α → Prop}

/-- A list has exactly the members that are wanted, each once. -/
structure Lists (known : List α) (wanted : α → Prop) : Prop where
  nodup : known.Nodup
  members : ∀ item, item ∈ known ↔ wanted item

theorem Lists.congr (lists : Lists known wanted) (same : ∀ item, wanted item ↔ other item) :
    Lists known other :=
  ⟨lists.nodup, fun item => (lists.members item).trans (same item)⟩

/-- Items appended at once must be distinct, for none of them is there yet. -/
theorem Lists.append_iff (lists : Lists known wanted) (fresh : ∀ item ∈ items, ¬ wanted item) :
    Lists (known ++ items) (fun item => wanted item ∨ item ∈ items) ↔ items.Nodup := by
  constructor
  · intro appended
    exact (List.nodup_append.mp appended.nodup).2.1
  · intro distinct
    refine ⟨List.nodup_append.mpr ⟨lists.nodup, distinct, ?_⟩, fun item => ?_⟩
    · rintro item member _ also rfl
      exact fresh item also ((lists.members item).mp member)
    · rw [List.mem_append, lists.members]

section Operations

variable [DecidableEq α]

/-- Each item is appended unless it is there by then. -/
def remember (known items : List α) : List α :=
  items.foldl (fun known item => if item ∈ known then known else known ++ [item]) known

/-- Each item is removed once, if it is there. -/
def forget (known items : List α) : List α :=
  items.foldl (fun known item => known.erase item) known

theorem mem_remember {item : α} : item ∈ remember known items ↔ item ∈ known ∨ item ∈ items := by
  induction items generalizing known with
  | nil => simp [remember]
  | cons first rest inductionHypothesis =>
    change item ∈ remember (if first ∈ known then known else known ++ [first]) rest ↔ _
    rw [inductionHypothesis, List.mem_cons]
    by_cases present : first ∈ known
    · rw [if_pos present]
      constructor
      · exact Or.imp_right Or.inr
      · rintro (here | rfl | later)
        · exact Or.inl here
        · exact Or.inl present
        · exact Or.inr later
    · rw [if_neg present, List.mem_append, List.mem_singleton, or_assoc]

theorem nodup_remember (distinct : known.Nodup) : (remember known items).Nodup := by
  induction items generalizing known with
  | nil => exact distinct
  | cons first rest inductionHypothesis =>
    change (remember (if first ∈ known then known else known ++ [first]) rest).Nodup
    apply inductionHypothesis
    by_cases present : first ∈ known
    · rw [if_pos present]
      exact distinct
    · rw [if_neg present]
      exact List.nodup_append.mpr ⟨distinct, List.nodup_singleton first, by
        rintro item member _ single rfl
        exact present (List.mem_singleton.mp single ▸ member)⟩

theorem nodup_forget (distinct : known.Nodup) : (forget known items).Nodup := by
  induction items generalizing known with
  | nil => exact distinct
  | cons first rest inductionHypothesis => exact inductionHypothesis (distinct.erase first)

theorem mem_forget (distinct : known.Nodup) {item : α} :
    item ∈ forget known items ↔ item ∈ known ∧ item ∉ items := by
  induction items generalizing known with
  | nil => simp [forget]
  | cons first rest inductionHypothesis =>
    change item ∈ forget (known.erase first) rest ↔ _
    rw [inductionHypothesis (distinct.erase first), distinct.mem_erase_iff, List.mem_cons, not_or]
    exact ⟨fun ⟨⟨unlike, here⟩, later⟩ => ⟨here, unlike, later⟩,
      fun ⟨here, unlike, later⟩ => ⟨⟨unlike, here⟩, later⟩⟩

/-- What is remembered of the items in sight depends on them only. -/
theorem filter_remember (keep : α → Bool) :
    (remember known items).filter keep = remember (known.filter keep) (items.filter keep) := by
  induction items generalizing known with
  | nil => rfl
  | cons first rest inductionHypothesis =>
    change (remember (if first ∈ known then known else known ++ [first]) rest).filter keep = _
    rw [inductionHypothesis]
    cases kept : keep first with
    | true =>
      have seen : first ∈ known.filter keep ↔ first ∈ known := by simp [kept]
      rw [List.filter_cons_of_pos kept]
      change _ = remember (if first ∈ known.filter keep then _ else _) _
      by_cases present : first ∈ known
      · rw [if_pos present, if_pos (seen.mpr present)]
      · rw [if_neg present, if_neg (mt seen.mp present), List.filter_append]
        simp [kept]
    | false =>
      rw [List.filter_cons_of_neg (by simp [kept])]
      by_cases present : first ∈ known
      · rw [if_pos present]
      · rw [if_neg present, List.filter_append]
        simp [kept]

theorem filter_forget (keep : α → Bool) :
    (forget known items).filter keep = forget (known.filter keep) (items.filter keep) := by
  induction items generalizing known with
  | nil => rfl
  | cons first rest inductionHypothesis =>
    change (forget (known.erase first) rest).filter keep = _
    rw [inductionHypothesis, ← List.erase_filter]
    cases kept : keep first with
    | true => rw [List.filter_cons_of_pos kept]; rfl
    | false =>
      have unseen : first ∉ known.filter keep := by simp [kept]
      rw [List.filter_cons_of_neg (by simp [kept]), List.erase_of_not_mem unseen]

theorem Lists.remember (lists : Lists known wanted) (items : List α) :
    Lists (remember known items) fun item => wanted item ∨ item ∈ items :=
  ⟨nodup_remember lists.nodup, fun item => by rw [mem_remember, lists.members]⟩

theorem Lists.forget (lists : Lists known wanted) (items : List α) :
    Lists (forget known items) fun item => wanted item ∧ item ∉ items :=
  ⟨nodup_forget lists.nodup, fun item => by rw [mem_forget lists.nodup, lists.members]⟩

end Operations

end OptionChain.Remembered
