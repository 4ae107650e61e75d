import Migration.Proofs.ByKey

namespace Migration

/-! A list with some values put in somewhere. Whatever is done alike to the list with them and to
the list without them leaves them where they are. -/

/-- The longer list is the shorter one with `extra` put in at some place. -/
def Inserted {α : Type} (extra shorter longer : List α) : Prop :=
  ∃ front back, shorter = front ++ back ∧ longer = front ++ extra ++ back

namespace Inserted

variable {α β κ : Type} {extra shorter longer : List α}

theorem atEnd (extra shorter : List α) : Inserted extra shorter (shorter ++ extra) :=
  ⟨shorter, [], by simp, by simp⟩

theorem perm (inserted : Inserted extra shorter longer) : longer.Perm (shorter ++ extra) := by
  rcases inserted with ⟨front, back, rfl, rfl⟩
  rw [List.append_assoc, List.append_assoc]
  exact List.perm_append_comm.append_left front

theorem eq_of_nil (inserted : Inserted [] shorter longer) : longer = shorter := by
  rcases inserted with ⟨front, back, rfl, rfl⟩
  rw [List.append_nil]

theorem map (inserted : Inserted extra shorter longer) (function : α → β) :
    Inserted (extra.map function) (shorter.map function) (longer.map function) := by
  rcases inserted with ⟨front, back, rfl, rfl⟩
  exact ⟨front.map function, back.map function, by simp, by simp⟩

theorem filter (inserted : Inserted extra shorter longer) (kept : α → Bool) :
    Inserted (extra.filter kept) (shorter.filter kept) (longer.filter kept) := by
  rcases inserted with ⟨front, back, rfl, rfl⟩
  exact ⟨front.filter kept, back.filter kept, by simp, by simp⟩

theorem filterMap (inserted : Inserted extra shorter longer) (function : α → Option β) :
    Inserted (extra.filterMap function) (shorter.filterMap function)
      (longer.filterMap function) := by
  rcases inserted with ⟨front, back, rfl, rfl⟩
  exact ⟨front.filterMap function, back.filterMap function, by simp, by simp⟩

theorem append (inserted : Inserted extra shorter longer) (before after : List α) :
    Inserted extra (before ++ shorter ++ after) (before ++ longer ++ after) := by
  rcases inserted with ⟨front, back, rfl, rfl⟩
  exact ⟨before ++ front, back ++ after, by simp, by simp⟩

/-- What is added has other keys, so it is added to both lists or to neither. -/
theorem addAll [DecidableEq κ] (key : α → κ) (inserted : Inserted extra shorter longer)
    {more : List α} (other : ∀ value ∈ more, key value ∉ ByKey.keys key extra) :
    Inserted extra (ByKey.addAll key shorter more) (ByKey.addAll key longer more) := by
  induction more generalizing shorter longer with
  | nil => exact inserted
  | cons value rest induction =>
      have ⟨valueOther, restOther⟩ := List.forall_mem_cons.mp other
      apply induction _ restOther
      have known : key value ∈ ByKey.keys key longer ↔ key value ∈ ByKey.keys key shorter := by
        have members := (inserted.map key).perm.mem_iff (a := key value)
        rw [List.mem_append] at members
        exact members.trans (or_iff_left valueOther)
      by_cases present : key value ∈ ByKey.keys key shorter
      · have shorterKnown : shorter.any (key · = key value) = true := by
          simpa [ByKey.keys] using present
        have longerKnown : longer.any (key · = key value) = true := by
          simpa [ByKey.keys] using known.mpr present
        rwa [ByKey.add, ByKey.add, if_pos shorterKnown, if_pos longerKnown]
      · rw [ByKey.add_of_not_mem key present,
          ByKey.add_of_not_mem key (fun member => present (known.mp member))]
        exact inserted.append [] [value]

/-- Values of new and distinct keys that are added between others end up together. -/
theorem addAll_between [DecidableEq κ] (key : α → κ) (start before after : List α)
    (free : ∀ value ∈ extra,
      key value ∉ ByKey.keys key (ByKey.addAll key start (before ++ after)))
    (distinct : (ByKey.keys key extra).Nodup) :
    Inserted extra (ByKey.addAll key start (before ++ after))
      (ByKey.addAll key start (before ++ extra ++ after)) := by
  simp only [← ByKey.addAll_addAll] at free ⊢
  have freeBefore : ∀ value ∈ extra,
      key value ∉ ByKey.keys key (ByKey.addAll key start before) := by
    intro value member present
    exact free value member ((ByKey.mem_keys_addAll ..).mpr (.inl present))
  rw [ByKey.addAll_eq_append key freeBefore distinct]
  apply (atEnd extra _).addAll key
  intro value member clash
  rcases (ByKey.mem_keys key).mp clash with ⟨own, ownMember, same⟩
  apply free own ownMember
  rw [same]
  exact (ByKey.mem_keys_addAll ..).mpr (.inr (ByKey.mem_keys_of_mem key member))

end Inserted

end Migration
