import Weave.Document.CodeBlock

/-!
# Metadata of code blocks

What setting and removing an entry does to the entries of a code block.  Keys may be repeated, so
there are two views of the entries: the value that a look-up of a key sees, and the entries under
the other keys with their order.

* `find?_setEntry_self` and `find?_setEntry_of_ne` say what a look-up sees behind a set entry.
* `filter_setEntry` says that setting an entry keeps the entries of a class that has none under
  the key.
-/

namespace Weave.CodeBlock

/-- A look-up of a key sees the value that was set last. -/
theorem find?_setEntry_self (key value : Text) (es : List MetaEntry) :
    (setEntry key value es).find? (·.key == key) = some ⟨key, some value⟩ := by
  induction es with
  | nil => simp [setEntry]
  | cons e es ih =>
    unfold setEntry
    split
    · rename_i he
      simp [he]
    · rename_i he
      rw [List.find?_cons_of_neg (by simpa using he)]
      exact ih

/-- A look-up of another key sees what it saw before. -/
theorem find?_setEntry_of_ne {key key' : Text} (hne : key' ≠ key) (value : Text)
    (es : List MetaEntry) :
    (setEntry key value es).find? (·.key == key') = es.find? (·.key == key') := by
  induction es with
  | nil => simp [setEntry, Ne.symm hne]
  | cons e es ih =>
    unfold setEntry
    split
    · rename_i he
      simp [he, Ne.symm hne]
    · simp only [List.find?_cons, ih]

/-- Setting an entry keeps the entries of a class that has none under its key. -/
theorem filter_setEntry {p : MetaEntry → Bool} {key : Text} (hp : ∀ v, p ⟨key, v⟩ = false)
    (value : Text) (es : List MetaEntry) : (setEntry key value es).filter p = es.filter p := by
  induction es with
  | nil => simp [setEntry, hp]
  | cons e es ih =>
    unfold setEntry
    split
    · rename_i he
      have hpe : p e = false := by
        rw [← hp e.value, ← he]
      rw [List.filter_cons_of_neg (by simp [he, hp]), List.filter_cons_of_neg (by simp [hpe])]
    · rw [List.filter_cons, List.filter_cons, ih]

/-- Behind a set entry there are that entry and such as were there before. -/
theorem mem_setEntry {key value : Text} {e : MetaEntry} {es : List MetaEntry}
    (h : e ∈ setEntry key value es) : e = ⟨key, some value⟩ ∨ e ∈ es := by
  induction es with
  | nil => exact Or.inl (List.mem_singleton.mp h)
  | cons e' es ih =>
    unfold setEntry at h
    split at h
    · rename_i he
      rcases List.mem_cons.mp h with rfl | h
      · exact Or.inl (he ▸ rfl)
      · exact Or.inr (List.mem_cons_of_mem _ h)
    · rcases List.mem_cons.mp h with rfl | h
      · exact Or.inr List.mem_cons_self
      · exact (ih h).imp_right (List.mem_cons_of_mem _)

/-- The value that was set is the value of the key. -/
theorem metaValue?_setMeta_self (b : CodeBlock) (key value : Text) :
    (b.setMeta key value).metaValue? key = some value := by
  rw [metaValue?, setMeta, find?_setEntry_self]
  rfl

/-- The values of the other keys stay. -/
theorem metaValue?_setMeta_of_ne (b : CodeBlock) {key key' : Text} (hne : key' ≠ key)
    (value : Text) : (b.setMeta key value).metaValue? key' = b.metaValue? key' := by
  rw [metaValue?, setMeta, find?_setEntry_of_ne hne, metaValue?]

end Weave.CodeBlock
