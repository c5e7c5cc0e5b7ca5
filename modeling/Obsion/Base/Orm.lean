import Mathlib.Tactic

/-! # Unit-of-work updates

An object that was loaded, changed and flushed becomes an UPDATE by primary key
of the attributes whose value differs from the loaded one.  Where the row was
changed by another transaction in between, the other columns keep its values. -/

namespace Obsion

def column {α : Type} [DecidableEq α] (loaded written stored : α) : α :=
  if written = loaded then stored else written

section
variable {α : Type} [DecidableEq α]

@[simp] lemma column_current (loaded written : α) : column loaded written loaded = written := by
  unfold column
  split
  · next eq => exact eq.symm
  rfl

end

end Obsion
