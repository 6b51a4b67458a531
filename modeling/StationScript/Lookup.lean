/-!
Looking up keys in lists of pairs.

The first pair with a key is found. Where keys are distinct it is the only one.
-/

set_option autoImplicit false

namespace StationScript.Entries

variable {α β : Type} [BEq α] [LawfulBEq α] {entries : List (α × β)} {key : α} {value : β}

theorem mem_of_lookup (found : entries.lookup key = some value) : (key, value) ∈ entries := by
  obtain ⟨front, back, rfl, _⟩ := List.lookup_eq_some_iff.mp found
  exact List.mem_append_right front List.mem_cons_self

theorem lookup_eq_none_iff : entries.lookup key = none ↔ key ∉ entries.map Prod.fst := by
  rw [List.lookup_eq_none_iff, List.mem_map]
  constructor
  · rintro absent ⟨entry, listed, rfl⟩
    exact absurd rfl (bne_iff_ne.mp (absent entry listed))
  · intro absent entry listed
    apply bne_iff_ne.mpr
    rintro rfl
    exact absent ⟨entry, listed, rfl⟩

/-- A key that stands once is looked up where it stands. -/
theorem lookup_of_mem (distinct : (entries.map Prod.fst).Nodup) (member : (key, value) ∈ entries) :
    entries.lookup key = some value := by
  induction entries with
  | nil => cases member
  | cons entry rest ih =>
    obtain ⟨first, held⟩ := entry
    rw [List.map_cons, List.nodup_cons] at distinct
    rcases List.mem_cons.mp member with same | later
    · cases same
      exact List.lookup_cons_self
    · have differs : key ≠ first := by
        rintro rfl
        exact distinct.1 (List.mem_map.mpr ⟨_, later, rfl⟩)
      rw [List.lookup_cons, beq_false_of_ne differs]
      exact ih distinct.2 later

end StationScript.Entries
