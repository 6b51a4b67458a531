import StationScript.Lookup
import StationScript.Station.Plant

/-!
What is held for device ids: a list of pairs in which an id stands at most once.
-/

set_option autoImplicit false

namespace StationScript.Entries

variable {β : Type}

/-- Stores a value under an id; an id that is present keeps its place. -/
def put (entries : List (DeviceId × β)) (id : DeviceId) (value : β) : List (DeviceId × β) :=
  if (entries.lookup id).isSome then
    entries.map fun entry => if entry.1 = id then (id, value) else entry
  else entries ++ [(id, value)]

/-- Drops what is stored under an id. -/
def erase (entries : List (DeviceId × β)) (id : DeviceId) : List (DeviceId × β) :=
  entries.filter fun entry => entry.1 ≠ id

/-- The ids in their order. -/
def keys (entries : List (DeviceId × β)) : List DeviceId := entries.map Prod.fst

theorem lookup_isSome_iff (entries : List (DeviceId × β)) (id : DeviceId) :
    (entries.lookup id).isSome = true ↔ id ∈ keys entries := by
  rw [List.lookup_isSome_iff, keys, List.mem_map]
  constructor
  · rintro ⟨entry, member, same⟩
    exact ⟨entry, member, (beq_iff_eq.mp same).symm⟩
  · rintro ⟨entry, member, rfl⟩
    exact ⟨entry, member, beq_self_eq_true _⟩

/-- Entries that are all of one value under an id tell what is found there. -/
theorem lookup_of_agree {entries : List (DeviceId × β)} {id : DeviceId} {value : β}
    (present : id ∈ keys entries)
    (agree : ∀ entry ∈ entries, entry.1 = id → entry.2 = value) :
    entries.lookup id = some value := by
  obtain ⟨found, equal⟩ := Option.isSome_iff_exists.mp ((lookup_isSome_iff entries id).mpr present)
  have same : found = value := agree _ (mem_of_lookup equal) rfl
  rw [equal, same]

theorem mem_put {entries : List (DeviceId × β)} {id : DeviceId} {value : β}
    {entry : DeviceId × β} (member : entry ∈ put entries id value) :
    entry = (id, value) ∨ entry ∈ entries ∧ entry.1 ≠ id := by
  unfold put at member
  split at member
  · obtain ⟨old, present, rfl⟩ := List.mem_map.mp member
    by_cases same : old.1 = id
    · simp [same]
    · simp [same, present]
  · rename_i absent
    rcases List.mem_append.mp member with present | last
    · refine Or.inr ⟨present, ?_⟩
      rintro rfl
      exact absent ((lookup_isSome_iff _ _).mpr (List.mem_map_of_mem present))
    · exact Or.inl (by simpa using last)

theorem keys_put (entries : List (DeviceId × β)) (id : DeviceId) (value : β) :
    keys (put entries id value) =
      if id ∈ keys entries then keys entries else keys entries ++ [id] := by
  unfold put
  by_cases present : id ∈ keys entries
  · rw [if_pos ((lookup_isSome_iff _ _).mpr present), if_pos present]
    unfold keys
    rw [List.map_map]
    apply List.map_congr_left
    intro entry _
    by_cases same : entry.1 = id <;> simp [same]
  · have absent := (not_congr (lookup_isSome_iff entries id)).mpr present
    rw [if_neg absent, if_neg present]
    simp [keys]

theorem nodup_keys_put {entries : List (DeviceId × β)} (distinct : (keys entries).Nodup)
    (id : DeviceId) (value : β) : (keys (put entries id value)).Nodup := by
  rw [keys_put]
  split
  · exact distinct
  · rename_i absent
    refine List.nodup_append.mpr ⟨distinct, by simp, ?_⟩
    intro key present last member equal
    rw [List.mem_singleton.mp member] at equal
    exact absent (equal ▸ present)

theorem nodup_keys_filter {entries : List (DeviceId × β)} (distinct : (keys entries).Nodup)
    (test : DeviceId × β → Bool) : (keys (entries.filter test)).Nodup :=
  (List.filter_sublist.map Prod.fst).nodup distinct

@[simp] theorem lookup_put_self (entries : List (DeviceId × β)) (id : DeviceId) (value : β) :
    (put entries id value).lookup id = some value := by
  apply lookup_of_agree
  · rw [keys_put]
    split <;> simp_all
  · intro entry member key
    rcases mem_put member with rfl | ⟨_, other⟩
    · rfl
    · exact absurd key other

theorem lookup_replace_of_ne (entries : List (DeviceId × β)) {id other : DeviceId} (value : β)
    (differs : other ≠ id) :
    (entries.map fun entry => if entry.1 = id then (id, value) else entry).lookup other =
      entries.lookup other := by
  have skip : (other == id) = false := by simpa using differs
  induction entries with
  | nil => rfl
  | cons entry rest ih =>
    obtain ⟨key, held⟩ := entry
    by_cases same : key = id
    · simp only [List.map_cons, same, ↓reduceIte, List.lookup_cons, skip]
      exact ih
    · simp only [List.map_cons, same, ↓reduceIte, List.lookup_cons]
      rw [ih]

theorem lookup_put_of_ne (entries : List (DeviceId × β)) {id other : DeviceId} (value : β)
    (differs : other ≠ id) : (put entries id value).lookup other = entries.lookup other := by
  unfold put
  split
  · exact lookup_replace_of_ne entries value differs
  · have skip : (other == id) = false := by simpa using differs
    rw [List.lookup_append, List.lookup_cons, skip]
    simp

theorem lookup_erase_self (entries : List (DeviceId × β)) (id : DeviceId) :
    (erase entries id).lookup id = none := by
  rw [List.lookup_eq_none_iff]
  intro entry member
  have other : entry.1 ≠ id := by simpa [erase] using (List.mem_filter.mp member).2
  simpa using other.symm

/-- To drop what is stored under an id changes nothing if nothing is. -/
theorem erase_of_absent {entries : List (DeviceId × β)} {id : DeviceId}
    (absent : entries.lookup id = none) : erase entries id = entries := by
  rw [List.lookup_eq_none_iff] at absent
  apply List.filter_eq_self.mpr
  intro entry member
  have other : id ≠ entry.1 := by simpa using absent entry member
  simpa using other.symm

/-- What is not stored is not stored in a part either. -/
theorem lookup_filter_of_absent {entries : List (DeviceId × β)} {id : DeviceId}
    (absent : entries.lookup id = none) (test : DeviceId × β → Bool) :
    (entries.filter test).lookup id = none := by
  rw [List.lookup_eq_none_iff] at absent ⊢
  intro entry member
  exact absent entry (List.mem_filter.mp member).1

theorem lookup_erase_of_ne (entries : List (DeviceId × β)) {id other : DeviceId}
    (differs : other ≠ id) : (erase entries id).lookup other = entries.lookup other := by
  unfold erase
  induction entries with
  | nil => rfl
  | cons entry rest ih =>
    obtain ⟨key, held⟩ := entry
    by_cases same : key = id
    · have skip : (other == key) = false := by simpa [same] using differs
      simp only [List.filter_cons, List.lookup_cons, same, ne_eq, not_true, decide_false,
        Bool.false_eq_true, ↓reduceIte, ih]
      rw [← same, skip]
    · simp only [List.filter_cons, List.lookup_cons, same, ne_eq, not_false_eq_true, decide_true,
        ↓reduceIte, ih]

theorem mem_put_of_ne {entries : List (DeviceId × β)} {id : DeviceId} {entry : DeviceId × β}
    (value : β) (member : entry ∈ entries) (differs : entry.1 ≠ id) :
    entry ∈ put entries id value := by
  unfold put
  split
  · exact List.mem_map.mpr ⟨entry, member, if_neg differs⟩
  · exact List.mem_append_left _ member

theorem lookup_eq_some_iff {entries : List (DeviceId × β)} (distinct : (keys entries).Nodup)
    (id : DeviceId) (value : β) : entries.lookup id = some value ↔ (id, value) ∈ entries :=
  ⟨mem_of_lookup, lookup_of_mem distinct⟩

/-- Storing what is stored already changes nothing. -/
theorem put_of_lookup {entries : List (DeviceId × β)} (distinct : (keys entries).Nodup)
    {id : DeviceId} {value : β} (held : entries.lookup id = some value) :
    put entries id value = entries := by
  unfold put
  rw [held, Option.isSome_some, if_pos rfl]
  refine (List.map_congr_left fun entry member => ?_).trans (List.map_id entries)
  split
  · rename_i same
    have found : entries.lookup id = some entry.2 :=
      lookup_of_mem distinct (by rw [← same]; exact member)
    rw [held] at found
    rw [Option.some.inj found, ← same]
    rfl
  · rfl

end StationScript.Entries
