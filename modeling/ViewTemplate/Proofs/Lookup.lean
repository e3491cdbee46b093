/-!
# Looking up keys

Lists of keys with values, as maps of variables and JSON objects hold them.  The first entry of a key counts; where no
key occurs twice, the order of the entries does not matter (`lookup_eq_of_perm`).
-/

namespace ViewTemplate

variable {α : Type} {l l' : List (String × α)} {x y : String} {a : α}

theorem lookup_cons_ite (l : List (String × α)) :
    ((y, a) :: l).lookup x = if x = y then some a else l.lookup x := by
  by_cases h : x = y
  · simp [h]
  · have hb : (x == y) = false := by simpa using h
    simp [List.lookup_cons, hb, h]

/-- An entry of another key may stand anywhere. -/
theorem lookup_append_cons_of_ne (h : x ≠ y) (before after : List (String × α)) :
    (before ++ (y, a) :: after).lookup x = (before ++ after).lookup x := by
  rw [List.lookup_append, List.lookup_append, lookup_cons_ite, if_neg h]

theorem mem_of_lookup_eq_some (h : l.lookup x = some a) : (x, a) ∈ l := by
  obtain ⟨before, after, rfl, -⟩ := List.lookup_eq_some_iff.1 h
  simp

theorem lookup_isSome_iff_mem : (l.lookup x).isSome ↔ x ∈ l.map (·.1) := by
  rw [List.lookup_isSome_iff, List.mem_map]
  simp only [beq_iff_eq]
  constructor
  · rintro ⟨entry, h, rfl⟩; exact ⟨entry, h, rfl⟩
  · rintro ⟨entry, h, rfl⟩; exact ⟨entry, h, rfl⟩

theorem lookup_eq_none_iff_not_mem : l.lookup x = none ↔ x ∉ l.map (·.1) := by
  rw [← lookup_isSome_iff_mem, Option.not_isSome_iff_eq_none]

/-- Where no key occurs twice, a key is found with each value that it stands with. -/
theorem lookup_eq_some_iff_mem (h : (l.map (·.1)).Nodup) : l.lookup x = some a ↔ (x, a) ∈ l := by
  refine ⟨mem_of_lookup_eq_some, fun hm => ?_⟩
  induction l with
  | nil => simp at hm
  | cons entry l ih =>
    obtain ⟨y, b⟩ := entry
    rw [List.map_cons, List.nodup_cons] at h
    rw [lookup_cons_ite]
    rcases List.mem_cons.1 hm with heq | hmem
    · obtain ⟨rfl, rfl⟩ := Prod.mk.inj heq
      rw [if_pos rfl]
    · have hne : x ≠ y := by
        rintro rfl
        exact h.1 (List.mem_map.2 ⟨(x, a), hmem, rfl⟩)
      rw [if_neg hne, ih h.2 hmem]

/-- Entries in another order are found under the same keys. -/
theorem lookup_eq_of_perm (h : (l.map (·.1)).Nodup) (hp : l.Perm l') (x : String) : l.lookup x = l'.lookup x := by
  have h' : (l'.map (·.1)).Nodup := (hp.map _).nodup_iff.1 h
  ext a
  rw [lookup_eq_some_iff_mem h, lookup_eq_some_iff_mem h', hp.mem_iff]

end ViewTemplate
