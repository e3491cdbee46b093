import ViewTemplate.Proofs.Lookup
import ViewTemplate.VariableMap

/-!
# Laws of variable maps

A map is determined by its names in order and by what each of them stands for (`ext_get?`).  Inserting and merging
are described by these two: a look-up in a merged map is one in the overrides first (`get?_merge`), and the names of
a merged map are those of both in the order of their first occurrence (`keys_merge`).  The same holds for a whole
stack of maps merged one after the other (`get?_mergeAll`, `keys_mergeAll`), and merging a stack again changes nothing
(`mergeAll_mergeAll`).  Together with erasing, merging makes maps a monoid that keeps the order of the names
(`merge_ordered_monoid`).
-/

namespace ViewTemplate

/-! ### Names in the order of their first occurrence -/

theorem eraseDups_eq_self {l : List String} (h : l.Nodup) : l.eraseDups = l := by
  induction l with
  | nil => rfl
  | cons x l ih =>
    rw [List.nodup_cons] at h
    have hx : (l.filter fun y => !y == x) = l := by
      rw [List.filter_eq_self]
      intro y hy
      have : y ≠ x := fun e => h.1 (e ▸ hy)
      simpa using this
    rw [List.eraseDups_cons, hx, ih h.2]

/-- A name that occurred before adds nothing. -/
theorem eraseDups_append_cons_of_mem {l rest : List String} {x : String} (h : x ∈ l) :
    (l ++ x :: rest).eraseDups = (l ++ rest).eraseDups := by
  rw [List.eraseDups_append, List.eraseDups_append]
  simp [List.removeAll, h]

private theorem eraseDups_append_filter {l : List String} {x : String} (rest : List String) (h : x ∈ l) :
    (l ++ rest.filter fun y => !y == x).eraseDups = (l ++ rest).eraseDups := by
  rw [List.eraseDups_append, List.eraseDups_append]
  congr 2
  simp only [List.removeAll, List.filter_filter]
  apply List.filter_congr
  intro y _
  by_cases hy : y = x <;> simp [hy, h]

/-- So do several of them. -/
theorem eraseDups_append_of_subset {l rest : List String} (h : rest ⊆ l) : (l ++ rest).eraseDups = l.eraseDups := by
  induction rest with
  | nil => rw [List.append_nil]
  | cons x rest ih =>
    rw [List.cons_subset] at h
    rw [eraseDups_append_cons_of_mem h.1, ih h.2]

/-- Lists of names from the front, the rest without the name that comes first. -/
theorem eraseDups_induction {motive : List String → Prop} (nil : motive [])
    (cons : ∀ x rest, motive (rest.filter fun y => !y == x) → motive (x :: rest)) (l : List String) : motive l := by
  induction h : l.length using Nat.strongRecOn generalizing l with
  | _ n ih =>
    cases l with
    | nil => exact nil
    | cons x rest =>
      have hlt : (rest.filter fun y => !y == x).length < n := by
        have := List.length_filter_le (fun y => !y == x) rest
        simp only [List.length_cons] at h
        omega
      exact cons x rest (ih _ hlt _ rfl)

theorem eraseDups_append_eraseDups (l rest : List String) :
    (l ++ rest.eraseDups).eraseDups = (l ++ rest).eraseDups := by
  induction rest using eraseDups_induction generalizing l with
  | nil => rfl
  | cons x rest ih =>
    have happ (r : List String) : l ++ x :: r = (l ++ [x]) ++ r := by simp
    rw [List.eraseDups_cons, happ, happ rest, ih (l ++ [x]), eraseDups_append_filter rest (by simp)]

theorem eraseDups_append_left (l rest : List String) :
    (l.eraseDups ++ rest).eraseDups = (l ++ rest).eraseDups := by
  have := eraseDups_append_eraseDups [] l
  simp only [List.nil_append] at this
  rw [List.eraseDups_append, List.eraseDups_append, this]
  simp [List.removeAll, List.mem_eraseDups]

theorem nodup_eraseDups (l : List String) : l.eraseDups.Nodup := by
  induction l using eraseDups_induction with
  | nil => exact List.nodup_nil
  | cons x rest ih =>
    rw [List.eraseDups_cons, List.nodup_cons]
    exact ⟨by simp [List.mem_eraseDups], ih⟩

/-- It is the same to take repetitions out before or after other names. -/
theorem eraseDups_filter (p : String → Bool) (l : List String) : (l.filter p).eraseDups = l.eraseDups.filter p := by
  induction l using eraseDups_induction with
  | nil => rfl
  | cons x rest ih =>
    rw [List.eraseDups_cons]
    by_cases hx : p x = true
    · rw [List.filter_cons_of_pos hx, List.filter_cons_of_pos hx, List.eraseDups_cons, ← ih, List.filter_filter,
        List.filter_filter]
      simp only [Bool.and_comm]
    · have hrest : (rest.filter fun y => !y == x).filter p = rest.filter p := by
        rw [List.filter_filter]
        refine List.filter_congr fun y _ => ?_
        by_cases hy : y = x <;> simp [hy, hx]
      rw [List.filter_cons_of_neg hx, List.filter_cons_of_neg hx, ← ih, hrest]

namespace VariableMap

variable {m m' o : VariableMap} {x y : String} {e : Expr}

/-! ### Look-up and names -/

theorem nodup_keys (m : VariableMap) : m.keys.Nodup :=
  m.nodup

theorem isSome_get?_iff : (m.get? x).isSome ↔ x ∈ m.keys :=
  lookup_isSome_iff_mem

theorem contains_iff : m.contains x = true ↔ x ∈ m.keys := by
  simp [contains]

theorem contains_eq_isSome : m.contains x = (m.get? x).isSome := by
  rw [Bool.eq_iff_iff, contains_iff, isSome_get?_iff]

@[simp]
theorem get?_empty : (∅ : VariableMap).get? x = none := rfl

@[simp]
theorem keys_empty : (∅ : VariableMap).keys = [] := rfl

private theorem entries_ext {l l' : List (String × Expr)} (h : (l.map (·.1)).Nodup)
    (hk : l.map (·.1) = l'.map (·.1)) (hv : ∀ x, l.lookup x = l'.lookup x) : l = l' := by
  induction l generalizing l' with
  | nil =>
    cases l' with
    | nil => rfl
    | cons b l' => simp at hk
  | cons a l ih =>
    cases l' with
    | nil => simp at hk
    | cons b l' =>
      obtain ⟨x, v⟩ := a
      obtain ⟨y, w⟩ := b
      simp only [List.map_cons, List.cons.injEq] at hk h
      obtain ⟨rfl, hk⟩ := hk
      rw [List.nodup_cons] at h
      have hvw : v = w := by simpa using hv x
      subst hvw
      congr 1
      apply ih h.2 hk
      intro z
      by_cases hz : z = x
      · -- neither rest knows the first name again
        subst hz
        have hl : l.lookup z = none := lookup_eq_none_iff_not_mem.2 h.1
        have hl' : l'.lookup z = none := lookup_eq_none_iff_not_mem.2 (hk ▸ h.1)
        rw [hl, hl']
      · simpa [lookup_cons_ite, hz] using hv z

/-- A map is determined by its names in order and what they stand for. -/
theorem ext_get? (hk : m.keys = m'.keys) (hv : ∀ x, m.get? x = m'.get? x) : m = m' := by
  obtain ⟨l, h⟩ := m
  obtain ⟨l', h'⟩ := m'
  congr
  exact entries_ext h hk hv

/-! ### Inserting -/

private theorem lookup_insertEntry (l : List (String × Expr)) :
    (insertEntry x e l).lookup y = if y = x then some e else l.lookup y := by
  induction l with
  | nil => simp only [insertEntry, lookup_cons_ite]
  | cons entry rest ih =>
    obtain ⟨z, v⟩ := entry
    by_cases hz : z = x
    · subst hz
      by_cases hy : y = z <;> simp [insertEntry, lookup_cons_ite, hy]
    · by_cases hy : y = z
      · subst hy; simp [insertEntry, hz]
      · simp [insertEntry, hz, lookup_cons_ite, hy, ih]

theorem get?_insert : (m.insert x e).get? y = if y = x then some e else m.get? y :=
  lookup_insertEntry m.entries

theorem keys_insert : (m.insert x e).keys = if x ∈ m.keys then m.keys else m.keys ++ [x] :=
  map_fst_insertEntry x e m.entries

theorem get?_insertAll (entries : List (String × Expr)) :
    (m.insertAll entries).get? x = (entries.reverse.lookup x <|> m.get? x) := by
  induction entries generalizing m with
  | nil => simp [insertAll]
  | cons entry rest ih =>
    obtain ⟨y, v⟩ := entry
    show ((m.insert y v).insertAll rest).get? x = _
    rw [ih, get?_insert, List.reverse_cons, List.lookup_append]
    cases hr : rest.reverse.lookup x with
    | some w => simp
    | none => by_cases hx : x = y <;> simp [lookup_cons_ite, hx]

/-- The last entry of a name decides what it stands for. -/
theorem get?_insertAll_of_last {entries later : List (String × Expr)} (hx : x ∉ later.map (·.1)) :
    (m.insertAll (entries ++ (x, e) :: later)).get? x = some e := by
  have hlater : later.reverse.lookup x = none := by
    rw [lookup_eq_none_iff_not_mem, List.map_reverse, List.mem_reverse]
    exact hx
  rw [get?_insertAll, List.reverse_append, List.reverse_cons, List.lookup_append, List.lookup_append, hlater,
    lookup_cons_ite, if_pos rfl]
  rfl

theorem keys_insertAll (entries : List (String × Expr)) :
    (m.insertAll entries).keys = (m.keys ++ entries.map (·.1)).eraseDups := by
  induction entries generalizing m with
  | nil => simp [insertAll, eraseDups_eq_self m.nodup_keys]
  | cons entry rest ih =>
    obtain ⟨y, v⟩ := entry
    show ((m.insert y v).insertAll rest).keys = _
    rw [ih, keys_insert]
    split
    · next h => rw [List.map_cons, eraseDups_append_cons_of_mem h]
    · simp

theorem get?_ofList (entries : List (String × Expr)) : (ofList entries).get? x = entries.reverse.lookup x := by
  simp [ofList, get?_insertAll]

theorem keys_ofList (entries : List (String × Expr)) : (ofList entries).keys = (entries.map (·.1)).eraseDups := by
  simp [ofList, keys_insertAll]

/-! ### Merging -/

/-- What the overrides say counts first. -/
theorem get?_merge : (m.merge o).get? x = (o.get? x <|> m.get? x) := by
  rw [merge, get?_insertAll, ← lookup_eq_of_perm o.nodup o.entries.reverse_perm.symm]; rfl

/-- The names of both maps, in the order of their first occurrence. -/
theorem keys_merge : (m.merge o).keys = (m.keys ++ o.keys).eraseDups :=
  keys_insertAll o.entries

/-- Inserting entries one by one is merging with the map they make. -/
theorem merge_ofList (entries : List (String × Expr)) : m.merge (ofList entries) = m.insertAll entries := by
  apply ext_get?
  · rw [keys_merge, keys_ofList, keys_insertAll, eraseDups_append_eraseDups]
  · intro x
    rw [get?_merge, get?_ofList, get?_insertAll]

/-- The names of the first map stay where they are, and the new ones of the second follow in its order. -/
theorem keys_merge_eq_append : (m.merge o).keys = m.keys ++ o.keys.filter (!m.keys.contains ·) := by
  have hnew : (o.keys.removeAll m.keys).Nodup := o.nodup_keys.sublist List.filter_sublist
  rw [keys_merge, List.eraseDups_append, eraseDups_eq_self m.nodup_keys, eraseDups_eq_self hnew]
  rfl

theorem nodup_keys_merge : (m.merge o).keys.Nodup := by
  rw [keys_merge_eq_append, List.nodup_append]
  refine ⟨m.nodup_keys, o.nodup_keys.sublist List.filter_sublist, ?_⟩
  rintro x hx y hy rfl
  have hnew := (List.mem_filter.1 hy).2
  simp [hx] at hnew

theorem empty_merge (m : VariableMap) : (∅ : VariableMap).merge m = m := by
  apply ext_get?
  · rw [keys_merge, keys_empty, List.nil_append, eraseDups_eq_self m.nodup_keys]
  · intro x
    rw [get?_merge, get?_empty]
    cases m.get? x <;> rfl

theorem merge_empty (m : VariableMap) : m.merge ∅ = m :=
  rfl

/-- Of three maps it does not matter which two are merged first, not even for the order of the names. -/
theorem merge_assoc (a b c : VariableMap) : (a.merge b).merge c = a.merge (b.merge c) := by
  apply ext_get?
  · rw [keys_merge, keys_merge, keys_merge, keys_merge, eraseDups_append_left, eraseDups_append_eraseDups,
      List.append_assoc]
  · intro x
    rw [get?_merge, get?_merge, get?_merge, get?_merge]
    cases c.get? x <;> rfl

/-- The map with the maps of a list on top, one after the other. -/
def mergeAll (m : VariableMap) (layers : List VariableMap) : VariableMap :=
  layers.foldl merge m

/-- The last layer that knows a name decides what it stands for. -/
theorem get?_mergeAll (layers : List VariableMap) :
    (m.mergeAll layers).get? x = (layers.reverse.findSome? (·.get? x) <|> m.get? x) := by
  induction layers generalizing m with
  | nil => simp [mergeAll]
  | cons o layers ih =>
    show ((m.merge o).mergeAll layers).get? x = _
    rw [ih, get?_merge, List.reverse_cons, List.findSome?_append]
    cases hl : layers.reverse.findSome? (·.get? x) with
    | some v => simp
    | none => cases ho : o.get? x <;> simp [ho]

/-- The names of all layers, in the order of their first occurrence. -/
theorem keys_mergeAll (layers : List VariableMap) :
    (m.mergeAll layers).keys = (m.keys ++ layers.flatMap keys).eraseDups := by
  induction layers generalizing m with
  | nil => simp [mergeAll, eraseDups_eq_self m.nodup_keys]
  | cons o layers ih =>
    show ((m.merge o).mergeAll layers).keys = _
    rw [ih, keys_merge, eraseDups_append_left, List.flatMap_cons, List.append_assoc]

/-- Layers that are on top already change nothing when they are merged again. -/
theorem mergeAll_mergeAll (layers : List VariableMap) : (m.mergeAll layers).mergeAll layers = m.mergeAll layers := by
  apply ext_get?
  · rw [keys_mergeAll, keys_mergeAll, eraseDups_append_left,
      eraseDups_append_of_subset (List.subset_append_right m.keys _)]
  · intro x
    rw [get?_mergeAll, get?_mergeAll]
    cases layers.reverse.findSome? (·.get? x) <;> rfl

theorem insertAll_flatMap {α : Type} (items : List α) (entries : α → List (String × Expr)) :
    m.insertAll (items.flatMap entries) = m.mergeAll (items.map fun item => ofList (entries item)) := by
  induction items generalizing m with
  | nil => rfl
  | cons item items ih =>
    rw [List.flatMap_cons, List.map_cons, insertAll, List.foldl_append]
    show (m.insertAll (entries item)).insertAll (items.flatMap entries) = (m.merge _).mergeAll _
    rw [ih, merge_ofList]

/-! ### Removing -/

private theorem lookup_filter (names : List String) (l : List (String × Expr)) :
    (l.filter fun entry => !names.contains entry.1).lookup x = if x ∈ names then none else l.lookup x := by
  induction l with
  | nil => simp
  | cons entry rest ih =>
    obtain ⟨y, v⟩ := entry
    rw [List.filter_cons, lookup_cons_ite]
    by_cases hn : y ∈ names
    · have hkept : (!names.contains y) = false := by simpa using hn
      simp only [hkept, Bool.false_eq_true, ↓reduceIte, ih]
      by_cases hx : x = y <;> simp [hx, hn]
    · have hkept : (!names.contains y) = true := by simpa using hn
      simp only [hkept, ↓reduceIte, lookup_cons_ite, ih]
      by_cases hx : x = y <;> simp [hx, hn]

theorem get?_eraseAll (names : List String) :
    (m.eraseAll names).get? x = if x ∈ names then none else m.get? x :=
  lookup_filter names m.entries

theorem get?_erase : (m.erase y).get? x = if x = y then none else m.get? x := by
  rw [erase, get?_eraseAll]; simp

theorem eraseAll_nil (m : VariableMap) : m.eraseAll [] = m := by
  obtain ⟨entries, nodup⟩ := m
  simp [eraseAll]

/-- Erasing in two steps erases all the names. -/
theorem eraseAll_eraseAll (m : VariableMap) (names names' : List String) :
    (m.eraseAll names).eraseAll names' = m.eraseAll (names' ++ names) := by
  simp [eraseAll, List.filter_filter]

/-- Only which names are erased matters. -/
theorem eraseAll_congr {names names' : List String} (h : ∀ x, x ∈ names ↔ x ∈ names') (m : VariableMap) :
    m.eraseAll names = m.eraseAll names' := by
  have hcontains : ∀ x, names.contains x = names'.contains x := fun x => by
    rw [Bool.eq_iff_iff, List.contains_iff_mem, List.contains_iff_mem, h x]
  simp only [eraseAll, hcontains]

theorem keys_eraseAll (names : List String) : (m.eraseAll names).keys = m.keys.filter (!names.contains ·) := by
  rw [keys, keys, List.filter_map]
  rfl

/-- Erasing names one after the other erases all of them. -/
theorem foldl_erase (m : VariableMap) (names : List String) : names.foldl erase m = m.eraseAll names := by
  induction names generalizing m with
  | nil => rw [List.foldl_nil, eraseAll_nil]
  | cons x names ih =>
    rw [List.foldl_cons, ih, erase, eraseAll_eraseAll]
    exact eraseAll_congr (fun y => by simp [or_comm]) m

/-- A name of both maps is taken out of both, so it does not come back in its old place or at the end. -/
theorem eraseAll_merge (a b : VariableMap) (names : List String) :
    (a.merge b).eraseAll names = (a.eraseAll names).merge (b.eraseAll names) := by
  apply ext_get?
  · rw [keys_eraseAll, keys_merge_eq_append, keys_merge_eq_append, keys_eraseAll, keys_eraseAll, List.filter_append,
      List.filter_filter, List.filter_filter]
    congr 1
    refine List.filter_congr fun x _ => ?_
    -- a name that is kept is new after erasing exactly if it was new before
    by_cases hx : x ∈ names <;> simp [hx]
  · intro x
    rw [get?_eraseAll, get?_merge, get?_merge, get?_eraseAll, get?_eraseAll]
    split <;> rfl

theorem size_eraseAll_le (m : VariableMap) (names : List String) : (m.eraseAll names).size ≤ m.size :=
  List.length_filter_le _ _

/-- Every name that is taken out makes the map smaller. -/
theorem size_eraseAll_lt {names : List String} (hx : x ∈ names) (h : m.get? x = some e) :
    (m.eraseAll names).size < m.size := by
  have hm : x ∈ m.keys := isSome_get?_iff.1 (by simp [h])
  obtain ⟨entry, he, rfl⟩ := List.mem_map.1 hm
  apply List.length_filter_lt_length_iff_exists.2
  exact ⟨entry, he, by simpa using hx⟩

/-! ### Maps under merging -/

/-- Maps are a monoid under merging, with the order of their names: a merged map has each name once, those of the first
map in their places and the new ones of the second behind them, it looks a name up in the second map first, and it does
not matter which of three maps are merged first.  Erasing names, one after the other or at once, goes through merging,
takes out these names only and leaves the others in their order. -/
theorem merge_ordered_monoid (a b c : VariableMap) (names : List String) (x : String) :
    (a.merge b).keys.Nodup ∧
      (a.merge b).merge c = a.merge (b.merge c) ∧ (∅ : VariableMap).merge a = a ∧ a.merge ∅ = a ∧
      (a.merge b).get? x = (b.get? x <|> a.get? x) ∧
      (a.merge b).keys = a.keys ++ b.keys.filter (!a.keys.contains ·) ∧
      (a.merge b).eraseAll names = (a.eraseAll names).merge (b.eraseAll names) ∧
      names.foldl erase a = a.eraseAll names ∧
      (a.eraseAll names).keys = a.keys.filter (!names.contains ·) ∧
      (a.eraseAll names).get? x = if x ∈ names then none else a.get? x :=
  ⟨nodup_keys_merge, merge_assoc a b c, empty_merge a, merge_empty a, get?_merge, keys_merge_eq_append,
    eraseAll_merge a b names, foldl_erase a names, keys_eraseAll names, get?_eraseAll names⟩

/-- A name that is overwritten, taken out and given again comes to the end. -/
example :
    let a := ofList [("x", .ident "x"), ("y", .ident "y")]
    let b := ofList [("z", .ident "z"), ("x", .number "1")]
    (a.merge b).keys = ["x", "y", "z"] ∧ (((a.merge b).erase "x").merge b).keys = ["y", "z", "x"] := by
  decide

end VariableMap

end ViewTemplate
