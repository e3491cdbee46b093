import ViewTemplate.Syntax.Basic

/-!
# Variable maps

What names stand for, in the order in which they were first given a value. A name that is given another value keeps
its place, so a map can be printed and compared.
-/

namespace ViewTemplate

/-- Names with the expressions they stand for, each name once. -/
structure VariableMap where
  entries : List (String × Expr)
  nodup : (entries.map (·.1)).Nodup

namespace VariableMap

instance : EmptyCollection VariableMap := ⟨⟨[], List.Pairwise.nil⟩⟩
instance : Inhabited VariableMap := ⟨∅⟩

/-- The names of the map, in order. -/
def keys (m : VariableMap) : List String :=
  m.entries.map (·.1)

/-- How many entries the map has. -/
def size (m : VariableMap) : Nat :=
  m.entries.length

/-- A map without entries. -/
def isEmpty (m : VariableMap) : Bool :=
  m.entries.isEmpty

/-- What `x` stands for. -/
def get? (m : VariableMap) (x : String) : Option Expr :=
  m.entries.lookup x

/-- Whether `x` stands for anything. -/
def contains (m : VariableMap) (x : String) : Bool :=
  m.keys.contains x

/-- The entries with `x` standing for `e`: in its old place, or at the end. -/
def insertEntry (x : String) (e : Expr) : List (String × Expr) → List (String × Expr)
  | [] => [(x, e)]
  | (y, v) :: rest => if y = x then (x, e) :: rest else (y, v) :: insertEntry x e rest

theorem map_fst_insertEntry (x : String) (e : Expr) (l : List (String × Expr)) :
    (insertEntry x e l).map (·.1) = if x ∈ l.map (·.1) then l.map (·.1) else l.map (·.1) ++ [x] := by
  induction l with
  | nil => rfl
  | cons entry rest ih =>
    obtain ⟨y, v⟩ := entry
    by_cases h : y = x
    · subst h; simp [insertEntry]
    · have h' : x ≠ y := Ne.symm h
      simp only [insertEntry, h, ↓reduceIte, List.map_cons, ih, List.mem_cons, h', false_or]
      split <;> rfl

private theorem nodup_insertEntry {x : String} {e : Expr} {l : List (String × Expr)}
    (h : (l.map (·.1)).Nodup) : ((insertEntry x e l).map (·.1)).Nodup := by
  rw [map_fst_insertEntry]
  split
  · exact h
  · next hx =>
    rw [List.nodup_append]
    refine ⟨h, by simp, ?_⟩
    intro a ha b hb hab
    rw [List.mem_singleton] at hb
    exact hx (hb ▸ hab ▸ ha)

/-- The map with `x` standing for `e`. -/
def insert (m : VariableMap) (x : String) (e : Expr) : VariableMap :=
  ⟨insertEntry x e m.entries, nodup_insertEntry m.nodup⟩

/-- The map with all `entries` inserted, one after the other. -/
def insertAll (m : VariableMap) (entries : List (String × Expr)) : VariableMap :=
  entries.foldl (fun m entry => m.insert entry.1 entry.2) m

/-- The map of `entries`: a repeated name keeps its first place and takes its last value. -/
def ofList (entries : List (String × Expr)) : VariableMap :=
  insertAll ∅ entries

/-- The entries of `m` with those of `overrides` on top. -/
def merge (m overrides : VariableMap) : VariableMap :=
  m.insertAll overrides.entries

/-- The map without the names in `names`. -/
def eraseAll (m : VariableMap) (names : List String) : VariableMap :=
  ⟨m.entries.filter fun entry => !names.contains entry.1, m.nodup.sublist (List.filter_sublist.map _)⟩

/-- The map without `x`. -/
def erase (m : VariableMap) (x : String) : VariableMap :=
  m.eraseAll [x]

end VariableMap

end ViewTemplate
