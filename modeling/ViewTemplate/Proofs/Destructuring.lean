import ViewTemplate.Destructuring
import ViewTemplate.Proofs.VariableMap

/-!
# What destructuring reads

Reading a pattern gives a meaning to the names in `readNames`: all bound names without a value, and with one only
those of bindings that are neither the rest nor without a key (`map_fst_readings`, `readNames_false`).  A pattern of
bounded depth can always be read (`Target.variableMap_of_depth_le`).
-/

namespace ViewTemplate

mutual

/-- The names of a pattern that reading gives a meaning, in source order. -/
def Pattern.readNames (hasBase : Bool) : Pattern → List String
  | ⟨kind, elements⟩ => bindingReadNames kind hasBase elements

/-- The names of a list of bindings that reading gives a meaning. -/
def bindingReadNames (kind : PatternKind) (hasBase : Bool) : List Binding → List String
  | [] => []
  | b :: bs => b.readNames kind hasBase ++ bindingReadNames kind hasBase bs

/-- The names of a binding that reading gives a meaning: none in one that is not read. -/
def Binding.readNames (kind : PatternKind) (hasBase : Bool) : Binding → List String
  | ⟨rest, key, target, fallback⟩ =>
    if hasBase && !Binding.isRead kind ⟨rest, key, target, fallback⟩ then [] else target.readNames hasBase

/-- The names of a target that reading gives a meaning. -/
def Target.readNames (hasBase : Bool) : Target → List String
  | .name x => [x]
  | .pattern p => p.readNames hasBase

end

/-! ### Names -/

theorem Binding.isSome_read? (kind : PatternKind) (index : Nat) (base : Expr) (b : Binding) :
    (b.read? kind index base).isSome = b.isRead kind := by
  unfold Binding.read? Binding.isRead
  cases b.rest <;> cases kind <;> simp

mutual

theorem Pattern.map_fst_readings (base : Option Expr) :
    ∀ p : Pattern, (p.readings base).map (·.1) = p.readNames base.isSome
  | ⟨kind, elements⟩ => by
    rw [Pattern.readings, Pattern.readNames, bindingReadings_map_fst kind base 0 elements]
termination_by structural p => p

theorem bindingReadings_map_fst (kind : PatternKind) (base : Option Expr) (index : Nat) :
    ∀ bs : List Binding, (bindingReadings kind base index bs).map (·.1) = bindingReadNames kind base.isSome bs
  | [] => by simp [bindingReadings, bindingReadNames]
  | b :: bs => by
    rw [bindingReadings, bindingReadNames, List.map_append, Binding.map_fst_readings kind base index b,
      bindingReadings_map_fst kind base (index + 1) bs]
termination_by structural bs => bs

theorem Binding.map_fst_readings (kind : PatternKind) (base : Option Expr) (index : Nat) :
    ∀ b : Binding, (b.readings kind base index).map (·.1) = b.readNames kind base.isSome
  | ⟨rest, key, target, fallback⟩ => by
    cases base with
    | none => simp [Binding.readings, Binding.readNames, Target.map_fst_readings none target]
    | some base =>
      have hread := Binding.isSome_read? kind index base ⟨rest, key, target, fallback⟩
      cases h : Binding.read? kind index base ⟨rest, key, target, fallback⟩ with
      | none => simp_all [Binding.readings, Binding.readNames]
      | some value =>
        rw [h] at hread
        simp [Binding.readings, Binding.readNames, h, ← hread,
          Target.map_fst_readings (some (target.baseOf value)) target]
termination_by structural b => b

theorem Target.map_fst_readings (base : Option Expr) :
    ∀ t : Target, (t.readings base).map (·.1) = t.readNames base.isSome
  | .name x => by simp [Target.readings, Target.readNames]
  | .pattern p => by rw [Target.readings, Target.readNames, Pattern.map_fst_readings base p]
termination_by structural t => t

end

theorem bindingReadings_append (kind : PatternKind) (base : Option Expr) (bs bs' : List Binding) (index : Nat) :
    bindingReadings kind base index (bs ++ bs') =
      bindingReadings kind base index bs ++ bindingReadings kind base (index + bs.length) bs' := by
  induction bs generalizing index with
  | nil => simp [bindingReadings]
  | cons b bs ih =>
    have hplace : index + 1 + bs.length = index + (b :: bs).length := by
      rw [List.length_cons]
      omega
    rw [List.cons_append, bindingReadings, bindingReadings, ih, hplace, List.append_assoc]

mutual

/-- Without a value every bound name gets a meaning. -/
theorem Pattern.readNames_false : ∀ p : Pattern, p.readNames false = p.boundNames
  | ⟨kind, elements⟩ => by rw [Pattern.readNames, Pattern.boundNames, bindingReadNames_false kind elements]

theorem bindingReadNames_false (kind : PatternKind) :
    ∀ bs : List Binding, bindingReadNames kind false bs = bindingNames bs
  | [] => by rw [bindingReadNames, bindingNames]
  | b :: bs => by
    rw [bindingReadNames, bindingNames, Binding.readNames_false kind b, bindingReadNames_false kind bs]

theorem Binding.readNames_false (kind : PatternKind) : ∀ b : Binding, b.readNames kind false = b.boundNames
  | ⟨rest, key, target, fallback⟩ => by
    simp [Binding.readNames, Binding.boundNames, Target.readNames_false target]

theorem Target.readNames_false : ∀ t : Target, t.readNames false = t.boundNames
  | .name x => by rw [Target.readNames, Target.boundNames]
  | .pattern p => by rw [Target.readNames, Target.boundNames, Pattern.readNames_false p]

end

mutual

/-- Reading gives a meaning to bound names only. -/
theorem Pattern.readNames_subset (hasBase : Bool) : ∀ p : Pattern, p.readNames hasBase ⊆ p.boundNames
  | ⟨kind, elements⟩ => by
    rw [Pattern.readNames, Pattern.boundNames]
    exact bindingReadNames_subset kind hasBase elements

theorem bindingReadNames_subset (kind : PatternKind) (hasBase : Bool) :
    ∀ bs : List Binding, bindingReadNames kind hasBase bs ⊆ bindingNames bs
  | [] => by rw [bindingReadNames]; exact List.nil_subset _
  | b :: bs => by
    rw [bindingReadNames, bindingNames]
    have hhead := Binding.readNames_subset kind hasBase b
    have htail := bindingReadNames_subset kind hasBase bs
    exact List.append_subset.2 ⟨List.subset_append_of_subset_left _ hhead, List.subset_append_of_subset_right _ htail⟩

theorem Binding.readNames_subset (kind : PatternKind) (hasBase : Bool) :
    ∀ b : Binding, b.readNames kind hasBase ⊆ b.boundNames
  | ⟨rest, key, target, fallback⟩ => by
    rw [Binding.readNames, Binding.boundNames]
    split
    · exact List.nil_subset _
    · exact Target.readNames_subset hasBase target

theorem Target.readNames_subset (hasBase : Bool) : ∀ t : Target, t.readNames hasBase ⊆ t.boundNames
  | .name x => by rw [Target.readNames, Target.boundNames]; exact List.Subset.refl _
  | .pattern p => by rw [Target.readNames, Target.boundNames]; exact Pattern.readNames_subset hasBase p

end

/-! ### Depth -/

mutual

theorem Pattern.readDepth_le_depth (hasBase : Bool) : ∀ p : Pattern, p.readDepth hasBase ≤ p.depth
  | ⟨kind, elements⟩ => by
    rw [Pattern.readDepth, Pattern.depth]
    exact Nat.add_le_add_left (bindingReadDepth_le_depth kind hasBase elements) 1

theorem bindingReadDepth_le_depth (kind : PatternKind) (hasBase : Bool) :
    ∀ bs : List Binding, bindingReadDepth kind hasBase bs ≤ bindingDepth bs
  | [] => by simp [bindingReadDepth]
  | b :: bs => by
    rw [bindingReadDepth, bindingDepth]
    have := Binding.readDepth_le_depth kind hasBase b
    have := bindingReadDepth_le_depth kind hasBase bs
    omega

theorem Binding.readDepth_le_depth (kind : PatternKind) (hasBase : Bool) :
    ∀ b : Binding, b.readDepth kind hasBase ≤ b.depth
  | ⟨rest, key, target, fallback⟩ => by
    rw [Binding.readDepth, Binding.depth]
    split
    · exact Nat.zero_le _
    · exact Target.readDepth_le_depth hasBase target

theorem Target.readDepth_le_depth (hasBase : Bool) : ∀ t : Target, t.readDepth hasBase ≤ t.depth
  | .name x => by simp [Target.readDepth]
  | .pattern p => by rw [Target.readDepth, Target.depth]; exact Pattern.readDepth_le_depth hasBase p

end

mutual

/-- Without a value every pattern is gone through. -/
theorem Pattern.readDepth_false : ∀ p : Pattern, p.readDepth false = p.depth
  | ⟨kind, elements⟩ => by rw [Pattern.readDepth, Pattern.depth, bindingReadDepth_false kind elements]

theorem bindingReadDepth_false (kind : PatternKind) :
    ∀ bs : List Binding, bindingReadDepth kind false bs = bindingDepth bs
  | [] => by rw [bindingReadDepth, bindingDepth]
  | b :: bs => by
    rw [bindingReadDepth, bindingDepth, Binding.readDepth_false kind b, bindingReadDepth_false kind bs]

theorem Binding.readDepth_false (kind : PatternKind) : ∀ b : Binding, b.readDepth kind false = b.depth
  | ⟨rest, key, target, fallback⟩ => by
    simp [Binding.readDepth, Binding.depth, Target.readDepth_false target]

theorem Target.readDepth_false : ∀ t : Target, t.readDepth false = t.depth
  | .name x => by rw [Target.readDepth, Target.depth]
  | .pattern p => by rw [Target.readDepth, Target.depth, Pattern.readDepth_false p]

end

namespace Target

theorem isReadable_of_depth_le {t : Target} (h : t.depth ≤ maxPatternDepth) (base : Option Expr) :
    t.isReadable base = true := by
  have := t.readDepth_le_depth base.isSome
  simp only [isReadable, decide_eq_true_eq]
  omega

/-- A target that is not nested too deeply has a map, whatever value it takes apart. -/
theorem variableMap_of_depth_le {t : Target} (h : t.depth ≤ maxPatternDepth) (base : Option Expr) :
    t.variableMap base = .ok (.ofList (t.readings base)) := by
  rw [variableMap, isReadable_of_depth_le h]; rfl

/-- The names of the map of a target. -/
theorem mem_keys_of_variableMap {t : Target} {base : Option Expr} {m : VariableMap} {x : String}
    (h : t.variableMap base = .ok m) : x ∈ m.keys ↔ x ∈ t.readNames base.isSome := by
  unfold variableMap at h
  split at h
  · cases h
    rw [VariableMap.keys_ofList, List.mem_eraseDups, t.map_fst_readings]
  · cases h

end Target

end ViewTemplate
