import Mathlib.Data.List.Count
import ViewTemplate.Diagnostic.Function
import ViewTemplate.Proofs.Destructuring
import ViewTemplate.Proofs.Diagnostic.Levels

/-!
# Names that are bound again

A pattern that binds a name again loses the earlier binding: the map of its names keeps one entry for each of them.
The names that are found to be bound again are those that the map loses, as often as it loses them: together with the
names of the map they are the bound names, in another order (`repeatedNames_append_perm`).
-/

namespace ViewTemplate

/-! ### Repeated names -/

/-- The repeated names and the first occurrences are all names. -/
theorem repeatedNames_append_perm (seen names : List String) :
    (repeatedNames seen names ++ (names.filter (!seen.contains ·)).eraseDups).Perm names := by
  induction names generalizing seen with
  | nil => exact .refl []
  | cons x names ih =>
    rw [repeatedNames, List.filter_cons]
    cases hx : seen.contains x with
    | true => exact (ih seen).cons x
    | false =>
      have hlater : ((names.filter (!seen.contains ·)).filter fun y => !y == x) =
          names.filter (!(x :: seen).contains ·) := by
        rw [List.filter_filter]
        refine List.filter_congr fun y _ => ?_
        rw [List.contains_cons, Bool.not_or]
      show (repeatedNames (x :: seen) names ++ (x :: names.filter (!seen.contains ·)).eraseDups).Perm (x :: names)
      rw [List.eraseDups_cons, hlater]
      exact List.perm_middle.trans ((ih (x :: seen)).cons x)

/-- The names that are repeated are those that the first occurrences leave. -/
theorem repeatedNames_append_eraseDups_perm (names : List String) :
    (repeatedNames [] names ++ names.eraseDups).Perm names := by
  have hall : (names.filter fun x => !([] : List String).contains x) = names := List.filter_eq_self.2 fun _ _ => rfl
  have hperm := repeatedNames_append_perm [] names
  rwa [hall] at hperm

/-! ### Reading without a value -/

mutual

/-- Without a value every bound name stands for itself. -/
theorem Pattern.readings_none : ∀ p : Pattern, p.readings none = p.boundNames.map fun x => (x, .ident x)
  | ⟨kind, elements⟩ => by rw [Pattern.readings, Pattern.boundNames, bindingReadings_none kind 0 elements]
termination_by structural p => p

theorem bindingReadings_none (kind : PatternKind) (index : Nat) :
    ∀ bs : List Binding, bindingReadings kind none index bs = (bindingNames bs).map fun x => (x, .ident x)
  | [] => by rw [bindingReadings, bindingNames, List.map_nil]
  | b :: bs => by
    rw [bindingReadings, bindingNames, List.map_append, Binding.readings_none kind index b,
      bindingReadings_none kind (index + 1) bs]
termination_by structural bs => bs

theorem Binding.readings_none (kind : PatternKind) (index : Nat) :
    ∀ b : Binding, b.readings kind none index = b.boundNames.map fun x => (x, .ident x)
  | ⟨rest, key, target, fallback⟩ => by
    rw [Binding.readings, Binding.boundNames]
    exact Target.readings_none target
termination_by structural b => b

theorem Target.readings_none : ∀ t : Target, t.readings none = t.boundNames.map fun x => (x, .ident x)
  | .name x => by rw [Target.readings, Target.boundNames, List.map_singleton, Option.getD_none]
  | .pattern p => by rw [Target.readings, Target.boundNames, Pattern.readings_none p]
termination_by structural t => t

end

namespace Pattern

variable {p : Pattern} {m : VariableMap} {c : Option Component} {checks : Checks}

/-- The map of a pattern without a value: its names in the order of their first occurrence, each standing for itself. -/
theorem variableMap_none_of_depth_le (h : p.depth ≤ maxPatternDepth) :
    ∃ m, p.variableMap none = .ok m ∧ m.keys = p.boundNames.eraseDups ∧
      ∀ x v, (x, v) ∈ m.entries → v = .ident x := by
  have hfst : (p.boundNames.map fun x => (x, Expr.ident x)).map (·.1) = p.boundNames := by
    rw [List.map_map]
    exact List.map_id _
  refine ⟨_, Target.variableMap_of_depth_le (t := .pattern p) h none, ?_, fun x v hentry => ?_⟩
  · rw [Target.readings, readings_none, VariableMap.keys_ofList, hfst]
  · have hv := (lookup_eq_some_iff_mem (VariableMap.nodup _)).2 hentry
    change VariableMap.get? _ x = some v at hv
    rw [Target.readings, readings_none, VariableMap.get?_ofList] at hv
    have hmem := List.mem_reverse.1 (mem_of_lookup_eq_some hv)
    obtain ⟨y, -, hy⟩ := List.mem_map.1 hmem
    obtain ⟨rfl, rfl⟩ := Prod.mk.inj hy
    rfl

/-- The findings about names that the pattern binds again. -/
def duplicates (p : Pattern) (checks : Checks) : List Diagnostic :=
  (p.diagnose checks).filter (·.code = "duplicate-binding")

theorem duplicates_eq (p : Pattern) (checks : Checks) :
    p.duplicates checks = (repeatedNames [] p.boundNames).map .duplicateBinding := by
  have hdepth : (if checks.maxDepth < p.depth then [Diagnostic.patternTooDeep p.depth checks.maxDepth] else []).filter
      (·.code = "duplicate-binding") = [] := by
    split <;> simp [Diagnostic.code]
  have hall : ((repeatedNames [] p.boundNames).map Diagnostic.duplicateBinding).filter
      (·.code = "duplicate-binding") = (repeatedNames [] p.boundNames).map .duplicateBinding := by
    rw [List.filter_eq_self]
    intro d hd
    obtain ⟨x, -, rfl⟩ := List.mem_map.1 hd
    rfl
  rw [duplicates, diagnose, List.filter_append, hdepth, hall, List.nil_append]

theorem count_duplicates (x : String) (p : Pattern) (checks : Checks) :
    (p.duplicates checks).count (.duplicateBinding x) = (repeatedNames [] p.boundNames).count x := by
  rw [duplicates_eq]
  exact List.count_map_of_injective _ _ (fun _ _ => Diagnostic.duplicateBinding.inj) x

end Pattern

namespace Function

/-- Findings that all have another code are not about names that are bound again. -/
private theorem filter_map_eq_nil {α : Type} {find : α → Diagnostic} (h : ∀ a, (find a).code ≠ "duplicate-binding")
    (as : List α) : (as.map find).filter (·.code = "duplicate-binding") = [] := by
  rw [List.filter_eq_nil_iff]
  intro d hd
  obtain ⟨a, -, rfl⟩ := List.mem_map.1 hd
  simpa using h a

/-- The findings about names that are bound again are those about the patterns of the parameters, one after the
other. -/
theorem duplicates_diagnose (f : Function) (c : Option Component) (checks : Checks) :
    (f.diagnose c checks).filter (·.code = "duplicate-binding") =
      (f.parameters.filterMap (·.target.pattern?)).flatMap (·.duplicates checks) := by
  have hreturns : (f.diagnoseReturns checks).filter (·.code = "duplicate-binding") = [] := by
    rw [diagnoseReturns, List.filter_append, filter_map_eq_nil (fun _ => by simp [Diagnostic.code]), List.append_nil]
    split <;> simp [Diagnostic.code]
  have hglobals : (f.diagnoseGlobals checks).filter (·.code = "duplicate-binding") = [] :=
    filter_map_eq_nil (fun _ => by simp [Diagnostic.code]) _
  have hprops (props : Pattern) (c : Component) :
      (props.diagnoseProps c).filter (·.code = "duplicate-binding") = [] :=
    filter_map_eq_nil (fun _ => by simp [Diagnostic.code]) _
  unfold diagnose
  rw [List.filter_append, List.filter_append, List.filter_append, hreturns, hglobals, List.filter_flatMap]
  split
  · split
    · rw [hprops, List.append_nil]
      rfl
    · simp [Pattern.duplicates]
  · simp [Pattern.duplicates]

/-- The names that are found to be bound again are exactly those that the map of the pattern loses.  The findings of a
function are those about the patterns of its parameters.  About one of them, within the limit on the depth, there are as
many findings as the pattern binds names more than its map has entries, and about each name as many as it loses.  In
the map every name stands for itself, in the order of the first occurrences; if nothing is found, these are all bound
names. -/
theorem duplicates_are_lost (f : Function) (c : Option Component) (checks : Checks) :
    (f.diagnose c checks).filter (·.code = "duplicate-binding") =
        (f.parameters.filterMap (·.target.pattern?)).flatMap (·.duplicates checks) ∧
      ∀ q ∈ f.parameters, ∀ p, q.target = .pattern p → p.depth ≤ maxPatternDepth →
        ∃ m, p.variableMap none = .ok m ∧ (p.duplicates checks).length + m.size = p.boundNames.length ∧
          (∀ x, (p.duplicates checks).count (.duplicateBinding x) + m.keys.count x = p.boundNames.count x) ∧
          (∀ x v, (x, v) ∈ m.entries → v = .ident x) ∧ m.keys = p.boundNames.eraseDups ∧
          (p.duplicates checks = [] → m.keys = p.boundNames) := by
  refine ⟨f.duplicates_diagnose c checks, fun q _ p _ hdepth => ?_⟩
  obtain ⟨m, hm, hkeys, hentries⟩ := Pattern.variableMap_none_of_depth_le hdepth
  have hperm := repeatedNames_append_eraseDups_perm p.boundNames
  refine ⟨m, hm, ?length, fun x => ?count, hentries, hkeys, fun hnone => ?none⟩
  case length =>
    have hsize : m.size = p.boundNames.eraseDups.length := by
      rw [← hkeys, VariableMap.keys, List.length_map]
      rfl
    rw [Pattern.duplicates_eq, List.length_map, hsize, ← List.length_append, hperm.length_eq]
  case count =>
    rw [Pattern.count_duplicates, hkeys, ← List.count_append, hperm.count_eq]
  case none =>
    rw [Pattern.duplicates_eq, List.map_eq_nil_iff] at hnone
    rw [hnone, List.nil_append, ← hkeys] at hperm
    rw [hkeys, eraseDups_eq_self (hperm.nodup_iff.1 m.nodup_keys)]

/-- Names bound again by a position, with a default and by a rest, in the second parameter. -/
theorem duplicates_are_lost_by_rest :
    let p : Pattern := ⟨.object, [.ofName "a", .nested "b" ⟨.array, [.ofName "a", .restOf "c"]⟩,
      (Binding.ofName "c").withFallback (.ident "a"), .restOf "a"]⟩
    let q := Parameter.ofTarget (.pattern p)
    let f := Function.named "view" [.ofTarget (.name "a"), q] ⟨[.ret (some (.ident "a"))]⟩
    (q ∈ f.parameters ∧ q.target = .pattern p ∧ p.depth ≤ maxPatternDepth) ∧
      ∃ m, p.variableMap none = .ok m ∧ (p.duplicates default).length + m.size = 5 ∧ m.keys = ["a", "c"] ∧
        (p.duplicates default).count (.duplicateBinding "a") + m.keys.count "a" = 3 := by
  intro p q f
  have hq : q ∈ f.parameters := List.mem_cons_of_mem _ List.mem_cons_self
  have hdepth : p.depth ≤ maxPatternDepth := by decide
  obtain ⟨-, hlost⟩ := duplicates_are_lost f none default
  obtain ⟨m, hm, hlength, hcount, -, hkeys, -⟩ := hlost q hq p rfl hdepth
  exact ⟨⟨hq, rfl, hdepth⟩, m, hm, hlength, hkeys, hcount "a"⟩

end Function

end ViewTemplate
