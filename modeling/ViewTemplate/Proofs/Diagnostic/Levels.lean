import ViewTemplate.Proofs.Diagnostic.Depth

/-!
# Levels of a pattern

The depth of a pattern is counted from the inside: one more than the greatest depth below it.  Reading counts from the
outside: every pattern is read at a level, the outermost at level 0, and in a debug build the assertion stops reading
at a level that is not below `maxPatternDepth`.  Reading goes down every branch that is read, and the deepest level it
comes to is the depth of what is read (`Pattern.walk_eq`).  Without a value all branches are read, so both counts
agree, also with the one that the findings are made from (`Pattern.variableMap_none_eq_error_iff`).
-/

namespace ViewTemplate

/-! ### Reading level by level -/

mutual

/-- Reads a pattern at a level on top of `m`.  The level is checked before any of the bindings is read. -/
def Pattern.walk (base : Option Expr) (level : Nat) (m : VariableMap) : Pattern → Except PatternError VariableMap
  | ⟨kind, elements⟩ =>
    if level < maxPatternDepth then walkBindings kind base level 0 m elements else .error .tooDeep
termination_by structural p => p

/-- Reads the bindings from `index` on, in source order. -/
def walkBindings (kind : PatternKind) (base : Option Expr) (level index : Nat) (m : VariableMap) :
    List Binding → Except PatternError VariableMap
  | [] => .ok m
  | b :: bs => do
    let read ← b.walk kind base level index m
    walkBindings kind base level (index + 1) read bs
termination_by structural bs => bs

/-- Reads the binding at `index`.  With a value, the rest and a binding without a key are passed over. -/
def Binding.walk (kind : PatternKind) (base : Option Expr) (level index : Nat) (m : VariableMap) :
    Binding → Except PatternError VariableMap
  | ⟨rest, key, target, fallback⟩ =>
    match base with
    | none => target.walk none level m
    | some base =>
      match Binding.read? kind index base ⟨rest, key, target, fallback⟩ with
      | none => .ok m
      | some value => target.walk (some (target.baseOf value)) level m
termination_by structural b => b

/-- Reads a target: a pattern one level further in. -/
def Target.walk (base : Option Expr) (level : Nat) (m : VariableMap) : Target → Except PatternError VariableMap
  | .name x => .ok (m.insert x (base.getD (.ident x)))
  | .pattern p => p.walk base (level + 1) m
termination_by structural t => t

end

/-! ### The deepest level -/

/-- `readings` on top of `m`, unless so many levels are too many. -/
def VariableMap.readTo (m : VariableMap) (levels : Nat) (readings : List (String × Expr)) :
    Except PatternError VariableMap :=
  if levels ≤ maxPatternDepth then .ok (m.insertAll readings) else .error .tooDeep

section

variable {levels levels' : Nat} {m : VariableMap} {readings readings' : List (String × Expr)}

theorem VariableMap.readTo_of_le (h : levels ≤ maxPatternDepth) :
    m.readTo levels readings = .ok (m.insertAll readings) :=
  if_pos h

theorem VariableMap.readTo_of_lt (h : maxPatternDepth < levels) : m.readTo levels readings = .error .tooDeep :=
  if_neg (Nat.not_le.2 h)

/-- Reading on after what was read. -/
theorem VariableMap.readTo_bind (m : VariableMap) (levels levels' : Nat) (readings readings' : List (String × Expr)) :
    (m.readTo levels readings >>= fun read => read.readTo levels' readings') =
      m.readTo (max levels levels') (readings ++ readings') := by
  by_cases h : levels ≤ maxPatternDepth
  · rw [readTo_of_le h]
    by_cases h' : levels' ≤ maxPatternDepth
    · have happend : m.insertAll (readings ++ readings') = (m.insertAll readings).insertAll readings' :=
        List.foldl_append
      rw [readTo_of_le (Nat.max_le.2 ⟨h, h'⟩), happend]
      exact readTo_of_le h'
    · have hlt : maxPatternDepth < levels' := Nat.lt_of_not_le h'
      rw [readTo_of_lt (Nat.lt_of_lt_of_le hlt (Nat.le_max_right _ _))]
      exact readTo_of_lt hlt
  · have hlt : maxPatternDepth < levels := Nat.lt_of_not_le h
    rw [readTo_of_lt hlt, readTo_of_lt (Nat.lt_of_lt_of_le hlt (Nat.le_max_left _ _))]
    rfl

mutual

/-- The deepest level that a pattern is read at is as far from its own level as its depth says. -/
theorem Pattern.walk_eq (base : Option Expr) (level : Nat) (m : VariableMap) :
    ∀ p : Pattern, p.walk base level m = m.readTo (level + p.readDepth base.isSome) (p.readings base)
  | ⟨kind, elements⟩ => by
    rw [Pattern.walk, Pattern.readDepth, Pattern.readings]
    by_cases h : level < maxPatternDepth
    · rw [if_pos h, walkBindings_eq kind base h 0 m elements, Nat.add_assoc]
    · rw [if_neg h, VariableMap.readTo_of_lt (by omega)]
termination_by structural p => p

theorem walkBindings_eq (kind : PatternKind) (base : Option Expr) {level : Nat} (h : level < maxPatternDepth)
    (index : Nat) (m : VariableMap) :
    ∀ bs : List Binding, walkBindings kind base level index m bs =
      m.readTo (level + 1 + bindingReadDepth kind base.isSome bs) (bindingReadings kind base index bs)
  | [] => by
    rw [walkBindings, bindingReadDepth, bindingReadings, VariableMap.readTo_of_le h]
    rfl
  | b :: bs => by
    have htail : (fun read => walkBindings kind base level (index + 1) read bs) = fun read => read.readTo
        (level + 1 + bindingReadDepth kind base.isSome bs) (bindingReadings kind base (index + 1) bs) :=
      funext fun read => walkBindings_eq kind base h (index + 1) read bs
    rw [walkBindings, htail, Binding.walk_eq kind base h index m b, VariableMap.readTo_bind, bindingReadDepth,
      bindingReadings, Nat.add_max_add_left]
termination_by structural bs => bs

theorem Binding.walk_eq (kind : PatternKind) (base : Option Expr) {level : Nat} (h : level < maxPatternDepth)
    (index : Nat) (m : VariableMap) :
    ∀ b : Binding, b.walk kind base level index m =
      m.readTo (level + 1 + b.readDepth kind base.isSome) (b.readings kind base index)
  | ⟨rest, key, target, fallback⟩ => by
    cases base with
    | none => simp [Binding.walk, Binding.readDepth, Binding.readings, Target.walk_eq none h m target]
    | some base =>
      have hread := Binding.isSome_read? kind index base ⟨rest, key, target, fallback⟩
      rw [Binding.walk, Binding.readDepth, Binding.readings, ← hread]
      cases Binding.read? kind index base ⟨rest, key, target, fallback⟩ with
      | none =>
        show Except.ok m = m.readTo (level + 1) []
        rw [VariableMap.readTo_of_le h]
        rfl
      | some value => exact Target.walk_eq (some (target.baseOf value)) h m target
termination_by structural b => b

theorem Target.walk_eq (base : Option Expr) {level : Nat} (h : level < maxPatternDepth) (m : VariableMap) :
    ∀ t : Target, t.walk base level m = m.readTo (level + 1 + t.readDepth base.isSome) (t.readings base)
  | .name x => by
    rw [Target.walk, Target.readDepth, Target.readings, VariableMap.readTo_of_le h]
    rfl
  | .pattern p => by rw [Target.walk, Target.readDepth, Target.readings, Pattern.walk_eq base (level + 1) m p]
termination_by structural t => t

end

end

/-- Reading from the outermost level on is reading a pattern. -/
theorem Pattern.walk_eq_variableMap (p : Pattern) (base : Option Expr) : p.walk base 0 ∅ = p.variableMap base := by
  rw [walk_eq, Nat.zero_add, variableMap, Target.variableMap, Target.isReadable, Target.readDepth, Target.readings]
  by_cases h : p.readDepth base.isSome ≤ maxPatternDepth
  · rw [VariableMap.readTo_of_le h, if_pos (decide_eq_true h)]
    rfl
  · rw [VariableMap.readTo_of_lt (Nat.lt_of_not_le h), if_neg (by simpa using h)]

/-- A pattern cannot be read without a value exactly when it is too deep. -/
theorem Pattern.variableMap_none_eq_error_iff {p : Pattern} :
    p.variableMap none = .error .tooDeep ↔ maxPatternDepth < p.depth := by
  rw [variableMap, Target.variableMap, Target.isReadable, Target.readDepth, Option.isSome_none, readDepth_false]
  split <;> simp_all

/-! ### What is found -/

theorem Target.pattern?_eq_some_iff {t : Target} {p : Pattern} : t.pattern? = some p ↔ t = .pattern p := by
  cases t <;> simp [Target.pattern?]

theorem Diagnostic.code_eq_tooDeep_iff {d : Diagnostic} :
    d.code = "pattern-too-deep" ↔ ∃ depth limit, d = .patternTooDeep depth limit := by
  cases d <;> simp [Diagnostic.code]

section

variable {p : Pattern} {f : Function} {c : Option Component} {checks : Checks} {depth limit : Nat}

theorem Pattern.tooDeep_mem_diagnose_iff :
    .patternTooDeep depth limit ∈ p.diagnose checks ↔
      checks.maxDepth < p.depth ∧ depth = p.depth ∧ limit = checks.maxDepth := by
  by_cases h : checks.maxDepth < p.depth <;> simp [Pattern.diagnose, h]

/-- A finding about depth is about the pattern of a parameter. -/
theorem Function.tooDeep_mem_diagnose_iff :
    .patternTooDeep depth limit ∈ f.diagnose c checks ↔
      ∃ q ∈ f.parameters, ∃ p, q.target = .pattern p ∧
        checks.maxDepth < p.depth ∧ depth = p.depth ∧ limit = checks.maxDepth := by
  unfold Function.diagnose
  constructor
  · intro h
    rcases List.mem_append.1 h with h | h
    · rcases List.mem_append.1 h with h | h
      · rcases List.mem_append.1 h with h | h
        · unfold diagnoseReturns at h
          split at h <;> simp [-List.map_tail] at h
        · simp [diagnoseGlobals] at h
      · obtain ⟨p, hp, hfound⟩ := List.mem_flatMap.1 h
        obtain ⟨q, hq, ht⟩ := List.mem_filterMap.1 hp
        exact ⟨q, hq, p, Target.pattern?_eq_some_iff.1 ht, Pattern.tooDeep_mem_diagnose_iff.1 hfound⟩
    · split at h
      · split at h <;> simp [Pattern.diagnoseProps] at h
      · cases h
  · rintro ⟨q, hq, p, ht, hdeep⟩
    have hp : p ∈ f.parameters.filterMap (·.target.pattern?) :=
      List.mem_filterMap.2 ⟨q, hq, Target.pattern?_eq_some_iff.2 ht⟩
    have hfound : .patternTooDeep depth limit ∈
        (f.parameters.filterMap (·.target.pattern?)).flatMap (·.diagnose checks) :=
      List.mem_flatMap.2 ⟨p, hp, Pattern.tooDeep_mem_diagnose_iff.2 hdeep⟩
    exact List.mem_append_left _ (List.mem_append_right _ hfound)

end

/-! ### The limit -/

/-- The limit on the depth is exact.  Reading a pattern level by level is reading it.  Without a value that fails
exactly when the pattern is deeper than the limit, which is when a function with such a parameter has a finding about
that depth, and when a function with that parameter only has a finding about depth at all.  With a value, a pattern
within the limit can always be read. -/
theorem Pattern.depth_limit_exact (p : Pattern) :
    (∀ base, p.walk base 0 ∅ = p.variableMap base) ∧
      (p.variableMap none = .error .tooDeep ↔ maxPatternDepth < p.depth) ∧
      (∀ (f : Function) (c : Option Component), ∀ q ∈ f.parameters, q.target = .pattern p →
        (.patternTooDeep p.depth maxPatternDepth ∈ f.diagnose c default ↔ maxPatternDepth < p.depth)) ∧
      (∀ (f : Function) (c : Option Component) (q : Parameter), f.parameters = [q] → q.target = .pattern p →
        ((∃ d ∈ f.diagnose c default, d.code = "pattern-too-deep") ↔ maxPatternDepth < p.depth)) ∧
      ∀ base, p.depth ≤ maxPatternDepth → ∃ m, p.variableMap (some base) = .ok m := by
  refine ⟨p.walk_eq_variableMap, variableMap_none_eq_error_iff, ?found, ?only, ?value⟩
  case found =>
    intro f c q hq ht
    rw [Function.tooDeep_mem_diagnose_iff]
    constructor
    · rintro ⟨q', hq', p', ht', hdeep, hdepth, -⟩
      rw [hdepth]
      exact hdeep
    · intro hdeep
      exact ⟨q, hq, p, ht, hdeep, rfl, rfl⟩
  case only =>
    intro f c q hq ht
    constructor
    · rintro ⟨d, hd, hcode⟩
      obtain ⟨depth, limit, rfl⟩ := Diagnostic.code_eq_tooDeep_iff.1 hcode
      obtain ⟨q', hq', p', ht', hdeep, -⟩ := Function.tooDeep_mem_diagnose_iff.1 hd
      rw [hq, List.mem_singleton] at hq'
      obtain rfl : p' = p := by
        rw [hq', ht] at ht'
        exact (Target.pattern.inj ht').symm
      exact hdeep
    · intro hdeep
      have hmem : q ∈ f.parameters := by
        rw [hq]
        exact List.mem_singleton_self q
      exact ⟨_, Function.tooDeep_mem_diagnose_iff.2 ⟨q, hmem, p, ht, hdeep, rfl, rfl⟩, rfl⟩
  case value =>
    intro base h
    exact ⟨_, Target.variableMap_of_depth_le (t := .pattern p) h (some base)⟩

/-- The limit is 256 levels: that many can be read, and of one more a function has a finding. -/
theorem Pattern.depth_limit_exact_tower :
    let f := Function.named "view" [.ofTarget (.pattern (.tower 256))] ⟨[.ret (some (.ident "x"))]⟩
    (maxPatternDepth < (tower 256).depth ∧ (tower 255).depth ≤ maxPatternDepth) ∧
      (tower 256).variableMap none = .error .tooDeep ∧ (tower 255).variableMap none ≠ .error .tooDeep ∧
      (∃ d ∈ f.diagnose none default, d.code = "pattern-too-deep") ∧
      ∃ m, (tower 255).variableMap (some (.ident "model")) = .ok m := by
  intro f
  have hdeep : maxPatternDepth < (tower 256).depth := by
    rw [← readDepth_false, readDepth_tower]
    decide
  have hwithin : (tower 255).depth ≤ maxPatternDepth := by
    rw [← readDepth_false, readDepth_tower]
    decide
  obtain ⟨-, herror, -, hfound, -⟩ := depth_limit_exact (tower 256)
  obtain ⟨-, hread, -, -, hvalue⟩ := depth_limit_exact (tower 255)
  refine ⟨⟨hdeep, hwithin⟩, herror.2 hdeep, fun h => ?_, (hfound f none _ rfl rfl).2 hdeep, hvalue _ hwithin⟩
  exact absurd (hread.1 h) (Nat.not_lt.2 hwithin)

end ViewTemplate
