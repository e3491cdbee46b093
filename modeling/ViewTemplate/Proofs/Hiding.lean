import ViewTemplate.Proofs.Resolution

/-!
# Names that hide the outer scope

A name of a function hides what the globals and the old scope say about it exactly when resolving gives it a meaning
of its own (`Function.hides_iff`): it is declared at the top of the body or read out of the component parameter.  A
parameter that is a name, a parameter after the first and the rest of a value get no meaning, so what the globals say
about such a name reaches the template (`second_parameter_not_hidden`).
-/

namespace ViewTemplate

/-- The maps differ at most in what `x` stands for. -/
def VariableMap.EqOff (x : String) (m m' : VariableMap) : Prop :=
  ∀ y, y ≠ x → m'.get? y = m.get? y

namespace Function

variable {f : Function} {s : Scope} {keep : Bool} {globals : VariableMap} {x : String}

/-- What `x` stands for in the template of `f`, if anything, is the same whatever the globals and the old scope
say about `x`. -/
def Hides (f : Function) (s : Scope) (keep : Bool) (globals : VariableMap) (x : String) : Prop :=
  ∀ old globals' : VariableMap, s.vars.EqOff x old → globals.EqOff x globals' →
    ∃ m t t', f.resolve (some s) keep globals = .ok (some m, some t) ∧
      f.resolve (some (s.withVars old)) keep globals' = .ok (some m, some t') ∧ t'.value? x = t.value? x

/-- The names that resolving `f` gives a meaning of its own. -/
def ownNames (f : Function) (s : Scope) : List String :=
  f.localNames ++ f.patternNames s

private theorem isSome_value?_iff {d : Declaration} (h : d.target.depth ≤ maxPatternDepth) :
    (d.value? x).isSome ↔ x ∈ d.readNames := by
  have hm : d.variableMap = .ok (.ofList (d.target.readings d.value)) := Target.variableMap_of_depth_le h d.value
  rw [Declaration.value?_of_depth_le h, VariableMap.isSome_get?_iff]
  exact Target.mem_keys_of_variableMap hm

private theorem isSome_localValue?_iff (h : f.Shallow s) : (f.localValue? x).isSome ↔ x ∈ f.localNames := by
  rw [localValue?, List.findSome?_isSome_iff, localNames, List.mem_flatMap]
  constructor
  · rintro ⟨d, hd, hx⟩
    have hd := List.mem_reverse.1 hd
    exact ⟨d, hd, (isSome_value?_iff (h.locals d hd)).1 hx⟩
  · rintro ⟨d, hd, hx⟩
    exact ⟨d, List.mem_reverse.2 hd, (isSome_value?_iff (h.locals d hd)).2 hx⟩

private theorem isSome_patternValue?_iff (keep : Bool) (h : f.Shallow s) :
    (f.patternValue? s keep x).isSome ↔ x ∈ f.patternNames s := by
  rw [patternValue?, patternNames]
  cases hp : f.instancePattern? s with
  | none => simp
  | some p =>
    have hm := Target.variableMap_of_depth_le (instancePattern_depth_le h hp) (some (.verbatim (s.instanceBase keep)))
    have hk := Target.mem_keys_of_variableMap (x := x) hm
    simp only [Option.bind_some, Pattern.variableMap, hm, Except.toOption, VariableMap.isSome_get?_iff, hk]
    rfl

theorem isSome_ownValue?_iff (keep : Bool) (h : f.Shallow s) :
    (f.patternValue? s keep x <|> f.localValue? x).isSome ↔ x ∈ f.ownNames s := by
  rw [ownNames, List.mem_append, ← isSome_localValue?_iff h, ← isSome_patternValue?_iff keep h]
  cases f.patternValue? s keep x <;> simp

/-- A name with a meaning of its own. -/
theorem value?_of_mem_ownNames (h : f.Shallow s) (hx : x ∈ f.ownNames s) :
    (f.templateScope s keep globals).value? x = (f.patternValue? s keep x <|> f.localValue? x) := by
  rw [(resolved_templateScope h).value x]
  have hown := (isSome_ownValue?_iff keep h).2 hx
  cases hp : f.patternValue? s keep x with
  | some v => rfl
  | none =>
    cases hl : f.localValue? x with
    | some v => rfl
    | none => simp [hp, hl] at hown

/-- Any other name shows what the globals and the old scope say. -/
theorem value?_of_not_mem_ownNames (h : f.Shallow s) (hx : x ∉ f.ownNames s) :
    (f.templateScope s keep globals).value? x = (globals.get? x <|> s.value? x) := by
  rw [(resolved_templateScope h).value x]
  have hown := fun hs => hx ((isSome_ownValue?_iff keep h).1 hs)
  cases hp : f.patternValue? s keep x with
  | some v => simp [hp] at hown
  | none =>
    cases hl : f.localValue? x with
    | some v => simp [hp, hl] at hown
    | none => rfl

theorem shallow_withVars (h : f.Shallow s) (vars : VariableMap) : f.Shallow (s.withVars vars) :=
  ⟨h.parameter, h.locals⟩

private theorem exists_ne (v : Option Expr) : ∃ w : Expr, some w ≠ v := by
  by_cases h : v = some (.verbatim "")
  · exact ⟨.number "", by simp [h]⟩
  · exact ⟨.verbatim "", Ne.symm h⟩

/-- A name hides the outer scope exactly when it is declared at the top of the body or read out of the component
parameter. -/
theorem hides_iff {e : Expr} (he : f.body.result? = some e) (h : f.Shallow s) :
    f.Hides s keep globals x ↔ x ∈ f.ownNames s := by
  constructor
  · intro hides
    refine Classical.byContradiction fun hx => ?_
    -- give the name another meaning among the globals: it is seen in the template
    obtain ⟨w, hw⟩ := exists_ne ((f.templateScope s keep globals).value? x)
    have hoff : globals.EqOff x (globals.insert x w) := fun y hy => by rw [VariableMap.get?_insert, if_neg hy]
    obtain ⟨m, t, t', ht, ht', heq⟩ := hides s.vars (globals.insert x w) (fun _ _ => rfl) hoff
    rw [resolve_of_shallow he h] at ht
    rw [resolve_of_shallow he (shallow_withVars h s.vars)] at ht'
    cases ht
    cases ht'
    rw [value?_of_not_mem_ownNames (shallow_withVars h s.vars) hx, VariableMap.get?_insert, if_pos rfl] at heq
    exact hw heq
  · intro hx old globals' _ _
    refine ⟨_, _, _, resolve_of_shallow he h, resolve_of_shallow he (shallow_withVars h old), ?_⟩
    rw [value?_of_mem_ownNames (shallow_withVars h old) hx, value?_of_mem_ownNames h hx]
    rfl

/-- The property that a pattern takes out hides the outer scope, the rest that it takes out does not. -/
theorem hides_iff_property_and_rest :
    let f := Function.arrow [.ofTarget (.pattern ⟨.object, [.ofName "a", .restOf "others"]⟩)] (.expr (.ident "a"))
    (f.body.result? = some (.ident "a") ∧ f.Shallow default) ∧
      f.Hides default false ∅ "a" ∧ ¬ f.Hides default false ∅ "others" := by
  intro f
  have he : f.body.result? = some (.ident "a") := rfl
  have h : f.Shallow default := by decide
  exact ⟨⟨he, h⟩, (hides_iff he h).2 (by decide), fun hides => absurd ((hides_iff he h).1 hides) (by decide)⟩

/-- A second parameter is a bound name, and still stands for what a global of the same name says. -/
theorem second_parameter_not_hidden :
    let f := Function.arrow [.ofTarget (.name "model"), .ofTarget (.name "extra")] (.expr (.ident "extra"))
    ("extra" ∈ f.boundNames ∧ f.Shallow default) ∧
      ∃ m t t', f.resolve (some default) false ∅ = .ok (some m, some t) ∧
        f.resolve (some default) false (.ofList [("extra", .ident "outer")]) = .ok (some m, some t') ∧
        t.value? "extra" = none ∧ t'.value? "extra" = some (.ident "outer") := by
  intro f
  have h : f.Shallow default := by decide
  exact ⟨⟨by decide, h⟩, _, _, _, rfl, rfl, rfl, rfl⟩

end Function

end ViewTemplate
