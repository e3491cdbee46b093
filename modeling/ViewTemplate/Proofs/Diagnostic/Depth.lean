import ViewTemplate.Diagnostic.Function
import ViewTemplate.Proofs.Resolution
import ViewTemplate.Rebinding

/-!
# Patterns that are reported and patterns that are read

Resolving a function goes through the pattern of its component parameter and through the declarations at the top of
its body, and fails on one that is nested too deeply: in a debug build, by an assertion.  The findings about the
function are about its parameters only.  Rebinding keeps the depth of a parameter
(`Component.exists_parameter_scopeFor`), so a function without a finding of this kind fails exactly when one of its
declarations is nested too deeply (`Function.resolve_eq_error_iff`), and such functions exist
(`Function.resolve_deep_local`).
-/

namespace ViewTemplate

/-! ### Depth of rebound parameters -/

section

variable {c : Component} {members : List Member} {p q : Parameter}

private theorem depth_redirected (b : Binding) (m : Member) : (b.redirected m).depth = b.depth := by
  obtain ⟨rest, key, target, fallback⟩ := b
  unfold Binding.redirected
  split
  · rw [Binding.depth, Binding.depth]
  · rfl

private theorem depth_rebindOne (members : List Member) (b : Binding) : (rebindOne members b).1.depth = b.depth := by
  unfold rebindOne
  split
  · rfl
  · exact depth_redirected b _

private theorem bindingDepth_rebindAll (members : List Member) (bs : List Binding) :
    bindingDepth (rebindAll members bs).1 = bindingDepth bs := by
  induction bs generalizing members with
  | nil => rfl
  | cons b bs ih =>
    have htail := ih (rebindOne members b).2
    simp only [rebindAll, bindingDepth, depth_rebindOne, htail]

private theorem bindingDepth_rebindProps (members : List Member) (bs : List Binding) :
    bindingDepth (rebindProps members bs).1 = bindingDepth bs := by
  induction bs with
  | nil => rfl
  | cons b bs ih =>
    obtain ⟨rest, key, target, fallback⟩ := b
    by_cases hb : key = some "props"
    · cases target with
      | name x => simp [rebindProps, hb]
      | pattern p =>
        obtain ⟨kind, elements⟩ := p
        simp [rebindProps, hb, bindingDepth, Binding.depth, Target.depth, Pattern.depth, bindingDepth_rebindAll]
    · simp [rebindProps, hb, bindingDepth, ih]

/-- The scope for a parameter holds a rewritten form of just this parameter, as deep as the parameter itself. -/
theorem Component.exists_parameter_scopeFor (c : Component) (p : Parameter) :
    ∃ q, (c.scopeFor p).parameter = some ⟨p, q⟩ ∧ q.target.depth = p.target.depth := by
  obtain ⟨decorators, modifiers, rest, target, optional, type, fallback⟩ := p
  cases target with
  | name x => exact ⟨_, rfl, rfl⟩
  | pattern p =>
    obtain ⟨kind, elements⟩ := p
    refine ⟨_, rfl, ?_⟩
    simp [Target.depth, Pattern.depth, bindingDepth_rebindProps]

end

/-- The scope holds no rewritten parameter, or the one that was made for `f`. -/
def Scope.MadeFor (f : Function) (s : Scope) : Prop :=
  s.parameter = none ∨ ∃ (r : Registry) (t : Scope), r.scopeFor? f = some t ∧ s.parameter = t.parameter

/-- No pattern of a parameter, and none that is declared at the top of the body, is nested too deeply. -/
structure Function.WithinDepth (f : Function) : Prop where
  parameters : ∀ p ∈ f.parameters, p.target.depth ≤ maxPatternDepth
  locals : ∀ d ∈ f.declarations, d.target.depth ≤ maxPatternDepth

instance (f : Function) : Decidable f.WithinDepth :=
  decidable_of_iff
    ((∀ p ∈ f.parameters, p.target.depth ≤ maxPatternDepth) ∧ ∀ d ∈ f.declarations, d.target.depth ≤ maxPatternDepth)
    ⟨fun h => ⟨h.1, h.2⟩, fun h => ⟨h.parameters, h.locals⟩⟩

namespace Function

variable {f : Function} {c : Option Component} {checks : Checks} {s : Scope} {keep : Bool} {globals : VariableMap}

/-- The component parameter is as deep as the first one that was declared. -/
theorem exists_depth_instanceParameter (hs : s.MadeFor f) {p : Parameter} (hp : f.instanceParameter? s = some p) :
    ∃ q ∈ f.parameters, p.target.depth = q.target.depth := by
  obtain ⟨q, hq, rfl⟩ := Option.map_eq_some_iff.1 hp
  have hmem : q ∈ f.parameters := List.mem_of_head? hq
  rcases hs with hs | ⟨r, t, ht, hs⟩
  · exact ⟨q, hmem, by rw [hs]⟩
  · obtain ⟨p, hp, hc⟩ := Option.bind_eq_some_iff.1 ht
    obtain ⟨c, -, rfl⟩ := Option.map_eq_some_iff.1 hc
    obtain rfl : p = q := Option.some.inj (hp.symm.trans hq)
    obtain ⟨rewritten, hparameter, hdepth⟩ := c.exists_parameter_scopeFor p
    refine ⟨p, hmem, ?_⟩
    rw [hs, hparameter]
    simpa using hdepth

/-- Rebinding nests no pattern more deeply. -/
theorem WithinDepth.shallow (h : f.WithinDepth) (hs : s.MadeFor f) : f.Shallow s where
  parameter p hp := by
    obtain ⟨q, hq, hdepth⟩ := exists_depth_instanceParameter hs hp
    rw [hdepth]
    exact h.parameters q hq
  locals := h.locals

/-! ### What is found -/

/-- A parameter that is nested more deeply than is checked for is found. -/
theorem depth_le_of_diagnose (hd : ∀ d ∈ f.diagnose c checks, d.code ≠ "pattern-too-deep") {p : Parameter}
    (hp : p ∈ f.parameters) : p.target.depth ≤ checks.maxDepth := by
  cases ht : p.target with
  | name x => exact Nat.zero_le _
  | pattern q =>
    rw [Target.depth]
    refine Nat.le_of_not_lt fun hlt => ?_
    have hfound : Diagnostic.patternTooDeep q.depth checks.maxDepth ∈ q.diagnose checks := by
      rw [Pattern.diagnose, if_pos hlt]
      exact List.mem_append_left _ (List.mem_singleton_self _)
    have hq : q ∈ f.parameters.filterMap (·.target.pattern?) := List.mem_filterMap.2 ⟨p, hp, by rw [ht]; rfl⟩
    refine hd (.patternTooDeep q.depth checks.maxDepth) ?_ rfl
    unfold diagnose
    exact List.mem_append_left _ (List.mem_append_right _ (List.mem_flatMap.2 ⟨q, hq, hfound⟩))

/-! ### What is read -/

private theorem all_isReadable_statements (f : Function) :
    f.body.statements.all Statement.isReadable = f.declarations.all fun d => d.target.isReadable d.value := by
  unfold declarations
  rw [List.all_flatMap]
  congr 1
  funext t
  cases t <;> rfl

/-- Of a function without findings about depth, only the declarations may be too deep to be read. -/
theorem isReadable_eq_of_diagnose (hs : s.MadeFor f)
    (hd : ∀ d ∈ f.diagnose c default, d.code ≠ "pattern-too-deep") :
    f.isReadable s = f.declarations.all fun d => d.target.isReadable d.value := by
  unfold isReadable
  rw [all_isReadable_statements]
  split
  · next p hp =>
    obtain ⟨q, hq, hqp⟩ := Option.map_eq_some_iff.1 hp
    rw [componentParameter?_eq] at hq
    obtain ⟨declared, hmem, hdepth⟩ := exists_depth_instanceParameter hs hq
    have hle : declared.target.depth ≤ maxPatternDepth := depth_le_of_diagnose hd hmem
    rw [hqp, Target.depth] at hdepth
    have hread : p.readDepth true ≤ maxPatternDepth := by
      have := p.readDepth_le_depth true
      omega
    rw [decide_eq_true hread, Bool.and_true]
  · rw [Bool.and_true]

/-- A function without findings about depth, resolved in a scope that holds no parameter rewritten for another one:
it fails exactly when it has a result and a declaration at the top of its body is too deep to be read. -/
theorem resolve_eq_error_iff (hs : s.MadeFor f) (hd : ∀ d ∈ f.diagnose c default, d.code ≠ "pattern-too-deep") :
    f.resolve (some s) keep globals = .error .tooDeep ↔
      f.body.result?.isSome ∧ ∃ d ∈ f.declarations, d.target.isReadable d.value = false := by
  have hlocals : f.isReadable s = false ↔ ∃ d ∈ f.declarations, d.target.isReadable d.value = false := by
    rw [isReadable_eq_of_diagnose hs hd, List.all_eq_false]
    simp only [Bool.not_eq_true]
  rw [← hlocals]
  unfold resolve
  cases f.body.result? with
  | none => simp
  | some e => cases hr : f.isReadable s <;> simp [hr]

/-- A slot that is taken out of the properties of a component, and a local pattern. -/
theorem resolve_ne_error_of_slot :
    let c := (Component.ofName "Widget").withMember ((Member.ofKind .slot "defaultContent").withExternalName "content")
    let props := Pattern.mk .object [.aliased "content" "body"]
    let p := (Parameter.ofTarget (.pattern ⟨.object, [.nested "props" props]⟩)).withType (.reference "Widget" [])
    let f := Function.named "view" [p]
      ⟨[.constant (.pattern ⟨.array, [.ofName "first"]⟩) (.ident "body"), .ret (some (.ident "first"))]⟩
    let s := c.scopeFor p
    (s.MadeFor f ∧ (∀ d ∈ f.diagnose (some c) default, d.code ≠ "pattern-too-deep")) ∧
      f.resolve (some s) false ∅ ≠ .error .tooDeep := by
  intro c props p f s
  have hs : s.MadeFor f := Or.inr ⟨Registry.register ∅ c, s, rfl, rfl⟩
  have hd : ∀ d ∈ f.diagnose (some c) default, d.code ≠ "pattern-too-deep" := by decide
  refine ⟨⟨hs, hd⟩, fun herror => ?_⟩
  obtain ⟨-, hlocal⟩ := (resolve_eq_error_iff hs hd).1 herror
  exact absurd hlocal (by decide)

end Function

/-! ### Declarations are not looked at -/

/-- The pattern of `n` properties within each other around an empty pattern: `{ k: … { k: {} } }`. -/
def Pattern.tower : Nat → Pattern
  | 0 => ⟨.object, []⟩
  | n + 1 => ⟨.object, [.nested "k" (tower n)]⟩

theorem Pattern.readDepth_tower (hasBase : Bool) (n : Nat) : (tower n).readDepth hasBase = n + 1 := by
  induction n with
  | zero => rfl
  | succ n ih =>
    have hread : Binding.isRead .object (.nested "k" (tower n)) = true := rfl
    simp only [Binding.nested] at hread
    simp [tower, Binding.nested, Pattern.readDepth, bindingReadDepth, Binding.readDepth, hread, Target.readDepth, ih,
      Nat.add_comm]

theorem Pattern.boundNames_tower (n : Nat) : (tower n).boundNames = [] := by
  induction n with
  | zero => rfl
  | succ n ih =>
    simp [tower, Binding.nested, Pattern.boundNames, bindingNames, Binding.boundNames, Target.boundNames, ih]

/-- Nothing is found about a function that declares a pattern of 257 patterns within each other, and resolving it
fails. -/
theorem Function.resolve_deep_local :
    let f := Function.named "view" [] ⟨[.constant (.pattern (.tower 256)) (.ident "x"), .ret (some (.ident "x"))]⟩
    Scope.MadeFor f default ∧ f.diagnose none default = [] ∧
      f.resolve (some default) false ∅ = .error .tooDeep := by
  intro f
  have hnames : f.body.declaredNames = [] := by
    simp [f, Function.named, Body.declaredNames, Block.declaredNames, Statement.constant, Statement.declaredNames,
      Declarations.boundNames, Target.boundNames, Pattern.boundNames_tower]
  have hread : f.isReadable default = false := by
    simp [f, Function.named, Function.isReadable, Body.statements, Statement.constant, Statement.isReadable,
      Declarations.isReadable, Target.isReadable, Target.readDepth, Pattern.readDepth_tower, maxPatternDepth]
  have hresult : f.body.result? = some (.ident "x") := rfl
  refine ⟨Or.inl rfl, ?_, by simp [Function.resolve, hresult, hread]⟩
  unfold Function.diagnose
  rw [Function.diagnoseGlobals, hnames]
  rfl

end ViewTemplate
