import ViewTemplate.Proofs.Resolution

/-!
# Resolving twice

The scope of a template has three layers on top of the variables it started from: the globals, the locals and what the
component parameter reads.  A second run puts layers on top of its own first result.  They are the same layers, unless
the parameter is a pattern and the scope keeps its context: the first run takes the context away, so the second reads
from `this`.  In all other cases resolving again gives the same template and the same scope
(`Function.resolve_resolve`).
-/

namespace ViewTemplate.Function

variable {f : Function} {s : Scope} {keep : Bool} {globals : VariableMap} {t : Option Markup} {s' : Scope}

/-- What resolving puts on top of the variables of a scope, in this order. -/
def layers (f : Function) (s : Scope) (keep : Bool) (globals : VariableMap) : List VariableMap :=
  [globals, .ofList f.localReadings, .ofList (f.parameterReadings s keep)]

theorem vars_templateScope (f : Function) (s : Scope) (keep : Bool) (globals : VariableMap) :
    (f.templateScope s keep globals).vars = s.vars.mergeAll (f.layers s keep globals) := by
  show _ = ((s.vars.merge globals).merge (.ofList f.localReadings)).merge (.ofList (f.parameterReadings s keep))
  rw [VariableMap.merge_ofList, VariableMap.merge_ofList]
  rfl

/-! ### What the scope of a template has in common with the one it was made from -/

/-- Resolving leaves the rewritten parameter alone. -/
theorem instanceParameter?_templateScope (f : Function) (s : Scope) (keep : Bool) (globals : VariableMap) :
    f.instanceParameter? (f.templateScope s keep globals) = f.instanceParameter? s :=
  rfl

theorem instancePattern?_templateScope (f : Function) (s : Scope) (keep : Bool) (globals : VariableMap) :
    f.instancePattern? (f.templateScope s keep globals) = f.instancePattern? s :=
  rfl

/-- The instance has the same name in the template of a template's scope. -/
theorem contextAfter_templateScope (f : Function) (s : Scope) (keep : Bool) (globals : VariableMap) :
    f.contextAfter (f.templateScope s keep globals) keep = f.contextAfter s keep := by
  have hcontext : (f.templateScope s keep globals).context = f.contextAfter s keep := templateContext_eq f s keep
  unfold contextAfter at hcontext ⊢
  rw [instanceParameter?_templateScope, hcontext]
  rcases (f.instanceParameter? s).map Parameter.target with _ | ⟨x⟩ | ⟨p⟩
  · rfl
  · cases keep <;> rfl
  · rfl

/-- The component parameter reads the same again, if it reads from `this` or reads nothing. -/
theorem parameterReadings_templateScope (hk : keep = false ∨ f.instancePattern? s = none) (globals : VariableMap) :
    f.parameterReadings (f.templateScope s keep globals) keep = f.parameterReadings s keep := by
  rw [parameterReadings_eq, parameterReadings_eq, instancePattern?_templateScope]
  rcases hk with rfl | hnone
  · rfl
  · rw [hnone]
    rfl

theorem isReadable_templateScope (f : Function) (s : Scope) (keep : Bool) (globals : VariableMap) :
    f.isReadable (f.templateScope s keep globals) = f.isReadable s := by
  rw [isReadable, isReadable, instanceTarget?_eq, instanceTarget?_eq, instanceParameter?_templateScope]

/-! ### Both runs -/

/-- The template's scope of a template's scope is that scope. -/
theorem templateScope_templateScope (hk : keep = false ∨ f.instancePattern? s = none) :
    f.templateScope (f.templateScope s keep globals) keep globals = f.templateScope s keep globals := by
  have hcontext : f.templateContext (f.templateScope s keep globals) keep = f.templateContext s keep := by
    rw [templateContext_eq, templateContext_eq, contextAfter_templateScope]
  have hlayers : f.layers (f.templateScope s keep globals) keep globals = f.layers s keep globals := by
    rw [layers, layers, parameterReadings_templateScope hk]
  have hvars : (f.templateScope (f.templateScope s keep globals) keep globals).vars =
      (f.templateScope s keep globals).vars := by
    rw [vars_templateScope, hlayers, vars_templateScope, VariableMap.mergeAll_mergeAll]
  calc f.templateScope (f.templateScope s keep globals) keep globals
    _ = { s with
          context := f.templateContext (f.templateScope s keep globals) keep
          vars := (f.templateScope (f.templateScope s keep globals) keep globals).vars } := rfl
    _ = f.templateScope s keep globals := by rw [hcontext, hvars]; rfl

/-- What one run has made of a scope, a second run makes of its result. -/
theorem resolve_of_resolve (hk : keep = false ∨ f.instancePattern? s = none)
    (h : f.resolve (some s) keep globals = .ok (t, some s')) : f.resolve (some s') keep globals = .ok (t, some s') := by
  unfold resolve at h ⊢
  cases he : f.body.result? with
  | none =>
    simp only [he, Except.ok.injEq, Prod.mk.injEq] at h ⊢
    exact ⟨h.1, trivial⟩
  | some e =>
    simp only [he] at h ⊢
    split at h
    · next hread =>
      simp only [Except.ok.injEq, Prod.mk.injEq, Option.some.injEq] at h
      obtain ⟨rfl, rfl⟩ := h
      rw [isReadable_templateScope, hread, templateScope_templateScope hk]
      rfl
    · cases h

/-- A function without a pattern that is nested too deeply, in a scope that does not keep its context or whose component
parameter is no pattern.  Resolving it gives a template and a scope, and resolving it again from there gives the same
template and the same scope, its variables in the same order. -/
theorem resolve_resolve (hk : keep = false ∨ f.instancePattern? s = none) (h : f.Shallow s) :
    ∃ t s', f.resolve (some s) keep globals = .ok (t, some s') ∧
      f.resolve (some s') keep globals = .ok (t, some s') := by
  have hfirst : ∃ t s', f.resolve (some s) keep globals = .ok (t, some s') := by
    cases he : f.body.result? with
    | none => exact ⟨_, _, (resolve_spec f s keep globals).1 he⟩
    | some e => exact ⟨_, _, resolve_of_shallow he h⟩
  obtain ⟨t, s', hresolve⟩ := hfirst
  exact ⟨t, s', hresolve, resolve_of_resolve hk hresolve⟩

/-- A pattern that reads from `this`, over a scope in which a local, a global and a variable have the names that it
reads; and a name as the parameter of a scope that keeps its context. -/
theorem resolve_resolve_overlapping :
    let body := Block.mk
      [.constant (.name "a") (.number "1"), .constant (.name "c") (.ident "a"), .ret (some (.ident "c"))]
    let f := Function.named "view" [.ofTarget (.pattern ⟨.object, [.aliased "key" "b", .ofName "a"]⟩)] body
    let g := Function.named "view" [.ofTarget (.name "model")] body
    let s := (Scope.ofContext "state").withVars (.ofList [("b", .ident "old"), ("z", .ident "y")])
    let globals := VariableMap.ofList [("d", .ident "outer"), ("b", .ident "global"), ("a", .ident "global")]
    ((f.Shallow s ∧ g.Shallow s) ∧ g.instancePattern? s = none) ∧
      (∃ t s', f.resolve (some s) false globals = .ok (t, some s') ∧ s'.vars.keys = ["b", "z", "d", "a", "c"] ∧
        f.resolve (some s') false globals = .ok (t, some s')) ∧
      ∃ t s', g.resolve (some s) true globals = .ok (t, some s') ∧ s'.context = "state" ∧
        g.resolve (some s') true globals = .ok (t, some s') := by
  intro body f g s globals
  have hf : f.Shallow s := by decide
  have hg : g.Shallow s := by decide
  have hname : g.instancePattern? s = none := rfl
  obtain ⟨t, s', hfirst, hsecond⟩ : ∃ t s', f.resolve (some s) false globals = .ok (t, some s') ∧
      f.resolve (some s') false globals = .ok (t, some s') := resolve_resolve (Or.inl rfl) hf
  obtain ⟨u, s'', hfirst', hsecond'⟩ : ∃ t s', g.resolve (some s) true globals = .ok (t, some s') ∧
      g.resolve (some s') true globals = .ok (t, some s') := resolve_resolve (Or.inr hname) hg
  refine ⟨⟨⟨hf, hg⟩, hname⟩, ⟨t, s', hfirst, ?_, hsecond⟩, u, s'', hfirst', ?_, hsecond'⟩
  · cases hfirst
    decide
  · cases hfirst'
    rfl

/-- A pattern in a scope that keeps its context is read from the context first and from `this` then. -/
example :
    let f := Function.named "view" [.ofTarget (.pattern ⟨.object, [.ofName "a"]⟩)] ⟨[.ret (some (.ident "a"))]⟩
    let s := f.templateScope (.ofContext "model") true ∅
    s.value? "a" = some (.property (.verbatim "model") "a" false) ∧
      (f.templateScope s true ∅).value? "a" = some (.property (.verbatim "this") "a" false) :=
  ⟨rfl, rfl⟩

end ViewTemplate.Function
