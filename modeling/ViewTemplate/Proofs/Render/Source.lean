import ViewTemplate.Generator
import ViewTemplate.Proofs.Rebinding.Scope
import ViewTemplate.Proofs.Render.Sites
import ViewTemplate.Proofs.Syntax.Same

/-!
# Scopes in which no name has a meaning

Without variables and without a name for the instance, printing writes every name as it stands, so the text is the one
that was written (`Scope.BindsNothing.render_eq_source`).  The scope of a function that takes its component apart is of
this kind, whatever members it has, so such a function is printed as it was written, with its parameter rewritten
(`Registry.renderFunction_eq_source`).
-/

namespace ViewTemplate

/-- No name has a meaning in the scope: there are no variables and the instance has no name.  What would be written for
the instance, the members and the rewritten parameter may be anything. -/
structure Scope.BindsNothing (s : Scope) : Prop where
  vars : s.vars = ∅
  context : s.context = ""

namespace Scope.BindsNothing

variable {s : Scope}

theorem value? (h : s.BindsNothing) (x : String) : s.value? x = none := by
  rw [Scope.value?, h.vars, VariableMap.get?_empty]

theorem without (h : s.BindsNothing) (names : List String) : (s.without names).BindsNothing := by
  refine ⟨?_, h.context⟩
  show s.vars.eraseAll names = ∅
  rw [h.vars]
  rfl

/-- Every name is written as it stands, as without a scope. -/
theorem answersAlike (h : s.BindsNothing) (E E' : Expansion) (x : String) : E.AnswersAlike E' (some s) none x where
  ident := by
    rw [Expansion.identText, Expansion.identText, h.value? x]
    exact contextText_of_context_eq_empty h.context x
  property text name optional := by
    rw [Expr.propertyText_ident, isContext_of_context_eq_empty h.context, if_neg Bool.false_ne_true]
    rfl
  tag text := by
    have hreplacement : (Expr.ident x).replacement? (some s) = none := by
      simp [Expr.replacement?, Expr.ident?, h.value? x]
    rw [ResolvedTag.ofText, ResolvedTag.ofText, hreplacement]
    rfl

/-- A piece of syntax is printed as it was written. -/
theorem render_eq_source (h : s.BindsNothing) (n : Node) : n.render (some s) = n.source := by
  refine n.renderWith_congr_sites fun site _ => ?_
  cases site with
  | name hidden x => exact (h.without hidden).answersAlike _ _ x
  | shorthand _ _ => trivial
  | element _ _ _ => trivial

end Scope.BindsNothing

/-! ### Functions that take their component apart -/

section

variable {c : Component} {f : Function} {p q : Parameter} {pattern : Pattern}

theorem Component.bindsNothing_scopeFor (c : Component) (hp : p.target = .pattern pattern) :
    (c.scopeFor p).BindsNothing := by
  rw [c.scopeFor_pattern hp]
  exact ⟨rfl, rfl⟩

theorem Function.rewrittenIn_eq {s : Scope} (hf : f.parameters.head? = some p) (hs : s.parameter = some ⟨p, q⟩) :
    f.rewrittenIn s = f.withFirstParameter q := by
  have hsame : p.same p = true := (Parameter.same_iff p p).2 rfl
  have hrewritten : f.rewrittenParameter? s = some q := by
    simp [rewrittenParameter?, hf, Scope.rewriteOf?, hs, hsame]
  rw [rewrittenIn, hrewritten]

end

namespace Registry

/-- In a scope that binds nothing all syntax is printed as it was written.  So is a function whose first parameter
takes a component apart, with this parameter rewritten, whatever scope the caller passes. -/
theorem renderFunction_eq_source :
    (∀ s : Scope, s.BindsNothing → ∀ n : Node, n.render (some s) = n.source) ∧
      ∀ (r : Registry) (c : Component) (f : Function) (p : Parameter) (pattern : Pattern),
        f.parameters.head? = some p → r.componentOf? f = some c → p.target = .pattern pattern →
          ∃ t, r.scopeFor? f = some t ∧ t.parameter = some ⟨p, c.rewritten p pattern⟩ ∧
            ∀ s, r.renderFunction f s = (Node.function (f.withFirstParameter (c.rewritten p pattern))).source := by
  refine ⟨fun s h n => h.render_eq_source n, fun r c f p pattern hf hc hp => ?_⟩
  have hparameter := c.parameter_scopeFor hp
  refine ⟨c.scopeFor p, scopeFor?_eq hf hc, hparameter, fun s => ?_⟩
  have htext := (c.bindsNothing_scopeFor hp).render_eq_source (.function (f.withFirstParameter (c.rewritten p pattern)))
  rw [renderFunction, scopeFor?_eq hf hc]
  show (f.rewrittenIn (c.scopeFor p)).render (some (c.scopeFor p)) = _
  rw [Function.rewrittenIn_eq hf hparameter]
  exact htext

/-- A slot that is taken out under another name; the scope of the caller has a value for what is returned. -/
theorem renderFunction_eq_source_slot :
    let c := (Component.ofName "Widget").withMember ((Member.ofKind .slot "defaultContent").withExternalName "content")
    let r := Registry.register ∅ c
    let takes := fun key => Pattern.mk .object [.nested "props" ⟨.object, [.aliased key "body"]⟩]
    let typed := fun pattern => (Parameter.ofTarget (.pattern pattern)).withType (.reference "Widget" [])
    let view := fun key => Function.named "view" [typed (takes key)] ⟨[.ret (some (.call (.ident "show") []))]⟩
    let s := Scope.mk "" (some "this") ∅ c.members none
    let caller := (Scope.ofContext "model").withVars (.ofList [("show", .string "x")])
    (s.BindsNothing ∧ (view "content").parameters.head? = some (typed (takes "content")) ∧
      r.componentOf? (view "content") = some c ∧ (typed (takes "content")).target = .pattern (takes "content")) ∧
      (Node.function (view "content")).render (some s) = (Node.function (view "content")).source ∧
      r.renderFunction (view "content") (some caller) = (Node.function (view "defaultContent")).source := by
  intro c r takes typed view s caller
  have hs : s.BindsNothing := ⟨rfl, rfl⟩
  have hf : (view "content").parameters.head? = some (typed (takes "content")) := rfl
  have hc : r.componentOf? (view "content") = some c := rfl
  have hp : (typed (takes "content")).target = .pattern (takes "content") := rfl
  obtain ⟨hsource, hfunction⟩ := renderFunction_eq_source
  obtain ⟨-, -, -, htext⟩ := hfunction r c (view "content") _ _ hf hc hp
  exact ⟨⟨hs, hf, hc, hp⟩, hsource s hs (.function (view "content")), htext (some caller)⟩

end Registry

end ViewTemplate
