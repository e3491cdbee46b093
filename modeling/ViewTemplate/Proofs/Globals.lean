import ViewTemplate.Proofs.Hiding
import ViewTemplate.Proofs.Render.Sites

/-!
# Globals in the scope of a function

Resolving a function puts its locals, its destructured names and the globals into one map, so a global is expanded in
the scope of the function that uses it: a name of the function that occurs in the expansion of a global is taken for
the function's own (`Function.global_expands_local`).  A global whose expansion comes to no name of the function is
printed as the globals alone say (`Function.render_global_eq`).

The two scopes need not describe the same component instance.  It is enough that no global mentions either instance,
also inside a function that binds the name: there the variables no longer hide the instance.
-/

namespace ViewTemplate

/-! ### Values that do not mention the instance -/

/-- Whether the name `x` is asked for at the site, hidden or not. -/
def Site.asksFor (x : String) : Site → Bool
  | .name _ y => y == x
  | _ => false

/-- Whether some value of the map asks for the name `x`, also where a function in it binds the name. -/
def VariableMap.mentions (m : VariableMap) (x : String) : Bool :=
  m.entries.any fun entry => (entry.2.sites []).any (·.asksFor x)

/-- The instance has no name, or one that no value of the map mentions. -/
def VariableMap.IgnoresInstance (m : VariableMap) (context : String) : Prop :=
  context = "" ∨ m.mentions context = false

instance (m : VariableMap) (context : String) : Decidable (m.IgnoresInstance context) :=
  inferInstanceAs (Decidable (_ ∨ _))

theorem VariableMap.mentions_of_site {m : VariableMap} {x y : String} {v : Expr} {inner : List String}
    (hx : m.get? x = some v) (hy : Site.name inner y ∈ v.sites []) : m.mentions y = true := by
  obtain ⟨before, after, he, -⟩ := List.lookup_eq_some_iff.1 hx
  have hentry : (x, v) ∈ m.entries := by simp [he]
  rw [mentions, List.any_eq_true]
  exact ⟨_, hentry, List.any_eq_true.2 ⟨_, hy, beq_self_eq_true y⟩⟩

namespace Scope

/-- The scopes give the names in `N` the values that `m` gives them; the values look up no other names and ask for
neither instance. -/
structure AgreesApart (m : VariableMap) (N : String → Prop) (s t : Scope) : Prop where
  left {x v} : N x → s.value? x = some v → m.get? x = some v
  value {x} : N x → s.value? x = t.value? x
  closed {x v} : N x → s.value? x = some v → ∀ y ∈ v.lookups, N y
  ignoresLeft : m.IgnoresInstance s.context
  ignoresRight : m.IgnoresInstance t.context

variable {N : String → Prop} {s t : Scope} {m : VariableMap} {x : String} {v : Expr}

namespace AgreesApart

private theorem without (h : s.AgreesApart m N t) (names : List String) :
    (s.without names).AgreesApart m (fun x => N x ∨ x ∈ names) (t.without names) where
  left {x v} hx hv := by
    obtain ⟨hn, hv⟩ := value?_of_value?_without hv
    exact h.left (hx.resolve_right hn) hv
  value {x} hx := by
    rw [value?_without, value?_without]
    split
    · rfl
    · next hn => exact h.value (hx.resolve_right hn)
  closed {x v} hx hv y hy := by
    obtain ⟨hn, hv⟩ := value?_of_value?_without hv
    exact Or.inl (h.closed (hx.resolve_right hn) hv y hy)
  ignoresLeft := h.ignoresLeft
  ignoresRight := h.ignoresRight

/-- Taking one name out keeps the names closed. -/
private theorem erase (h : s.AgreesApart m N t) (x : String) : (s.without [x]).AgreesApart m N (t.without [x]) := by
  have hw := h.without [x]
  refine ⟨fun hy => hw.left (Or.inl hy), fun hy => hw.value (Or.inl hy), fun hy hv => ?_, h.ignoresLeft,
    h.ignoresRight⟩
  exact h.closed hy (value?_of_value?_without hv).2

end AgreesApart

/-- What a value of the map asks for is not the instance, whatever is hidden. -/
private theorem isContext_eq_false (hm : m.IgnoresInstance s.context) (hx : m.get? x = some v) {inner : List String}
    {y : String} (hy : Site.name inner y ∈ v.sites []) : s.isContext y = false := by
  rcases hm with hc | hm
  · exact isContext_of_context_eq_empty hc y
  · have hne : ¬ s.context = y := by
      rintro rfl
      simp [VariableMap.mentions_of_site hx hy] at hm
    simp [isContext, hne]

/-- Scopes that agree apart from the instance correspond for every name that is neither instance. -/
private theorem correspondence_agreesApart (m : VariableMap) : Correspondence fun s t x =>
    (∃ N, s.AgreesApart m N t ∧ N x) ∧ s.isContext x = false ∧ t.isContext x = false where
  value := fun ⟨⟨_, h, hx⟩, _⟩ => h.value hx
  contextText := fun ⟨_, hs, ht⟩ => by simp [contextText, hs, ht]
  propertyText := fun ⟨_, hs, ht⟩ => Expr.propertyText_congr_of_not_isContext hs ht
  step := by
    rintro s t x v ⟨⟨N, h, hx⟩, -, -⟩ hv inner y hy
    have hm := h.left hx hv
    refine ⟨⟨_, (h.erase x).without inner, ?_⟩, ?_, ?_⟩
    · by_cases hi : y ∈ inner
      · exact Or.inr hi
      · exact Or.inl (h.closed hx hv y (v.sites_coveredBy [] inner y hy hi).1)
    · exact isContext_eq_false (s := (s.without [x]).without inner) h.ignoresLeft hm hy
    · exact isContext_eq_false (s := (t.without [x]).without inner) h.ignoresRight hm hy

/-- A variable is printed alike in scopes that agree apart from the instance. -/
theorem AgreesApart.render_ident (h : s.AgreesApart m N t) (hx : N x) (hv : s.value? x = some v) :
    (Expr.ident x).render (some s) = (Expr.ident x).render (some t) := by
  have hv' : t.value? x = some v := (h.value hx).symm.trans hv
  have halike := (correspondence_agreesApart m).answersAlike (Nat.le_refl s.vars.size) (Nat.le_refl t.vars.size)
    ⟨⟨N, h, hx⟩, isContext_eq_false_of_value hv, isContext_eq_false_of_value hv'⟩
  rw [Expr.render, Expr.render, Expr.renderWith, Expr.renderWith]
  exact halike.ident

end Scope

/-! ### Globals in the scope of the template -/

namespace Function

variable {f : Function} {s u : Scope} {keep : Bool} {globals : VariableMap} {g x : String} {e v : Expr}

theorem lookup_reverse_eq_none {l : List (String × Expr)} {names : List String} (hl : l.map (·.1) = names)
    (hx : x ∉ names) : l.reverse.lookup x = none := by
  rw [lookup_eq_none_iff_not_mem, List.map_reverse, List.mem_reverse, hl]
  exact hx

/-- A name that the function gives no meaning is left to the globals and the old scope, however deep its patterns
are. -/
theorem templateScope_value?_of_not_mem (hx : x ∉ f.ownNames s) :
    (f.templateScope s keep globals).value? x = (globals.get? x <|> s.value? x) := by
  rw [ownNames, List.mem_append, not_or] at hx
  rw [Scope.value?, templateScope, VariableMap.get?_insertAll, VariableMap.get?_insertAll, VariableMap.get?_merge,
    lookup_reverse_eq_none (parameterReadings_names f s keep) hx.2,
    lookup_reverse_eq_none (localReadings_names f) hx.1]
  rfl

/-- A function that can be gone through, resolved without variables.  A global is printed in its scope as in any scope
that has the globals as its variables, if the global comes to no name that the function gives a meaning and no global
mentions the instance of either scope. -/
theorem render_global_eq (he : f.body.result? = some e) (hr : f.isReadable s = true) (hs : s.vars = ∅)
    (hu : u.vars = globals) (hg : globals.get? g = some v)
    (hin : globals.IgnoresInstance (f.contextAfter s keep)) (hout : globals.IgnoresInstance u.context)
    (hown : ∀ x, u.Consults [g] x → x ∉ f.ownNames s) :
    ∃ t, f.resolve (some s) keep globals = .ok (some (.ofExpr e), some t) ∧
      (Expr.ident g).render (some t) = (Expr.ident g).render (some u) := by
  subst hu
  refine ⟨f.templateScope s keep u.vars, by simp [resolve, he, hr], ?_⟩
  have hvalue : ∀ x, u.Consults [g] x → (f.templateScope s keep u.vars).value? x = u.vars.get? x := by
    intro x hx
    rw [templateScope_value?_of_not_mem (hown x hx), Scope.value?, hs, VariableMap.get?_empty]
    cases u.vars.get? x <;> rfl
  have hcontext : (f.templateScope s keep u.vars).context = f.contextAfter s keep := templateContext_eq f s keep
  have hagrees : (f.templateScope s keep u.vars).AgreesApart u.vars (u.Consults [g]) u := by
    refine ⟨fun hx hv => ?_, fun hx => hvalue _ hx, fun {x v} hx hv y hy => ?_, hcontext ▸ hin, hout⟩
    · rwa [hvalue _ hx] at hv
    · rw [hvalue _ hx] at hv
      exact .step hx hv hy
  have hstart : u.Consults [g] g := .start (List.mem_singleton_self g)
  exact hagrees.render_ident hstart ((hvalue g hstart).trans hg)

/-- A global that comes to another global, and a local that neither of them comes to; each scope has an instance of
its own. -/
theorem render_global_eq_unshadowed :
    let f := Function.named "Card" [.ofTarget (.name "model")]
      ⟨[.constant (.name "c") (.ident "model"), .ret (some (.ident "g"))]⟩
    let s := Scope.ofContext "model"
    let globals := VariableMap.ofList [("g", .binary (.ident "h") "+" (.number "1")),
      ("h", .property (.ident "outer") "value" false), ("other", .ident "c")]
    let u := (Scope.ofContext "view").withVars globals
    (f.body.result? = some (.ident "g") ∧ f.isReadable s = true ∧ s.vars = ∅ ∧ u.vars = globals ∧
      (globals.get? "g").isSome ∧ globals.IgnoresInstance (f.contextAfter s true) ∧ globals.IgnoresInstance u.context ∧
      ∀ x, u.Consults ["g"] x → x ∉ f.ownNames s) ∧
    ∃ t, f.resolve (some s) true globals = .ok (some (.container (some (.ident "g"))), some t) ∧
      (Expr.ident "g").render (some t) = (Expr.ident "g").render (some u) := by
  intro f s globals u
  have he : f.body.result? = some (.ident "g") := rfl
  have hr : f.isReadable s = true := by decide
  have hg : globals.get? "g" = some (.binary (.ident "h") "+" (.number "1")) := rfl
  have hin : globals.IgnoresInstance (f.contextAfter s true) := by decide
  have hout : globals.IgnoresInstance u.context := by decide
  have hown : ∀ x, u.Consults ["g"] x → x ∉ f.ownNames s := by
    intro x hx
    have hforeign : ∀ y ∈ ["g", "h", "outer"], y ∉ f.ownNames s := by decide
    exact hforeign x (hx.mem_of_closed (by decide) (by decide))
  exact ⟨⟨he, hr, rfl, rfl, rfl, hin, hout, hown⟩, render_global_eq he hr rfl rfl hg hin hout hown⟩

/-- A local of the name that occurs in a global: the reference to the global is expanded to the local. -/
theorem global_expands_local :
    let f := Function.named "view" [.ofTarget (.name "model")]
      ⟨[.constant (.name "h") (.number "2"), .ret (some (.ident "g"))]⟩
    let globals := VariableMap.ofList [("g", .binary (.ident "h") "+" (.number "1"))]
    let u := (Scope.ofContext "").withVars globals
    ("g" ∉ f.boundNames ∧ globals.IgnoresInstance "model" ∧ globals.IgnoresInstance "") ∧
      ∃ m t, f.resolve (some default) false globals = .ok (some m, some t) ∧ t.context = "model" ∧
        (Expr.ident "g").render (some t) = "(2 + 1)" ∧ (Expr.ident "g").render (some u) = "(h + 1)" := by
  intro f globals u
  exact ⟨⟨by decide, by decide, by decide⟩, _, _, rfl, rfl, rfl, rfl⟩

end Function

end ViewTemplate
