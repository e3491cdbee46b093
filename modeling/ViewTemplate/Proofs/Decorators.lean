import ViewTemplate.Proofs.Blocks
import ViewTemplate.Proofs.Replaced.Names
import ViewTemplate.Proofs.Syntax.Asked

/-!
# Names in decorators

A decorator is printed with its parameter or its function, so what it names is looked up like anything else; but the free
names of a parameter and of a function leave decorators out.  Taking a variable out of the scope changes no text if
printing does not come to the variable from the names that are looked up (`Node.render_without_of_not_consults`).  The
free names may stand for these exactly if they contain them (`Node.dependsOnFreeNames_iff`), so with decorators exactly
if what these name is also named elsewhere (`decorated_dependsOnFreeNames_iff`).
-/

namespace ViewTemplate

/-- The parameter without its decorators. -/
def Parameter.undecorated (p : Parameter) : Parameter :=
  { p with decorators := [] }

namespace FunctionForm

/-- The decorators of a function. -/
def decorators : FunctionForm → List Expr
  | .keyword decorators _ _ => decorators
  | .arrow => []

/-- What introduces the function, without its decorators. -/
def undecorated : FunctionForm → FunctionForm
  | .keyword _ generator name => .keyword [] generator name
  | .arrow => .arrow

end FunctionForm

/-- The function without its decorators and those of its parameters. -/
def Function.undecorated (f : Function) : Function :=
  { f with form := f.form.undecorated, parameters := f.parameters.map Parameter.undecorated }

/-! ### Names that printing does not come to -/

section

variable {s : Scope} {n : Node} {x : String} {names names' : List String}

theorem Scope.agrees_without (h : ¬ s.Consults names x) : s.Agrees (s.Consults names) (s.without [x]) := by
  refine ⟨⟨rfl, rfl, rfl⟩, fun {y} hy => ?_, fun hy hv z hz => .step hy hv hz⟩
  have hyx : y ∉ [x] := fun hmem => h (List.mem_singleton.1 hmem ▸ hy)
  rw [value?_without, if_neg hyx]

/-- A variable that printing does not come to may as well be missing. -/
theorem Node.render_without_of_not_consults (h : ¬ s.Consults n.lookups x) :
    n.render (some s) = n.render (some (s.without [x])) :=
  render_eq_of_agrees (Scope.agrees_without h) fun _ hy => .start hy

/-- Where values look up free names only, printing comes to no more names than the free names lead to. -/
theorem Scope.Consults.reaches (hs : s.vars.every .flat = true) (hn : names ⊆ names') (h : s.Consults names x) :
    s.Reaches names' x := by
  induction h with
  | start hx => exact .start (hn hx)
  | @step x y v _ hv hx ih => exact .step ih hv (v.lookups_subset (VariableMap.every_of_get? hs hv) hx)

/-- The text depends on nothing but the free names and what they lead to: taking any other variable out of a scope
changes nothing, as long as the values have neither decorators nor blocks inside blocks. -/
def Node.DependsOnFreeNames (n : Node) : Prop :=
  ∀ (s : Scope) (x : String), s.vars.every .flat = true → ¬ s.Reaches n.freeNames x →
    n.render (some s) = n.render (some (s.without [x]))

/-- The text depends on nothing but the free names exactly if all names that are looked up are free. -/
theorem Node.dependsOnFreeNames_iff : n.DependsOnFreeNames ↔ n.lookups ⊆ n.freeNames := by
  constructor
  · intro h x hx
    refine Decidable.byContradiction fun hfree => ?_
    obtain ⟨inner, hsite, hinner⟩ := mem_lookups_iff.1 hx
    let scope (w : String) : Scope := (Scope.ofContext "").withVars (.ofList [(x, .verbatim w)])
    have hvalue (w y : String) : (scope w).value? y = if y = x then some (.verbatim w) else none := by
      rw [show (scope w).value? y = List.lookup y [(x, .verbatim w)] from VariableMap.get?_ofList _, lookup_cons_ite]
      rfl
    have hreaches (w : String) : ¬ (scope w).Reaches n.freeNames x := by
      refine fun hr => hfree (hr.mem_of_closed (List.Subset.refl _) fun y hy v hv => ?_)
      have hyx : y ≠ x := fun h => hfree (h ▸ hy)
      rw [hvalue, if_neg hyx] at hv
      cases hv
    -- any text can be written for the name, and none of it is left without the name
    refine Text.not_forall_contains (n.render (some ((scope "").without [x]))) fun w _ => ?_
    have hcomes : n.ComesTo (fun t y => t.value? y = some (.verbatim w)) (scope w) := by
      refine ⟨inner, x, hsite, .here ?_⟩
      rw [Scope.value?_without, if_neg hinner, hvalue, if_pos rfl]
    have hgone (y : String) : ((scope "").without [x]).value? y = ((scope w).without [x]).value? y := by
      by_cases hyx : y = x <;> simp [Scope.value?_without, hvalue, hyx]
    have hflat : (scope w).vars.every .flat = true := rfl
    have hsame : ((scope "").without [x]).SameInstance ((scope w).without [x]) := ⟨rfl, rfl, rfl⟩
    rw [n.render_congr hsame hgone, ← h (scope w) x hflat (hreaches w)]
    exact n.contains_verbatim hcomes
  · intro h s x hs hx
    exact render_without_of_not_consults fun hc => hx (hc.reaches hs h)

end

/-! ### What decorators look up -/

theorem mem_lookupsOfExprs {x : String} (es : List Expr) : x ∈ lookupsOfExprs es ↔ ∃ e ∈ es, x ∈ e.lookups := by
  induction es with
  | nil => simp [lookupsOfExprs]
  | cons e es ih => simp [lookupsOfExprs, ih]

/-- Without decorators and inner blocks, an expression looks up exactly its free names. -/
theorem Expr.mem_lookups_iff {e : Expr} (he : e.every .flat = true) {x : String} : x ∈ e.lookups ↔ x ∈ e.freeNames := by
  refine ⟨fun hx => e.lookups_subset he hx, fun hx => ?_⟩
  have haccounts := e.accounts Replacement.keep_keepsTagNames []
  rw [e.replaceWith_keep] at haccounts
  obtain ⟨inner, z, hz, hxz, hn⟩ := haccounts.yields x hx List.not_mem_nil
  obtain rfl : x = z := List.mem_singleton.1 hxz
  exact (e.sites_coveredBy [] inner x hz hn).1

namespace Parameter

/-- The free names are those of the parameter without decorators. -/
theorem freeNames_undecorated (p : Parameter) : p.undecorated.freeNames = p.freeNames := by
  obtain ⟨decorators, modifiers, rest, target, optional, type, fallback⟩ := p
  rw [undecorated, freeNames, freeNames]

theorem mem_lookups {x : String} (p : Parameter) :
    x ∈ p.lookups ↔ (∃ e ∈ p.decorators, x ∈ e.lookups) ∨ x ∈ p.undecorated.lookups := by
  obtain ⟨decorators, modifiers, rest, target, optional, type, fallback⟩ := p
  simp [undecorated, lookups, mem_lookupsOfExprs, lookupsOfExprs]

theorem lookups_subset_iff {p : Parameter} (hp : p.undecorated.every .flat = true) :
    p.lookups ⊆ p.freeNames ↔ ∀ e ∈ p.decorators, e.lookups ⊆ p.freeNames := by
  constructor
  · intro h e he x hx
    exact h (p.mem_lookups.2 (Or.inl ⟨e, he, hx⟩))
  · intro h x hx
    rcases p.mem_lookups.1 hx with ⟨e, he, hx⟩ | hx
    · exact h e he hx
    · rw [← p.freeNames_undecorated]
      exact p.undecorated.lookups_subset hp hx

end Parameter

theorem mem_lookupsOfParameters {x : String} (ps : List Parameter) :
    x ∈ lookupsOfParameters ps ↔
      (∃ p ∈ ps, ∃ e ∈ p.decorators, x ∈ e.lookups) ∨ x ∈ lookupsOfParameters (ps.map Parameter.undecorated) := by
  induction ps with
  | nil => simp [lookupsOfParameters]
  | cons p ps ih =>
    simp only [lookupsOfParameters, List.map_cons, List.mem_append, List.mem_cons, exists_eq_or_imp, ih, p.mem_lookups]
    exact or_or_or_comm

theorem freeNamesOfParameters_undecorated (ps : List Parameter) :
    freeNamesOfParameters (ps.map Parameter.undecorated) = freeNamesOfParameters ps := by
  induction ps with
  | nil => rfl
  | cons p ps ih => rw [List.map_cons, freeNamesOfParameters, freeNamesOfParameters, ih, p.freeNames_undecorated]

namespace Function

theorem boundNames_undecorated (f : Function) : f.undecorated.boundNames = f.boundNames := by
  rw [boundNames, boundNames, undecorated, List.flatMap_map]
  rfl

/-- The free names are those of the function without decorators. -/
theorem freeNames_undecorated (f : Function) : f.undecorated.freeNames = f.freeNames := by
  have hbound := f.boundNames_undecorated
  obtain ⟨form, modifiers, typeParameters, parameters, returnType, body⟩ := f
  rw [undecorated] at hbound ⊢
  rw [freeNames, freeNames, hbound, freeNamesOfParameters_undecorated]

/-- A function looks up what its own decorators look up, and what those of its parameters do unless it binds it. -/
theorem mem_lookups {x : String} (f : Function) :
    x ∈ f.lookups ↔ (∃ e ∈ f.form.decorators, x ∈ e.lookups) ∨
      (∃ p ∈ f.parameters, ∃ e ∈ p.decorators, x ∈ withoutNames f.boundNames e.lookups) ∨
      x ∈ f.undecorated.lookups := by
  have hbound := f.boundNames_undecorated
  obtain ⟨form, modifiers, typeParameters, parameters, returnType, body⟩ := f
  have hform : x ∈ form.lookups ↔ ∃ e ∈ form.decorators, x ∈ e.lookups := by
    cases form <;> simp [FunctionForm.lookups, FunctionForm.decorators, mem_lookupsOfExprs]
  have hnone : form.undecorated.lookups = [] := by
    cases form <;> simp [FunctionForm.lookups, FunctionForm.undecorated, lookupsOfExprs]
  rw [undecorated] at hbound ⊢
  rw [lookups, lookups, hbound, hnone]
  simp only [List.mem_append, mem_withoutNames, hform, mem_lookupsOfParameters parameters]
  grind

theorem lookups_subset_iff {f : Function} (hf : f.undecorated.every .flat = true) :
    f.lookups ⊆ f.freeNames ↔ (∀ e ∈ f.form.decorators, e.lookups ⊆ f.freeNames) ∧
      ∀ p ∈ f.parameters, ∀ e ∈ p.decorators, withoutNames f.boundNames e.lookups ⊆ f.freeNames := by
  constructor
  · intro h
    exact ⟨fun e he x hx => h (f.mem_lookups.2 (Or.inl ⟨e, he, hx⟩)),
      fun p hp e he x hx => h (f.mem_lookups.2 (Or.inr (Or.inl ⟨p, hp, e, he, hx⟩)))⟩
  · rintro ⟨hform, hparameters⟩ x hx
    rcases f.mem_lookups.1 hx with ⟨e, he, hx⟩ | ⟨p, hp, e, he, hx⟩ | hx
    · exact hform e he hx
    · exact hparameters p hp e he hx
    · rw [← f.freeNames_undecorated]
      exact f.undecorated.lookups_subset hf hx

end Function

/-- Decorators add nothing to the free names of parameters and functions.  So where these are flat but for their
decorators, their texts depend on nothing but the free names exactly if the decorators look up free names only; those of
parameters may also look up what the function binds, its own may not.  A flat decorator looks up its free names, and in
any case no text depends on more than what is looked up leads to. -/
theorem decorated_dependsOnFreeNames_iff (p : Parameter) (f : Function) (e : Expr) (n : Node) (s : Scope) (x : String) :
    (p.undecorated.every .flat = true → p.freeNames = p.undecorated.freeNames ∧
      ((Node.parameter p).DependsOnFreeNames ↔ ∀ d ∈ p.decorators, d.lookups ⊆ p.freeNames)) ∧
    (f.undecorated.every .flat = true → f.freeNames = f.undecorated.freeNames ∧
      ((Node.function f).DependsOnFreeNames ↔ (∀ d ∈ f.form.decorators, d.lookups ⊆ f.freeNames) ∧
        ∀ q ∈ f.parameters, ∀ d ∈ q.decorators, withoutNames f.boundNames d.lookups ⊆ f.freeNames)) ∧
    (e.every .flat = true → ∀ y, y ∈ e.lookups ↔ y ∈ e.freeNames) ∧
    (¬ s.Consults n.lookups x → n.render (some s) = n.render (some (s.without [x]))) := by
  refine ⟨fun hp => ⟨p.freeNames_undecorated.symm, ?_⟩, fun hf => ⟨f.freeNames_undecorated.symm, ?_⟩,
    fun he _ => e.mem_lookups_iff he, Node.render_without_of_not_consults⟩
  · rw [Node.dependsOnFreeNames_iff]
    exact Parameter.lookups_subset_iff hp
  · rw [Node.dependsOnFreeNames_iff]
    exact Function.lookups_subset_iff hf

/-- Decorators that look up what is looked up elsewhere, too. -/
theorem decorated_dependsOnFreeNames_iff_repeated :
    let inject : Expr := .call (.ident "inject") [.ident "log"]
    let p : Parameter := ⟨[inject], [], false, .name "model", false, none, some inject⟩
    let f : Function := ⟨.keyword [.ident "log"] false (some "view"), [], [], [p], none, .block ⟨[]⟩⟩
    let s := (Scope.ofContext "").withVars
      (.ofList [("log", .property (.ident "this") "log" false), ("spare", .ident "log")])
    (p.undecorated.every .flat = true ∧ f.undecorated.every .flat = true ∧ inject.every .flat = true ∧
        ¬ s.Consults (Node.function f).lookups "spare") ∧
      (Node.parameter p).DependsOnFreeNames ∧ (Node.function f).DependsOnFreeNames ∧
      ("log" ∈ inject.lookups ↔ "log" ∈ inject.freeNames) ∧
      (Node.function f).render (some s) = (Node.function f).render (some (s.without ["spare"])) := by
  intro inject p f s
  have hp : p.undecorated.every .flat = true := by decide
  have hf : f.undecorated.every .flat = true := by decide
  have he : inject.every .flat = true := by decide
  have hx : ¬ s.Consults (Node.function f).lookups "spare" := by
    intro hx
    have hmem : "spare" ∈ ["log", "inject", "this"] := hx.mem_of_closed (by decide) (by decide)
    exact absurd hmem (by decide)
  obtain ⟨hparameter, hfunction, hexpr, hnode⟩ := decorated_dependsOnFreeNames_iff p f inject (.function f) s "spare"
  exact ⟨⟨hp, hf, he, hx⟩, (hparameter hp).2.2 (by decide), (hfunction hf).2.2 (by decide), hexpr he "log", hnode hx⟩

/-- What a function's decorator alone names is printed, but it is not free. -/
theorem Function.decorator_not_free :
    let f : Function := ⟨.keyword [.ident "log"] false (some "view"), [], [], [], none, .block ⟨[]⟩⟩
    let s := (Scope.ofContext "").withVars (.ofList [("log", .property (.ident "this") "log" false)])
    (Node.decorator (.ident "log")).freeNames = ["log"] ∧ "log" ∉ f.boundNames ∧ f.freeNames = [] ∧
      ¬ s.Reaches f.freeNames "log" ∧
      (Node.function f).render (some s) = "@this.log\nfunction view() " ++ Text.braced "" ∧
      (Node.function f).render (some (s.without ["log"])) = "@log\nfunction view() " ++ Text.braced "" := by
  intro f s
  have hreaches : ¬ s.Reaches f.freeNames "log" := by
    intro hx
    have hmem : "log" ∈ ([] : List String) := hx.mem_of_closed (by decide) (by decide)
    exact List.not_mem_nil hmem
  exact ⟨rfl, by decide, by decide, hreaches, by decide, by decide⟩

end ViewTemplate
