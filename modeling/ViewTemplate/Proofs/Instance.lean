import ViewTemplate.Proofs.Blocks

/-!
# The name of the component instance

A function that binds the name of the component instance hides what a variable of that name stands for, but not the
instance: in its parameters and its body the name is still written as the new context, and its properties are read as
members.  So the function is printed as in a scope without an instance, whatever is written for the instance and whatever
members it has, only if printing it comes to that name nowhere (`Function.render_withInstance_iff`).
-/

namespace ViewTemplate

namespace Scope

variable {s t : Scope} {x w : String} {k : Nat}

/-- The scope with another instance: its name, what is written for it and its members. -/
def withInstance (s : Scope) (context : String) (newContext : Option String) (members : List Member) : Scope :=
  { s with context, newContext, members }

/-- The name `x` is that of the instance, whether or not a variable hides it. -/
def NamesInstance (s : Scope) (x : String) : Prop :=
  s.context = x ∧ x ≠ ""

theorem isContext_iff : s.isContext x = true ↔ s.NamesInstance x ∧ s.value? x = none := by
  have hcontains : s.vars.contains x = (s.value? x).isSome := VariableMap.contains_eq_isSome
  rw [NamesInstance, isContext, hcontains]
  simp only [Bool.and_eq_true, Bool.not_eq_true', String.isEmpty_eq_false_iff, beq_iff_eq, Option.isSome_eq_false_iff,
    Option.isNone_iff_eq_none]
  constructor
  · rintro ⟨⟨hne, rfl⟩, hv⟩
    exact ⟨⟨rfl, hne⟩, hv⟩
  · rintro ⟨⟨rfl, hne⟩, hv⟩
    exact ⟨⟨hne, rfl⟩, hv⟩

/-- A scope differs from one with the same values and without an instance only at the name of its instance. -/
theorem differOnlyAt_namesInstance :
    DifferOnlyAt NamesInstance fun s t => t.context = "" ∧ ∀ x, s.value? x = t.value? x where
  without names h := ⟨h.1, fun x => by rw [value?_without, value?_without, h.2]⟩
  value h _ := h.2 _
  sameInstance {s t x} h hx := by
    refine Or.inr ⟨?_, isContext_of_context_eq_empty h.1 x⟩
    rw [Bool.eq_false_iff]
    exact fun hs => hx (isContext_iff.1 hs).1
  erase h := h

theorem not_comesTo_namesInstance (hc : s.context = "") (x : String) : ¬ s.ComesTo NamesInstance x := by
  intro hx
  induction hx with
  | here h => exact h.2 (h.1.symm.trans hc)
  | value _ _ _ _ ih => exact ih hc

/-- Where the name of the instance is not hidden, what is written for the instance is shown. -/
theorem shows_newContext (hx : s.isContext x = true) (hn : s.newContext = some w) (hw : w ≠ "") (hm : s.members = []) :
    (Expansion.upTo k).Shows (some s) w x := by
  have hv := (isContext_iff.1 hx).2
  have hempty : w.isEmpty = false := String.isEmpty_eq_false_iff.2 hw
  refine ⟨?_, fun text name optional _ => ?_, fun text h => ?_⟩
  · simp only [Expansion.identText, hv, contextText, hx, if_true, hn, hempty, if_neg Bool.false_ne_true]
    exact Text.contains_self w
  · simp only [Expr.propertyText_ident, hx, if_true, memberAccess, member?, hm, memberNamed?, List.find?_nil,
      effectiveContext, hn, Option.getD_some, hempty, if_neg Bool.false_ne_true]
    exact (Text.contains_append_left w ".").before name
  · rw [ResolvedTag.ofText]
    split
    · exact h
    · simp only [Expr.replacement?, Expr.ident?, Option.bind_some, hv, Option.map_none]
      exact h

end Scope

section

variable {s : Scope} {n : Node}

/-- What comes to the name of the instance nowhere is printed as without an instance. -/
theorem Node.render_withInstance_empty (h : ¬ n.ComesTo Scope.NamesInstance s) (newContext : Option String)
    (members : List Member) : n.render (some s) = n.render (some (s.withInstance "" newContext members)) :=
  n.render_eq_of_not_comesTo Scope.differOnlyAt_namesInstance ⟨rfl, fun _ => rfl⟩ h

/-- What comes to the name of the instance does so whatever is written for the instance and whatever members it has. -/
private theorem Node.ComesTo.of_withInstance {newContext : Option String} {members : List Member}
    (h : n.ComesTo Scope.NamesInstance (s.withInstance s.context newContext members)) :
    n.ComesTo Scope.NamesInstance s := by
  refine h.transfer (R := fun u t => u.context = t.context ∧ u.vars = t.vars) ?_ ?_ ?_ ⟨rfl, rfl⟩
  · exact fun names hut => ⟨hut.1, congrArg (·.eraseAll names) hut.2⟩
  · exact fun x hut => congrArg (·.get? x) hut.2
  · exact fun x hut hx => ⟨hut.1 ▸ hx.1, hx.2⟩

/-- Where no variable hides the name of the instance, what comes to this name comes to a place where the new context is
written. -/
private theorem Node.ComesTo.withNewContext (h : n.ComesTo Scope.NamesInstance s) (hv : s.value? s.context = none)
    (w : String) :
    n.ComesTo (fun t x => t.isContext x = true ∧ t.newContext = some w ∧ t.members = [])
      (s.withInstance s.context (some w) []) := by
  refine h.transfer (R := fun u t => u.value? u.context = none ∧ t = u.withInstance u.context (some w) []) ?_ ?_ ?_
    ⟨hv, rfl⟩
  · rintro u _ names ⟨hu, rfl⟩
    have hnone : (u.without names).value? u.context = none := by
      rw [Scope.value?_without, hu, ite_self]
    exact ⟨hnone, rfl⟩
  · rintro u _ x ⟨-, rfl⟩
    rfl
  · rintro u _ x ⟨hu, rfl⟩ hx
    exact ⟨Scope.isContext_iff.2 ⟨hx, hx.1 ▸ hu⟩, rfl, rfl⟩

/-- Where no variable hides the name of the instance, a piece of syntax is printed as without an instance, whatever is
written for the instance and whatever members it has, exactly if printing it does not come to that name. -/
theorem Node.render_withInstance_iff_not_comesTo (hv : s.value? s.context = none) (n : Node) :
    (∀ newContext members, n.render (some (s.withInstance s.context newContext members)) =
      n.render (some (s.withInstance "" newContext members))) ↔ ¬ n.ComesTo Scope.NamesInstance s := by
  constructor
  · intro h hcomes
    -- any text can be written for the instance, and without an instance none of it is
    refine Text.not_forall_contains (n.render (some (s.withInstance "" none []))) fun w hw => ?_
    have hempty : ¬ n.ComesTo Scope.NamesInstance (s.withInstance "" (some w) []) := by
      rintro ⟨_, x, _, hx⟩
      exact Scope.not_comesTo_namesInstance rfl x hx
    have hsame := n.render_withInstance_empty hempty none []
    have hcontains : Text.Contains w (n.render (some (s.withInstance s.context (some w) []))) :=
      n.contains_of_comesTo (hcomes.withNewContext hv w) fun t x _ hx _ =>
        Scope.shows_newContext hx.1 hx.2.1 hw hx.2.2
    rw [h, hsame] at hcontains
    exact hcontains
  · intro h newContext members
    exact n.render_withInstance_empty (fun hcomes => h hcomes.of_withInstance) newContext members

/-- A function that binds the name of the instance is printed as without an instance, whatever is written for the instance
and whatever members it has, exactly if printing it does not come to that name. -/
theorem Function.render_withInstance_iff {f : Function} (hb : s.context ∈ f.boundNames)
    (hf : f.form.lookups = []) :
    (∀ newContext members, f.render (some (s.withInstance s.context newContext members)) =
      f.render (some (s.withInstance "" newContext members))) ↔
      ¬ (Node.function f).ComesTo Scope.NamesInstance (s.without f.boundNames) := by
  have hv : (s.without f.boundNames).value? s.context = none := by rw [Scope.value?_without, if_pos hb]
  -- in the scope without what the function binds no variable hides the instance
  rw [← Node.render_withInstance_iff_not_comesTo (s := s.without f.boundNames) hv]
  have hrender (context : String) (newContext : Option String) (members : List Member) :
      f.render (some (s.withInstance context newContext members)) =
        (Node.function f).render (some ((s.without f.boundNames).withInstance context newContext members)) :=
    f.render_without hf (List.Subset.refl _) (s.withInstance context newContext members)
  simp only [hrender]
  exact Iff.rfl

/-- A function that binds the name and uses another. -/
theorem Function.render_withInstance_of_unused :
    let f := Function.arrow [.ofTarget (.name "model")] (.expr (.ident "label"))
    let s := (Scope.ofContext "model").withVars (.ofList [("label", .string "x")])
    (s.context ∈ f.boundNames ∧ f.form.lookups = []) ∧
      ∀ newContext members, f.render (some (s.withInstance s.context newContext members)) =
        f.render (some (s.withInstance "" newContext members)) := by
  intro f s
  have hb : s.context ∈ f.boundNames := by decide
  refine ⟨⟨hb, rfl⟩, (Function.render_withInstance_iff hb rfl).2 ?_⟩
  rintro ⟨inner, x, hsite, hx⟩
  rw [show (Node.function f).sites = [.name ["model"] "label"] from rfl, List.mem_singleton, Site.name.injEq] at hsite
  obtain ⟨rfl, rfl⟩ := hsite
  cases hx with
  | here h => exact absurd h.1 (by decide)
  | @value _ _ y v inner hv _ hy _ =>
    cases (show some (Expr.string "x") = some v from hv)
    exact absurd hy (by simp [Expr.sites])

/-- The new context is written for a parameter that has the name of the instance. -/
theorem Function.render_parameter_as_newContext :
    let f := Function.arrow [.ofTarget (.name "model")] (.expr (.property (.ident "model") "text" false))
    let s := { Scope.ofContext "model" with newContext := some "this" }
    s.context ∈ f.boundNames ∧ f.render (some s) = "(model) => this.text" ∧
      f.render (some { s with context := "" }) = "(model) => model.text" := by
  intro f s
  exact ⟨by decide, by decide, by decide⟩

end

end ViewTemplate
