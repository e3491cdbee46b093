import ViewTemplate.Proofs.Render.Matching

/-!
# What printing can see

Two scopes agree on a set of names if they describe the same component instance and give these names the same
values, and the set contains every name that such a value looks up.  Printing replaces a variable in the scope
without it, so both scopes shrink together, and the expansions for as many variables as they have match
(`Expansion.upTo_matches`): at the sites of a value the scopes still agree.

So more expansions than variables change nothing (`Node.renderWith_upTo`), the order of the variables does not
matter (`Node.render_congr`), and where every name that is looked up is free, the text depends only on what the
scope says about the names that can be reached from the free ones (`Node.render_eq_of_reaches`).
-/

namespace ViewTemplate

/-- The scopes describe the same instance and agree on what the names in `N` stand for, and values of these names
look up no other names. -/
structure Scope.Agrees (N : String → Prop) (s t : Scope) : Prop extends Scope.SameInstance s t where
  value {x} : N x → s.value? x = t.value? x
  closed {x v} : N x → s.value? x = some v → ∀ y ∈ v.lookups, N y

namespace Scope.Agrees

variable {N : String → Prop} {s t : Scope} {x : String}

theorem refl (s : Scope) : s.Agrees (fun _ => True) s :=
  ⟨.refl s, fun _ => rfl, fun _ _ _ _ => trivial⟩

/-- Hidden names have no value in either scope. -/
theorem without (h : s.Agrees N t) (names : List String) :
    (s.without names).Agrees (fun x => N x ∨ x ∈ names) (t.without names) where
  toSameInstance := h.toSameInstance.without names
  value {x} hx := by
    rw [value?_without, value?_without]
    split
    · rfl
    · next hn => exact h.value (hx.resolve_right hn)
  closed {x v} hx hv y hy := by
    obtain ⟨hn, hv⟩ := value?_of_value?_without hv
    exact Or.inl (h.closed (hx.resolve_right hn) hv y hy)

/-- Taking one name out keeps the names closed. -/
theorem erase (h : s.Agrees N t) (x : String) : (s.without [x]).Agrees N (t.without [x]) := by
  have hw := h.without [x]
  refine ⟨hw.toSameInstance, fun hy => hw.value (Or.inl hy), fun hy hv => ?_⟩
  exact h.closed hy (value?_of_value?_without hv).2

theorem propertyText (h : s.Agrees N t) (hx : N x) (text name : String) (optional : Bool) :
    (Expr.ident x).propertyText (some s) text name optional =
      (Expr.ident x).propertyText (some t) text name optional := by
  rw [Expr.propertyText_ident, Expr.propertyText_ident, h.toSameInstance.isContext (h.value hx),
    h.toSameInstance.memberAccess]

end Scope.Agrees

/-! ### Expansions match while the scopes shrink -/

/-- The scopes agree, and `n` and `m` bound their variables. -/
def Scope.AgreesUpTo (n m : Nat) (N : String → Prop) (s s' : Option Scope) : Prop :=
  ∃ t t', s = some t ∧ s' = some t' ∧ t.vars.size ≤ n ∧ t'.vars.size ≤ m ∧ t.Agrees N t'

section

variable {N : String → Prop} {s t : Scope}

/-- Scopes that agree on a closed set of names correspond for each of them: at a site of its value a name is looked up
by the value or hidden in both scopes. -/
theorem correspondence_agrees : Scope.Correspondence fun s t x => ∃ N, s.Agrees N t ∧ N x where
  value := fun ⟨_, h, hx⟩ => h.value hx
  contextText := fun ⟨_, h, hx⟩ => h.toSameInstance.contextText (h.value hx)
  propertyText := fun ⟨_, h, hx⟩ => h.propertyText hx
  step := by
    rintro s t x v ⟨N, h, hx⟩ hv inner y hy
    refine ⟨_, (h.erase x).without inner, ?_⟩
    by_cases hi : y ∈ inner
    · exact Or.inr hi
    · exact Or.inl (h.closed hx hv y (v.sites_coveredBy [] inner y hy hi).1)

/-- Expansions for enough variables match in scopes that agree. -/
theorem Expansion.upTo_matches (n m : Nat) : (upTo n).Matches (.upTo m) (Scope.AgreesUpTo n m) := by
  have halike : ∀ (N : String → Prop) (s t : Scope) (x : String), s.vars.size ≤ n → t.vars.size ≤ m → s.Agrees N t →
      N x → (upTo n).AnswersAlike (upTo m) (some s) (some t) x :=
    fun N s t x hs ht h hx => correspondence_agrees.answersAlike hs ht ⟨N, h, hx⟩
  refine ⟨?_, ?_, ?_, ?_⟩
  · rintro N _ _ x ⟨s, t, rfl, rfl, hs, ht, h⟩ hx
    exact (halike N s t x hs ht h hx).ident
  · rintro N _ _ x ⟨s, t, rfl, rfl, hs, ht, h⟩ hx
    exact (halike N s t x hs ht h hx).property
  · rintro N _ _ x ⟨s, t, rfl, rfl, hs, ht, h⟩ hx
    exact (halike N s t x hs ht h hx).tag
  · rintro N _ _ names ⟨s, t, rfl, rfl, hs, ht, h⟩
    have hs' := s.size_without_le names
    have ht' := t.size_without_le names
    exact ⟨s.without names, t.without names, rfl, rfl, by omega, by omega, h.without names⟩

theorem Scope.Agrees.upToSize (h : s.Agrees N t) : AgreesUpTo s.vars.size t.vars.size N (some s) (some t) :=
  ⟨s, t, rfl, rfl, Nat.le_refl _, Nat.le_refl _, h⟩

end

/-! ### What the text depends on -/

namespace Node

variable {N : String → Prop} {s t : Scope} {n : Node}

/-- Scopes that agree on the names a piece of syntax looks up print the same text. -/
theorem render_eq_of_agrees (h : s.Agrees N t) (hn : ∀ x ∈ n.lookups, N x) : n.render (some s) = n.render (some t) :=
  n.renderWith_congr (Expansion.upTo_matches _ _) h.upToSize hn

/-- More expansions than variables change nothing. -/
theorem renderWith_upTo {k : Nat} (hk : s.vars.size ≤ k) (n : Node) :
    n.renderWith (.upTo k) (some s) = n.render (some s) :=
  n.renderWith_congr (Expansion.upTo_matches k s.vars.size)
    ⟨s, s, rfl, rfl, hk, Nat.le_refl _, Scope.Agrees.refl s⟩ fun _ _ => trivial

/-- The text depends on what the names stand for, not on the order of the variables. -/
theorem render_congr (h : s.SameInstance t) (hv : ∀ x, s.value? x = t.value? x) (n : Node) :
    n.render (some s) = n.render (some t) :=
  render_eq_of_agrees (N := fun _ => True) ⟨h, fun _ => hv _, fun _ _ _ _ => trivial⟩ fun _ _ => trivial

end Node

/-- A variable is printed as its value in the scope without the variable, in parentheses unless the value is
primary. -/
theorem Expr.render_ident_of_value? {s : Scope} {x : String} {v : Expr} (hv : s.value? x = some v)
    (hself : v.ident? ≠ some x) : (Expr.ident x).render (some s) = v.operandText (v.render (some (s.without [x]))) := by
  have hlt := Scope.size_without_lt hv
  have hwithin : Expansion.within (some s) = .upTo ((s.vars.size - 1) + 1) := congrArg Expansion.upTo (by
    show s.vars.size = _
    omega)
  have hinner := Node.renderWith_upTo (s := s.without [x]) (k := s.vars.size - 1) (by omega) (.expr v)
  rw [Expr.render, Expr.renderWith, hwithin, Expansion.identText]
  simp only [hv, if_neg hself]
  exact congrArg v.operandText hinner

/-- The names that printing can come to from `names`: these themselves, and the free names of what a name that it
comes to stands for. -/
inductive Scope.Reaches (s : Scope) (names : List String) : String → Prop where
  | start {x : String} (h : x ∈ names) : s.Reaches names x
  | step {x y : String} {v : Expr} (h : s.Reaches names y) (hv : s.value? y = some v) (hx : x ∈ v.freeNames) :
    s.Reaches names x

/-- Names that contain the free names of what they stand for are never left. -/
theorem Scope.Reaches.mem_of_closed {s : Scope} {names closed : List String} (hs : names ⊆ closed)
    (hc : ∀ y ∈ closed, ∀ v ∈ s.value? y, v.freeNames ⊆ closed) {x : String} (h : s.Reaches names x) :
    x ∈ closed := by
  induction h with
  | start hx => exact hs hx
  | step _ hv hx ih => exact hc _ ih _ hv hx

/-- Without decorators and blocks inside blocks, the text depends only on what the scope says about the names that
printing can come to from the free names. -/
theorem Node.render_eq_of_reaches {s t : Scope} {n : Node} (hb : n.isBlock = false) (hn : n.every .flat = true)
    (hs : s.vars.every .flat = true) (h : s.SameInstance t)
    (hv : ∀ x, s.Reaches n.freeNames x → s.value? x = t.value? x) : n.render (some s) = n.render (some t) := by
  have hagrees : s.Agrees (s.Reaches n.freeNames) t := by
    refine ⟨h, fun hx => hv _ hx, fun {x v} hx hxv y hy => ?_⟩
    exact .step hx hxv (v.lookups_subset (VariableMap.every_of_get? hs hxv) hy)
  exact render_eq_of_agrees hagrees fun x hx => .start (n.lookups_subset hb hn hx)

/-- The variables in another order, without one that nothing comes to and with one that a parameter hides. -/
theorem Node.render_eq_of_reaches_reordered :
    let n := Node.expr (.function (.arrow [.ofTarget (.name "p")] (.expr (.binary (.ident "a") "+" (.ident "p")))))
    let s := (Scope.ofContext "model").withVars
      (.ofList [("a", .property (.ident "b") "c" false), ("b", .string "x"), ("z", .ident "a")])
    let t := (Scope.ofContext "model").withVars
      (.ofList [("p", .ident "z"), ("b", .string "x"), ("a", .property (.ident "b") "c" false)])
    (n.isBlock = false ∧ n.every .flat = true ∧ s.vars.every .flat = true ∧ s.SameInstance t ∧
      ∀ x, s.Reaches n.freeNames x → s.value? x = t.value? x) ∧
      n.render (some s) = n.render (some t) := by
  intro n s t
  have hn : n.every .flat = true := by decide
  have hs : s.vars.every .flat = true := by decide
  have hst : s.SameInstance t := ⟨rfl, rfl, rfl⟩
  have hv : ∀ x, s.Reaches n.freeNames x → s.value? x = t.value? x := by
    intro x hx
    have hab : x ∈ ["a", "b"] := hx.mem_of_closed (by decide) (by decide)
    rcases show x = "a" ∨ x = "b" by simpa using hab with rfl | rfl <;> rfl
  exact ⟨⟨rfl, hn, hs, hst, hv⟩, render_eq_of_reaches rfl hn hs hst hv⟩

end ViewTemplate
