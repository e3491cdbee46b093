import ViewTemplate.Proofs.Render.Agreement
import ViewTemplate.Proofs.Render.Shown
import ViewTemplate.Proofs.Render.Substitution

/-!
# What printing comes to

Printing asks a scope about the names at the sites, and what it finds there is printed in turn: the value of a variable
in the scope without it, and without the names that functions in the value bind.  `Scope.ComesTo` follows this exactly,
with the scope that is asked, so it also tells whether a name still has its meaning where printing comes to it.

Two scopes that differ only for some names print alike what does not come to one of these names
(`Node.render_eq_of_not_comesTo`), and a text that is written for such a name is part of the text of whatever comes to
it (`Node.contains_of_comesTo`).
-/

namespace ViewTemplate

/-- Printing the name `x` in the scope `s` comes to a name for which `p` holds in the scope that is asked about it:
`x` itself, or a name that printing the value of `x` comes to. -/
inductive Scope.ComesTo (p : Scope → String → Prop) : Scope → String → Prop where
  | here {s : Scope} {x : String} (h : p s x) : ComesTo p s x
  | value {s : Scope} {x y : String} {v : Expr} {inner : List String} (hv : s.value? x = some v)
    (hself : v.ident? ≠ some x) (hy : Site.name inner y ∈ v.sites [])
    (h : ComesTo p ((s.without [x]).without inner) y) : ComesTo p s x

/-- Printing a piece of syntax in the scope `s` comes to a name for which `p` holds. -/
def Node.ComesTo (p : Scope → String → Prop) (s : Scope) (n : Node) : Prop :=
  ∃ inner x, Site.name inner x ∈ n.sites ∧ (s.without inner).ComesTo p x

/-- A name that stands for nothing comes to itself alone. -/
theorem Scope.ComesTo.of_value?_eq_none {p : Scope → String → Prop} {s : Scope} {x : String} (h : s.ComesTo p x)
    (hx : s.value? x = none) : p s x := by
  cases h with
  | here h => exact h
  | value hv _ _ _ => rw [hx] at hv; exact absurd hv (by simp)

/-- In a scope with the same values, printing comes to the same names; what is said about them may be said anew, as far as
the scopes that are left once names are taken out tell it. -/
theorem Scope.ComesTo.transfer {p q : Scope → String → Prop} {R : Scope → Scope → Prop}
    (hwithout : ∀ {s t} names, R s t → R (s.without names) (t.without names))
    (hvalue : ∀ {s t} x, R s t → s.value? x = t.value? x) (hpq : ∀ {s t} x, R s t → p s x → q t x) {s t : Scope}
    {x : String} (h : s.ComesTo p x) (hst : R s t) : t.ComesTo q x := by
  induction h generalizing t with
  | here h => exact .here (hpq _ hst h)
  | @value s x y v inner hv hself hy _ ih =>
    exact .value ((hvalue _ hst).symm.trans hv) hself hy (ih (hwithout inner (hwithout [x] hst)))

theorem Node.ComesTo.transfer {p q : Scope → String → Prop} {R : Scope → Scope → Prop}
    (hwithout : ∀ {s t} names, R s t → R (s.without names) (t.without names))
    (hvalue : ∀ {s t} x, R s t → s.value? x = t.value? x) (hpq : ∀ {s t} x, R s t → p s x → q t x) {s t : Scope}
    {n : Node} (h : n.ComesTo p s) (hst : R s t) : n.ComesTo q t := by
  obtain ⟨inner, x, hsite, hx⟩ := h
  exact ⟨inner, x, hsite, hx.transfer hwithout hvalue hpq (hwithout inner hst)⟩

/-! ### Scopes that differ only there -/

/-- Scopes that are related by `R` differ only in what they say about names for which `p` holds. -/
structure Scope.DifferOnlyAt (p : Scope → String → Prop) (R : Scope → Scope → Prop) : Prop where
  without {s t} (names : List String) : R s t → R (s.without names) (t.without names)
  value {s t x} : R s t → ¬ p s x → s.value? x = t.value? x
  sameInstance {s t x} : R s t → ¬ p s x → s.SameInstance t ∨ s.isContext x = false ∧ t.isContext x = false
  erase {s x} : ¬ p s x → ¬ p (s.without [x]) x

section

variable {p : Scope → String → Prop} {R : Scope → Scope → Prop} {s t : Scope} {n : Node}

/-- Such scopes correspond for a name that does not come to one for which `p` holds. -/
theorem Scope.DifferOnlyAt.correspondence (hR : DifferOnlyAt p R) :
    Correspondence fun s t x => R s t ∧ ¬ s.ComesTo p x where
  value := fun ⟨h, hx⟩ => hR.value h fun hp => hx (.here hp)
  contextText := by
    rintro s t x ⟨h, hx⟩
    have hp : ¬ p s x := fun hp => hx (.here hp)
    rcases hR.sameInstance h hp with hsame | ⟨hs, ht⟩
    · exact hsame.contextText (hR.value h hp)
    · simp [contextText, hs, ht]
  propertyText := by
    rintro s t x ⟨h, hx⟩ text name optional
    have hp : ¬ p s x := fun hp => hx (.here hp)
    rcases hR.sameInstance h hp with hsame | ⟨hs, ht⟩
    · rw [Expr.propertyText_ident, Expr.propertyText_ident, hsame.isContext (hR.value h hp), hsame.memberAccess]
    · exact Expr.propertyText_congr_of_not_isContext hs ht text name optional
  step := by
    rintro s t x v ⟨h, hx⟩ hv inner y hy
    refine ⟨hR.without inner (hR.without [x] h), fun hcomes => ?_⟩
    by_cases hself : v.ident? = some x
    · -- the value is the name itself, which stands for nothing where it is printed
      obtain rfl := Expr.eq_ident_of_ident? hself
      obtain ⟨rfl, rfl⟩ : inner = [] ∧ y = x := by simpa [Expr.sites] using hy
      rw [without_nil] at hcomes
      have hnone : (s.without [y]).value? y = none := by rw [value?_without, if_pos (List.mem_singleton_self y)]
      exact hR.erase (fun hp => hx (.here hp)) (hcomes.of_value?_eq_none hnone)
    · exact hx (.value hv hself hy hcomes)

/-- Scopes that differ only in names that printing does not come to print the same text. -/
theorem Node.render_eq_of_not_comesTo (hR : Scope.DifferOnlyAt p R) (h : R s t) (hn : ¬ n.ComesTo p s) :
    n.render (some s) = n.render (some t) := by
  refine n.renderWith_congr_sites fun site hsite => ?_
  cases site with
  | name inner x =>
    have hx : ¬ (s.without inner).ComesTo p x := fun hx => hn ⟨inner, x, hsite, hx⟩
    exact hR.correspondence.answersAlike (s.size_without_le inner) (t.size_without_le inner) ⟨hR.without inner h, hx⟩
  | shorthand _ _ => trivial
  | element _ _ _ => trivial

end

/-! ### Texts that are written there -/

section

open Text (Contains)

variable {p : Scope → String → Prop} {s : Scope} {x part : String} {n : Node} {k : Nat}

/-- What is shown at the names for which `p` holds is shown at every name that comes to one of them. -/
theorem Scope.ComesTo.shows (h : s.ComesTo p x)
    (hp : ∀ t y k, p t y → t.vars.size ≤ k → (Expansion.upTo k).Shows (some t) part y) (hk : s.vars.size ≤ k) :
    (Expansion.upTo k).Shows (some s) part x := by
  induction h generalizing k with
  | here h => exact hp _ _ _ h hk
  | @value s x y v inner hv hself hy _ ih =>
    -- the value is printed with the expansion for one variable less
    have hlt := size_without_lt hv
    have hle := (s.without [x]).size_without_le inner
    obtain ⟨k, rfl⟩ : ∃ m, k = m + 1 := ⟨k - 1, by omega⟩
    have hshows := ih (k := k) (by omega)
    have htext : Contains part (v.renderWith (.upTo k) (some (s.without [x]))) :=
      Node.contains_renderWith (s := some (s.without [x])) hshows (.expr v) hy
    refine ⟨?_, fun text name optional h => ?_, fun text h => ?_⟩
    · simp only [Expansion.identText, hv, if_neg hself]
      exact Expr.contains_operandText htext
    · rw [Expr.propertyText_ident, isContext_eq_false_of_value hv]
      exact (h.before _).before _
    · rw [ResolvedTag.ofText]
      split
      · exact h
      · rw [← Expr.sites_stripParens] at hy
        have hstripped := Node.contains_renderWith (s := some (s.without [x])) hshows (.expr v.stripParens) hy
        have htag : ∀ e : Expr, .name inner y ∈ e.sites [] →
            (ResolvedTag.ofText (.upTo k) (some (s.without [x])) e (e.renderWith (.upTo k) (some (s.without [x])))).Shows
              part := by
          intro e he
          rw [← hiding_nil (some (s.without [x]))]
          refine ResolvedTag.shows_ofText (s := some (s.without [x])) hshows he ?_
          rw [hiding_nil]
          exact Node.contains_renderWith (s := some (s.without [x])) hshows (.expr e) he
        simp only [Expr.replacement?, Expr.ident?, Option.bind_some, hv, Option.map_some]
        cases hc : v.stripParens with
        | conditional condition whenTrue whenFalse =>
          rw [hc, Expr.sites, List.mem_append, List.mem_append] at hy
          rcases hy with (hy | hy) | hy
          · exact Or.inl (Node.contains_renderWith (s := some (s.without [x])) hshows (.expr condition) hy)
          · exact Or.inr (Or.inl (htag whenTrue hy))
          · exact Or.inr (Or.inr (htag whenFalse hy))
        | _ =>
          rw [hc] at hstripped
          exact hstripped

/-- What is written for the names for which `p` holds is part of the text of what comes to one of them. -/
theorem Node.contains_of_comesTo (h : n.ComesTo p s)
    (hp : ∀ t y k, p t y → t.vars.size ≤ k → (Expansion.upTo k).Shows (some t) part y) :
    Contains part (n.render (some s)) := by
  obtain ⟨inner, x, hsite, hx⟩ := h
  exact n.contains_renderWith (s := some s) (hx.shows hp (s.size_without_le inner)) hsite

end

end ViewTemplate
