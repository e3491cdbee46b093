import ViewTemplate.Proofs.Render.Sites

/-!
# Ways of printing that match

`Expansion.Matches` says that two expansions give the same answer for every name of a set, in any two scopes that
belong together as far as these names are concerned.  They then print the same text for everything that looks up no
other names (`Node.renderWith_congr`): what is asked for at a site is looked up or hidden there, and the hidden names
join the set.
-/

namespace ViewTemplate

/-- The relation `R N s s'` says that the scopes `s` and `s'` belong together as far as the names in `N` are
concerned.  Two expansions match along it if they answer alike for each of these names. -/
structure Expansion.Matches (E E' : Expansion) (R : (String → Prop) → Option Scope → Option Scope → Prop) : Prop where
  ident {N s s' x} : R N s s' → N x → E.identText s x = E'.identText s' x
  property {N s s' x} : R N s s' → N x → ∀ text name optional,
    (Expr.ident x).propertyText s text name optional = (Expr.ident x).propertyText s' text name optional
  tag {N s s' x} : R N s s' → N x → ∀ text,
    ResolvedTag.ofText E s (.ident x) text = ResolvedTag.ofText E' s' (.ident x) text
  inner {N s s'} (names : List String) : R N s s' →
    R (fun x => N x ∨ x ∈ names) (Scope.hiding s names) (Scope.hiding s' names)

section

variable {E E' : Expansion} {R : (String → Prop) → Option Scope → Option Scope → Prop} {N : String → Prop}
  {s s' : Option Scope}

/-- Ways of printing that match write every name alike at its site. -/
theorem Expansion.Matches.alike (hm : E.Matches E' R) (hR : R N s s') (n : Node) (h : ∀ x ∈ n.lookups, N x) :
    ∀ site ∈ n.sites, site.Alike E E' s s' := by
  intro site hsite
  cases site with
  | name inner x =>
    have hx : N x ∨ x ∈ inner := by
      by_cases hi : x ∈ inner
      · exact Or.inr hi
      · exact Or.inl (h x (n.sites_coveredBy inner x hsite hi).1)
    have hin := hm.inner inner hR
    exact ⟨hm.ident hin hx, hm.property hin hx, hm.tag hin hx⟩
  | shorthand _ _ => trivial
  | element _ _ _ => trivial

/-- Ways of printing that match give a piece of syntax the same text. -/
theorem Node.renderWith_congr (hm : E.Matches E' R) (hR : R N s s') (n : Node) (h : ∀ x ∈ n.lookups, N x) :
    n.renderWith E s = n.renderWith E' s' :=
  n.renderWith_congr_sites (hm.alike hR n h)

end

end ViewTemplate
