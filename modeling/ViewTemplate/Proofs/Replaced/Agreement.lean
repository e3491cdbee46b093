import ViewTemplate.Proofs.Render.Agreement
import ViewTemplate.Proofs.Replaced.Basic

/-!
# What the replaced syntax depends on

Replacements that are alike at every site of a piece of syntax replace it by the same syntax
(`Function.replaceWith_congr`).  The replacements of two scopes are alike where the scopes agree, as in printing: the
tags are told apart by their texts, which are the same in both scopes (`Scope.Agrees.alike`).
-/

namespace ViewTemplate

/-! ### Replacements that are alike -/

/-- At the site of a name, the name and what is hidden there are in the relation `P`. -/
def Site.Meets (P : List String → String → Prop) : Site → Prop
  | .name inner x => P inner x
  | _ => True

instance (P : List String → String → Prop) [∀ inner x, Decidable (P inner x)] : ∀ site : Site, Decidable (site.Meets P)
  | .name inner x => inferInstanceAs (Decidable (P inner x))
  | .shorthand _ _ | .element _ _ _ => .isTrue trivial

/-- The replacements are alike for names in the relation `P` to what is hidden, and for tags all of whose names are. -/
structure Replacement.Alike (R R' : Replacement) (P : List String → String → Prop) : Prop where
  name {hidden x} : P hidden x → R.name hidden x = R'.name hidden x
  tag {hidden tag} : (∀ site ∈ tag.sites hidden, site.Meets P) → ∀ tree, R.tag hidden tag tree = R'.tag hidden tag tree

section

variable {R R' : Replacement} {P : List String → String → Prop}

mutual

/-- Replacements that are alike at every site of an expression replace it by the same expression. -/
theorem Expr.replaceWith_congr (hR : R.Alike R' P) (hidden : List String) :
    ∀ e : Expr, (∀ site ∈ e.sites hidden, site.Meets P) → e.replaceWith R hidden = e.replaceWith R' hidden
  | .ident x, h => by
    rw [Expr.sites, List.forall_mem_singleton] at h
    rw [Expr.replaceWith, Expr.replaceWith, hR.name h]
  | .verbatim _, _ | .string _, _ | .number _, _ | .type _, _ => by rw [Expr.replaceWith, Expr.replaceWith]
  | .property object _ _, h => by
    rw [Expr.sites] at h
    rw [Expr.replaceWith, Expr.replaceWith, Expr.replaceWith_congr hR hidden object h]
  | .element object argument, h => by
    rw [Expr.sites, List.forall_mem_append] at h
    rw [Expr.replaceWith, Expr.replaceWith, Expr.replaceWith_congr hR hidden object h.1,
      Expr.replaceWith_congr hR hidden argument h.2]
  | .call callee arguments, h => by
    rw [Expr.sites, List.forall_mem_append] at h
    rw [Expr.replaceWith, Expr.replaceWith, Expr.replaceWith_congr hR hidden callee h.1,
      replaceExprs_congr hR hidden arguments h.2]
  | .binary left _ right, h => by
    rw [Expr.sites, List.forall_mem_append] at h
    rw [Expr.replaceWith, Expr.replaceWith, Expr.replaceWith_congr hR hidden left h.1,
      Expr.replaceWith_congr hR hidden right h.2]
  | .unary _ operand, h => by
    rw [Expr.sites] at h
    rw [Expr.replaceWith, Expr.replaceWith, Expr.replaceWith_congr hR hidden operand h]
  | .conditional condition whenTrue whenFalse, h => by
    rw [Expr.sites, List.forall_mem_append, List.forall_mem_append] at h
    rw [Expr.replaceWith, Expr.replaceWith, Expr.replaceWith_congr hR hidden condition h.1.1,
      Expr.replaceWith_congr hR hidden whenTrue h.1.2, Expr.replaceWith_congr hR hidden whenFalse h.2]
  | .paren inner, h => by
    rw [Expr.sites] at h
    rw [Expr.replaceWith, Expr.replaceWith, Expr.replaceWith_congr hR hidden inner h]
  | .object entries, h => by
    rw [Expr.sites] at h
    rw [Expr.replaceWith, Expr.replaceWith, replaceEntries_congr hR hidden entries h]
  | .array elements, h => by
    rw [Expr.sites] at h
    rw [Expr.replaceWith, Expr.replaceWith, replaceExprs_congr hR hidden elements h]
  | .pattern p, h => by
    rw [Expr.sites] at h
    rw [Expr.replaceWith, Expr.replaceWith, Pattern.replaceWith_congr hR hidden p h]
  | .markup m, h => by
    rw [Expr.sites] at h
    rw [Expr.replaceWith, Expr.replaceWith, Markup.replaceWith_congr hR hidden m h]
  | .function f, h => by
    rw [Expr.sites] at h
    rw [Expr.replaceWith, Expr.replaceWith, Function.replaceWith_congr hR hidden f h]

theorem replaceExprs_congr (hR : R.Alike R' P) (hidden : List String) :
    ∀ es : List Expr, (∀ site ∈ sitesOfExprs hidden es, site.Meets P) →
      replaceExprs R hidden es = replaceExprs R' hidden es
  | [], _ => by rw [replaceExprs, replaceExprs]
  | e :: es, h => by
    rw [sitesOfExprs, List.forall_mem_append] at h
    rw [replaceExprs, replaceExprs, Expr.replaceWith_congr hR hidden e h.1, replaceExprs_congr hR hidden es h.2]

theorem replaceExpr?_congr (hR : R.Alike R' P) (hidden : List String) :
    ∀ e : Option Expr, (∀ site ∈ sitesOfExpr? hidden e, site.Meets P) → replaceExpr? R hidden e = replaceExpr? R' hidden e
  | none, _ => by rw [replaceExpr?, replaceExpr?]
  | some e, h => by
    rw [sitesOfExpr?] at h
    rw [replaceExpr?, replaceExpr?, Expr.replaceWith_congr hR hidden e h]

theorem ObjectEntry.replaceWith_congr (hR : R.Alike R' P) (hidden : List String) :
    ∀ e : ObjectEntry, (∀ site ∈ e.sites hidden, site.Meets P) → e.replaceWith R hidden = e.replaceWith R' hidden
  | .keyed _ value, h => by
    rw [ObjectEntry.sites] at h
    rw [ObjectEntry.replaceWith, ObjectEntry.replaceWith, Expr.replaceWith_congr hR hidden value h]
  | .shorthand x, h => by
    rw [ObjectEntry.sites, List.forall_mem_cons] at h
    rw [ObjectEntry.replaceWith, ObjectEntry.replaceWith, hR.name h.1]
  | .spread value, h => by
    rw [ObjectEntry.sites] at h
    rw [ObjectEntry.replaceWith, ObjectEntry.replaceWith, Expr.replaceWith_congr hR hidden value h]

theorem replaceEntries_congr (hR : R.Alike R' P) (hidden : List String) :
    ∀ es : List ObjectEntry, (∀ site ∈ sitesOfEntries hidden es, site.Meets P) →
      replaceEntries R hidden es = replaceEntries R' hidden es
  | [], _ => by rw [replaceEntries, replaceEntries]
  | e :: es, h => by
    rw [sitesOfEntries, List.forall_mem_append] at h
    rw [replaceEntries, replaceEntries, ObjectEntry.replaceWith_congr hR hidden e h.1,
      replaceEntries_congr hR hidden es h.2]

theorem Markup.replaceWith_congr (hR : R.Alike R' P) (hidden : List String) :
    ∀ m : Markup, (∀ site ∈ m.sites hidden, site.Meets P) → m.replaceWith R hidden = m.replaceWith R' hidden
  | .element opening children, h => by
    rw [Markup.sites, List.forall_mem_append] at h
    rw [Markup.replaceWith, Markup.replaceWith, replaceChildren_congr hR hidden children h.2,
      OpeningTag.replaceWith_congr hR hidden children opening h.1]
  | .selfClosing opening, h => by
    rw [Markup.sites] at h
    rw [Markup.replaceWith, Markup.replaceWith, OpeningTag.replaceWith_congr hR hidden [] opening h]
  | .fragment children, h => by
    rw [Markup.sites] at h
    rw [Markup.replaceWith, Markup.replaceWith, replaceChildren_congr hR hidden children h]
  | .container content, h => by
    rw [Markup.sites] at h
    rw [Markup.replaceWith, Markup.replaceWith, replaceExpr?_congr hR hidden content h]

theorem OpeningTag.replaceWith_congr (hR : R.Alike R' P) (hidden : List String) (children : List Child)
    {replaced : Option (List Child)} :
    ∀ t : OpeningTag, (∀ site ∈ t.sites hidden children, site.Meets P) →
      t.replaceWith R hidden replaced = t.replaceWith R' hidden replaced
  | ⟨tag, attributes⟩, h => by
    rw [OpeningTag.sites, List.forall_mem_append] at h
    rw [OpeningTag.replaceWith, OpeningTag.replaceWith, replaceAttributes_congr hR hidden attributes h.2]
    cases hi : OpeningTag.isIntrinsic ⟨tag, attributes⟩ with
    | true => simp only [↓reduceIte]
    | false =>
      simp only [hi, Bool.false_eq_true, ↓reduceIte, List.forall_mem_append] at h ⊢
      rw [Expr.replaceWith_congr hR hidden tag h.1.1, hR.tag h.1.1]

theorem Attribute.replaceWith_congr (hR : R.Alike R' P) (hidden : List String) :
    ∀ a : Attribute, (∀ site ∈ a.sites hidden, site.Meets P) → a.replaceWith R hidden = a.replaceWith R' hidden
  | .flag _, _ | .text _ _, _ => by rw [Attribute.replaceWith, Attribute.replaceWith]
  | .value _ value, h => by
    rw [Attribute.sites] at h
    rw [Attribute.replaceWith, Attribute.replaceWith, Expr.replaceWith_congr hR hidden value h]
  | .spread value, h => by
    rw [Attribute.sites] at h
    rw [Attribute.replaceWith, Attribute.replaceWith, Expr.replaceWith_congr hR hidden value h]

theorem replaceAttributes_congr (hR : R.Alike R' P) (hidden : List String) :
    ∀ as : List Attribute, (∀ site ∈ sitesOfAttributes hidden as, site.Meets P) →
      replaceAttributes R hidden as = replaceAttributes R' hidden as
  | [], _ => by rw [replaceAttributes, replaceAttributes]
  | a :: as, h => by
    rw [sitesOfAttributes, List.forall_mem_append] at h
    rw [replaceAttributes, replaceAttributes, Attribute.replaceWith_congr hR hidden a h.1,
      replaceAttributes_congr hR hidden as h.2]

theorem Child.replaceWith_congr (hR : R.Alike R' P) (hidden : List String) :
    ∀ c : Child, (∀ site ∈ c.sites hidden, site.Meets P) → c.replaceWith R hidden = c.replaceWith R' hidden
  | .text _, _ => by rw [Child.replaceWith, Child.replaceWith]
  | .markup m, h => by
    rw [Child.sites] at h
    rw [Child.replaceWith, Child.replaceWith, Markup.replaceWith_congr hR hidden m h]

theorem replaceChildren_congr (hR : R.Alike R' P) (hidden : List String) :
    ∀ cs : List Child, (∀ site ∈ sitesOfChildren hidden cs, site.Meets P) →
      replaceChildren R hidden cs = replaceChildren R' hidden cs
  | [], _ => by rw [replaceChildren, replaceChildren]
  | c :: cs, h => by
    rw [sitesOfChildren, List.forall_mem_append] at h
    rw [replaceChildren, replaceChildren, Child.replaceWith_congr hR hidden c h.1,
      replaceChildren_congr hR hidden cs h.2]

theorem Pattern.replaceWith_congr (hR : R.Alike R' P) (hidden : List String) :
    ∀ p : Pattern, (∀ site ∈ p.sites hidden, site.Meets P) → p.replaceWith R hidden = p.replaceWith R' hidden
  | ⟨_, elements⟩, h => by
    rw [Pattern.sites] at h
    rw [Pattern.replaceWith, Pattern.replaceWith, replaceBindings_congr hR hidden elements h]

theorem Binding.replaceWith_congr (hR : R.Alike R' P) (hidden : List String) :
    ∀ b : Binding, (∀ site ∈ b.sites hidden, site.Meets P) → b.replaceWith R hidden = b.replaceWith R' hidden
  | ⟨_, _, target, fallback⟩, h => by
    rw [Binding.sites, List.forall_mem_append] at h
    rw [Binding.replaceWith, Binding.replaceWith, Target.replaceWith_congr hR hidden target h.1,
      replaceExpr?_congr hR hidden fallback h.2]

theorem replaceBindings_congr (hR : R.Alike R' P) (hidden : List String) :
    ∀ bs : List Binding, (∀ site ∈ sitesOfBindings hidden bs, site.Meets P) →
      replaceBindings R hidden bs = replaceBindings R' hidden bs
  | [], _ => by rw [replaceBindings, replaceBindings]
  | b :: bs, h => by
    rw [sitesOfBindings, List.forall_mem_append] at h
    rw [replaceBindings, replaceBindings, Binding.replaceWith_congr hR hidden b h.1,
      replaceBindings_congr hR hidden bs h.2]

theorem Target.replaceWith_congr (hR : R.Alike R' P) (hidden : List String) :
    ∀ t : Target, (∀ site ∈ t.sites hidden, site.Meets P) → t.replaceWith R hidden = t.replaceWith R' hidden
  | .name _, _ => by rw [Target.replaceWith, Target.replaceWith]
  | .pattern p, h => by
    rw [Target.sites] at h
    rw [Target.replaceWith, Target.replaceWith, Pattern.replaceWith_congr hR hidden p h]

theorem Parameter.replaceWith_congr (hR : R.Alike R' P) (hidden : List String) :
    ∀ p : Parameter, (∀ site ∈ p.sites hidden, site.Meets P) → p.replaceWith R hidden = p.replaceWith R' hidden
  | ⟨decorators, _, _, target, _, _, fallback⟩, h => by
    rw [Parameter.sites, List.forall_mem_append, List.forall_mem_append] at h
    rw [Parameter.replaceWith, Parameter.replaceWith, replaceExprs_congr hR hidden decorators h.1.1,
      Target.replaceWith_congr hR hidden target h.1.2, replaceExpr?_congr hR hidden fallback h.2]

theorem replaceParameters_congr (hR : R.Alike R' P) (hidden : List String) :
    ∀ ps : List Parameter, (∀ site ∈ sitesOfParameters hidden ps, site.Meets P) →
      replaceParameters R hidden ps = replaceParameters R' hidden ps
  | [], _ => by rw [replaceParameters, replaceParameters]
  | p :: ps, h => by
    rw [sitesOfParameters, List.forall_mem_append] at h
    rw [replaceParameters, replaceParameters, Parameter.replaceWith_congr hR hidden p h.1,
      replaceParameters_congr hR hidden ps h.2]

/-- Replacements that are alike at every site of a function replace it by the same function. -/
theorem Function.replaceWith_congr (hR : R.Alike R' P) (hidden : List String) :
    ∀ f : Function, (∀ site ∈ f.sites hidden, site.Meets P) → f.replaceWith R hidden = f.replaceWith R' hidden
  | ⟨form, _, _, parameters, _, body⟩, h => by
    rw [Function.sites, List.forall_mem_append, List.forall_mem_append] at h
    rw [Function.replaceWith, Function.replaceWith, FunctionForm.replaceWith_congr hR hidden form h.1,
      replaceParameters_congr hR _ parameters h.2.1, Body.replaceWith_congr hR _ body h.2.2]

theorem FunctionForm.replaceWith_congr (hR : R.Alike R' P) (hidden : List String) :
    ∀ f : FunctionForm, (∀ site ∈ f.sites hidden, site.Meets P) → f.replaceWith R hidden = f.replaceWith R' hidden
  | .keyword decorators _ _, h => by
    rw [FunctionForm.sites] at h
    rw [FunctionForm.replaceWith, FunctionForm.replaceWith, replaceExprs_congr hR hidden decorators h]
  | .arrow, _ => by rw [FunctionForm.replaceWith, FunctionForm.replaceWith]

theorem Body.replaceWith_congr (hR : R.Alike R' P) (hidden : List String) :
    ∀ b : Body, (∀ site ∈ b.sites hidden, site.Meets P) → b.replaceWith R hidden = b.replaceWith R' hidden
  | .block b, h => by
    rw [Body.sites] at h
    rw [Body.replaceWith, Body.replaceWith, Block.replaceWith_congr hR hidden b h]
  | .expr value, h => by
    rw [Body.sites] at h
    rw [Body.replaceWith, Body.replaceWith, Expr.replaceWith_congr hR hidden value h]

theorem Block.replaceWith_congr (hR : R.Alike R' P) (hidden : List String) :
    ∀ b : Block, (∀ site ∈ b.sites hidden, site.Meets P) → b.replaceWith R hidden = b.replaceWith R' hidden
  | ⟨statements⟩, h => by
    rw [Block.sites] at h
    rw [Block.replaceWith, Block.replaceWith, replaceStatements_congr hR hidden statements h]

theorem Statement.replaceWith_congr (hR : R.Alike R' P) (hidden : List String) :
    ∀ t : Statement, (∀ site ∈ t.sites hidden, site.Meets P) → t.replaceWith R hidden = t.replaceWith R' hidden
  | .ret value, h => by
    rw [Statement.sites] at h
    rw [Statement.replaceWith, Statement.replaceWith, replaceExpr?_congr hR hidden value h]
  | .declare _ declarations, h => by
    rw [Statement.sites] at h
    rw [Statement.replaceWith, Statement.replaceWith, Declarations.replaceWith_congr hR hidden declarations h]
  | .expr value, h => by
    rw [Statement.sites] at h
    rw [Statement.replaceWith, Statement.replaceWith, Expr.replaceWith_congr hR hidden value h]
  | .block b, h => by
    rw [Statement.sites] at h
    rw [Statement.replaceWith, Statement.replaceWith, Block.replaceWith_congr hR hidden b h]

theorem replaceStatements_congr (hR : R.Alike R' P) (hidden : List String) :
    ∀ ts : List Statement, (∀ site ∈ sitesOfStatements hidden ts, site.Meets P) →
      replaceStatements R hidden ts = replaceStatements R' hidden ts
  | [], _ => by rw [replaceStatements, replaceStatements]
  | t :: ts, h => by
    rw [sitesOfStatements, List.forall_mem_append] at h
    rw [replaceStatements, replaceStatements, Statement.replaceWith_congr hR hidden t h.1,
      replaceStatements_congr hR hidden ts h.2]

theorem Declarations.replaceWith_congr (hR : R.Alike R' P) (hidden : List String) :
    ∀ d : Declarations, (∀ site ∈ d.sites hidden, site.Meets P) → d.replaceWith R hidden = d.replaceWith R' hidden
  | ⟨_, items⟩, h => by
    rw [Declarations.sites] at h
    rw [Declarations.replaceWith, Declarations.replaceWith, replaceItems_congr hR hidden items h]

theorem replaceItems_congr (hR : R.Alike R' P) (hidden : List String) :
    ∀ ds : List Declaration, (∀ site ∈ sitesOfItems hidden ds, site.Meets P) →
      replaceItems R hidden ds = replaceItems R' hidden ds
  | [], _ => by rw [replaceItems, replaceItems]
  | d :: ds, h => by
    rw [sitesOfItems, List.forall_mem_append] at h
    rw [replaceItems, replaceItems, Declaration.replaceWith_congr hR hidden d h.1, replaceItems_congr hR hidden ds h.2]

theorem Declaration.replaceWith_congr (hR : R.Alike R' P) (hidden : List String) :
    ∀ d : Declaration, (∀ site ∈ d.sites hidden, site.Meets P) → d.replaceWith R hidden = d.replaceWith R' hidden
  | ⟨target, _, value⟩, h => by
    rw [Declaration.sites, List.forall_mem_append] at h
    rw [Declaration.replaceWith, Declaration.replaceWith, Target.replaceWith_congr hR hidden target h.1,
      replaceExpr?_congr hR hidden value h.2]

end

end

/-! ### Scopes that agree -/

namespace Scope.Agrees

variable {N : String → Prop} {s t : Scope}

/-- Names that an expression looks up are in the set or hidden at their sites. -/
private theorem meets {e : Expr} (he : ∀ x ∈ e.lookups, N x) :
    ∀ site ∈ e.sites [], site.Meets fun inner x => N x ∨ x ∈ inner := by
  intro site hsite
  cases site with
  | name inner x =>
    by_cases hi : x ∈ inner
    · exact Or.inr hi
    · exact Or.inl (he x (e.sites_coveredBy [] inner x hsite hi).1)
  | shorthand _ _ => trivial
  | element _ _ _ => trivial

/-- A tag has the same text in both scopes. -/
private theorem render_tag (h : s.Agrees N t) {hidden : List String} {tag : Expr}
    (htag : ∀ site ∈ tag.sites hidden, site.Meets fun inner x => N x ∨ x ∈ inner) :
    tag.render (some (s.without hidden)) = tag.render (some (t.without hidden)) := by
  have hsites : ∀ site ∈ tag.sites hidden,
      site.Alike (.upTo s.vars.size) (.upTo t.vars.size) (some s) (some t) := by
    intro site hsite
    cases site with
    | name inner x =>
      have hx := htag _ hsite
      exact correspondence_agrees.answersAlike (s.size_without_le inner) (t.size_without_le inner)
        ⟨_, h.without inner, hx⟩
    | shorthand _ _ => trivial
    | element _ _ _ => trivial
  have htext := tag.renderWith_congr_sites hidden hsites
  have hs := Node.renderWith_upTo (s.size_without_le hidden) (.expr tag)
  have ht := Node.renderWith_upTo (t.size_without_le hidden) (.expr tag)
  exact hs.symm.trans (htext.trans ht)

/-- Scopes that agree on the names of a set replace these alike, and tags that are made of them. -/
theorem alike (h : s.Agrees N t) : s.replacement.Alike t.replacement fun inner x => N x ∨ x ∈ inner := by
  induction hn : s.vars.size using Nat.strongRecOn generalizing s t N with
  | ind n ih =>
    -- at every site the values are those of scopes with fewer variables that still agree
    have hvalue : ∀ hidden x v, N x ∨ x ∈ hidden → (s.without hidden).value? x = some v →
        ((s.without hidden).without [x]).replacement.Alike ((t.without hidden).without [x]).replacement
          (fun inner y => (N y ∨ y ∈ hidden) ∨ y ∈ inner) ∧
        ∀ site ∈ v.sites [], site.Meets fun inner y => (N y ∨ y ∈ hidden) ∨ y ∈ inner := by
      intro hidden x v hx hv
      have hlt := size_without_lt hv
      have hle := s.size_without_le hidden
      have hw := h.without hidden
      exact ⟨ih _ (by omega) (hw.erase x) rfl, meets (hw.closed hx hv)⟩
    refine ⟨fun {hidden x} hx => ?_, fun {hidden tag} htag tree => ?_⟩
    · rw [replacement_name, replacement_name, Replacement.nameTree, Replacement.nameTree,
        ← (h.without hidden).value hx]
      cases hv : (s.without hidden).value? x with
      | none => rfl
      | some v =>
        obtain ⟨halike, hmeets⟩ := hvalue hidden x v hx hv
        simp only [v.replaceWith_congr halike [] hmeets]
    · rw [replacement_tag, replacement_tag, Replacement.tagTree, Replacement.tagTree, ← h.render_tag htag]
      cases tag with
      | ident x =>
        have hx : N x ∨ x ∈ hidden := htag (.name hidden x) (by simp [Expr.sites])
        simp only [Expr.replacement?, Expr.ident?, Option.bind_some, ← (h.without hidden).value hx]
        cases hv : (s.without hidden).value? x with
        | none => rfl
        | some v =>
          obtain ⟨halike, hmeets⟩ := hvalue hidden x v hx hv
          -- the parts of a conditional have no other sites than the value
          rw [← Expr.sites_stripParens] at hmeets
          simp only [Option.map_some]
          cases he : v.stripParens with
          | conditional condition whenTrue whenFalse =>
            rw [he, Expr.sites, List.forall_mem_append, List.forall_mem_append] at hmeets
            obtain ⟨⟨hc, hw⟩, hf⟩ := hmeets
            simp only [condition.replaceWith_congr halike [] hc, whenTrue.replaceWith_congr halike [] hw,
              whenFalse.replaceWith_congr halike [] hf, halike.tag hw, halike.tag hf]
          | _ =>
            rw [he] at hmeets
            simp only [Expr.replaceWith_congr halike [] _ hmeets]
      | _ => simp only [Expr.replacement?, Expr.ident?, Option.bind_some, Option.bind_none]

/-- Scopes that agree on the names an expression looks up replace it by the same expression. -/
theorem replaced_eq (h : s.Agrees N t) {e : Expr} (he : ∀ x ∈ e.lookups, N x) : e.replaced s = e.replaced t :=
  e.replaceWith_congr h.alike [] (meets he)

end Scope.Agrees

end ViewTemplate
