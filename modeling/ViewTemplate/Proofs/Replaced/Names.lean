import ViewTemplate.Proofs.Replaced.Basic

/-!
# Free names of replaced syntax

The free names of replaced syntax come from its sites: what stands at a site brings its own free names, and those that
a function around the site binds are lost.

* nothing else becomes free, and nothing else is lost in syntax without decorators and blocks inside blocks whose
  elements bind no name that they use: `Function.accounts`;
* with every name replaced by itself this describes the free names of any function: `Function.mem_freeNames_iff`.
-/

namespace ViewTemplate

/-! ### Bound names stay -/

section

variable (R : Replacement) (hidden : List String)

mutual

theorem Pattern.boundNames_replaceWith : ∀ p : Pattern, (p.replaceWith R hidden).boundNames = p.boundNames
  | ⟨_, elements⟩ => by
    rw [Pattern.replaceWith, Pattern.boundNames, Pattern.boundNames, bindingNames_replaceBindings elements]

theorem bindingNames_replaceBindings : ∀ bs : List Binding, bindingNames (replaceBindings R hidden bs) = bindingNames bs
  | [] => by rw [replaceBindings]
  | b :: bs => by
    rw [replaceBindings, bindingNames, bindingNames, Binding.boundNames_replaceWith b,
      bindingNames_replaceBindings bs]

theorem Binding.boundNames_replaceWith : ∀ b : Binding, (b.replaceWith R hidden).boundNames = b.boundNames
  | ⟨_, _, target, _⟩ => by
    rw [Binding.replaceWith, Binding.boundNames, Binding.boundNames, Target.boundNames_replaceWith target]

theorem Target.boundNames_replaceWith : ∀ t : Target, (t.replaceWith R hidden).boundNames = t.boundNames
  | .name _ => by rw [Target.replaceWith]
  | .pattern p => by
    rw [Target.replaceWith, Target.boundNames, Target.boundNames, Pattern.boundNames_replaceWith p]

end

theorem Declarations.boundNames_replaceWith (d : Declarations) :
    (d.replaceWith R hidden).boundNames = d.boundNames := by
  obtain ⟨kind, items⟩ := d
  simp only [Declarations.replaceWith, Declarations.boundNames]
  induction items with
  | nil => rw [replaceItems]
  | cons item items ih =>
    obtain ⟨target, type, value⟩ := item
    simp only [replaceItems, Declaration.replaceWith, List.flatMap_cons, Target.boundNames_replaceWith, ih]

theorem Statement.declaredNames_replaceWith (t : Statement) :
    (t.replaceWith R hidden).declaredNames = t.declaredNames := by
  cases t with
  | declare _ declarations =>
    simp only [Statement.replaceWith, Statement.declaredNames, Declarations.boundNames_replaceWith]
  | _ => simp only [Statement.replaceWith, Statement.declaredNames]

theorem Block.declaredNames_replaceWith (b : Block) : (b.replaceWith R hidden).declaredNames = b.declaredNames := by
  obtain ⟨statements⟩ := b
  simp only [Block.replaceWith, Block.declaredNames]
  induction statements with
  | nil => rw [replaceStatements]
  | cons t ts ih => simp only [replaceStatements, List.flatMap_cons, Statement.declaredNames_replaceWith, ih]

theorem Body.declaredNames_replaceWith (b : Body) : (b.replaceWith R hidden).declaredNames = b.declaredNames := by
  cases b with
  | block b => simp only [Body.replaceWith, Body.declaredNames, Block.declaredNames_replaceWith]
  | expr value => simp only [Body.replaceWith, Body.declaredNames]

theorem boundNames_replaceParameters (ps : List Parameter) :
    (replaceParameters R hidden ps).flatMap (·.target.boundNames) = ps.flatMap (·.target.boundNames) := by
  induction ps with
  | nil => rw [replaceParameters]
  | cons p ps ih =>
    obtain ⟨decorators, modifiers, rest, target, optional, type, fallback⟩ := p
    simp only [replaceParameters, Parameter.replaceWith, List.flatMap_cons, Target.boundNames_replaceWith, ih]

theorem Function.boundNames_replaceWith (f : Function) : (f.replaceWith R hidden).boundNames = f.boundNames := by
  obtain ⟨form, modifiers, typeParameters, parameters, returnType, body⟩ := f
  simp only [Function.replaceWith, Function.boundNames, boundNames_replaceParameters,
    Body.declaredNames_replaceWith]

end

/-! ### Tags -/

/-- The free names of optional children. -/
def freeNamesOfChildren? : Option (List Child) → List String
  | none => []
  | some children => freeNamesOfChildren children

namespace TagTree

/-- The free names of what the tag is made of. -/
def names : TagTree → List String
  | .name tag => tag.freeNames
  | .choice condition whenTrue whenFalse => unionNames condition.freeNames (unionNames whenTrue.names whenFalse.names)
  | .hoisted _ value => value.freeNames

/-- The tag keeps its names and the names `used` around it: it is not a tag of the page itself, and a name that a value
is bound to is neither free in the value nor used. -/
def Faithful (used : List String) : TagTree → Prop
  | .name tag => OpeningTag.isIntrinsic ⟨tag, []⟩ = false
  | .choice _ whenTrue whenFalse => whenTrue.Faithful used ∧ whenFalse.Faithful used
  | .hoisted x value => x ∉ value.freeNames ∧ x ∉ used

/-- Whether the tag keeps its names can be decided. -/
def decideFaithful (used : List String) : (t : TagTree) → Decidable (t.Faithful used)
  | .name tag => inferInstanceAs (Decidable (OpeningTag.isIntrinsic ⟨tag, []⟩ = false))
  | .choice _ whenTrue whenFalse =>
    @instDecidableAnd _ _ (whenTrue.decideFaithful used) (whenFalse.decideFaithful used)
  | .hoisted x value => inferInstanceAs (Decidable (x ∉ value.freeNames ∧ x ∉ used))

instance (used : List String) (t : TagTree) : Decidable (t.Faithful used) :=
  t.decideFaithful used

variable {attributes : List Attribute} {children : Option (List Child)} {used : List String} {y : String}

private theorem mem_freeNames_element {tag : Expr} :
    y ∈ (OpeningTag.toMarkup children ⟨tag, attributes⟩).freeNames ↔
      (OpeningTag.isIntrinsic ⟨tag, []⟩ = false ∧ y ∈ tag.freeNames) ∨ y ∈ freeNamesOfAttributes attributes ∨
        y ∈ freeNamesOfChildren? children := by
  have hi : OpeningTag.isIntrinsic ⟨tag, attributes⟩ = OpeningTag.isIntrinsic ⟨tag, []⟩ := rfl
  cases children <;> cases h : OpeningTag.isIntrinsic ⟨tag, []⟩ <;>
    simp [OpeningTag.toMarkup, Markup.freeNames, OpeningTag.freeNames, mem_unionNames, freeNamesOfChildren?, hi, h,
      or_assoc]

private theorem mem_freeNames_hoisted {x : String} {value : Expr} :
    y ∈ (toExpr attributes children (.hoisted x value)).freeNames ↔
      y ≠ x ∧ (y ∈ value.freeNames ∨ y ∈ freeNamesOfAttributes attributes ∨ y ∈ freeNamesOfChildren? children) := by
  have helement : y ∈ (OpeningTag.toMarkup children ⟨.ident x, attributes⟩).freeNames ↔ _ := mem_freeNames_element
  simp only [Expr.freeNames, List.mem_singleton] at helement
  simp only [toExpr, Function.arrow, Statement.constant, Expr.freeNames, freeNamesOfExprs, Function.freeNames,
    freeNamesOfParameters, Body.freeNames, Block.freeNames, freeNamesOfStatements, Statement.freeNames,
    Declarations.freeNames, freeNamesOfItems, Declaration.freeNames, Target.freeNames, freeNamesOfExpr?,
    Function.boundNames, Body.declaredNames, Block.declaredNames, Statement.declaredNames, Declarations.boundNames,
    Target.boundNames, List.flatMap_cons, List.flatMap_nil, List.append_nil, List.nil_append, mem_unionNames,
    mem_withoutNames, List.not_mem_nil, List.mem_singleton, or_false, false_or, helement]
  constructor
  · rintro ⟨⟨hy, -⟩, hne⟩
    refine ⟨hne, hy.imp id fun hy => ?_⟩
    exact hy.resolve_left fun h => hne h.2
  · rintro ⟨hne, hy⟩
    exact ⟨⟨hy.imp id Or.inr, hne⟩, hne⟩

theorem freeNames_toMarkup (t : TagTree) :
    (t.toMarkup attributes children).freeNames = (t.toExpr attributes children).freeNames := by
  cases t <;> simp only [toMarkup, toExpr, Markup.freeNames, freeNamesOfExpr?, Expr.freeNames]

/-- An element has the free names of its tag, its attributes and its children and no others. -/
theorem mem_of_mem_freeNames_toExpr {t : TagTree} (h : y ∈ (t.toExpr attributes children).freeNames) :
    y ∈ t.names ∨ y ∈ freeNamesOfAttributes attributes ∨ y ∈ freeNamesOfChildren? children := by
  induction t with
  | name tag =>
    rw [toExpr, Expr.freeNames, mem_freeNames_element] at h
    exact h.imp And.right id
  | choice condition whenTrue whenFalse ih ih' =>
    simp only [toExpr, Expr.freeNames, mem_unionNames] at h
    simp only [names, mem_unionNames]
    rcases h with (h | h) | h
    · exact Or.inl (Or.inl h)
    · exact (ih h).imp (fun h => Or.inr (Or.inl h)) id
    · exact (ih' h).imp (fun h => Or.inr (Or.inr h)) id
  | hoisted x value => exact (mem_freeNames_hoisted.1 h).2

/-- An element has all of these names, if its tag keeps them. -/
theorem mem_freeNames_toExpr_of_faithful {t : TagTree} (ht : t.Faithful used)
    (hattributes : freeNamesOfAttributes attributes ⊆ used) (hchildren : freeNamesOfChildren? children ⊆ used)
    (h : y ∈ t.names ∨ y ∈ freeNamesOfAttributes attributes ∨ y ∈ freeNamesOfChildren? children) :
    y ∈ (t.toExpr attributes children).freeNames := by
  induction t with
  | name tag =>
    rw [toExpr, Expr.freeNames, mem_freeNames_element]
    exact h.imp (fun h => ⟨ht, h⟩) id
  | choice condition whenTrue whenFalse ih ih' =>
    simp only [toExpr, Expr.freeNames, mem_unionNames]
    rcases h with h | h
    · simp only [names, mem_unionNames] at h
      rcases h with h | h | h
      · exact Or.inl (Or.inl h)
      · exact Or.inl (Or.inr (ih ht.1 (Or.inl h)))
      · exact Or.inr (ih' ht.2 (Or.inl h))
    · exact Or.inl (Or.inr (ih ht.1 (Or.inr h)))
  | hoisted x value =>
    refine mem_freeNames_hoisted.2 ⟨?_, h⟩
    rintro rfl
    rcases h with h | h | h
    · exact ht.1 h
    · exact ht.2 (hattributes h)
    · exact ht.2 (hchildren h)

end TagTree

/-! ### The account of the sites -/

/-- A replaced shorthand has the free names of what stands for its name. -/
theorem ObjectEntry.freeNames_shorthand {R : Replacement} {hidden : List String} {x : String} :
    ((ObjectEntry.shorthand x).replaceWith R hidden).freeNames = (R.name hidden x).freeNames := by
  rw [ObjectEntry.replaceWith]
  split
  · next h =>
    cases he : R.name hidden x <;> simp_all [Expr.ident?, ObjectEntry.freeNames, Expr.freeNames]
  · rw [ObjectEntry.freeNames]

/-- The replaced tags have the free names of their tags as replaced expressions. -/
def Replacement.KeepsTagNames (R : Replacement) : Prop :=
  ∀ hidden tag y, y ∈ (R.tag hidden tag (tag.replaceWith R hidden)).names ↔ y ∈ (tag.replaceWith R hidden).freeNames

section

variable {R : Replacement}

/-- At the site of an element, what stands for its tag keeps the names of the element. -/
def Site.Faithful (R : Replacement) : Site → Prop
  | .element inner ⟨tag, attributes⟩ children =>
    (R.tag inner tag (tag.replaceWith R inner)).Faithful
      (freeNamesOfAttributes (replaceAttributes R inner attributes) ++
        freeNamesOfChildren (replaceChildren R inner children))
  | _ => True

instance (site : Site) : Decidable (site.Faithful R) :=
  match site with
  | .name _ _ | .shorthand _ _ => .isTrue trivial
  | .element _ ⟨_, _⟩ _ => TagTree.decideFaithful _ _

/-- `names` are accounted for by the sites: every one that is not in `hidden` is free in what stands at a site and not
hidden there; and in flat syntax whose tags keep the names of their elements, what is free at a site and not hidden there
is one of `names`, and not in `hidden`. -/
structure Replacement.Accounts (R : Replacement) (flat : Prop) (hidden names : List String) (sites : List Site) :
    Prop where
  yields : ∀ y ∈ names, y ∉ hidden →
    ∃ inner x, Site.name inner x ∈ sites ∧ y ∈ (R.name inner x).freeNames ∧ y ∉ inner
  keeps : flat → (∀ site ∈ sites, site.Faithful R) → ∀ inner x y, Site.name inner x ∈ sites →
    y ∈ (R.name inner x).freeNames → y ∉ inner → y ∈ names ∧ y ∉ hidden

namespace Replacement.Accounts

variable {p q r : Prop} {hidden bound names names' : List String} {sites sites' : List Site} {x : String}

private theorem nil : R.Accounts p hidden [] [] where
  yields _ h := by simp at h
  keeps _ _ _ _ _ h := by simp at h

private theorem name (hx : Site.name hidden x ∈ sites) (hs : ∀ inner z, Site.name inner z ∈ sites → inner = hidden ∧ z = x) :
    R.Accounts p hidden (R.name hidden x).freeNames sites where
  yields y hy hn := ⟨hidden, x, hx, hy, hn⟩
  keeps _ _ inner z y hz hy hn := by
    obtain ⟨rfl, rfl⟩ := hs inner z hz
    exact ⟨hy, hn⟩

/-- Less flat syntax keeps no more. -/
private theorem imp (h : R.Accounts p hidden names sites) (hp : q → p) : R.Accounts q hidden names sites :=
  ⟨h.yields, fun hq => h.keeps (hp hq)⟩

private theorem union (h : R.Accounts p hidden names sites) (h' : R.Accounts q hidden names' sites') :
    R.Accounts (p ∧ q) hidden (unionNames names names') (sites ++ sites') where
  yields y hy hn := by
    rcases mem_unionNames.1 hy with hy | hy
    · obtain ⟨inner, x, hx, hyx⟩ := h.yields y hy hn
      exact ⟨inner, x, List.mem_append_left _ hx, hyx⟩
    · obtain ⟨inner, x, hx, hyx⟩ := h'.yields y hy hn
      exact ⟨inner, x, List.mem_append_right _ hx, hyx⟩
  keeps hpq hf inner x y hx hy hn := by
    rw [List.forall_mem_append] at hf
    rw [mem_unionNames]
    rcases List.mem_append.1 hx with hx | hx
    · exact (h.keeps hpq.1 hf.1 inner x y hx hy hn).imp Or.inl id
    · exact (h'.keeps hpq.2 hf.2 inner x y hx hy hn).imp Or.inr id

/-- What binds names hides them within. -/
private theorem unbind (h : R.Accounts p (bound ++ hidden) names sites) :
    R.Accounts p hidden (withoutNames bound names) sites where
  yields y hy hn := by
    rw [mem_withoutNames] at hy
    exact h.yields y hy.1 (by simp [hy.2, hn])
  keeps hp hf inner x y hx hy hn := by
    obtain ⟨hnames, hhidden⟩ := h.keeps hp hf inner x y hx hy hn
    rw [List.mem_append, not_or] at hhidden
    exact ⟨mem_withoutNames.2 ⟨hnames, hhidden.1⟩, hhidden.2⟩

/-- Names that are taken out without being hidden are lost, unless they are hidden from further outside. -/
private theorem without (h : R.Accounts p hidden names sites) :
    R.Accounts (p ∧ bound ⊆ hidden) hidden (withoutNames bound names) sites where
  yields y hy hn := h.yields y (mem_withoutNames.1 hy).1 hn
  keeps hp hf inner x y hx hy hn := by
    obtain ⟨hnames, hhidden⟩ := h.keeps hp.1 hf inner x y hx hy hn
    exact ⟨mem_withoutNames.2 ⟨hnames, fun hy => hhidden (hp.2 hy)⟩, hhidden⟩

/-- Sites that are not counted among the names are lost, unless there are none. -/
private theorem after (h : R.Accounts p hidden names sites) :
    R.Accounts (sites' = [] ∧ p) hidden names (sites' ++ sites) where
  yields y hy hn := by
    obtain ⟨inner, x, hx, hyx⟩ := h.yields y hy hn
    exact ⟨inner, x, List.mem_append_right _ hx, hyx⟩
  keeps hp hf := by
    obtain ⟨rfl, hp⟩ := hp
    exact h.keeps hp hf

/-- The account of an element, from those of its tag, its attributes and its children. -/
private theorem element (hR : R.KeepsTagNames) {tag : Expr} {attributes : List Attribute} {children : List Child}
    {replaced : Option (List Child)}
    (hreplaced : freeNamesOfChildren? replaced = freeNamesOfChildren (replaceChildren R hidden children))
    (htag : R.Accounts p hidden (tag.replaceWith R hidden).freeNames (tag.sites hidden))
    (hattributes : R.Accounts q hidden (freeNamesOfAttributes (replaceAttributes R hidden attributes))
      (sitesOfAttributes hidden attributes))
    (hchildren : R.Accounts r hidden (freeNamesOfChildren (replaceChildren R hidden children)) sites) :
    R.Accounts (p ∧ q ∧ r) hidden (OpeningTag.replaceWith R hidden replaced ⟨tag, attributes⟩).freeNames
      (OpeningTag.sites hidden children ⟨tag, attributes⟩ ++ sites) := by
  have haround := hattributes.union hchildren
  rw [OpeningTag.replaceWith, OpeningTag.sites, TagTree.freeNames_toMarkup, List.append_assoc]
  cases hi : OpeningTag.isIntrinsic ⟨tag, attributes⟩ with
  | true =>
    -- a tag of the page has no names
    have hmem : ∀ y, y ∈ ((TagTree.name tag).toExpr (replaceAttributes R hidden attributes) replaced).freeNames ↔
        y ∈ unionNames (freeNamesOfAttributes (replaceAttributes R hidden attributes))
          (freeNamesOfChildren (replaceChildren R hidden children)) := by
      intro y
      rw [TagTree.toExpr, Expr.freeNames, TagTree.mem_freeNames_element, hreplaced, mem_unionNames]
      exact or_iff_right fun h => Bool.false_ne_true (h.1.symm.trans hi)
    simp only [↓reduceIte, List.nil_append]
    refine ⟨fun y hy hn => haround.yields y ((hmem y).1 hy) hn, fun hp hf inner x y hx hy hn => ?_⟩
    exact (haround.keeps hp.2 hf inner x y hx hy hn).imp (hmem y).2 id
  | false =>
    simp only [Bool.false_eq_true, ↓reduceIte, List.append_assoc]
    refine ⟨fun y hy hn => ?_, fun hp hf inner x y hx hy hn => ?_⟩
    · rcases TagTree.mem_of_mem_freeNames_toExpr hy with hy | hy
      · obtain ⟨inner, x, hx, hyx⟩ := htag.yields y ((hR hidden tag y).1 hy) hn
        exact ⟨inner, x, List.mem_append_left _ hx, hyx⟩
      · rw [hreplaced, ← mem_unionNames] at hy
        obtain ⟨inner, x, hx, hyx⟩ := haround.yields y hy hn
        exact ⟨inner, x, List.mem_append_right _ (List.mem_append_right _ hx), hyx⟩
    · rw [List.forall_mem_append, List.singleton_append, List.forall_mem_cons] at hf
      obtain ⟨hftag, hfelement, hfaround⟩ := hf
      have hused : freeNamesOfChildren? replaced ⊆ freeNamesOfAttributes (replaceAttributes R hidden attributes) ++
          freeNamesOfChildren (replaceChildren R hidden children) := by
        rw [hreplaced]
        exact List.subset_append_right _ _
      have hmem := fun h => TagTree.mem_freeNames_toExpr_of_faithful (y := y) hfelement (List.subset_append_left _ _)
        hused h
      rw [hreplaced, ← mem_unionNames] at hmem
      simp only [List.mem_append, List.singleton_append, List.mem_cons, reduceCtorEq, false_or] at hx
      rcases hx with hx | hx
      · exact (htag.keeps hp.1 hftag inner x y hx hy hn).imp (fun h => hmem (Or.inl ((hR hidden tag y).2 h))) id
      · exact (haround.keeps hp.2 hfaround inner x y (List.mem_append.2 hx) hy hn).imp (fun h => hmem (Or.inr h)) id

end Replacement.Accounts

theorem FunctionForm.sites_eq_nil {hidden : List String} (f : FunctionForm) (h : f.every .flat = true) :
    f.sites hidden = [] := by
  cases f with
  | keyword decorators generator name =>
    simp only [FunctionForm.every, Check.flat, Bool.and_eq_true, List.isEmpty_iff] at h
    obtain ⟨rfl, -⟩ := h
    rw [FunctionForm.sites, sitesOfExprs]
  | arrow => rw [FunctionForm.sites]

mutual

theorem Expr.accounts (hR : R.KeepsTagNames) (hidden : List String) :
    ∀ e : Expr, R.Accounts (e.every .flat = true) hidden (e.replaceWith R hidden).freeNames (e.sites hidden)
  | .ident x => by
    rw [Expr.replaceWith, Expr.sites]
    exact .name (List.mem_singleton_self _) (by simp)
  | .verbatim _ | .string _ | .number _ | .type _ => by rw [Expr.replaceWith, Expr.freeNames, Expr.sites]; exact .nil
  | .property object _ _ => by
    rw [Expr.replaceWith, Expr.freeNames, Expr.sites]
    refine (Expr.accounts hR hidden object).imp fun h => ?_
    simp only [Expr.every, Bool.and_eq_true] at h
    exact h.2
  | .element object argument => by
    rw [Expr.replaceWith, Expr.freeNames, Expr.sites]
    refine ((Expr.accounts hR hidden object).union (Expr.accounts hR hidden argument)).imp fun h => ?_
    simp only [Expr.every, Bool.and_eq_true] at h
    exact ⟨h.1.2, h.2⟩
  | .call callee arguments => by
    rw [Expr.replaceWith, Expr.freeNames, Expr.sites]
    refine ((Expr.accounts hR hidden callee).union (accountsOfExprs hR hidden arguments)).imp fun h => ?_
    simp only [Expr.every, Bool.and_eq_true] at h
    exact ⟨h.1.2, h.2⟩
  | .binary left _ right => by
    rw [Expr.replaceWith, Expr.freeNames, Expr.sites]
    refine ((Expr.accounts hR hidden left).union (Expr.accounts hR hidden right)).imp fun h => ?_
    simp only [Expr.every, Bool.and_eq_true] at h
    exact ⟨h.1.2, h.2⟩
  | .unary _ operand => by
    rw [Expr.replaceWith, Expr.freeNames, Expr.sites]
    refine (Expr.accounts hR hidden operand).imp fun h => ?_
    simp only [Expr.every, Bool.and_eq_true] at h
    exact h.2
  | .conditional condition whenTrue whenFalse => by
    rw [Expr.replaceWith, Expr.freeNames, Expr.sites]
    refine (((Expr.accounts hR hidden condition).union (Expr.accounts hR hidden whenTrue)).union
      (Expr.accounts hR hidden whenFalse)).imp fun h => ?_
    simp only [Expr.every, Bool.and_eq_true] at h
    exact ⟨⟨h.1.1.2, h.1.2⟩, h.2⟩
  | .paren inner => by
    rw [Expr.replaceWith, Expr.freeNames, Expr.sites]
    refine (Expr.accounts hR hidden inner).imp fun h => ?_
    simp only [Expr.every, Bool.and_eq_true] at h
    exact h.2
  | .object entries => by
    rw [Expr.replaceWith, Expr.freeNames, Expr.sites]
    refine (accountsOfEntries hR hidden entries).imp fun h => ?_
    simp only [Expr.every, Bool.and_eq_true] at h
    exact h.2
  | .array elements => by
    rw [Expr.replaceWith, Expr.freeNames, Expr.sites]
    refine (accountsOfExprs hR hidden elements).imp fun h => ?_
    simp only [Expr.every, Bool.and_eq_true] at h
    exact h.2
  | .pattern p => by
    rw [Expr.replaceWith, Expr.freeNames, Expr.sites]
    refine (Pattern.accounts hR hidden p).imp fun h => ?_
    simp only [Expr.every, Bool.and_eq_true] at h
    exact h.2
  | .markup m => by
    rw [Expr.replaceWith, Expr.freeNames, Expr.sites]
    refine (Markup.accounts hR hidden m).imp fun h => ?_
    simp only [Expr.every, Bool.and_eq_true] at h
    exact h.2
  | .function f => by
    rw [Expr.replaceWith, Expr.freeNames, Expr.sites]
    refine (Function.accounts hR hidden f).imp fun h => ?_
    simp only [Expr.every, Bool.and_eq_true] at h
    exact h.2

theorem accountsOfExprs (hR : R.KeepsTagNames) (hidden : List String) :
    ∀ es : List Expr,
      R.Accounts (everyExpr .flat es = true) hidden (freeNamesOfExprs (replaceExprs R hidden es)) (sitesOfExprs hidden es)
  | [] => by rw [replaceExprs, freeNamesOfExprs, sitesOfExprs]; exact .nil
  | e :: es => by
    rw [replaceExprs, freeNamesOfExprs, sitesOfExprs, everyExpr, Bool.and_eq_true]
    exact (Expr.accounts hR hidden e).union (accountsOfExprs hR hidden es)

theorem accountsOfExpr? (hR : R.KeepsTagNames) (hidden : List String) :
    ∀ e : Option Expr, R.Accounts (everyExpr? .flat e = true) hidden
      (freeNamesOfExpr? (replaceExpr? R hidden e)) (sitesOfExpr? hidden e)
  | none => by rw [replaceExpr?, freeNamesOfExpr?, sitesOfExpr?]; exact .nil
  | some e => by
    rw [replaceExpr?, freeNamesOfExpr?, sitesOfExpr?, everyExpr?]
    exact Expr.accounts hR hidden e

theorem ObjectEntry.accounts (hR : R.KeepsTagNames) (hidden : List String) :
    ∀ e : ObjectEntry, R.Accounts (e.every .flat = true) hidden (e.replaceWith R hidden).freeNames (e.sites hidden)
  | .keyed _ value => by
    rw [ObjectEntry.replaceWith, ObjectEntry.freeNames, ObjectEntry.sites]
    refine (Expr.accounts hR hidden value).imp fun h => ?_
    simp only [ObjectEntry.every, Bool.and_eq_true] at h
    exact h.2
  | .shorthand x => by
    rw [ObjectEntry.freeNames_shorthand, ObjectEntry.sites]
    exact .name List.mem_cons_self (by simp)
  | .spread value => by
    rw [ObjectEntry.replaceWith, ObjectEntry.freeNames, ObjectEntry.sites]
    refine (Expr.accounts hR hidden value).imp fun h => ?_
    simp only [ObjectEntry.every, Bool.and_eq_true] at h
    exact h.2

theorem accountsOfEntries (hR : R.KeepsTagNames) (hidden : List String) :
    ∀ es : List ObjectEntry, R.Accounts (everyEntry .flat es = true) hidden
      (freeNamesOfEntries (replaceEntries R hidden es)) (sitesOfEntries hidden es)
  | [] => by rw [replaceEntries, freeNamesOfEntries, sitesOfEntries]; exact .nil
  | e :: es => by
    rw [replaceEntries, freeNamesOfEntries, sitesOfEntries, everyEntry, Bool.and_eq_true]
    exact (ObjectEntry.accounts hR hidden e).union (accountsOfEntries hR hidden es)

theorem Markup.accounts (hR : R.KeepsTagNames) (hidden : List String) :
    ∀ m : Markup, R.Accounts (m.every .flat = true) hidden (m.replaceWith R hidden).freeNames (m.sites hidden)
  | .element ⟨tag, attributes⟩ children => by
    rw [Markup.replaceWith, Markup.sites]
    refine (Replacement.Accounts.element hR rfl (Expr.accounts hR hidden tag) (accountsOfAttributes hR hidden attributes)
      (accountsOfChildren hR hidden children)).imp fun h => ?_
    simp only [Markup.every, OpeningTag.every, Bool.and_eq_true] at h
    exact ⟨h.1.1, h.1.2, h.2⟩
  | .selfClosing ⟨tag, attributes⟩ => by
    have hchildren : R.Accounts True hidden (freeNamesOfChildren (replaceChildren R hidden [])) [] := by
      rw [replaceChildren, freeNamesOfChildren]
      exact .nil
    rw [Markup.replaceWith, Markup.sites, ← List.append_nil (OpeningTag.sites hidden [] _)]
    refine (Replacement.Accounts.element hR ?_ (Expr.accounts hR hidden tag) (accountsOfAttributes hR hidden attributes)
      hchildren).imp fun h => ?_
    · rw [replaceChildren, freeNamesOfChildren, freeNamesOfChildren?]
    · simp only [Markup.every, OpeningTag.every, Bool.and_eq_true] at h
      exact ⟨h.1, h.2, trivial⟩
  | .fragment children => by
    rw [Markup.replaceWith, Markup.freeNames, Markup.sites, Markup.every]
    exact accountsOfChildren hR hidden children
  | .container content => by
    rw [Markup.replaceWith, Markup.freeNames, Markup.sites, Markup.every]
    exact accountsOfExpr? hR hidden content

theorem Attribute.accounts (hR : R.KeepsTagNames) (hidden : List String) :
    ∀ a : Attribute, R.Accounts (a.every .flat = true) hidden (a.replaceWith R hidden).freeNames (a.sites hidden)
  | .flag _ | .text _ _ => by rw [Attribute.replaceWith, Attribute.freeNames, Attribute.sites]; exact .nil
  | .value _ value => by
    rw [Attribute.replaceWith, Attribute.freeNames, Attribute.sites]
    refine (Expr.accounts hR hidden value).imp fun h => ?_
    simp only [Attribute.every, Bool.and_eq_true] at h
    exact h.2
  | .spread value => by
    rw [Attribute.replaceWith, Attribute.freeNames, Attribute.sites]
    refine (Expr.accounts hR hidden value).imp fun h => ?_
    simp only [Attribute.every, Bool.and_eq_true] at h
    exact h.2

theorem accountsOfAttributes (hR : R.KeepsTagNames) (hidden : List String) :
    ∀ as : List Attribute, R.Accounts (everyAttribute .flat as = true) hidden
      (freeNamesOfAttributes (replaceAttributes R hidden as)) (sitesOfAttributes hidden as)
  | [] => by rw [replaceAttributes, freeNamesOfAttributes, sitesOfAttributes]; exact .nil
  | a :: as => by
    rw [replaceAttributes, freeNamesOfAttributes, sitesOfAttributes, everyAttribute, Bool.and_eq_true]
    exact (Attribute.accounts hR hidden a).union (accountsOfAttributes hR hidden as)

theorem Child.accounts (hR : R.KeepsTagNames) (hidden : List String) :
    ∀ c : Child, R.Accounts (c.every .flat = true) hidden (c.replaceWith R hidden).freeNames (c.sites hidden)
  | .text _ => by rw [Child.replaceWith, Child.freeNames, Child.sites]; exact .nil
  | .markup m => by
    rw [Child.replaceWith, Child.freeNames, Child.sites]
    refine (Markup.accounts hR hidden m).imp fun h => ?_
    simp only [Child.every, Bool.and_eq_true] at h
    exact h.2

theorem accountsOfChildren (hR : R.KeepsTagNames) (hidden : List String) :
    ∀ cs : List Child, R.Accounts (everyChild .flat cs = true) hidden
      (freeNamesOfChildren (replaceChildren R hidden cs)) (sitesOfChildren hidden cs)
  | [] => by rw [replaceChildren, freeNamesOfChildren, sitesOfChildren]; exact .nil
  | c :: cs => by
    rw [replaceChildren, freeNamesOfChildren, sitesOfChildren, everyChild, Bool.and_eq_true]
    exact (Child.accounts hR hidden c).union (accountsOfChildren hR hidden cs)

theorem Pattern.accounts (hR : R.KeepsTagNames) (hidden : List String) :
    ∀ p : Pattern, R.Accounts (p.every .flat = true) hidden (p.replaceWith R hidden).freeNames (p.sites hidden)
  | ⟨_, elements⟩ => by
    rw [Pattern.replaceWith, Pattern.freeNames, Pattern.sites, Pattern.every]
    exact accountsOfBindings hR hidden elements

theorem Binding.accounts (hR : R.KeepsTagNames) (hidden : List String) :
    ∀ b : Binding, R.Accounts (b.every .flat = true) hidden (b.replaceWith R hidden).freeNames (b.sites hidden)
  | ⟨_, _, target, fallback⟩ => by
    rw [Binding.replaceWith, Binding.freeNames, Binding.sites]
    refine ((Target.accounts hR hidden target).union (accountsOfExpr? hR hidden fallback)).imp fun h => ?_
    simp only [Binding.every, Bool.and_eq_true] at h
    exact ⟨h.1.2, h.2⟩

theorem accountsOfBindings (hR : R.KeepsTagNames) (hidden : List String) :
    ∀ bs : List Binding, R.Accounts (everyBinding .flat bs = true) hidden
      (freeNamesOfBindings (replaceBindings R hidden bs)) (sitesOfBindings hidden bs)
  | [] => by rw [replaceBindings, freeNamesOfBindings, sitesOfBindings]; exact .nil
  | b :: bs => by
    rw [replaceBindings, freeNamesOfBindings, sitesOfBindings, everyBinding, Bool.and_eq_true]
    exact (Binding.accounts hR hidden b).union (accountsOfBindings hR hidden bs)

theorem Target.accounts (hR : R.KeepsTagNames) (hidden : List String) :
    ∀ t : Target, R.Accounts (t.every .flat = true) hidden (t.replaceWith R hidden).freeNames (t.sites hidden)
  | .name _ => by rw [Target.replaceWith, Target.freeNames, Target.sites]; exact .nil
  | .pattern p => by
    rw [Target.replaceWith, Target.freeNames, Target.sites]
    refine (Pattern.accounts hR hidden p).imp fun h => ?_
    simp only [Target.every, Bool.and_eq_true] at h
    exact h.2

theorem Parameter.accounts (hR : R.KeepsTagNames) (hidden : List String) :
    ∀ p : Parameter, R.Accounts (p.every .flat = true) hidden (p.replaceWith R hidden).freeNames (p.sites hidden)
  | ⟨decorators, _, _, target, _, _, fallback⟩ => by
    rw [Parameter.replaceWith, Parameter.freeNames, Parameter.sites, List.append_assoc]
    refine ((Target.accounts hR hidden target).union (accountsOfExpr? hR hidden fallback)).after.imp fun h => ?_
    simp only [Parameter.every, Check.flat, Bool.and_eq_true, List.isEmpty_iff] at h
    obtain ⟨⟨⟨rfl, -⟩, ht⟩, hf⟩ := h
    exact ⟨by rw [sitesOfExprs], ht, hf⟩

theorem accountsOfParameters (hR : R.KeepsTagNames) (hidden : List String) :
    ∀ ps : List Parameter, R.Accounts (everyParameter .flat ps = true) hidden
      (freeNamesOfParameters (replaceParameters R hidden ps)) (sitesOfParameters hidden ps)
  | [] => by rw [replaceParameters, freeNamesOfParameters, sitesOfParameters]; exact .nil
  | p :: ps => by
    rw [replaceParameters, freeNamesOfParameters, sitesOfParameters, everyParameter, Bool.and_eq_true]
    exact (Parameter.accounts hR hidden p).union (accountsOfParameters hR hidden ps)

/-- The free names of a replaced function are accounted for by its sites. -/
theorem Function.accounts (hR : R.KeepsTagNames) (hidden : List String) :
    ∀ f : Function, R.Accounts (f.every .flat = true) hidden (f.replaceWith R hidden).freeNames (f.sites hidden)
  | ⟨form, modifiers, typeParameters, parameters, returnType, body⟩ => by
    have hbound := Function.boundNames_replaceWith R hidden
      ⟨form, modifiers, typeParameters, parameters, returnType, body⟩
    rw [Function.replaceWith] at hbound ⊢
    rw [Function.freeNames, hbound, Function.sites]
    refine ((accountsOfParameters hR _ parameters).union (Body.accounts hR _ body)).unbind.after.imp fun h => ?_
    simp only [Function.every, Bool.and_eq_true] at h
    obtain ⟨⟨⟨-, hform⟩, hparameters⟩, hbody⟩ := h
    -- what the body declares is bound by the function
    have hdeclared := List.subset_append_right (parameters.flatMap (·.target.boundNames)) body.declaredNames
    exact ⟨FunctionForm.sites_eq_nil form hform, hparameters, hbody,
      List.Subset.trans hdeclared (List.subset_append_left _ hidden)⟩

theorem Body.accounts (hR : R.KeepsTagNames) (hidden : List String) :
    ∀ b : Body, R.Accounts (b.every .flat = true ∧ b.declaredNames ⊆ hidden) hidden (b.replaceWith R hidden).freeNames
      (b.sites hidden)
  | .block b => by
    rw [Body.replaceWith, Body.freeNames, Body.sites, Body.every]
    exact Block.accounts hR hidden b
  | .expr value => by
    rw [Body.replaceWith, Body.freeNames, Body.sites, Body.every]
    exact (Expr.accounts hR hidden value).imp And.left

theorem Block.accounts (hR : R.KeepsTagNames) (hidden : List String) :
    ∀ b : Block, R.Accounts (b.every .flat = true ∧ b.declaredNames ⊆ hidden) hidden (b.replaceWith R hidden).freeNames
      (b.sites hidden)
  | ⟨statements⟩ => by
    have hdeclared := Block.declaredNames_replaceWith R hidden ⟨statements⟩
    rw [Block.replaceWith] at hdeclared ⊢
    rw [Block.freeNames, hdeclared, Block.sites, Block.every]
    exact (accountsOfStatements hR hidden statements).without

theorem Statement.accounts (hR : R.KeepsTagNames) (hidden : List String) :
    ∀ t : Statement, R.Accounts (t.every .flat = true) hidden (t.replaceWith R hidden).freeNames (t.sites hidden)
  | .ret value => by
    rw [Statement.replaceWith, Statement.freeNames, Statement.sites]
    refine (accountsOfExpr? hR hidden value).imp fun h => ?_
    simp only [Statement.every, Bool.and_eq_true] at h
    exact h.2
  | .declare _ declarations => by
    rw [Statement.replaceWith, Statement.freeNames, Statement.sites]
    refine (Declarations.accounts hR hidden declarations).imp fun h => ?_
    simp only [Statement.every, Bool.and_eq_true] at h
    exact h.2
  | .expr value => by
    rw [Statement.replaceWith, Statement.freeNames, Statement.sites]
    refine (Expr.accounts hR hidden value).imp fun h => ?_
    simp only [Statement.every, Bool.and_eq_true] at h
    exact h.2
  | .block b => by
    rw [Statement.replaceWith, Statement.freeNames, Statement.sites]
    refine (Block.accounts hR hidden b).imp fun h => ?_
    simp [Statement.every, Check.flat] at h

theorem accountsOfStatements (hR : R.KeepsTagNames) (hidden : List String) :
    ∀ ts : List Statement, R.Accounts (everyStatement .flat ts = true) hidden
      (freeNamesOfStatements (replaceStatements R hidden ts)) (sitesOfStatements hidden ts)
  | [] => by rw [replaceStatements, freeNamesOfStatements, sitesOfStatements]; exact .nil
  | t :: ts => by
    rw [replaceStatements, freeNamesOfStatements, sitesOfStatements, everyStatement, Bool.and_eq_true]
    exact (Statement.accounts hR hidden t).union (accountsOfStatements hR hidden ts)

theorem Declarations.accounts (hR : R.KeepsTagNames) (hidden : List String) :
    ∀ d : Declarations, R.Accounts (d.every .flat = true) hidden (d.replaceWith R hidden).freeNames (d.sites hidden)
  | ⟨_, items⟩ => by
    rw [Declarations.replaceWith, Declarations.freeNames, Declarations.sites, Declarations.every]
    exact accountsOfItems hR hidden items

theorem accountsOfItems (hR : R.KeepsTagNames) (hidden : List String) :
    ∀ ds : List Declaration, R.Accounts (everyItem .flat ds = true) hidden
      (freeNamesOfItems (replaceItems R hidden ds)) (sitesOfItems hidden ds)
  | [] => by rw [replaceItems, freeNamesOfItems, sitesOfItems]; exact .nil
  | d :: ds => by
    rw [replaceItems, freeNamesOfItems, sitesOfItems, everyItem, Bool.and_eq_true]
    exact (Declaration.accounts hR hidden d).union (accountsOfItems hR hidden ds)

theorem Declaration.accounts (hR : R.KeepsTagNames) (hidden : List String) :
    ∀ d : Declaration, R.Accounts (d.every .flat = true) hidden (d.replaceWith R hidden).freeNames (d.sites hidden)
  | ⟨target, _, value⟩ => by
    rw [Declaration.replaceWith, Declaration.freeNames, Declaration.sites]
    refine ((Target.accounts hR hidden target).union (accountsOfExpr? hR hidden value)).imp fun h => ?_
    simp only [Declaration.every, Bool.and_eq_true] at h
    exact ⟨h.1.2, h.2⟩

end

end

/-! ### Free names by their sites -/

namespace Replacement

theorem keep_keepsTagNames : keep.KeepsTagNames :=
  fun hidden tag y => by rw [tag.replaceWith_keep hidden]; rfl

end Replacement

/-- Without decorators and inner blocks, a name is free in a function if and only if it stands at a site where it is
not hidden. -/
theorem Function.mem_freeNames_iff {f : Function} (hf : f.every .flat = true) {x : String} :
    x ∈ f.freeNames ↔ ∃ inner, Site.name inner x ∈ f.sites [] ∧ x ∉ inner := by
  constructor
  · intro hx
    have haccounts := f.accounts Replacement.keep_keepsTagNames []
    rw [f.replaceWith_keep] at haccounts
    obtain ⟨inner, z, hz, hxz, hn⟩ := haccounts.yields x hx List.not_mem_nil
    obtain rfl : x = z := List.mem_singleton.1 hxz
    exact ⟨inner, hz, hn⟩
  · rintro ⟨inner, hx, hn⟩
    exact f.lookups_subset hf (f.sites_coveredBy [] inner x hx hn).1

end ViewTemplate
