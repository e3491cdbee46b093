import ViewTemplate.Proofs.Syntax.Sites

/-!
# What is looked up is asked for

The converse of `Node.sites_coveredBy`: every name that a piece of syntax looks up is asked for at a site where no
function inside hides it (`Node.lookups_askedAt`), so together `Node.mem_lookups_iff`.
-/

namespace ViewTemplate

/-- Each of `names` that is not hidden is asked for, at a site where it is not hidden. -/
def Site.AskedAt (names hidden : List String) (sites : List Site) : Prop :=
  ∀ x ∈ names, x ∉ hidden → ∃ inner, Site.name inner x ∈ sites ∧ x ∉ inner

namespace Site.AskedAt

variable {names names' bound hidden : List String} {sites sites' : List Site} {x : String}

private theorem nil : AskedAt [] hidden sites :=
  nofun

private theorem here : AskedAt [x] hidden (.name hidden x :: sites) := by
  intro y hy hn
  obtain rfl := List.mem_singleton.1 hy
  exact ⟨hidden, List.mem_cons_self, hn⟩

private theorem before (h : AskedAt names hidden sites) (sites' : List Site) : AskedAt names hidden (sites ++ sites') := by
  intro x hx hn
  obtain ⟨inner, hsite, hi⟩ := h x hx hn
  exact ⟨inner, List.mem_append_left _ hsite, hi⟩

private theorem append (h : AskedAt names hidden sites) (h' : AskedAt names' hidden sites') :
    AskedAt (names ++ names') hidden (sites ++ sites') := by
  intro x hx hn
  rcases List.mem_append.1 hx with hx | hx
  · exact h.before sites' x hx hn
  · obtain ⟨inner, hsite, hi⟩ := h' x hx hn
    exact ⟨inner, List.mem_append_right _ hsite, hi⟩

/-- Inside what binds names, the names that are looked up outside are not hidden either. -/
private theorem unbind (h : AskedAt names (bound ++ hidden) sites) :
    AskedAt (withoutNames bound names) hidden sites := by
  intro x hx hn
  obtain ⟨hnames, hbound⟩ := mem_withoutNames.1 hx
  exact h x hnames fun hmem => (List.mem_append.1 hmem).elim hbound hn

end Site.AskedAt

mutual

/-- What an expression looks up it asks for at a site where it is not hidden. -/
theorem Expr.lookups_askedAt (hidden : List String) :
    ∀ e : Expr, Site.AskedAt e.lookups hidden (e.sites hidden)
  | .ident x => by
    rw [Expr.lookups, Expr.sites]
    exact .here
  | .verbatim _ => by rw [Expr.lookups, Expr.sites]; exact .nil
  | .string _ => by rw [Expr.lookups, Expr.sites]; exact .nil
  | .number _ => by rw [Expr.lookups, Expr.sites]; exact .nil
  | .property object _ _ => by rw [Expr.lookups, Expr.sites]; exact Expr.lookups_askedAt hidden object
  | .element object argument => by
    rw [Expr.lookups, Expr.sites]
    exact (Expr.lookups_askedAt hidden object).append (Expr.lookups_askedAt hidden argument)
  | .call callee arguments => by
    rw [Expr.lookups, Expr.sites]
    exact (Expr.lookups_askedAt hidden callee).append (lookupsOfExprs_askedAt hidden arguments)
  | .binary left _ right => by
    rw [Expr.lookups, Expr.sites]
    exact (Expr.lookups_askedAt hidden left).append (Expr.lookups_askedAt hidden right)
  | .unary _ operand => by rw [Expr.lookups, Expr.sites]; exact Expr.lookups_askedAt hidden operand
  | .conditional condition whenTrue whenFalse => by
    rw [Expr.lookups, Expr.sites]
    exact ((Expr.lookups_askedAt hidden condition).append (Expr.lookups_askedAt hidden whenTrue)).append
      (Expr.lookups_askedAt hidden whenFalse)
  | .paren inner => by rw [Expr.lookups, Expr.sites]; exact Expr.lookups_askedAt hidden inner
  | .object entries => by rw [Expr.lookups, Expr.sites]; exact lookupsOfEntries_askedAt hidden entries
  | .array elements => by rw [Expr.lookups, Expr.sites]; exact lookupsOfExprs_askedAt hidden elements
  | .pattern p => by rw [Expr.lookups, Expr.sites]; exact Pattern.lookups_askedAt hidden p
  | .type _ => by rw [Expr.lookups, Expr.sites]; exact .nil
  | .markup m => by rw [Expr.lookups, Expr.sites]; exact Markup.lookups_askedAt hidden m
  | .function f => by rw [Expr.lookups, Expr.sites]; exact Function.lookups_askedAt hidden f

theorem lookupsOfExprs_askedAt (hidden : List String) :
    ∀ es : List Expr, Site.AskedAt (lookupsOfExprs es) hidden (sitesOfExprs hidden es)
  | [] => by rw [lookupsOfExprs, sitesOfExprs]; exact .nil
  | e :: es => by
    rw [lookupsOfExprs, sitesOfExprs]
    exact (Expr.lookups_askedAt hidden e).append (lookupsOfExprs_askedAt hidden es)

theorem lookupsOfExpr?_askedAt (hidden : List String) :
    ∀ e : Option Expr, Site.AskedAt (lookupsOfExpr? e) hidden (sitesOfExpr? hidden e)
  | none => by rw [lookupsOfExpr?, sitesOfExpr?]; exact .nil
  | some e => by rw [lookupsOfExpr?, sitesOfExpr?]; exact Expr.lookups_askedAt hidden e

theorem ObjectEntry.lookups_askedAt (hidden : List String) :
    ∀ e : ObjectEntry, Site.AskedAt e.lookups hidden (e.sites hidden)
  | .keyed _ value => by
    rw [ObjectEntry.lookups, ObjectEntry.sites]
    exact Expr.lookups_askedAt hidden value
  | .shorthand x => by
    rw [ObjectEntry.lookups, ObjectEntry.sites]
    exact .here
  | .spread value => by
    rw [ObjectEntry.lookups, ObjectEntry.sites]
    exact Expr.lookups_askedAt hidden value

theorem lookupsOfEntries_askedAt (hidden : List String) :
    ∀ es : List ObjectEntry, Site.AskedAt (lookupsOfEntries es) hidden (sitesOfEntries hidden es)
  | [] => by rw [lookupsOfEntries, sitesOfEntries]; exact .nil
  | e :: es => by
    rw [lookupsOfEntries, sitesOfEntries]
    exact (ObjectEntry.lookups_askedAt hidden e).append (lookupsOfEntries_askedAt hidden es)

theorem Markup.lookups_askedAt (hidden : List String) :
    ∀ m : Markup, Site.AskedAt m.lookups hidden (m.sites hidden)
  | .element opening children => by
    rw [Markup.lookups, Markup.sites]
    exact (OpeningTag.lookups_askedAt hidden children opening).append (lookupsOfChildren_askedAt hidden children)
  | .selfClosing opening => by
    rw [Markup.lookups, Markup.sites]
    exact OpeningTag.lookups_askedAt hidden [] opening
  | .fragment children => by
    rw [Markup.lookups, Markup.sites]
    exact lookupsOfChildren_askedAt hidden children
  | .container content => by
    rw [Markup.lookups, Markup.sites]
    exact lookupsOfExpr?_askedAt hidden content

theorem OpeningTag.lookups_askedAt (hidden : List String) (children : List Child) :
    ∀ t : OpeningTag, Site.AskedAt t.lookups hidden (t.sites hidden children)
  | ⟨tag, attributes⟩ => by
    rw [OpeningTag.lookups, OpeningTag.sites]
    refine .append ?_ (lookupsOfAttributes_askedAt hidden attributes)
    split
    · exact .nil
    · exact (Expr.lookups_askedAt hidden tag).before _

theorem Attribute.lookups_askedAt (hidden : List String) :
    ∀ a : Attribute, Site.AskedAt a.lookups hidden (a.sites hidden)
  | .flag _ => by rw [Attribute.lookups, Attribute.sites]; exact .nil
  | .text _ _ => by rw [Attribute.lookups, Attribute.sites]; exact .nil
  | .value _ value => by rw [Attribute.lookups, Attribute.sites]; exact Expr.lookups_askedAt hidden value
  | .spread value => by rw [Attribute.lookups, Attribute.sites]; exact Expr.lookups_askedAt hidden value

theorem lookupsOfAttributes_askedAt (hidden : List String) :
    ∀ as : List Attribute, Site.AskedAt (lookupsOfAttributes as) hidden (sitesOfAttributes hidden as)
  | [] => by rw [lookupsOfAttributes, sitesOfAttributes]; exact .nil
  | a :: as => by
    rw [lookupsOfAttributes, sitesOfAttributes]
    exact (Attribute.lookups_askedAt hidden a).append (lookupsOfAttributes_askedAt hidden as)

theorem Child.lookups_askedAt (hidden : List String) :
    ∀ c : Child, Site.AskedAt c.lookups hidden (c.sites hidden)
  | .text _ => by rw [Child.lookups, Child.sites]; exact .nil
  | .markup m => by rw [Child.lookups, Child.sites]; exact Markup.lookups_askedAt hidden m

theorem lookupsOfChildren_askedAt (hidden : List String) :
    ∀ cs : List Child, Site.AskedAt (lookupsOfChildren cs) hidden (sitesOfChildren hidden cs)
  | [] => by rw [lookupsOfChildren, sitesOfChildren]; exact .nil
  | c :: cs => by
    rw [lookupsOfChildren, sitesOfChildren]
    exact (Child.lookups_askedAt hidden c).append (lookupsOfChildren_askedAt hidden cs)

theorem Pattern.lookups_askedAt (hidden : List String) :
    ∀ p : Pattern, Site.AskedAt p.lookups hidden (p.sites hidden)
  | ⟨_, elements⟩ => by rw [Pattern.lookups, Pattern.sites]; exact lookupsOfBindings_askedAt hidden elements

theorem Binding.lookups_askedAt (hidden : List String) :
    ∀ b : Binding, Site.AskedAt b.lookups hidden (b.sites hidden)
  | ⟨_, _, target, fallback⟩ => by
    rw [Binding.lookups, Binding.sites]
    exact (Target.lookups_askedAt hidden target).append (lookupsOfExpr?_askedAt hidden fallback)

theorem lookupsOfBindings_askedAt (hidden : List String) :
    ∀ bs : List Binding, Site.AskedAt (lookupsOfBindings bs) hidden (sitesOfBindings hidden bs)
  | [] => by rw [lookupsOfBindings, sitesOfBindings]; exact .nil
  | b :: bs => by
    rw [lookupsOfBindings, sitesOfBindings]
    exact (Binding.lookups_askedAt hidden b).append (lookupsOfBindings_askedAt hidden bs)

theorem Target.lookups_askedAt (hidden : List String) :
    ∀ t : Target, Site.AskedAt t.lookups hidden (t.sites hidden)
  | .name _ => by rw [Target.lookups, Target.sites]; exact .nil
  | .pattern p => by rw [Target.lookups, Target.sites]; exact Pattern.lookups_askedAt hidden p

theorem Parameter.lookups_askedAt (hidden : List String) :
    ∀ p : Parameter, Site.AskedAt p.lookups hidden (p.sites hidden)
  | ⟨decorators, _, _, target, _, _, fallback⟩ => by
    rw [Parameter.lookups, Parameter.sites]
    exact ((lookupsOfExprs_askedAt hidden decorators).append (Target.lookups_askedAt hidden target)).append
      (lookupsOfExpr?_askedAt hidden fallback)

theorem lookupsOfParameters_askedAt (hidden : List String) :
    ∀ ps : List Parameter, Site.AskedAt (lookupsOfParameters ps) hidden (sitesOfParameters hidden ps)
  | [] => by rw [lookupsOfParameters, sitesOfParameters]; exact .nil
  | p :: ps => by
    rw [lookupsOfParameters, sitesOfParameters]
    exact (Parameter.lookups_askedAt hidden p).append (lookupsOfParameters_askedAt hidden ps)

theorem Function.lookups_askedAt (hidden : List String) :
    ∀ f : Function, Site.AskedAt f.lookups hidden (f.sites hidden)
  | ⟨form, _, _, parameters, _, body⟩ => by
    rw [Function.lookups, Function.sites]
    exact (FunctionForm.lookups_askedAt hidden form).append
      ((lookupsOfParameters_askedAt _ parameters).append (Body.lookups_askedAt _ body)).unbind

theorem FunctionForm.lookups_askedAt (hidden : List String) :
    ∀ f : FunctionForm, Site.AskedAt f.lookups hidden (f.sites hidden)
  | .keyword decorators _ _ => by
    rw [FunctionForm.lookups, FunctionForm.sites]
    exact lookupsOfExprs_askedAt hidden decorators
  | .arrow => by rw [FunctionForm.lookups, FunctionForm.sites]; exact .nil

theorem Body.lookups_askedAt (hidden : List String) :
    ∀ b : Body, Site.AskedAt b.lookups hidden (b.sites hidden)
  | .block b => by rw [Body.lookups, Body.sites]; exact Block.lookups_askedAt hidden b
  | .expr value => by rw [Body.lookups, Body.sites]; exact Expr.lookups_askedAt hidden value

theorem Block.lookups_askedAt (hidden : List String) :
    ∀ b : Block, Site.AskedAt b.lookups hidden (b.sites hidden)
  | ⟨statements⟩ => by rw [Block.lookups, Block.sites]; exact lookupsOfStatements_askedAt hidden statements

theorem Statement.lookups_askedAt (hidden : List String) :
    ∀ t : Statement, Site.AskedAt t.lookups hidden (t.sites hidden)
  | .ret value => by rw [Statement.lookups, Statement.sites]; exact lookupsOfExpr?_askedAt hidden value
  | .declare _ declarations => by
    rw [Statement.lookups, Statement.sites]
    exact Declarations.lookups_askedAt hidden declarations
  | .expr value => by rw [Statement.lookups, Statement.sites]; exact Expr.lookups_askedAt hidden value
  | .block b => by rw [Statement.lookups, Statement.sites]; exact Block.lookups_askedAt hidden b

theorem lookupsOfStatements_askedAt (hidden : List String) :
    ∀ ts : List Statement, Site.AskedAt (lookupsOfStatements ts) hidden (sitesOfStatements hidden ts)
  | [] => by rw [lookupsOfStatements, sitesOfStatements]; exact .nil
  | t :: ts => by
    rw [lookupsOfStatements, sitesOfStatements]
    exact (Statement.lookups_askedAt hidden t).append (lookupsOfStatements_askedAt hidden ts)

theorem Declarations.lookups_askedAt (hidden : List String) :
    ∀ d : Declarations, Site.AskedAt d.lookups hidden (d.sites hidden)
  | ⟨_, items⟩ => by rw [Declarations.lookups, Declarations.sites]; exact lookupsOfItems_askedAt hidden items

theorem lookupsOfItems_askedAt (hidden : List String) :
    ∀ ds : List Declaration, Site.AskedAt (lookupsOfItems ds) hidden (sitesOfItems hidden ds)
  | [] => by rw [lookupsOfItems, sitesOfItems]; exact .nil
  | d :: ds => by
    rw [lookupsOfItems, sitesOfItems]
    exact (Declaration.lookups_askedAt hidden d).append (lookupsOfItems_askedAt hidden ds)

theorem Declaration.lookups_askedAt (hidden : List String) :
    ∀ d : Declaration, Site.AskedAt d.lookups hidden (d.sites hidden)
  | ⟨target, _, value⟩ => by
    rw [Declaration.lookups, Declaration.sites]
    exact (Target.lookups_askedAt hidden target).append (lookupsOfExpr?_askedAt hidden value)

end

/-- What a piece of syntax looks up it asks for at a site where it is not hidden. -/
theorem Node.lookups_askedAt (n : Node) : Site.AskedAt n.lookups [] n.sites := by
  cases n with
  | expr e => exact e.lookups_askedAt []
  | markup m => exact m.lookups_askedAt []
  | pattern p => exact p.lookups_askedAt []
  | target t => exact t.lookups_askedAt []
  | binding b => exact b.lookups_askedAt []
  | parameter p => exact p.lookups_askedAt []
  | decorator e => exact e.lookups_askedAt []
  | function f => exact f.lookups_askedAt []
  | block b => exact b.lookups_askedAt []
  | statement t => exact t.lookups_askedAt []
  | declarations d => exact d.lookups_askedAt []
  | type _ => exact .nil

/-- A piece of syntax looks up the names that it asks for where they are not hidden. -/
theorem Node.mem_lookups_iff {n : Node} {x : String} :
    x ∈ n.lookups ↔ ∃ inner, Site.name inner x ∈ n.sites ∧ x ∉ inner :=
  ⟨fun hx => n.lookups_askedAt x hx List.not_mem_nil,
    fun ⟨inner, hsite, hn⟩ => (n.sites_coveredBy inner x hsite hn).1⟩

end ViewTemplate
