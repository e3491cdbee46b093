import ViewTemplate.Proofs.Syntax.Lookups

/-!
# The sites of a piece of syntax

A site is a place where printing asks the scope about a name, together with the names that the functions around the
place hide from the scope there.  What is asked for at a site where it is not hidden is one of the names that are looked
up (`Node.sites_coveredBy`).
-/

namespace ViewTemplate

/-- A place where printing asks the scope, with the names that are hidden there. -/
inductive Site where
  /-- a name that is written as an expression -/
  | name (hidden : List String) (x : String)
  /-- a name that is key and value in an object literal; the value is at a site of its own -/
  | shorthand (hidden : List String) (x : String)
  /-- an element whose tag may be replaced; the tag is at a site of its own -/
  | element (hidden : List String) (opening : OpeningTag) (children : List Child)

mutual

/-- The sites of an expression in a place where `hidden` is hidden. -/
def Expr.sites (hidden : List String) : Expr → List Site
  | .ident name => [.name hidden name]
  | .verbatim _ => []
  | .string _ => []
  | .number _ => []
  | .property object _ _ => object.sites hidden
  | .element object argument => object.sites hidden ++ argument.sites hidden
  | .call callee arguments => callee.sites hidden ++ sitesOfExprs hidden arguments
  | .binary left _ right => left.sites hidden ++ right.sites hidden
  | .unary _ operand => operand.sites hidden
  | .conditional condition whenTrue whenFalse =>
    condition.sites hidden ++ whenTrue.sites hidden ++ whenFalse.sites hidden
  | .paren inner => inner.sites hidden
  | .object entries => sitesOfEntries hidden entries
  | .array elements => sitesOfExprs hidden elements
  | .pattern p => p.sites hidden
  | .type _ => []
  | .markup m => m.sites hidden
  | .function f => f.sites hidden

/-- The sites of a list of expressions. -/
def sitesOfExprs (hidden : List String) : List Expr → List Site
  | [] => []
  | e :: es => e.sites hidden ++ sitesOfExprs hidden es

/-- The sites of an optional expression. -/
def sitesOfExpr? (hidden : List String) : Option Expr → List Site
  | none => []
  | some e => e.sites hidden

/-- The sites of a member of an object literal. -/
def ObjectEntry.sites (hidden : List String) : ObjectEntry → List Site
  | .keyed _ value => value.sites hidden
  | .shorthand name => [.name hidden name, .shorthand hidden name]
  | .spread value => value.sites hidden

/-- The sites of a list of members of an object literal. -/
def sitesOfEntries (hidden : List String) : List ObjectEntry → List Site
  | [] => []
  | e :: es => e.sites hidden ++ sitesOfEntries hidden es

/-- The sites of a markup tree. -/
def Markup.sites (hidden : List String) : Markup → List Site
  | .element opening children => opening.sites hidden children ++ sitesOfChildren hidden children
  | .selfClosing opening => opening.sites hidden []
  | .fragment children => sitesOfChildren hidden children
  | .container content => sitesOfExpr? hidden content

/-- The sites of a tag and its attributes; a tag of the page itself is not replaced. -/
def OpeningTag.sites (hidden : List String) (children : List Child) : OpeningTag → List Site
  | ⟨tag, attributes⟩ =>
    (if OpeningTag.isIntrinsic ⟨tag, attributes⟩ then []
      else tag.sites hidden ++ [.element hidden ⟨tag, attributes⟩ children]) ++
      sitesOfAttributes hidden attributes

/-- The sites of an attribute. -/
def Attribute.sites (hidden : List String) : Attribute → List Site
  | .flag _ => []
  | .text _ _ => []
  | .value _ value => value.sites hidden
  | .spread value => value.sites hidden

/-- The sites of a list of attributes. -/
def sitesOfAttributes (hidden : List String) : List Attribute → List Site
  | [] => []
  | a :: as => a.sites hidden ++ sitesOfAttributes hidden as

/-- The sites of a child. -/
def Child.sites (hidden : List String) : Child → List Site
  | .text _ => []
  | .markup m => m.sites hidden

/-- The sites of a list of children. -/
def sitesOfChildren (hidden : List String) : List Child → List Site
  | [] => []
  | c :: cs => c.sites hidden ++ sitesOfChildren hidden cs

/-- The sites of a pattern: those of its default values. -/
def Pattern.sites (hidden : List String) : Pattern → List Site
  | ⟨_, elements⟩ => sitesOfBindings hidden elements

/-- The sites of a binding. -/
def Binding.sites (hidden : List String) : Binding → List Site
  | ⟨_, _, target, fallback⟩ => target.sites hidden ++ sitesOfExpr? hidden fallback

/-- The sites of a list of bindings. -/
def sitesOfBindings (hidden : List String) : List Binding → List Site
  | [] => []
  | b :: bs => b.sites hidden ++ sitesOfBindings hidden bs

/-- The sites of a target. -/
def Target.sites (hidden : List String) : Target → List Site
  | .name _ => []
  | .pattern p => p.sites hidden

/-- The sites of a parameter. -/
def Parameter.sites (hidden : List String) : Parameter → List Site
  | ⟨decorators, _, _, target, _, _, fallback⟩ =>
    sitesOfExprs hidden decorators ++ target.sites hidden ++ sitesOfExpr? hidden fallback

/-- The sites of a list of parameters. -/
def sitesOfParameters (hidden : List String) : List Parameter → List Site
  | [] => []
  | p :: ps => p.sites hidden ++ sitesOfParameters hidden ps

/-- The sites of a function: the names it binds are hidden in its parameters and its body. -/
def Function.sites (hidden : List String) : Function → List Site
  | ⟨form, modifiers, typeParameters, parameters, returnType, body⟩ =>
    let inner := Function.boundNames ⟨form, modifiers, typeParameters, parameters, returnType, body⟩ ++ hidden
    form.sites hidden ++ (sitesOfParameters inner parameters ++ body.sites inner)

/-- The sites of the decorators of a function. -/
def FunctionForm.sites (hidden : List String) : FunctionForm → List Site
  | .keyword decorators _ _ => sitesOfExprs hidden decorators
  | .arrow => []

/-- The sites of a function body. -/
def Body.sites (hidden : List String) : Body → List Site
  | .block b => b.sites hidden
  | .expr value => value.sites hidden

/-- The sites of a block, which hides nothing by itself. -/
def Block.sites (hidden : List String) : Block → List Site
  | ⟨statements⟩ => sitesOfStatements hidden statements

/-- The sites of a statement. -/
def Statement.sites (hidden : List String) : Statement → List Site
  | .ret value => sitesOfExpr? hidden value
  | .declare _ declarations => declarations.sites hidden
  | .expr value => value.sites hidden
  | .block b => b.sites hidden

/-- The sites of a list of statements. -/
def sitesOfStatements (hidden : List String) : List Statement → List Site
  | [] => []
  | t :: ts => t.sites hidden ++ sitesOfStatements hidden ts

/-- The sites of a list of declarations with their keyword. -/
def Declarations.sites (hidden : List String) : Declarations → List Site
  | ⟨_, items⟩ => sitesOfItems hidden items

/-- The sites of a list of declarations. -/
def sitesOfItems (hidden : List String) : List Declaration → List Site
  | [] => []
  | d :: ds => d.sites hidden ++ sitesOfItems hidden ds

/-- The sites of a declaration. -/
def Declaration.sites (hidden : List String) : Declaration → List Site
  | ⟨target, _, value⟩ => target.sites hidden ++ sitesOfExpr? hidden value

end

/-- The sites of a piece of syntax by itself. -/
def Node.sites : Node → List Site
  | .expr e => e.sites []
  | .markup m => m.sites []
  | .pattern p => p.sites []
  | .target t => t.sites []
  | .binding b => b.sites []
  | .parameter p => p.sites []
  | .decorator e => e.sites []
  | .function f => f.sites []
  | .block b => b.sites []
  | .statement t => t.sites []
  | .declarations d => d.sites []
  | .type _ => []

/-! ### Names that are not hidden are looked up -/

/-- Where a name is asked for and not hidden at its site, it is one of `names`, and it is not in `hidden`. -/
def Site.CoveredBy (names hidden : List String) (sites : List Site) : Prop :=
  ∀ inner x, Site.name inner x ∈ sites → x ∉ inner → x ∈ names ∧ x ∉ hidden

namespace Site.CoveredBy

variable {names names' bound hidden : List String} {sites sites' : List Site}

private theorem nil : CoveredBy names hidden [] :=
  fun _ _ h => by simp at h

private theorem append (h : CoveredBy names hidden sites) (h' : CoveredBy names' hidden sites') :
    CoveredBy (names ++ names') hidden (sites ++ sites') := by
  intro inner x hx hn
  rcases List.mem_append.1 hx with hx | hx
  · exact ⟨List.mem_append_left _ (h inner x hx hn).1, (h inner x hx hn).2⟩
  · exact ⟨List.mem_append_right _ (h' inner x hx hn).1, (h' inner x hx hn).2⟩

/-- Outside what binds names, these are not looked up. -/
private theorem unbind (h : CoveredBy names (bound ++ hidden) sites) :
    CoveredBy (withoutNames bound names) hidden sites := by
  intro inner x hx hn
  obtain ⟨hnames, hhidden⟩ := h inner x hx hn
  rw [List.mem_append, not_or] at hhidden
  exact ⟨mem_withoutNames.2 ⟨hnames, hhidden.1⟩, hhidden.2⟩

end Site.CoveredBy

mutual

/-- What an expression asks for at a site where it is not hidden, it looks up. -/
theorem Expr.sites_coveredBy (hidden : List String) :
    ∀ e : Expr, Site.CoveredBy e.lookups hidden (e.sites hidden)
  | .ident x => by
    rw [Expr.lookups, Expr.sites]
    intro inner y hy hn
    rw [List.mem_singleton, Site.name.injEq] at hy
    obtain ⟨rfl, rfl⟩ := hy
    exact ⟨List.mem_singleton_self _, hn⟩
  | .verbatim _ => by rw [Expr.lookups, Expr.sites]; exact .nil
  | .string _ => by rw [Expr.lookups, Expr.sites]; exact .nil
  | .number _ => by rw [Expr.lookups, Expr.sites]; exact .nil
  | .property object _ _ => by rw [Expr.lookups, Expr.sites]; exact Expr.sites_coveredBy hidden object
  | .element object argument => by
    rw [Expr.lookups, Expr.sites]
    exact (Expr.sites_coveredBy hidden object).append (Expr.sites_coveredBy hidden argument)
  | .call callee arguments => by
    rw [Expr.lookups, Expr.sites]
    exact (Expr.sites_coveredBy hidden callee).append (sitesOfExprs_coveredBy hidden arguments)
  | .binary left _ right => by
    rw [Expr.lookups, Expr.sites]
    exact (Expr.sites_coveredBy hidden left).append (Expr.sites_coveredBy hidden right)
  | .unary _ operand => by rw [Expr.lookups, Expr.sites]; exact Expr.sites_coveredBy hidden operand
  | .conditional condition whenTrue whenFalse => by
    rw [Expr.lookups, Expr.sites]
    exact ((Expr.sites_coveredBy hidden condition).append (Expr.sites_coveredBy hidden whenTrue)).append
      (Expr.sites_coveredBy hidden whenFalse)
  | .paren inner => by rw [Expr.lookups, Expr.sites]; exact Expr.sites_coveredBy hidden inner
  | .object entries => by rw [Expr.lookups, Expr.sites]; exact sitesOfEntries_coveredBy hidden entries
  | .array elements => by rw [Expr.lookups, Expr.sites]; exact sitesOfExprs_coveredBy hidden elements
  | .pattern p => by rw [Expr.lookups, Expr.sites]; exact Pattern.sites_coveredBy hidden p
  | .type _ => by rw [Expr.lookups, Expr.sites]; exact .nil
  | .markup m => by rw [Expr.lookups, Expr.sites]; exact Markup.sites_coveredBy hidden m
  | .function f => by rw [Expr.lookups, Expr.sites]; exact Function.sites_coveredBy hidden f

theorem sitesOfExprs_coveredBy (hidden : List String) :
    ∀ es : List Expr, Site.CoveredBy (lookupsOfExprs es) hidden (sitesOfExprs hidden es)
  | [] => by rw [lookupsOfExprs, sitesOfExprs]; exact .nil
  | e :: es => by
    rw [lookupsOfExprs, sitesOfExprs]
    exact (Expr.sites_coveredBy hidden e).append (sitesOfExprs_coveredBy hidden es)

theorem sitesOfExpr?_coveredBy (hidden : List String) :
    ∀ e : Option Expr, Site.CoveredBy (lookupsOfExpr? e) hidden (sitesOfExpr? hidden e)
  | none => by rw [lookupsOfExpr?, sitesOfExpr?]; exact .nil
  | some e => by rw [lookupsOfExpr?, sitesOfExpr?]; exact Expr.sites_coveredBy hidden e

theorem ObjectEntry.sites_coveredBy (hidden : List String) :
    ∀ e : ObjectEntry, Site.CoveredBy e.lookups hidden (e.sites hidden)
  | .keyed _ value => by
    rw [ObjectEntry.lookups, ObjectEntry.sites]
    exact Expr.sites_coveredBy hidden value
  | .shorthand x => by
    rw [ObjectEntry.lookups, ObjectEntry.sites]
    intro inner y hy hn
    obtain ⟨rfl, rfl⟩ : inner = hidden ∧ y = x := by simpa using hy
    exact ⟨List.mem_singleton_self _, hn⟩
  | .spread value => by
    rw [ObjectEntry.lookups, ObjectEntry.sites]
    exact Expr.sites_coveredBy hidden value

theorem sitesOfEntries_coveredBy (hidden : List String) :
    ∀ es : List ObjectEntry, Site.CoveredBy (lookupsOfEntries es) hidden (sitesOfEntries hidden es)
  | [] => by rw [lookupsOfEntries, sitesOfEntries]; exact .nil
  | e :: es => by
    rw [lookupsOfEntries, sitesOfEntries]
    exact (ObjectEntry.sites_coveredBy hidden e).append (sitesOfEntries_coveredBy hidden es)

theorem Markup.sites_coveredBy (hidden : List String) :
    ∀ m : Markup, Site.CoveredBy m.lookups hidden (m.sites hidden)
  | .element opening children => by
    rw [Markup.lookups, Markup.sites]
    exact (OpeningTag.sites_coveredBy hidden children opening).append (sitesOfChildren_coveredBy hidden children)
  | .selfClosing opening => by
    rw [Markup.lookups, Markup.sites]
    exact OpeningTag.sites_coveredBy hidden [] opening
  | .fragment children => by
    rw [Markup.lookups, Markup.sites]
    exact sitesOfChildren_coveredBy hidden children
  | .container content => by
    rw [Markup.lookups, Markup.sites]
    exact sitesOfExpr?_coveredBy hidden content

theorem OpeningTag.sites_coveredBy (hidden : List String) (children : List Child) :
    ∀ t : OpeningTag, Site.CoveredBy t.lookups hidden (t.sites hidden children)
  | ⟨tag, attributes⟩ => by
    rw [OpeningTag.lookups, OpeningTag.sites]
    refine .append ?_ (sitesOfAttributes_coveredBy hidden attributes)
    split
    · exact .nil
    · intro inner x hx hn
      rw [List.mem_append] at hx
      exact Expr.sites_coveredBy hidden tag inner x (hx.resolve_right (by simp)) hn

theorem Attribute.sites_coveredBy (hidden : List String) :
    ∀ a : Attribute, Site.CoveredBy a.lookups hidden (a.sites hidden)
  | .flag _ => by rw [Attribute.lookups, Attribute.sites]; exact .nil
  | .text _ _ => by rw [Attribute.lookups, Attribute.sites]; exact .nil
  | .value _ value => by rw [Attribute.lookups, Attribute.sites]; exact Expr.sites_coveredBy hidden value
  | .spread value => by rw [Attribute.lookups, Attribute.sites]; exact Expr.sites_coveredBy hidden value

theorem sitesOfAttributes_coveredBy (hidden : List String) :
    ∀ as : List Attribute, Site.CoveredBy (lookupsOfAttributes as) hidden (sitesOfAttributes hidden as)
  | [] => by rw [lookupsOfAttributes, sitesOfAttributes]; exact .nil
  | a :: as => by
    rw [lookupsOfAttributes, sitesOfAttributes]
    exact (Attribute.sites_coveredBy hidden a).append (sitesOfAttributes_coveredBy hidden as)

theorem Child.sites_coveredBy (hidden : List String) :
    ∀ c : Child, Site.CoveredBy c.lookups hidden (c.sites hidden)
  | .text _ => by rw [Child.lookups, Child.sites]; exact .nil
  | .markup m => by rw [Child.lookups, Child.sites]; exact Markup.sites_coveredBy hidden m

theorem sitesOfChildren_coveredBy (hidden : List String) :
    ∀ cs : List Child, Site.CoveredBy (lookupsOfChildren cs) hidden (sitesOfChildren hidden cs)
  | [] => by rw [lookupsOfChildren, sitesOfChildren]; exact .nil
  | c :: cs => by
    rw [lookupsOfChildren, sitesOfChildren]
    exact (Child.sites_coveredBy hidden c).append (sitesOfChildren_coveredBy hidden cs)

theorem Pattern.sites_coveredBy (hidden : List String) :
    ∀ p : Pattern, Site.CoveredBy p.lookups hidden (p.sites hidden)
  | ⟨_, elements⟩ => by rw [Pattern.lookups, Pattern.sites]; exact sitesOfBindings_coveredBy hidden elements

theorem Binding.sites_coveredBy (hidden : List String) :
    ∀ b : Binding, Site.CoveredBy b.lookups hidden (b.sites hidden)
  | ⟨_, _, target, fallback⟩ => by
    rw [Binding.lookups, Binding.sites]
    exact (Target.sites_coveredBy hidden target).append (sitesOfExpr?_coveredBy hidden fallback)

theorem sitesOfBindings_coveredBy (hidden : List String) :
    ∀ bs : List Binding, Site.CoveredBy (lookupsOfBindings bs) hidden (sitesOfBindings hidden bs)
  | [] => by rw [lookupsOfBindings, sitesOfBindings]; exact .nil
  | b :: bs => by
    rw [lookupsOfBindings, sitesOfBindings]
    exact (Binding.sites_coveredBy hidden b).append (sitesOfBindings_coveredBy hidden bs)

theorem Target.sites_coveredBy (hidden : List String) :
    ∀ t : Target, Site.CoveredBy t.lookups hidden (t.sites hidden)
  | .name _ => by rw [Target.lookups, Target.sites]; exact .nil
  | .pattern p => by rw [Target.lookups, Target.sites]; exact Pattern.sites_coveredBy hidden p

theorem Parameter.sites_coveredBy (hidden : List String) :
    ∀ p : Parameter, Site.CoveredBy p.lookups hidden (p.sites hidden)
  | ⟨decorators, _, _, target, _, _, fallback⟩ => by
    rw [Parameter.lookups, Parameter.sites]
    exact ((sitesOfExprs_coveredBy hidden decorators).append (Target.sites_coveredBy hidden target)).append
      (sitesOfExpr?_coveredBy hidden fallback)

theorem sitesOfParameters_coveredBy (hidden : List String) :
    ∀ ps : List Parameter, Site.CoveredBy (lookupsOfParameters ps) hidden (sitesOfParameters hidden ps)
  | [] => by rw [lookupsOfParameters, sitesOfParameters]; exact .nil
  | p :: ps => by
    rw [lookupsOfParameters, sitesOfParameters]
    exact (Parameter.sites_coveredBy hidden p).append (sitesOfParameters_coveredBy hidden ps)

theorem Function.sites_coveredBy (hidden : List String) :
    ∀ f : Function, Site.CoveredBy f.lookups hidden (f.sites hidden)
  | ⟨form, _, _, parameters, _, body⟩ => by
    rw [Function.lookups, Function.sites]
    exact (FunctionForm.sites_coveredBy hidden form).append
      ((sitesOfParameters_coveredBy _ parameters).append (Body.sites_coveredBy _ body)).unbind

theorem FunctionForm.sites_coveredBy (hidden : List String) :
    ∀ f : FunctionForm, Site.CoveredBy f.lookups hidden (f.sites hidden)
  | .keyword decorators _ _ => by
    rw [FunctionForm.lookups, FunctionForm.sites]
    exact sitesOfExprs_coveredBy hidden decorators
  | .arrow => by rw [FunctionForm.lookups, FunctionForm.sites]; exact .nil

theorem Body.sites_coveredBy (hidden : List String) :
    ∀ b : Body, Site.CoveredBy b.lookups hidden (b.sites hidden)
  | .block b => by rw [Body.lookups, Body.sites]; exact Block.sites_coveredBy hidden b
  | .expr value => by rw [Body.lookups, Body.sites]; exact Expr.sites_coveredBy hidden value

theorem Block.sites_coveredBy (hidden : List String) :
    ∀ b : Block, Site.CoveredBy b.lookups hidden (b.sites hidden)
  | ⟨statements⟩ => by rw [Block.lookups, Block.sites]; exact sitesOfStatements_coveredBy hidden statements

theorem Statement.sites_coveredBy (hidden : List String) :
    ∀ t : Statement, Site.CoveredBy t.lookups hidden (t.sites hidden)
  | .ret value => by rw [Statement.lookups, Statement.sites]; exact sitesOfExpr?_coveredBy hidden value
  | .declare _ declarations => by
    rw [Statement.lookups, Statement.sites]
    exact Declarations.sites_coveredBy hidden declarations
  | .expr value => by rw [Statement.lookups, Statement.sites]; exact Expr.sites_coveredBy hidden value
  | .block b => by rw [Statement.lookups, Statement.sites]; exact Block.sites_coveredBy hidden b

theorem sitesOfStatements_coveredBy (hidden : List String) :
    ∀ ts : List Statement, Site.CoveredBy (lookupsOfStatements ts) hidden (sitesOfStatements hidden ts)
  | [] => by rw [lookupsOfStatements, sitesOfStatements]; exact .nil
  | t :: ts => by
    rw [lookupsOfStatements, sitesOfStatements]
    exact (Statement.sites_coveredBy hidden t).append (sitesOfStatements_coveredBy hidden ts)

theorem Declarations.sites_coveredBy (hidden : List String) :
    ∀ d : Declarations, Site.CoveredBy d.lookups hidden (d.sites hidden)
  | ⟨_, items⟩ => by rw [Declarations.lookups, Declarations.sites]; exact sitesOfItems_coveredBy hidden items

theorem sitesOfItems_coveredBy (hidden : List String) :
    ∀ ds : List Declaration, Site.CoveredBy (lookupsOfItems ds) hidden (sitesOfItems hidden ds)
  | [] => by rw [lookupsOfItems, sitesOfItems]; exact .nil
  | d :: ds => by
    rw [lookupsOfItems, sitesOfItems]
    exact (Declaration.sites_coveredBy hidden d).append (sitesOfItems_coveredBy hidden ds)

theorem Declaration.sites_coveredBy (hidden : List String) :
    ∀ d : Declaration, Site.CoveredBy d.lookups hidden (d.sites hidden)
  | ⟨target, _, value⟩ => by
    rw [Declaration.lookups, Declaration.sites]
    exact (Target.sites_coveredBy hidden target).append (sitesOfExpr?_coveredBy hidden value)

end

/-- What a piece of syntax asks for at a site where it is not hidden, it looks up. -/
theorem Node.sites_coveredBy (n : Node) : Site.CoveredBy n.lookups [] n.sites := by
  cases n with
  | expr e => exact e.sites_coveredBy []
  | markup m => exact m.sites_coveredBy []
  | pattern p => exact p.sites_coveredBy []
  | target t => exact t.sites_coveredBy []
  | binding b => exact b.sites_coveredBy []
  | parameter p => exact p.sites_coveredBy []
  | decorator e => exact e.sites_coveredBy []
  | function f => exact f.sites_coveredBy []
  | block b => exact b.sites_coveredBy []
  | statement t => exact t.sites_coveredBy []
  | declarations d => exact d.sites_coveredBy []
  | type _ => exact .nil

end ViewTemplate
