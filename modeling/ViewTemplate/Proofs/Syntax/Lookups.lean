import ViewTemplate.Node
import ViewTemplate.Proofs.Syntax.Every

/-!
# The names that printing looks up

Printing a piece of syntax asks its scope for the names in `lookups` and for nothing else.  They differ from the free
names in two places: a function looks up what its decorators name, and a block inside a block does not hide what it
declares.  Where there are neither decorators nor such blocks, every name that is looked up is free
(`Expr.lookups_subset`, `Markup.lookups_subset`).
-/

namespace ViewTemplate

mutual

/-- The names an expression looks up when it is printed. -/
def Expr.lookups : Expr → List String
  | .ident name => [name]
  | .verbatim _ => []
  | .string _ => []
  | .number _ => []
  | .property object _ _ => object.lookups
  | .element object argument => object.lookups ++ argument.lookups
  | .call callee arguments => callee.lookups ++ lookupsOfExprs arguments
  | .binary left _ right => left.lookups ++ right.lookups
  | .unary _ operand => operand.lookups
  | .conditional condition whenTrue whenFalse => condition.lookups ++ whenTrue.lookups ++ whenFalse.lookups
  | .paren inner => inner.lookups
  | .object entries => lookupsOfEntries entries
  | .array elements => lookupsOfExprs elements
  | .pattern p => p.lookups
  | .type _ => []
  | .markup m => m.lookups
  | .function f => f.lookups

/-- The names a list of expressions looks up. -/
def lookupsOfExprs : List Expr → List String
  | [] => []
  | e :: es => e.lookups ++ lookupsOfExprs es

/-- The names an optional expression looks up. -/
def lookupsOfExpr? : Option Expr → List String
  | none => []
  | some e => e.lookups

/-- The names a member of an object literal looks up. -/
def ObjectEntry.lookups : ObjectEntry → List String
  | .keyed _ value => value.lookups
  | .shorthand name => [name]
  | .spread value => value.lookups

/-- The names a list of members of an object literal looks up. -/
def lookupsOfEntries : List ObjectEntry → List String
  | [] => []
  | e :: es => e.lookups ++ lookupsOfEntries es

/-- The names a markup tree looks up. -/
def Markup.lookups : Markup → List String
  | .element opening children => opening.lookups ++ lookupsOfChildren children
  | .selfClosing opening => opening.lookups
  | .fragment children => lookupsOfChildren children
  | .container content => lookupsOfExpr? content

/-- The names a tag and its attributes look up. -/
def OpeningTag.lookups : OpeningTag → List String
  | ⟨tag, attributes⟩ =>
    (if OpeningTag.isIntrinsic ⟨tag, attributes⟩ then [] else tag.lookups) ++ lookupsOfAttributes attributes

/-- The names an attribute looks up. -/
def Attribute.lookups : Attribute → List String
  | .flag _ => []
  | .text _ _ => []
  | .value _ value => value.lookups
  | .spread value => value.lookups

/-- The names a list of attributes looks up. -/
def lookupsOfAttributes : List Attribute → List String
  | [] => []
  | a :: as => a.lookups ++ lookupsOfAttributes as

/-- The names a child looks up. -/
def Child.lookups : Child → List String
  | .text _ => []
  | .markup m => m.lookups

/-- The names a list of children looks up. -/
def lookupsOfChildren : List Child → List String
  | [] => []
  | c :: cs => c.lookups ++ lookupsOfChildren cs

/-- The names a pattern looks up: those of its default values. -/
def Pattern.lookups : Pattern → List String
  | ⟨_, elements⟩ => lookupsOfBindings elements

/-- The names a binding looks up. -/
def Binding.lookups : Binding → List String
  | ⟨_, _, target, fallback⟩ => target.lookups ++ lookupsOfExpr? fallback

/-- The names a list of bindings looks up. -/
def lookupsOfBindings : List Binding → List String
  | [] => []
  | b :: bs => b.lookups ++ lookupsOfBindings bs

/-- The names a target looks up. -/
def Target.lookups : Target → List String
  | .name _ => []
  | .pattern p => p.lookups

/-- The names a parameter looks up. -/
def Parameter.lookups : Parameter → List String
  | ⟨decorators, _, _, target, _, _, fallback⟩ =>
    lookupsOfExprs decorators ++ target.lookups ++ lookupsOfExpr? fallback

/-- The names a list of parameters looks up. -/
def lookupsOfParameters : List Parameter → List String
  | [] => []
  | p :: ps => p.lookups ++ lookupsOfParameters ps

/-- The names a function looks up outside itself. -/
def Function.lookups : Function → List String
  | ⟨form, modifiers, typeParameters, parameters, returnType, body⟩ =>
    form.lookups ++
      withoutNames (Function.boundNames ⟨form, modifiers, typeParameters, parameters, returnType, body⟩)
        (lookupsOfParameters parameters ++ body.lookups)

/-- The names the decorators of a function look up. -/
def FunctionForm.lookups : FunctionForm → List String
  | .keyword decorators _ _ => lookupsOfExprs decorators
  | .arrow => []

/-- The names a function body looks up. -/
def Body.lookups : Body → List String
  | .block b => b.lookups
  | .expr value => value.lookups

/-- The names a block looks up, those it declares included. -/
def Block.lookups : Block → List String
  | ⟨statements⟩ => lookupsOfStatements statements

/-- The names a statement looks up. -/
def Statement.lookups : Statement → List String
  | .ret value => lookupsOfExpr? value
  | .declare _ declarations => declarations.lookups
  | .expr value => value.lookups
  | .block b => b.lookups

/-- The names a list of statements looks up. -/
def lookupsOfStatements : List Statement → List String
  | [] => []
  | t :: ts => t.lookups ++ lookupsOfStatements ts

/-- The names a list of declarations with their keyword looks up. -/
def Declarations.lookups : Declarations → List String
  | ⟨_, items⟩ => lookupsOfItems items

/-- The names a list of declarations looks up. -/
def lookupsOfItems : List Declaration → List String
  | [] => []
  | d :: ds => d.lookups ++ lookupsOfItems ds

/-- The names a declaration looks up. -/
def Declaration.lookups : Declaration → List String
  | ⟨target, _, value⟩ => target.lookups ++ lookupsOfExpr? value

end

/-- The names a piece of syntax looks up when it is printed. -/
def Node.lookups : Node → List String
  | .expr e => e.lookups
  | .markup m => m.lookups
  | .pattern p => p.lookups
  | .target t => t.lookups
  | .binding b => b.lookups
  | .parameter p => p.lookups
  | .decorator e => e.lookups
  | .function f => f.lookups
  | .block b => b.lookups
  | .statement t => t.lookups
  | .declarations d => d.lookups
  | .type _ => []

/-! ### Names looked up are free -/

theorem mem_unionNames {x : String} {xs ys : List String} : x ∈ unionNames xs ys ↔ x ∈ xs ∨ x ∈ ys := by
  simp only [unionNames, List.mem_append, List.mem_filter, Bool.not_eq_true', List.contains_eq_mem,
    decide_eq_false_iff_not]
  by_cases h : x ∈ xs <;> simp [h]

theorem mem_withoutNames {x : String} {bound names : List String} :
    x ∈ withoutNames bound names ↔ x ∈ names ∧ x ∉ bound := by
  simp [withoutNames]

private theorem append_subset_unionNames {xs xs' ys ys' : List String} (hx : xs ⊆ xs') (hy : ys ⊆ ys') :
    xs ++ ys ⊆ unionNames xs' ys' := by
  intro z hz
  rw [mem_unionNames]
  exact (List.mem_append.1 hz).imp (hx ·) (hy ·)

mutual

/-- Without decorators and inner blocks, every name that an expression looks up is free in it. -/
theorem Expr.lookups_subset : ∀ e : Expr, e.every .flat = true → e.lookups ⊆ e.freeNames
  | .ident _, _ => by rw [Expr.lookups, Expr.freeNames]; exact List.Subset.refl _
  | .verbatim _, _ => by rw [Expr.lookups]; exact List.nil_subset _
  | .string _, _ => by rw [Expr.lookups]; exact List.nil_subset _
  | .number _, _ => by rw [Expr.lookups]; exact List.nil_subset _
  | .property object _ _, h => by
    simp only [Expr.every, Bool.and_eq_true] at h
    rw [Expr.lookups, Expr.freeNames]
    exact Expr.lookups_subset object h.2
  | .element object argument, h => by
    simp only [Expr.every, Bool.and_eq_true] at h
    rw [Expr.lookups, Expr.freeNames]
    exact append_subset_unionNames (Expr.lookups_subset object h.1.2) (Expr.lookups_subset argument h.2)
  | .call callee arguments, h => by
    simp only [Expr.every, Bool.and_eq_true] at h
    rw [Expr.lookups, Expr.freeNames]
    exact append_subset_unionNames (Expr.lookups_subset callee h.1.2) (lookupsOfExprs_subset arguments h.2)
  | .binary left _ right, h => by
    simp only [Expr.every, Bool.and_eq_true] at h
    rw [Expr.lookups, Expr.freeNames]
    exact append_subset_unionNames (Expr.lookups_subset left h.1.2) (Expr.lookups_subset right h.2)
  | .unary _ operand, h => by
    simp only [Expr.every, Bool.and_eq_true] at h
    rw [Expr.lookups, Expr.freeNames]
    exact Expr.lookups_subset operand h.2
  | .conditional condition whenTrue whenFalse, h => by
    simp only [Expr.every, Bool.and_eq_true] at h
    rw [Expr.lookups, Expr.freeNames]
    exact append_subset_unionNames
      (append_subset_unionNames (Expr.lookups_subset condition h.1.1.2) (Expr.lookups_subset whenTrue h.1.2))
      (Expr.lookups_subset whenFalse h.2)
  | .paren inner, h => by
    simp only [Expr.every, Bool.and_eq_true] at h
    rw [Expr.lookups, Expr.freeNames]
    exact Expr.lookups_subset inner h.2
  | .object entries, h => by
    simp only [Expr.every, Bool.and_eq_true] at h
    rw [Expr.lookups, Expr.freeNames]
    exact lookupsOfEntries_subset entries h.2
  | .array elements, h => by
    simp only [Expr.every, Bool.and_eq_true] at h
    rw [Expr.lookups, Expr.freeNames]
    exact lookupsOfExprs_subset elements h.2
  | .pattern p, h => by
    simp only [Expr.every, Bool.and_eq_true] at h
    rw [Expr.lookups, Expr.freeNames]
    exact Pattern.lookups_subset p h.2
  | .type _, _ => by rw [Expr.lookups]; exact List.nil_subset _
  | .markup m, h => by
    simp only [Expr.every, Bool.and_eq_true] at h
    rw [Expr.lookups, Expr.freeNames]
    exact Markup.lookups_subset m h.2
  | .function f, h => by
    simp only [Expr.every, Bool.and_eq_true] at h
    rw [Expr.lookups, Expr.freeNames]
    exact Function.lookups_subset f h.2

theorem lookupsOfExprs_subset : ∀ es : List Expr, everyExpr .flat es = true → lookupsOfExprs es ⊆ freeNamesOfExprs es
  | [], _ => by rw [lookupsOfExprs]; exact List.nil_subset _
  | e :: es, h => by
    simp only [everyExpr, Bool.and_eq_true] at h
    rw [lookupsOfExprs, freeNamesOfExprs]
    exact append_subset_unionNames (Expr.lookups_subset e h.1) (lookupsOfExprs_subset es h.2)

theorem lookupsOfExpr?_subset :
    ∀ e : Option Expr, everyExpr? .flat e = true → lookupsOfExpr? e ⊆ freeNamesOfExpr? e
  | none, _ => by rw [lookupsOfExpr?]; exact List.nil_subset _
  | some e, h => by
    rw [everyExpr?] at h
    rw [lookupsOfExpr?, freeNamesOfExpr?]
    exact Expr.lookups_subset e h

theorem ObjectEntry.lookups_subset : ∀ e : ObjectEntry, e.every .flat = true → e.lookups ⊆ e.freeNames
  | .keyed _ value, h => by
    simp only [ObjectEntry.every, Bool.and_eq_true] at h
    rw [ObjectEntry.lookups, ObjectEntry.freeNames]
    exact Expr.lookups_subset value h.2
  | .shorthand _, _ => by rw [ObjectEntry.lookups, ObjectEntry.freeNames]; exact List.Subset.refl _
  | .spread value, h => by
    simp only [ObjectEntry.every, Bool.and_eq_true] at h
    rw [ObjectEntry.lookups, ObjectEntry.freeNames]
    exact Expr.lookups_subset value h.2

theorem lookupsOfEntries_subset :
    ∀ es : List ObjectEntry, everyEntry .flat es = true → lookupsOfEntries es ⊆ freeNamesOfEntries es
  | [], _ => by rw [lookupsOfEntries]; exact List.nil_subset _
  | e :: es, h => by
    simp only [everyEntry, Bool.and_eq_true] at h
    rw [lookupsOfEntries, freeNamesOfEntries]
    exact append_subset_unionNames (ObjectEntry.lookups_subset e h.1) (lookupsOfEntries_subset es h.2)

/-- Without decorators and inner blocks, every name that a markup tree looks up is free in it. -/
theorem Markup.lookups_subset : ∀ m : Markup, m.every .flat = true → m.lookups ⊆ m.freeNames
  | .element opening children, h => by
    simp only [Markup.every, Bool.and_eq_true] at h
    rw [Markup.lookups, Markup.freeNames]
    exact append_subset_unionNames (OpeningTag.lookups_subset opening h.1) (lookupsOfChildren_subset children h.2)
  | .selfClosing opening, h => by
    rw [Markup.every] at h
    rw [Markup.lookups, Markup.freeNames]
    exact OpeningTag.lookups_subset opening h
  | .fragment children, h => by
    rw [Markup.every] at h
    rw [Markup.lookups, Markup.freeNames]
    exact lookupsOfChildren_subset children h
  | .container content, h => by
    rw [Markup.every] at h
    rw [Markup.lookups, Markup.freeNames]
    exact lookupsOfExpr?_subset content h

theorem OpeningTag.lookups_subset : ∀ t : OpeningTag, t.every .flat = true → t.lookups ⊆ t.freeNames
  | ⟨tag, attributes⟩, h => by
    simp only [OpeningTag.every, Bool.and_eq_true] at h
    rw [OpeningTag.lookups, OpeningTag.freeNames]
    apply append_subset_unionNames _ (lookupsOfAttributes_subset attributes h.2)
    split
    · exact List.Subset.refl _
    · exact Expr.lookups_subset tag h.1

theorem Attribute.lookups_subset : ∀ a : Attribute, a.every .flat = true → a.lookups ⊆ a.freeNames
  | .flag _, _ => by rw [Attribute.lookups]; exact List.nil_subset _
  | .text _ _, _ => by rw [Attribute.lookups]; exact List.nil_subset _
  | .value _ value, h => by
    simp only [Attribute.every, Bool.and_eq_true] at h
    rw [Attribute.lookups, Attribute.freeNames]
    exact Expr.lookups_subset value h.2
  | .spread value, h => by
    simp only [Attribute.every, Bool.and_eq_true] at h
    rw [Attribute.lookups, Attribute.freeNames]
    exact Expr.lookups_subset value h.2

theorem lookupsOfAttributes_subset :
    ∀ as : List Attribute, everyAttribute .flat as = true → lookupsOfAttributes as ⊆ freeNamesOfAttributes as
  | [], _ => by rw [lookupsOfAttributes]; exact List.nil_subset _
  | a :: as, h => by
    simp only [everyAttribute, Bool.and_eq_true] at h
    rw [lookupsOfAttributes, freeNamesOfAttributes]
    exact append_subset_unionNames (Attribute.lookups_subset a h.1) (lookupsOfAttributes_subset as h.2)

theorem Child.lookups_subset : ∀ c : Child, c.every .flat = true → c.lookups ⊆ c.freeNames
  | .text _, _ => by rw [Child.lookups]; exact List.nil_subset _
  | .markup m, h => by
    simp only [Child.every, Bool.and_eq_true] at h
    rw [Child.lookups, Child.freeNames]
    exact Markup.lookups_subset m h.2

theorem lookupsOfChildren_subset :
    ∀ cs : List Child, everyChild .flat cs = true → lookupsOfChildren cs ⊆ freeNamesOfChildren cs
  | [], _ => by rw [lookupsOfChildren]; exact List.nil_subset _
  | c :: cs, h => by
    simp only [everyChild, Bool.and_eq_true] at h
    rw [lookupsOfChildren, freeNamesOfChildren]
    exact append_subset_unionNames (Child.lookups_subset c h.1) (lookupsOfChildren_subset cs h.2)

theorem Pattern.lookups_subset : ∀ p : Pattern, p.every .flat = true → p.lookups ⊆ p.freeNames
  | ⟨_, elements⟩, h => by
    rw [Pattern.every] at h
    rw [Pattern.lookups, Pattern.freeNames]
    exact lookupsOfBindings_subset elements h

theorem Binding.lookups_subset : ∀ b : Binding, b.every .flat = true → b.lookups ⊆ b.freeNames
  | ⟨_, _, target, fallback⟩, h => by
    simp only [Binding.every, Bool.and_eq_true] at h
    rw [Binding.lookups, Binding.freeNames]
    exact append_subset_unionNames (Target.lookups_subset target h.1.2) (lookupsOfExpr?_subset fallback h.2)

theorem lookupsOfBindings_subset :
    ∀ bs : List Binding, everyBinding .flat bs = true → lookupsOfBindings bs ⊆ freeNamesOfBindings bs
  | [], _ => by rw [lookupsOfBindings]; exact List.nil_subset _
  | b :: bs, h => by
    simp only [everyBinding, Bool.and_eq_true] at h
    rw [lookupsOfBindings, freeNamesOfBindings]
    exact append_subset_unionNames (Binding.lookups_subset b h.1) (lookupsOfBindings_subset bs h.2)

theorem Target.lookups_subset : ∀ t : Target, t.every .flat = true → t.lookups ⊆ t.freeNames
  | .name _, _ => by rw [Target.lookups]; exact List.nil_subset _
  | .pattern p, h => by
    simp only [Target.every, Bool.and_eq_true] at h
    rw [Target.lookups, Target.freeNames]
    exact Pattern.lookups_subset p h.2

theorem Parameter.lookups_subset : ∀ p : Parameter, p.every .flat = true → p.lookups ⊆ p.freeNames
  | ⟨decorators, _, _, target, _, _, fallback⟩, h => by
    simp only [Parameter.every, Check.flat, Bool.and_eq_true, List.isEmpty_iff] at h
    obtain ⟨⟨⟨rfl, -⟩, ht⟩, hf⟩ := h
    rw [Parameter.lookups, Parameter.freeNames, lookupsOfExprs, List.nil_append]
    exact append_subset_unionNames (Target.lookups_subset target ht) (lookupsOfExpr?_subset fallback hf)

theorem lookupsOfParameters_subset :
    ∀ ps : List Parameter, everyParameter .flat ps = true → lookupsOfParameters ps ⊆ freeNamesOfParameters ps
  | [], _ => by rw [lookupsOfParameters]; exact List.nil_subset _
  | p :: ps, h => by
    simp only [everyParameter, Bool.and_eq_true] at h
    rw [lookupsOfParameters, freeNamesOfParameters]
    exact append_subset_unionNames (Parameter.lookups_subset p h.1) (lookupsOfParameters_subset ps h.2)

theorem Function.lookups_subset : ∀ f : Function, f.every .flat = true → f.lookups ⊆ f.freeNames
  | ⟨form, modifiers, typeParameters, parameters, returnType, body⟩, h => by
    simp only [Function.every, Bool.and_eq_true] at h
    obtain ⟨⟨⟨-, hform⟩, hparameters⟩, hbody⟩ := h
    intro x hx
    rw [Function.lookups, FunctionForm.lookups_eq_nil form hform, List.nil_append, mem_withoutNames,
      List.mem_append] at hx
    obtain ⟨hx, hb⟩ := hx
    rw [Function.freeNames, mem_withoutNames, mem_unionNames]
    refine ⟨?_, hb⟩
    -- what the body declares is bound by the function
    have hd : x ∉ body.declaredNames := fun hd => hb (List.mem_append_right _ hd)
    rcases hx with hx | hx
    · exact Or.inl (lookupsOfParameters_subset parameters hparameters hx)
    · exact Or.inr (Body.mem_freeNames_of_mem_lookups body hbody x hx hd)

theorem FunctionForm.lookups_eq_nil : ∀ f : FunctionForm, f.every .flat = true → f.lookups = []
  | .keyword decorators _ _, h => by
    simp only [FunctionForm.every, Check.flat, Bool.and_eq_true, List.isEmpty_iff] at h
    obtain ⟨rfl, -⟩ := h
    rw [FunctionForm.lookups, lookupsOfExprs]
  | .arrow, _ => by rw [FunctionForm.lookups]

theorem Body.mem_freeNames_of_mem_lookups :
    ∀ b : Body, b.every .flat = true → ∀ x ∈ b.lookups, x ∉ b.declaredNames → x ∈ b.freeNames
  | .block b, h, x, hx, hd => by
    rw [Body.every] at h
    rw [Body.lookups] at hx
    rw [Body.freeNames]
    exact Block.mem_freeNames_of_mem_lookups b h x hx hd
  | .expr value, h, x, hx, _ => by
    rw [Body.every] at h
    rw [Body.lookups] at hx
    rw [Body.freeNames]
    exact Expr.lookups_subset value h hx

theorem Block.mem_freeNames_of_mem_lookups :
    ∀ b : Block, b.every .flat = true → ∀ x ∈ b.lookups, x ∉ b.declaredNames → x ∈ b.freeNames
  | ⟨statements⟩, h, x, hx, hd => by
    rw [Block.every] at h
    rw [Block.lookups] at hx
    rw [Block.freeNames, mem_withoutNames]
    exact ⟨lookupsOfStatements_subset statements h hx, hd⟩

theorem Statement.lookups_subset : ∀ t : Statement, t.every .flat = true → t.lookups ⊆ t.freeNames
  | .ret value, h => by
    simp only [Statement.every, Bool.and_eq_true] at h
    rw [Statement.lookups, Statement.freeNames]
    exact lookupsOfExpr?_subset value h.2
  | .declare _ declarations, h => by
    simp only [Statement.every, Bool.and_eq_true] at h
    rw [Statement.lookups, Statement.freeNames]
    exact Declarations.lookups_subset declarations h.2
  | .expr value, h => by
    simp only [Statement.every, Bool.and_eq_true] at h
    rw [Statement.lookups, Statement.freeNames]
    exact Expr.lookups_subset value h.2
  | .block _, h => by simp [Statement.every, Check.flat] at h

theorem lookupsOfStatements_subset :
    ∀ ts : List Statement, everyStatement .flat ts = true → lookupsOfStatements ts ⊆ freeNamesOfStatements ts
  | [], _ => by rw [lookupsOfStatements]; exact List.nil_subset _
  | t :: ts, h => by
    simp only [everyStatement, Bool.and_eq_true] at h
    rw [lookupsOfStatements, freeNamesOfStatements]
    exact append_subset_unionNames (Statement.lookups_subset t h.1) (lookupsOfStatements_subset ts h.2)

theorem Declarations.lookups_subset : ∀ d : Declarations, d.every .flat = true → d.lookups ⊆ d.freeNames
  | ⟨_, items⟩, h => by
    rw [Declarations.every] at h
    rw [Declarations.lookups, Declarations.freeNames]
    exact lookupsOfItems_subset items h

theorem lookupsOfItems_subset :
    ∀ ds : List Declaration, everyItem .flat ds = true → lookupsOfItems ds ⊆ freeNamesOfItems ds
  | [], _ => by rw [lookupsOfItems]; exact List.nil_subset _
  | d :: ds, h => by
    simp only [everyItem, Bool.and_eq_true] at h
    rw [lookupsOfItems, freeNamesOfItems]
    exact append_subset_unionNames (Declaration.lookups_subset d h.1) (lookupsOfItems_subset ds h.2)

theorem Declaration.lookups_subset : ∀ d : Declaration, d.every .flat = true → d.lookups ⊆ d.freeNames
  | ⟨target, _, value⟩, h => by
    simp only [Declaration.every, Bool.and_eq_true] at h
    rw [Declaration.lookups, Declaration.freeNames]
    exact append_subset_unionNames (Target.lookups_subset target h.1.2) (lookupsOfExpr?_subset value h.2)

end

/-- Whether the check holds throughout a piece of syntax. -/
def Node.every (c : Check) : Node → Bool
  | .expr e => e.every c
  | .markup m => m.every c
  | .pattern p => p.every c
  | .target t => t.every c
  | .binding b => b.every c
  | .parameter p => p.every c
  | .decorator e => e.every c
  | .function f => f.every c
  | .block b => b.every c
  | .statement t => t.every c
  | .declarations d => d.every c
  | .type _ => true

/-- A block by itself, which does not hide the names it declares. -/
def Node.isBlock : Node → Bool
  | .block _ => true
  | _ => false

/-- Any piece of syntax but a block looks up only free names. -/
theorem Node.lookups_subset (n : Node) (hb : n.isBlock = false) (h : n.every .flat = true) :
    n.lookups ⊆ n.freeNames := by
  cases n with
  | expr e => exact e.lookups_subset h
  | markup m => exact m.lookups_subset h
  | pattern p => exact p.lookups_subset h
  | target t => exact t.lookups_subset h
  | binding b => exact b.lookups_subset h
  | parameter p => exact p.lookups_subset h
  | decorator e => exact e.lookups_subset h
  | function f => exact f.lookups_subset h
  | block b => simp [isBlock] at hb
  | statement t => exact t.lookups_subset h
  | declarations d => exact d.lookups_subset h
  | type t => exact List.nil_subset _

end ViewTemplate
