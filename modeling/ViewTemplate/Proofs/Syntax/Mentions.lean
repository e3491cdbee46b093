import ViewTemplate.Proofs.Syntax.Lookups
import ViewTemplate.Proofs.VariableMap

/-!
# Free names in the order of their first mention

A mention is a place where a name is written as an expression, together with the names that the functions and blocks
around the place bind.  The mentions of a piece of syntax are listed as they are written, from left to right.  Without
decorators, its free names are the names of those mentions that nothing around them binds, each where it comes first
(`Node.freeNames_eq_firstMentions`).

The free names are put together from the inside out: at each level those of two parts are united, and what is bound
there is taken out.  Both steps go through taking repetitions out of a list (`Mention.firstFree_append`,
`Mention.firstFree_within`), so it comes to the same to take out what is bound and what is repeated at the end, from the
list of all mentions.
-/

namespace ViewTemplate

/-- A place where a name is written as an expression, with the names that are bound around it. -/
structure Mention where
  name : String
  bound : List String

namespace Mention

/-- The mention of a name around which nothing is bound. -/
def ofName (name : String) : Mention :=
  ⟨name, []⟩

/-- The mention inside of what binds `names`. -/
def within (names : List String) (m : Mention) : Mention :=
  { m with bound := m.bound ++ names }

/-- Nothing around the mention binds its name. -/
def isFree (m : Mention) : Bool :=
  !m.bound.contains m.name

/-- The names of the free mentions, in order and with repetitions. -/
def free (mentions : List Mention) : List String :=
  (mentions.filter isFree).map name

end Mention

mutual

/-- The mentions in an expression. -/
def Expr.mentions : Expr → List Mention
  | .ident name => [.ofName name]
  | .verbatim _ => []
  | .string _ => []
  | .number _ => []
  | .property object _ _ => object.mentions
  | .element object argument => object.mentions ++ argument.mentions
  | .call callee arguments => callee.mentions ++ mentionsOfExprs arguments
  | .binary left _ right => left.mentions ++ right.mentions
  | .unary _ operand => operand.mentions
  | .conditional condition whenTrue whenFalse => condition.mentions ++ whenTrue.mentions ++ whenFalse.mentions
  | .paren inner => inner.mentions
  | .object entries => mentionsOfEntries entries
  | .array elements => mentionsOfExprs elements
  | .pattern p => p.mentions
  | .type _ => []
  | .markup m => m.mentions
  | .function f => f.mentions

/-- The mentions in a list of expressions. -/
def mentionsOfExprs : List Expr → List Mention
  | [] => []
  | e :: es => e.mentions ++ mentionsOfExprs es

/-- The mentions in an optional expression. -/
def mentionsOfExpr? : Option Expr → List Mention
  | none => []
  | some e => e.mentions

/-- The mentions in a member of an object literal; a key is none unless it is the value, too. -/
def ObjectEntry.mentions : ObjectEntry → List Mention
  | .keyed _ value => value.mentions
  | .shorthand name => [.ofName name]
  | .spread value => value.mentions

/-- The mentions in a list of members of an object literal. -/
def mentionsOfEntries : List ObjectEntry → List Mention
  | [] => []
  | e :: es => e.mentions ++ mentionsOfEntries es

/-- The mentions in a markup tree. -/
def Markup.mentions : Markup → List Mention
  | .element opening children => opening.mentions ++ mentionsOfChildren children
  | .selfClosing opening => opening.mentions
  | .fragment children => mentionsOfChildren children
  | .container content => mentionsOfExpr? content

/-- The mentions in a tag and its attributes; a tag of the page itself is none. -/
def OpeningTag.mentions : OpeningTag → List Mention
  | ⟨tag, attributes⟩ =>
    (if OpeningTag.isIntrinsic ⟨tag, attributes⟩ then [] else tag.mentions) ++ mentionsOfAttributes attributes

/-- The mentions in an attribute. -/
def Attribute.mentions : Attribute → List Mention
  | .flag _ => []
  | .text _ _ => []
  | .value _ value => value.mentions
  | .spread value => value.mentions

/-- The mentions in a list of attributes. -/
def mentionsOfAttributes : List Attribute → List Mention
  | [] => []
  | a :: as => a.mentions ++ mentionsOfAttributes as

/-- The mentions in a child. -/
def Child.mentions : Child → List Mention
  | .text _ => []
  | .markup m => m.mentions

/-- The mentions in a list of children. -/
def mentionsOfChildren : List Child → List Mention
  | [] => []
  | c :: cs => c.mentions ++ mentionsOfChildren cs

/-- The mentions in a pattern: those in its default values. -/
def Pattern.mentions : Pattern → List Mention
  | ⟨_, elements⟩ => mentionsOfBindings elements

/-- The mentions in a binding. -/
def Binding.mentions : Binding → List Mention
  | ⟨_, _, target, fallback⟩ => target.mentions ++ mentionsOfExpr? fallback

/-- The mentions in a list of bindings. -/
def mentionsOfBindings : List Binding → List Mention
  | [] => []
  | b :: bs => b.mentions ++ mentionsOfBindings bs

/-- The mentions in a target; a bound name is none. -/
def Target.mentions : Target → List Mention
  | .name _ => []
  | .pattern p => p.mentions

/-- The mentions in a parameter. -/
def Parameter.mentions : Parameter → List Mention
  | ⟨decorators, _, _, target, _, _, fallback⟩ =>
    mentionsOfExprs decorators ++ target.mentions ++ mentionsOfExpr? fallback

/-- The mentions in a list of parameters. -/
def mentionsOfParameters : List Parameter → List Mention
  | [] => []
  | p :: ps => p.mentions ++ mentionsOfParameters ps

/-- The mentions in a function; its own decorators are outside of what it binds. -/
def Function.mentions : Function → List Mention
  | ⟨form, modifiers, typeParameters, parameters, returnType, body⟩ =>
    form.mentions ++ (mentionsOfParameters parameters ++ body.mentions).map
      (.within (Function.boundNames ⟨form, modifiers, typeParameters, parameters, returnType, body⟩))

/-- The mentions in the decorators of a function. -/
def FunctionForm.mentions : FunctionForm → List Mention
  | .keyword decorators _ _ => mentionsOfExprs decorators
  | .arrow => []

/-- The mentions in a function body. -/
def Body.mentions : Body → List Mention
  | .block b => b.mentions
  | .expr value => value.mentions

/-- The mentions in a block. -/
def Block.mentions : Block → List Mention
  | ⟨statements⟩ => (mentionsOfStatements statements).map (.within (Block.declaredNames ⟨statements⟩))

/-- The mentions in a statement. -/
def Statement.mentions : Statement → List Mention
  | .ret value => mentionsOfExpr? value
  | .declare _ declarations => declarations.mentions
  | .expr value => value.mentions
  | .block b => b.mentions

/-- The mentions in a list of statements. -/
def mentionsOfStatements : List Statement → List Mention
  | [] => []
  | t :: ts => t.mentions ++ mentionsOfStatements ts

/-- The mentions in a list of declarations with their keyword. -/
def Declarations.mentions : Declarations → List Mention
  | ⟨_, items⟩ => mentionsOfItems items

/-- The mentions in a list of declarations. -/
def mentionsOfItems : List Declaration → List Mention
  | [] => []
  | d :: ds => d.mentions ++ mentionsOfItems ds

/-- The mentions in a declaration. -/
def Declaration.mentions : Declaration → List Mention
  | ⟨target, _, value⟩ => target.mentions ++ mentionsOfExpr? value

end

/-- The mentions in a piece of syntax. -/
def Node.mentions : Node → List Mention
  | .expr e => e.mentions
  | .markup m => m.mentions
  | .pattern p => p.mentions
  | .target t => t.mentions
  | .binding b => b.mentions
  | .parameter p => p.mentions
  | .decorator e => e.mentions
  | .function f => f.mentions
  | .block b => b.mentions
  | .statement t => t.mentions
  | .declarations d => d.mentions
  | .type _ => []

/-- No decorators. -/
def Check.undecorated : Check where
  parameter p := p.decorators.isEmpty
  form
    | .keyword decorators _ _ => decorators.isEmpty
    | .arrow => true

/-! ### Repetitions and what is bound -/

theorem eraseDups_withoutNames (bound names : List String) :
    (withoutNames bound names).eraseDups = withoutNames bound names.eraseDups :=
  eraseDups_filter _ names

theorem eraseDups_append_eq_unionNames (xs ys : List String) :
    (xs ++ ys).eraseDups = unionNames xs.eraseDups ys.eraseDups := by
  have hnew : ys.eraseDups.filter (!xs.eraseDups.contains ·) = withoutNames xs ys.eraseDups :=
    List.filter_congr fun y _ => by simp [List.mem_eraseDups]
  rw [List.eraseDups_append, unionNames, hnew, ← eraseDups_withoutNames]
  rfl

namespace Mention

/-- The names of the free mentions, each where it comes first. -/
def firstFree (mentions : List Mention) : List String :=
  (free mentions).eraseDups

theorem firstFree_ofName (x : String) : firstFree [ofName x] = [x] := by
  rfl

theorem free_append (ms ms' : List Mention) : free (ms ++ ms') = free ms ++ free ms' := by
  rw [free, List.filter_append, List.map_append]
  rfl

theorem firstFree_append (ms ms' : List Mention) :
    firstFree (ms ++ ms') = unionNames (firstFree ms) (firstFree ms') := by
  rw [firstFree, free_append, eraseDups_append_eq_unionNames]
  rfl

/-- What binds names takes all their mentions out. -/
theorem free_within (names : List String) (ms : List Mention) :
    free (ms.map (within names)) = withoutNames names (free ms) := by
  have hfree : ∀ m : Mention, (within names m).isFree = (!names.contains m.name && m.isFree) := by
    intro m
    simp [isFree, within, Bool.and_comm]
  rw [free, List.filter_map, List.map_map, free, withoutNames, List.filter_map, List.filter_filter]
  exact congrArg _ (List.filter_congr fun m _ => hfree m)

theorem firstFree_within (names : List String) (ms : List Mention) :
    firstFree (ms.map (within names)) = withoutNames names (firstFree ms) := by
  rw [firstFree, free_within, eraseDups_withoutNames]
  rfl

end Mention

/-! ### Free names are free mentions -/

open Mention

mutual

/-- The free names of an expression without decorators are its free mentions. -/
theorem Expr.firstFree_mentions : ∀ e : Expr, e.every .undecorated = true → firstFree e.mentions = e.freeNames
  | .ident x, _ => by rw [Expr.mentions, Expr.freeNames, firstFree_ofName]
  | .verbatim _, _ => by rw [Expr.mentions, Expr.freeNames]; rfl
  | .string _, _ => by rw [Expr.mentions, Expr.freeNames]; rfl
  | .number _, _ => by rw [Expr.mentions, Expr.freeNames]; rfl
  | .property object _ _, h => by
    simp only [Expr.every, Bool.and_eq_true] at h
    rw [Expr.mentions, Expr.freeNames, Expr.firstFree_mentions object h.2]
  | .element object argument, h => by
    simp only [Expr.every, Bool.and_eq_true] at h
    rw [Expr.mentions, Expr.freeNames, firstFree_append, Expr.firstFree_mentions object h.1.2,
      Expr.firstFree_mentions argument h.2]
  | .call callee arguments, h => by
    simp only [Expr.every, Bool.and_eq_true] at h
    rw [Expr.mentions, Expr.freeNames, firstFree_append, Expr.firstFree_mentions callee h.1.2,
      firstFree_mentionsOfExprs arguments h.2]
  | .binary left _ right, h => by
    simp only [Expr.every, Bool.and_eq_true] at h
    rw [Expr.mentions, Expr.freeNames, firstFree_append, Expr.firstFree_mentions left h.1.2,
      Expr.firstFree_mentions right h.2]
  | .unary _ operand, h => by
    simp only [Expr.every, Bool.and_eq_true] at h
    rw [Expr.mentions, Expr.freeNames, Expr.firstFree_mentions operand h.2]
  | .conditional condition whenTrue whenFalse, h => by
    simp only [Expr.every, Bool.and_eq_true] at h
    rw [Expr.mentions, Expr.freeNames, firstFree_append, firstFree_append, Expr.firstFree_mentions condition h.1.1.2,
      Expr.firstFree_mentions whenTrue h.1.2, Expr.firstFree_mentions whenFalse h.2]
  | .paren inner, h => by
    simp only [Expr.every, Bool.and_eq_true] at h
    rw [Expr.mentions, Expr.freeNames, Expr.firstFree_mentions inner h.2]
  | .object entries, h => by
    simp only [Expr.every, Bool.and_eq_true] at h
    rw [Expr.mentions, Expr.freeNames, firstFree_mentionsOfEntries entries h.2]
  | .array elements, h => by
    simp only [Expr.every, Bool.and_eq_true] at h
    rw [Expr.mentions, Expr.freeNames, firstFree_mentionsOfExprs elements h.2]
  | .pattern p, h => by
    simp only [Expr.every, Bool.and_eq_true] at h
    rw [Expr.mentions, Expr.freeNames, Pattern.firstFree_mentions p h.2]
  | .type _, _ => by rw [Expr.mentions, Expr.freeNames]; rfl
  | .markup m, h => by
    simp only [Expr.every, Bool.and_eq_true] at h
    rw [Expr.mentions, Expr.freeNames, Markup.firstFree_mentions m h.2]
  | .function f, h => by
    simp only [Expr.every, Bool.and_eq_true] at h
    rw [Expr.mentions, Expr.freeNames, Function.firstFree_mentions f h.2]

theorem firstFree_mentionsOfExprs :
    ∀ es : List Expr, everyExpr .undecorated es = true → firstFree (mentionsOfExprs es) = freeNamesOfExprs es
  | [], _ => by rw [mentionsOfExprs, freeNamesOfExprs]; rfl
  | e :: es, h => by
    simp only [everyExpr, Bool.and_eq_true] at h
    rw [mentionsOfExprs, freeNamesOfExprs, firstFree_append, Expr.firstFree_mentions e h.1,
      firstFree_mentionsOfExprs es h.2]

theorem firstFree_mentionsOfExpr? :
    ∀ e : Option Expr, everyExpr? .undecorated e = true → firstFree (mentionsOfExpr? e) = freeNamesOfExpr? e
  | none, _ => by rw [mentionsOfExpr?, freeNamesOfExpr?]; rfl
  | some e, h => by
    rw [everyExpr?] at h
    rw [mentionsOfExpr?, freeNamesOfExpr?, Expr.firstFree_mentions e h]

theorem ObjectEntry.firstFree_mentions :
    ∀ e : ObjectEntry, e.every .undecorated = true → firstFree e.mentions = e.freeNames
  | .keyed _ value, h => by
    simp only [ObjectEntry.every, Bool.and_eq_true] at h
    rw [ObjectEntry.mentions, ObjectEntry.freeNames, Expr.firstFree_mentions value h.2]
  | .shorthand x, _ => by rw [ObjectEntry.mentions, ObjectEntry.freeNames, firstFree_ofName]
  | .spread value, h => by
    simp only [ObjectEntry.every, Bool.and_eq_true] at h
    rw [ObjectEntry.mentions, ObjectEntry.freeNames, Expr.firstFree_mentions value h.2]

theorem firstFree_mentionsOfEntries :
    ∀ es : List ObjectEntry, everyEntry .undecorated es = true →
      firstFree (mentionsOfEntries es) = freeNamesOfEntries es
  | [], _ => by rw [mentionsOfEntries, freeNamesOfEntries]; rfl
  | e :: es, h => by
    simp only [everyEntry, Bool.and_eq_true] at h
    rw [mentionsOfEntries, freeNamesOfEntries, firstFree_append, ObjectEntry.firstFree_mentions e h.1,
      firstFree_mentionsOfEntries es h.2]

theorem Markup.firstFree_mentions : ∀ m : Markup, m.every .undecorated = true → firstFree m.mentions = m.freeNames
  | .element opening children, h => by
    simp only [Markup.every, Bool.and_eq_true] at h
    rw [Markup.mentions, Markup.freeNames, firstFree_append, OpeningTag.firstFree_mentions opening h.1,
      firstFree_mentionsOfChildren children h.2]
  | .selfClosing opening, h => by
    rw [Markup.every] at h
    rw [Markup.mentions, Markup.freeNames, OpeningTag.firstFree_mentions opening h]
  | .fragment children, h => by
    rw [Markup.every] at h
    rw [Markup.mentions, Markup.freeNames, firstFree_mentionsOfChildren children h]
  | .container content, h => by
    rw [Markup.every] at h
    rw [Markup.mentions, Markup.freeNames, firstFree_mentionsOfExpr? content h]

theorem OpeningTag.firstFree_mentions :
    ∀ t : OpeningTag, t.every .undecorated = true → firstFree t.mentions = t.freeNames
  | ⟨tag, attributes⟩, h => by
    simp only [OpeningTag.every, Bool.and_eq_true] at h
    rw [OpeningTag.mentions, OpeningTag.freeNames, firstFree_append, firstFree_mentionsOfAttributes attributes h.2]
    split
    · rfl
    · rw [Expr.firstFree_mentions tag h.1]

theorem Attribute.firstFree_mentions :
    ∀ a : Attribute, a.every .undecorated = true → firstFree a.mentions = a.freeNames
  | .flag _, _ => by rw [Attribute.mentions, Attribute.freeNames]; rfl
  | .text _ _, _ => by rw [Attribute.mentions, Attribute.freeNames]; rfl
  | .value _ value, h => by
    simp only [Attribute.every, Bool.and_eq_true] at h
    rw [Attribute.mentions, Attribute.freeNames, Expr.firstFree_mentions value h.2]
  | .spread value, h => by
    simp only [Attribute.every, Bool.and_eq_true] at h
    rw [Attribute.mentions, Attribute.freeNames, Expr.firstFree_mentions value h.2]

theorem firstFree_mentionsOfAttributes :
    ∀ as : List Attribute, everyAttribute .undecorated as = true →
      firstFree (mentionsOfAttributes as) = freeNamesOfAttributes as
  | [], _ => by rw [mentionsOfAttributes, freeNamesOfAttributes]; rfl
  | a :: as, h => by
    simp only [everyAttribute, Bool.and_eq_true] at h
    rw [mentionsOfAttributes, freeNamesOfAttributes, firstFree_append, Attribute.firstFree_mentions a h.1,
      firstFree_mentionsOfAttributes as h.2]

theorem Child.firstFree_mentions : ∀ c : Child, c.every .undecorated = true → firstFree c.mentions = c.freeNames
  | .text _, _ => by rw [Child.mentions, Child.freeNames]; rfl
  | .markup m, h => by
    simp only [Child.every, Bool.and_eq_true] at h
    rw [Child.mentions, Child.freeNames, Markup.firstFree_mentions m h.2]

theorem firstFree_mentionsOfChildren :
    ∀ cs : List Child, everyChild .undecorated cs = true → firstFree (mentionsOfChildren cs) = freeNamesOfChildren cs
  | [], _ => by rw [mentionsOfChildren, freeNamesOfChildren]; rfl
  | c :: cs, h => by
    simp only [everyChild, Bool.and_eq_true] at h
    rw [mentionsOfChildren, freeNamesOfChildren, firstFree_append, Child.firstFree_mentions c h.1,
      firstFree_mentionsOfChildren cs h.2]

theorem Pattern.firstFree_mentions : ∀ p : Pattern, p.every .undecorated = true → firstFree p.mentions = p.freeNames
  | ⟨_, elements⟩, h => by
    rw [Pattern.every] at h
    rw [Pattern.mentions, Pattern.freeNames, firstFree_mentionsOfBindings elements h]

theorem Binding.firstFree_mentions : ∀ b : Binding, b.every .undecorated = true → firstFree b.mentions = b.freeNames
  | ⟨_, _, target, fallback⟩, h => by
    simp only [Binding.every, Bool.and_eq_true] at h
    rw [Binding.mentions, Binding.freeNames, firstFree_append, Target.firstFree_mentions target h.1.2,
      firstFree_mentionsOfExpr? fallback h.2]

theorem firstFree_mentionsOfBindings :
    ∀ bs : List Binding, everyBinding .undecorated bs = true →
      firstFree (mentionsOfBindings bs) = freeNamesOfBindings bs
  | [], _ => by rw [mentionsOfBindings, freeNamesOfBindings]; rfl
  | b :: bs, h => by
    simp only [everyBinding, Bool.and_eq_true] at h
    rw [mentionsOfBindings, freeNamesOfBindings, firstFree_append, Binding.firstFree_mentions b h.1,
      firstFree_mentionsOfBindings bs h.2]

theorem Target.firstFree_mentions : ∀ t : Target, t.every .undecorated = true → firstFree t.mentions = t.freeNames
  | .name _, _ => by rw [Target.mentions, Target.freeNames]; rfl
  | .pattern p, h => by
    simp only [Target.every, Bool.and_eq_true] at h
    rw [Target.mentions, Target.freeNames, Pattern.firstFree_mentions p h.2]

theorem Parameter.firstFree_mentions :
    ∀ p : Parameter, p.every .undecorated = true → firstFree p.mentions = p.freeNames
  | ⟨decorators, _, _, target, _, _, fallback⟩, h => by
    simp only [Parameter.every, Check.undecorated, Bool.and_eq_true, List.isEmpty_iff] at h
    obtain ⟨⟨⟨rfl, -⟩, ht⟩, hf⟩ := h
    rw [Parameter.mentions, Parameter.freeNames, mentionsOfExprs, List.nil_append, firstFree_append,
      Target.firstFree_mentions target ht, firstFree_mentionsOfExpr? fallback hf]

theorem firstFree_mentionsOfParameters :
    ∀ ps : List Parameter, everyParameter .undecorated ps = true →
      firstFree (mentionsOfParameters ps) = freeNamesOfParameters ps
  | [], _ => by rw [mentionsOfParameters, freeNamesOfParameters]; rfl
  | p :: ps, h => by
    simp only [everyParameter, Bool.and_eq_true] at h
    rw [mentionsOfParameters, freeNamesOfParameters, firstFree_append, Parameter.firstFree_mentions p h.1,
      firstFree_mentionsOfParameters ps h.2]

theorem Function.firstFree_mentions :
    ∀ f : Function, f.every .undecorated = true → firstFree f.mentions = f.freeNames
  | ⟨form, _, _, parameters, _, body⟩, h => by
    simp only [Function.every, Bool.and_eq_true] at h
    obtain ⟨⟨⟨-, hform⟩, hparameters⟩, hbody⟩ := h
    rw [Function.mentions, Function.freeNames, FunctionForm.mentions_eq_nil form hform, List.nil_append,
      firstFree_within, firstFree_append, firstFree_mentionsOfParameters parameters hparameters,
      Body.firstFree_mentions body hbody]

theorem FunctionForm.mentions_eq_nil : ∀ f : FunctionForm, f.every .undecorated = true → f.mentions = []
  | .keyword decorators _ _, h => by
    simp only [FunctionForm.every, Check.undecorated, Bool.and_eq_true, List.isEmpty_iff] at h
    obtain ⟨rfl, -⟩ := h
    rw [FunctionForm.mentions, mentionsOfExprs]
  | .arrow, _ => by rw [FunctionForm.mentions]

theorem Body.firstFree_mentions : ∀ b : Body, b.every .undecorated = true → firstFree b.mentions = b.freeNames
  | .block b, h => by
    rw [Body.every] at h
    rw [Body.mentions, Body.freeNames, Block.firstFree_mentions b h]
  | .expr value, h => by
    rw [Body.every] at h
    rw [Body.mentions, Body.freeNames, Expr.firstFree_mentions value h]

theorem Block.firstFree_mentions : ∀ b : Block, b.every .undecorated = true → firstFree b.mentions = b.freeNames
  | ⟨statements⟩, h => by
    rw [Block.every] at h
    rw [Block.mentions, Block.freeNames, firstFree_within, firstFree_mentionsOfStatements statements h]

theorem Statement.firstFree_mentions :
    ∀ t : Statement, t.every .undecorated = true → firstFree t.mentions = t.freeNames
  | .ret value, h => by
    simp only [Statement.every, Bool.and_eq_true] at h
    rw [Statement.mentions, Statement.freeNames, firstFree_mentionsOfExpr? value h.2]
  | .declare _ declarations, h => by
    simp only [Statement.every, Bool.and_eq_true] at h
    rw [Statement.mentions, Statement.freeNames, Declarations.firstFree_mentions declarations h.2]
  | .expr value, h => by
    simp only [Statement.every, Bool.and_eq_true] at h
    rw [Statement.mentions, Statement.freeNames, Expr.firstFree_mentions value h.2]
  | .block b, h => by
    simp only [Statement.every, Bool.and_eq_true] at h
    rw [Statement.mentions, Statement.freeNames, Block.firstFree_mentions b h.2]

theorem firstFree_mentionsOfStatements :
    ∀ ts : List Statement, everyStatement .undecorated ts = true →
      firstFree (mentionsOfStatements ts) = freeNamesOfStatements ts
  | [], _ => by rw [mentionsOfStatements, freeNamesOfStatements]; rfl
  | t :: ts, h => by
    simp only [everyStatement, Bool.and_eq_true] at h
    rw [mentionsOfStatements, freeNamesOfStatements, firstFree_append, Statement.firstFree_mentions t h.1,
      firstFree_mentionsOfStatements ts h.2]

theorem Declarations.firstFree_mentions :
    ∀ d : Declarations, d.every .undecorated = true → firstFree d.mentions = d.freeNames
  | ⟨_, items⟩, h => by
    rw [Declarations.every] at h
    rw [Declarations.mentions, Declarations.freeNames, firstFree_mentionsOfItems items h]

theorem firstFree_mentionsOfItems :
    ∀ ds : List Declaration, everyItem .undecorated ds = true → firstFree (mentionsOfItems ds) = freeNamesOfItems ds
  | [], _ => by rw [mentionsOfItems, freeNamesOfItems]; rfl
  | d :: ds, h => by
    simp only [everyItem, Bool.and_eq_true] at h
    rw [mentionsOfItems, freeNamesOfItems, firstFree_append, Declaration.firstFree_mentions d h.1,
      firstFree_mentionsOfItems ds h.2]

theorem Declaration.firstFree_mentions :
    ∀ d : Declaration, d.every .undecorated = true → firstFree d.mentions = d.freeNames
  | ⟨target, _, value⟩, h => by
    simp only [Declaration.every, Bool.and_eq_true] at h
    rw [Declaration.mentions, Declaration.freeNames, firstFree_append, Target.firstFree_mentions target h.1.2,
      firstFree_mentionsOfExpr? value h.2]

end

/-- The free names of a piece of syntax without decorators are its free mentions. -/
theorem Node.firstFree_mentions {n : Node} (h : n.every .undecorated = true) : firstFree n.mentions = n.freeNames := by
  cases n with
  | expr e => exact e.firstFree_mentions h
  | markup m => exact m.firstFree_mentions h
  | pattern p => exact p.firstFree_mentions h
  | target t => exact t.firstFree_mentions h
  | binding b => exact b.firstFree_mentions h
  | parameter p => exact p.firstFree_mentions h
  | decorator e => exact e.firstFree_mentions h
  | function f => exact f.firstFree_mentions h
  | block b => exact b.firstFree_mentions h
  | statement t => exact t.firstFree_mentions h
  | declarations d => exact d.firstFree_mentions h
  | type _ => rfl

/-- What a function binds has no free mention in it, and its other mentions keep their order. -/
theorem Function.free_mentions {f : Function} (h : f.every .undecorated = true) :
    free f.mentions = withoutNames f.boundNames (free (mentionsOfParameters f.parameters ++ f.body.mentions)) := by
  obtain ⟨form, modifiers, typeParameters, parameters, returnType, body⟩ := f
  simp only [Function.every, Bool.and_eq_true] at h
  rw [Function.mentions, form.mentions_eq_nil h.1.1.2, List.nil_append, free_within]

/-- What a block declares has no free mention in it, and its other mentions keep their order. -/
theorem Block.free_mentions (b : Block) :
    free b.mentions = withoutNames b.declaredNames (free (mentionsOfStatements b.statements)) := by
  obtain ⟨statements⟩ := b
  rw [Block.mentions, free_within]

/-- The free names of a piece of syntax without decorators are the names of its free mentions, from left to right and
each where it comes first.  A function and a block take the mentions of what they bind out of those in their parts, and
it is the same to do so after the repetitions are gone; so no name is free twice, none that is bound there is free, and
the others keep their order. -/
theorem Node.freeNames_eq_firstMentions (n : Node) (f : Function) (b : Block) (hn : n.every .undecorated = true)
    (hf : f.every .undecorated = true) (hb : b.every .undecorated = true) :
    (n.freeNames = (free n.mentions).eraseDups ∧ n.freeNames.Nodup) ∧
      (free f.mentions = withoutNames f.boundNames (free (mentionsOfParameters f.parameters ++ f.body.mentions)) ∧
        f.freeNames =
          withoutNames f.boundNames (free (mentionsOfParameters f.parameters ++ f.body.mentions)).eraseDups ∧
        ∀ x ∈ f.boundNames, x ∉ f.freeNames) ∧
      free b.mentions = withoutNames b.declaredNames (free (mentionsOfStatements b.statements)) ∧
        b.freeNames = withoutNames b.declaredNames (free (mentionsOfStatements b.statements)).eraseDups ∧
        ∀ x ∈ b.declaredNames, x ∉ b.freeNames := by
  have hnode : n.freeNames = (free n.mentions).eraseDups := (n.firstFree_mentions hn).symm
  have hfunction : f.freeNames =
      withoutNames f.boundNames (free (mentionsOfParameters f.parameters ++ f.body.mentions)).eraseDups := by
    rw [← f.firstFree_mentions hf, firstFree, Function.free_mentions hf, eraseDups_withoutNames]
  have hblock : b.freeNames = withoutNames b.declaredNames (free (mentionsOfStatements b.statements)).eraseDups := by
    rw [← b.firstFree_mentions hb, firstFree, b.free_mentions, eraseDups_withoutNames]
  refine ⟨⟨hnode, ?_⟩, ⟨Function.free_mentions hf, hfunction, fun x hx hfree => ?_⟩, b.free_mentions, hblock,
    fun x hx hfree => ?_⟩
  · rw [hnode]
    exact nodup_eraseDups _
  · rw [hfunction] at hfree
    exact (mem_withoutNames.1 hfree).2 hx
  · rw [hblock] at hfree
    exact (mem_withoutNames.1 hfree).2 hx

/-- A name that is free in a default value, then bound by an inner function and then free again is listed once. -/
theorem Node.freeNames_eq_firstMentions_nested :
    let row : Markup := .element ⟨.ident "Row", [.value "key" (.ident "x"), .spread (.ident "e")]⟩
      [.markup (.element ⟨.ident "div", [.value "title" (.ident "load")]⟩ [.markup (.container (some (.ident "a")))])]
    let b : Block := ⟨[
      .declare [] ⟨.const, [⟨.pattern ⟨.object, [(Binding.ofName "e").withFallback (.ident "x")]⟩, none,
        some (.ident "list")⟩]⟩,
      .ret (some (.call (.property (.ident "list") "map" false)
        [.function (.arrow [.ofTarget (.name "x")] (.expr (.markup row))), .ident "x"]))]⟩
    let f : Function := .named "view" [.ofTarget (.pattern ⟨.object, [.ofName "a",
      (Binding.nested "c" ⟨.array, [(Binding.ofName "d").withFallback (.ident "load")]⟩).withFallback (.ident "a")]⟩)] b
    let n : Node := .expr (.call (.ident "view") [.function f, .ident "a"])
    (n.every .undecorated = true ∧ f.every .undecorated = true ∧ b.every .undecorated = true) ∧
      (n.freeNames = (free n.mentions).eraseDups ∧ n.freeNames = ["view", "load", "x", "list", "Row", "a"]) ∧
      (f.freeNames = withoutNames ["a", "d", "e"]
          (free (mentionsOfParameters f.parameters ++ f.body.mentions)).eraseDups ∧
        f.freeNames = ["load", "x", "list", "Row"]) ∧
      b.freeNames = withoutNames ["e"] (free (mentionsOfStatements b.statements)).eraseDups ∧
        b.freeNames = ["x", "list", "Row", "load", "a"] := by
  intro row b f n
  have hn : n.every .undecorated = true := by decide
  have hf : f.every .undecorated = true := by decide
  have hb : b.every .undecorated = true := by decide
  obtain ⟨hnode, hfunction, hblock⟩ := Node.freeNames_eq_firstMentions n f b hn hf hb
  exact ⟨⟨hn, hf, hb⟩, ⟨hnode.1, by decide⟩, ⟨hfunction.2.1, by decide⟩, hblock.2.1, by decide⟩

end ViewTemplate
