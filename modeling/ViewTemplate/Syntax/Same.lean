import ViewTemplate.Syntax.Basic

/-!
# Comparing syntax

Whether two pieces of syntax are the same, part by part. A parameter that was rewritten once is recognized by this
comparison.
-/

namespace ViewTemplate

mutual

/-- Whether two types are the same. -/
def TypeExpr.same : TypeExpr → TypeExpr → Bool
  | .reference a as, .reference b bs => a == b && sameTypes as bs
  | .array a, .array b => a.same b
  | .union as, .union bs => sameTypes as bs
  | .literal as, .literal bs => sameSignatures as bs
  | .verbatim a, .verbatim b => a == b
  | _, _ => false

/-- Whether two lists of types are the same. -/
def sameTypes : List TypeExpr → List TypeExpr → Bool
  | [], [] => true
  | a :: as, b :: bs => a.same b && sameTypes as bs
  | _, _ => false

/-- Whether two optional types are the same. -/
def sameType? : Option TypeExpr → Option TypeExpr → Bool
  | none, none => true
  | some a, some b => a.same b
  | _, _ => false

/-- Whether two property signatures are the same. -/
def PropertySignature.same : PropertySignature → PropertySignature → Bool
  | ⟨a, o, s⟩, ⟨b, p, t⟩ => a == b && o == p && sameType? s t

/-- Whether two lists of property signatures are the same. -/
def sameSignatures : List PropertySignature → List PropertySignature → Bool
  | [], [] => true
  | a :: as, b :: bs => a.same b && sameSignatures as bs
  | _, _ => false

end

mutual

/-- Whether two expressions are the same. -/
def Expr.same : Expr → Expr → Bool
  | .ident a, .ident b => a == b
  | .verbatim a, .verbatim b => a == b
  | .string a, .string b => a == b
  | .number a, .number b => a == b
  | .property a x o, .property b y p => a.same b && x == y && o == p
  | .element a x, .element b y => a.same b && x.same y
  | .call a as, .call b bs => a.same b && sameExprs as bs
  | .binary a o x, .binary b p y => a.same b && o == p && x.same y
  | .unary o a, .unary p b => o == p && a.same b
  | .conditional a s x, .conditional b t y => a.same b && s.same t && x.same y
  | .paren a, .paren b => a.same b
  | .object as, .object bs => sameEntries as bs
  | .array as, .array bs => sameExprs as bs
  | .pattern a, .pattern b => a.same b
  | .type a, .type b => a.same b
  | .markup a, .markup b => a.same b
  | .function a, .function b => a.same b
  | _, _ => false

/-- Whether two lists of expressions are the same. -/
def sameExprs : List Expr → List Expr → Bool
  | [], [] => true
  | a :: as, b :: bs => a.same b && sameExprs as bs
  | _, _ => false

/-- Whether two optional expressions are the same. -/
def sameExpr? : Option Expr → Option Expr → Bool
  | none, none => true
  | some a, some b => a.same b
  | _, _ => false

/-- Whether two members of object literals are the same. -/
def ObjectEntry.same : ObjectEntry → ObjectEntry → Bool
  | .keyed j a, .keyed k b => j == k && a.same b
  | .shorthand a, .shorthand b => a == b
  | .spread a, .spread b => a.same b
  | _, _ => false

/-- Whether two lists of members of object literals are the same. -/
def sameEntries : List ObjectEntry → List ObjectEntry → Bool
  | [], [] => true
  | a :: as, b :: bs => a.same b && sameEntries as bs
  | _, _ => false

/-- Whether two markup trees are the same. -/
def Markup.same : Markup → Markup → Bool
  | .element s as, .element t bs => s.same t && sameChildren as bs
  | .selfClosing s, .selfClosing t => s.same t
  | .fragment as, .fragment bs => sameChildren as bs
  | .container a, .container b => sameExpr? a b
  | _, _ => false

/-- Whether two opening tags are the same. -/
def OpeningTag.same : OpeningTag → OpeningTag → Bool
  | ⟨s, as⟩, ⟨t, bs⟩ => s.same t && sameAttributes as bs

/-- Whether two attributes are the same. -/
def Attribute.same : Attribute → Attribute → Bool
  | .flag a, .flag b => a == b
  | .text a s, .text b t => a == b && s == t
  | .value a x, .value b y => a == b && x.same y
  | .spread a, .spread b => a.same b
  | _, _ => false

/-- Whether two lists of attributes are the same. -/
def sameAttributes : List Attribute → List Attribute → Bool
  | [], [] => true
  | a :: as, b :: bs => a.same b && sameAttributes as bs
  | _, _ => false

/-- Whether two children are the same. -/
def Child.same : Child → Child → Bool
  | .text a, .text b => a == b
  | .markup a, .markup b => a.same b
  | _, _ => false

/-- Whether two lists of children are the same. -/
def sameChildren : List Child → List Child → Bool
  | [], [] => true
  | a :: as, b :: bs => a.same b && sameChildren as bs
  | _, _ => false

/-- Whether two patterns are the same. -/
def Pattern.same : Pattern → Pattern → Bool
  | ⟨j, as⟩, ⟨k, bs⟩ => j == k && sameBindings as bs

/-- Whether two bindings are the same. -/
def Binding.same : Binding → Binding → Bool
  | ⟨r, j, s, x⟩, ⟨q, k, t, y⟩ => r == q && j == k && s.same t && sameExpr? x y

/-- Whether two lists of bindings are the same. -/
def sameBindings : List Binding → List Binding → Bool
  | [], [] => true
  | a :: as, b :: bs => a.same b && sameBindings as bs
  | _, _ => false

/-- Whether two targets are the same. -/
def Target.same : Target → Target → Bool
  | .name a, .name b => a == b
  | .pattern a, .pattern b => a.same b
  | _, _ => false

/-- Whether two parameters are the same. -/
def Parameter.same : Parameter → Parameter → Bool
  | ⟨ds, ms, r, a, o, s, x⟩, ⟨es, ns, q, b, p, t, y⟩ =>
    sameExprs ds es && ms == ns && r == q && a.same b && o == p && sameType? s t && sameExpr? x y

/-- Whether two lists of parameters are the same. -/
def sameParameters : List Parameter → List Parameter → Bool
  | [], [] => true
  | a :: as, b :: bs => a.same b && sameParameters as bs
  | _, _ => false

/-- Whether two functions are the same. -/
def Function.same : Function → Function → Bool
  | ⟨f, ms, vs, ps, s, a⟩, ⟨g, ns, ws, qs, t, b⟩ =>
    f.same g && ms == ns && vs == ws && sameParameters ps qs && sameType? s t && a.same b

/-- Whether two functions are introduced the same way. -/
def FunctionForm.same : FunctionForm → FunctionForm → Bool
  | .keyword ds g a, .keyword es h b => sameExprs ds es && g == h && a == b
  | .arrow, .arrow => true
  | _, _ => false

/-- Whether two function bodies are the same. -/
def Body.same : Body → Body → Bool
  | .block a, .block b => a.same b
  | .expr a, .expr b => a.same b
  | _, _ => false

/-- Whether two blocks are the same. -/
def Block.same : Block → Block → Bool
  | ⟨as⟩, ⟨bs⟩ => sameStatements as bs

/-- Whether two statements are the same. -/
def Statement.same : Statement → Statement → Bool
  | .ret a, .ret b => sameExpr? a b
  | .declare ms a, .declare ns b => ms == ns && a.same b
  | .expr a, .expr b => a.same b
  | .block a, .block b => a.same b
  | _, _ => false

/-- Whether two lists of statements are the same. -/
def sameStatements : List Statement → List Statement → Bool
  | [], [] => true
  | a :: as, b :: bs => a.same b && sameStatements as bs
  | _, _ => false

/-- Whether two lists of declarations with their keywords are the same. -/
def Declarations.same : Declarations → Declarations → Bool
  | ⟨j, as⟩, ⟨k, bs⟩ => j == k && sameItems as bs

/-- Whether two lists of declarations are the same. -/
def sameItems : List Declaration → List Declaration → Bool
  | [], [] => true
  | a :: as, b :: bs => a.same b && sameItems as bs
  | _, _ => false

/-- Whether two declarations are the same. -/
def Declaration.same : Declaration → Declaration → Bool
  | ⟨a, s, x⟩, ⟨b, t, y⟩ => a.same b && sameType? s t && sameExpr? x y

end

end ViewTemplate
