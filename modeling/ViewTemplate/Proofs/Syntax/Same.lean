import ViewTemplate.Syntax.Same

/-!
# Comparing syntax is equality

Two pieces of syntax compare as the same exactly when they are equal, so equality of syntax can be decided.  The
theorems follow the recursion of the comparison: one for each kind of syntax and one for each kind of list.
-/

namespace ViewTemplate

mutual

theorem TypeExpr.same_iff : ∀ a b : TypeExpr, a.same b = true ↔ a = b
  | .reference a as, b => by cases b <;> simp [TypeExpr.same, sameTypes_iff as]
  | .array a, b => by cases b <;> simp [TypeExpr.same, TypeExpr.same_iff a]
  | .union as, b => by cases b <;> simp [TypeExpr.same, sameTypes_iff as]
  | .literal as, b => by cases b <;> simp [TypeExpr.same, sameSignatures_iff as]
  | .verbatim a, b => by cases b <;> simp [TypeExpr.same]

theorem sameTypes_iff : ∀ as bs : List TypeExpr, sameTypes as bs = true ↔ as = bs
  | [], bs => by cases bs <;> simp [sameTypes]
  | a :: as, bs => by cases bs <;> simp [sameTypes, TypeExpr.same_iff a, sameTypes_iff as]

theorem sameType?_iff : ∀ a b : Option TypeExpr, sameType? a b = true ↔ a = b
  | none, b => by cases b <;> simp [sameType?]
  | some a, b => by cases b <;> simp [sameType?, TypeExpr.same_iff a]

theorem PropertySignature.same_iff : ∀ a b : PropertySignature, a.same b = true ↔ a = b
  | ⟨a, o, s⟩, ⟨b, p, t⟩ => by simp [PropertySignature.same, sameType?_iff s, and_assoc]

theorem sameSignatures_iff : ∀ as bs : List PropertySignature, sameSignatures as bs = true ↔ as = bs
  | [], bs => by cases bs <;> simp [sameSignatures]
  | a :: as, bs => by cases bs <;> simp [sameSignatures, PropertySignature.same_iff a, sameSignatures_iff as]

end

mutual

theorem Expr.same_iff : ∀ a b : Expr, a.same b = true ↔ a = b
  | .ident a, b => by cases b <;> simp [Expr.same]
  | .verbatim a, b => by cases b <;> simp [Expr.same]
  | .string a, b => by cases b <;> simp [Expr.same]
  | .number a, b => by cases b <;> simp [Expr.same]
  | .property a x o, b => by cases b <;> simp [Expr.same, Expr.same_iff a, and_assoc]
  | .element a x, b => by cases b <;> simp [Expr.same, Expr.same_iff a, Expr.same_iff x]
  | .call a as, b => by cases b <;> simp [Expr.same, Expr.same_iff a, sameExprs_iff as]
  | .binary a o x, b => by cases b <;> simp [Expr.same, Expr.same_iff a, Expr.same_iff x, and_assoc]
  | .unary o a, b => by cases b <;> simp [Expr.same, Expr.same_iff a]
  | .conditional a s x, b => by
    cases b <;> simp [Expr.same, Expr.same_iff a, Expr.same_iff s, Expr.same_iff x, and_assoc]
  | .paren a, b => by cases b <;> simp [Expr.same, Expr.same_iff a]
  | .object as, b => by cases b <;> simp [Expr.same, sameEntries_iff as]
  | .array as, b => by cases b <;> simp [Expr.same, sameExprs_iff as]
  | .pattern p, b => by cases b <;> simp [Expr.same, Pattern.same_iff p]
  | .type t, b => by cases b <;> simp [Expr.same, TypeExpr.same_iff t]
  | .markup m, b => by cases b <;> simp [Expr.same, Markup.same_iff m]
  | .function f, b => by cases b <;> simp [Expr.same, Function.same_iff f]

theorem sameExprs_iff : ∀ as bs : List Expr, sameExprs as bs = true ↔ as = bs
  | [], bs => by cases bs <;> simp [sameExprs]
  | a :: as, bs => by cases bs <;> simp [sameExprs, Expr.same_iff a, sameExprs_iff as]

theorem sameExpr?_iff : ∀ a b : Option Expr, sameExpr? a b = true ↔ a = b
  | none, b => by cases b <;> simp [sameExpr?]
  | some a, b => by cases b <;> simp [sameExpr?, Expr.same_iff a]

theorem ObjectEntry.same_iff : ∀ a b : ObjectEntry, a.same b = true ↔ a = b
  | .keyed j a, b => by cases b <;> simp [ObjectEntry.same, Expr.same_iff a]
  | .shorthand a, b => by cases b <;> simp [ObjectEntry.same]
  | .spread a, b => by cases b <;> simp [ObjectEntry.same, Expr.same_iff a]

theorem sameEntries_iff : ∀ as bs : List ObjectEntry, sameEntries as bs = true ↔ as = bs
  | [], bs => by cases bs <;> simp [sameEntries]
  | a :: as, bs => by cases bs <;> simp [sameEntries, ObjectEntry.same_iff a, sameEntries_iff as]

theorem Markup.same_iff : ∀ a b : Markup, a.same b = true ↔ a = b
  | .element s as, b => by cases b <;> simp [Markup.same, OpeningTag.same_iff s, sameChildren_iff as]
  | .selfClosing s, b => by cases b <;> simp [Markup.same, OpeningTag.same_iff s]
  | .fragment as, b => by cases b <;> simp [Markup.same, sameChildren_iff as]
  | .container a, b => by cases b <;> simp [Markup.same, sameExpr?_iff a]

theorem OpeningTag.same_iff : ∀ a b : OpeningTag, a.same b = true ↔ a = b
  | ⟨s, as⟩, ⟨t, bs⟩ => by simp [OpeningTag.same, Expr.same_iff s, sameAttributes_iff as]

theorem Attribute.same_iff : ∀ a b : Attribute, a.same b = true ↔ a = b
  | .flag a, b => by cases b <;> simp [Attribute.same]
  | .text a s, b => by cases b <;> simp [Attribute.same]
  | .value a x, b => by cases b <;> simp [Attribute.same, Expr.same_iff x]
  | .spread a, b => by cases b <;> simp [Attribute.same, Expr.same_iff a]

theorem sameAttributes_iff : ∀ as bs : List Attribute, sameAttributes as bs = true ↔ as = bs
  | [], bs => by cases bs <;> simp [sameAttributes]
  | a :: as, bs => by cases bs <;> simp [sameAttributes, Attribute.same_iff a, sameAttributes_iff as]

theorem Child.same_iff : ∀ a b : Child, a.same b = true ↔ a = b
  | .text a, b => by cases b <;> simp [Child.same]
  | .markup a, b => by cases b <;> simp [Child.same, Markup.same_iff a]

theorem sameChildren_iff : ∀ as bs : List Child, sameChildren as bs = true ↔ as = bs
  | [], bs => by cases bs <;> simp [sameChildren]
  | a :: as, bs => by cases bs <;> simp [sameChildren, Child.same_iff a, sameChildren_iff as]

theorem Pattern.same_iff : ∀ a b : Pattern, a.same b = true ↔ a = b
  | ⟨j, as⟩, ⟨k, bs⟩ => by simp [Pattern.same, sameBindings_iff as]

theorem Binding.same_iff : ∀ a b : Binding, a.same b = true ↔ a = b
  | ⟨r, j, s, x⟩, ⟨q, k, t, y⟩ => by simp [Binding.same, Target.same_iff s, sameExpr?_iff x, and_assoc]

theorem sameBindings_iff : ∀ as bs : List Binding, sameBindings as bs = true ↔ as = bs
  | [], bs => by cases bs <;> simp [sameBindings]
  | a :: as, bs => by cases bs <;> simp [sameBindings, Binding.same_iff a, sameBindings_iff as]

theorem Target.same_iff : ∀ a b : Target, a.same b = true ↔ a = b
  | .name a, b => by cases b <;> simp [Target.same]
  | .pattern p, b => by cases b <;> simp [Target.same, Pattern.same_iff p]

theorem Parameter.same_iff : ∀ a b : Parameter, a.same b = true ↔ a = b
  | ⟨ds, ms, r, a, o, s, x⟩, ⟨es, ns, q, b, p, t, y⟩ => by
    simp [Parameter.same, sameExprs_iff ds, Target.same_iff a, sameType?_iff s, sameExpr?_iff x, and_assoc]

theorem sameParameters_iff : ∀ as bs : List Parameter, sameParameters as bs = true ↔ as = bs
  | [], bs => by cases bs <;> simp [sameParameters]
  | a :: as, bs => by cases bs <;> simp [sameParameters, Parameter.same_iff a, sameParameters_iff as]

theorem Function.same_iff : ∀ a b : Function, a.same b = true ↔ a = b
  | ⟨f, ms, vs, ps, s, a⟩, ⟨g, ns, ws, qs, t, b⟩ => by
    simp [Function.same, FunctionForm.same_iff f, sameParameters_iff ps, sameType?_iff s, Body.same_iff a, and_assoc]

theorem FunctionForm.same_iff : ∀ a b : FunctionForm, a.same b = true ↔ a = b
  | .keyword ds g a, b => by cases b <;> simp [FunctionForm.same, sameExprs_iff ds, and_assoc]
  | .arrow, b => by cases b <;> simp [FunctionForm.same]

theorem Body.same_iff : ∀ a b : Body, a.same b = true ↔ a = b
  | .block a, b => by cases b <;> simp [Body.same, Block.same_iff a]
  | .expr a, b => by cases b <;> simp [Body.same, Expr.same_iff a]

theorem Block.same_iff : ∀ a b : Block, a.same b = true ↔ a = b
  | ⟨as⟩, ⟨bs⟩ => by simp [Block.same, sameStatements_iff as]

theorem Statement.same_iff : ∀ a b : Statement, a.same b = true ↔ a = b
  | .ret a, b => by cases b <;> simp [Statement.same, sameExpr?_iff a]
  | .declare ms a, b => by cases b <;> simp [Statement.same, Declarations.same_iff a]
  | .expr a, b => by cases b <;> simp [Statement.same, Expr.same_iff a]
  | .block a, b => by cases b <;> simp [Statement.same, Block.same_iff a]

theorem sameStatements_iff : ∀ as bs : List Statement, sameStatements as bs = true ↔ as = bs
  | [], bs => by cases bs <;> simp [sameStatements]
  | a :: as, bs => by cases bs <;> simp [sameStatements, Statement.same_iff a, sameStatements_iff as]

theorem Declarations.same_iff : ∀ a b : Declarations, a.same b = true ↔ a = b
  | ⟨j, as⟩, ⟨k, bs⟩ => by simp [Declarations.same, sameItems_iff as]

theorem sameItems_iff : ∀ as bs : List Declaration, sameItems as bs = true ↔ as = bs
  | [], bs => by cases bs <;> simp [sameItems]
  | a :: as, bs => by cases bs <;> simp [sameItems, Declaration.same_iff a, sameItems_iff as]

theorem Declaration.same_iff : ∀ a b : Declaration, a.same b = true ↔ a = b
  | ⟨a, s, x⟩, ⟨b, t, y⟩ => by
    simp [Declaration.same, Target.same_iff a, sameType?_iff s, sameExpr?_iff x, and_assoc]

end

instance : DecidableEq Expr := fun a b => decidable_of_iff _ (Expr.same_iff a b)

instance : DecidableEq Parameter := fun a b => decidable_of_iff _ (Parameter.same_iff a b)

end ViewTemplate
