import ViewTemplate.Proofs.Syntax.Height
import ViewTemplate.Proofs.Tags.Resolution

/-!
# Calls within each other

Printing as calls: a piece of syntax is printed by calls for its parts, a variable by a call for its value, and a tag is
resolved by calls for what its variable stands for.  A `Printer` answers such calls and may fail to.  `Printer.upTo` has
two reasons to: more calls lie within each other than it is allowed, and a variable is to be replaced within its own
value, that is, while it is being replaced already.

Neither ever happens when the allowance is twice the height of what is printed and of all values of variables together
(`Printer.upTo_eq_render`): going down a piece of syntax leaves less height, and replacing a variable takes the height of its
value out of the scope.
-/

namespace ViewTemplate

/-- Printing by calls that may fail.  Each call is told which variables are being replaced around it. -/
structure Printer where
  text : List String → Option Scope → Node → Option String
  tag : List String → Option Scope → Expr → Option ResolvedTag

namespace Printer

section

variable (P : Printer) (trail : List String) (s : Option Scope)

/-- The text of an optional expression, after `before`. -/
def optionText (before : String) : Option Expr → Option String
  | none => some ""
  | some e => (P.text trail s (.expr e)).map (before ++ ·)

/-- The annotation for an optional type, with its colon. -/
def annotationText : Option TypeExpr → Option String
  | none => some ""
  | some t => (P.text trail s (.type t)).map (": " ++ ·)

/-- The text of the identifier `x`.  It fails if the value of `x` is being printed already. -/
def identText (x : String) : Option String :=
  match s with
  | none => some x
  | some t =>
    match t.value? x with
    | none => some (t.contextText x)
    | some v =>
      if v.ident? = some x then some x
      else if x ∈ trail then none
      else (P.text (x :: trail) (some (t.without [x])) (.expr v)).map v.operandText

/-- The text of a member of an object literal. -/
def entryText : ObjectEntry → Option String
  | .keyed key value => (P.text trail s (.expr value)).map (key ++ ": " ++ ·)
  | .shorthand x => (P.identText trail s x).map fun text => if text = x then text else x ++ ": " ++ text
  | .spread value => (P.text trail s (.expr value)).map ("..." ++ ·)

/-- The text of an expression. -/
def exprText : Expr → Option String
  | .ident x => P.identText trail s x
  | .verbatim text => some text
  | .string value => some (Text.quoted value)
  | .number text => some text
  | .property object name optional =>
    (P.text trail s (.expr object)).map fun text => object.propertyText s text name optional
  | .element object argument => do
    let text ← P.text trail s (.expr object)
    let key ← P.text trail s (.expr argument)
    return object.operandText text ++ Text.bracketed key
  | .call callee arguments => do
    let text ← P.text trail s (.expr callee)
    let texts ← arguments.mapM fun e => P.text trail s (.expr e)
    return callee.operandText text ++ Text.parenthesized (Text.commaList texts)
  | .binary left operator right => do
    let l ← P.text trail s (.expr left)
    let r ← P.text trail s (.expr right)
    return l ++ " " ++ operator ++ " " ++ r
  | .unary operator operand => (P.text trail s (.expr operand)).map (unaryText operator)
  | .conditional condition whenTrue whenFalse => do
    let c ← P.text trail s (.expr condition)
    let t ← P.text trail s (.expr whenTrue)
    let f ← P.text trail s (.expr whenFalse)
    return c ++ " ? " ++ t ++ " : " ++ f
  | .paren inner => (P.text trail s (.expr inner)).map Text.parenthesized
  | .object entries => (entries.mapM (P.entryText trail s)).map (Text.bracedList ", ")
  | .array elements =>
    (elements.mapM fun e => P.text trail s (.expr e)).map fun texts => Text.bracketed (Text.commaList texts)
  | .pattern p => P.text trail s (.pattern p)
  | .type t => P.text trail s (.type t)
  | .markup m => P.text trail s (.markup m)
  | .function f => P.text trail s (.function f)

/-- The text of an attribute, with a blank before it. -/
def attributeText : Attribute → Option String
  | .flag name => some (" " ++ name)
  | .text name text => some (" " ++ name ++ "=" ++ Text.quoted text)
  | .value name value => (P.text trail s (.expr value)).map fun text => " " ++ name ++ "=" ++ Text.braced text
  | .spread value => (P.text trail s (.expr value)).map fun text => " " ++ Text.braced ("..." ++ text)

/-- The text of an element. -/
def elementText (children : Option String) (t : OpeningTag) : Option String := do
  let attributes ← t.attributes.mapM (P.attributeText trail s)
  let tag ← if t.isIntrinsic then some (.name (t.tag.ident?.getD "")) else P.tag trail s t.tag
  return tag.render (String.join attributes) children

/-- The text of a child. -/
def childText : Child → Option String
  | .text text => some text
  | .markup m => P.text trail s (.markup m)

/-- The text of a markup tree. -/
def markupText : Markup → Option String
  | .element opening children => do
    let texts ← children.mapM (P.childText trail s)
    P.elementText trail s (some (String.join texts)) opening
  | .selfClosing opening => P.elementText trail s none opening
  | .fragment children => (children.mapM (P.childText trail s)).map fun texts => "<>" ++ String.join texts ++ "</>"
  | .container content => (P.optionText trail s "" content).map Text.braced

/-- The text of a pattern. -/
def patternText : Pattern → Option String
  | ⟨.object, elements⟩ => (elements.mapM fun b => P.text trail s (.binding b)).map (Text.bracedList ", ")
  | ⟨.array, elements⟩ =>
    (elements.mapM fun b => P.text trail s (.binding b)).map fun texts => Text.bracketed (Text.commaList texts)

/-- The text of a binding. -/
def bindingText : Binding → Option String
  | ⟨rest, key, target, fallback⟩ => do
    let name ← P.text trail s (.target target)
    let value ← P.optionText trail s " = " fallback
    return (if rest then "..." else "") ++ (key.map (· ++ ": ")).getD "" ++ name ++ value

/-- The text of a target. -/
def targetText : Target → Option String
  | .name x => some x
  | .pattern p => P.text trail s (.pattern p)

/-- The text of a parameter. -/
def parameterText : Parameter → Option String
  | ⟨decorators, modifiers, rest, target, optional, type, fallback⟩ => do
    let texts ← decorators.mapM fun e => P.text trail s (.decorator e)
    let name ← P.text trail s (.target target)
    let annotation ← P.annotationText trail s type
    let value ← P.optionText trail s " = " fallback
    return Text.blankAfterEach texts ++ Text.blankAfterEach modifiers ++ (if rest then "..." else "") ++ name ++
      (if optional then "?" else "") ++ annotation ++ value

/-- The text of a function body. -/
def bodyText : Body → Option String
  | .block b => P.text trail s (.block b)
  | .expr value => (P.text trail s (.expr value)).map value.bodyText

/-- The text of a function with the given modifiers, signature and body. -/
def formText (modifiers signature body : String) : FunctionForm → Option String
  | .keyword decorators generator name => do
    let texts ← decorators.mapM fun e => P.text trail s (.decorator e)
    return String.join (texts.map (· ++ "\n")) ++ modifiers ++ "function" ++ (if generator then "*" else "") ++
      (name.map (" " ++ ·)).getD "" ++ signature ++ " " ++ body
  | .arrow => some (modifiers ++ signature ++ " => " ++ body)

/-- The text of a function. -/
def functionText (f : Function) : Option String := do
  let inner := Scope.hiding s f.boundNames
  let texts ← f.parameters.mapM fun p => P.text trail inner (.parameter p)
  let annotation ← P.annotationText trail inner f.returnType
  let body ← P.bodyText trail inner f.body
  P.formText trail s (Text.blankAfterEach f.modifiers)
    ((if f.typeParameters.isEmpty then "" else "<" ++ Text.commaList f.typeParameters ++ ">") ++
      Text.parenthesized (Text.commaList texts) ++ annotation) body f.form

/-- The text of a block, one statement on a line. -/
def blockText (b : Block) : Option String := do
  let texts ← b.statements.mapM fun t => P.text trail s (.statement t)
  return if b.statements.isEmpty then Text.braced "" else Text.braced ("\n" ++ String.join (texts.map (· ++ "\n")))

/-- The text of a statement. -/
def statementText : Statement → Option String
  | .ret value => (P.optionText trail s " " value).map fun text => "return" ++ text ++ ";"
  | .declare modifiers declarations =>
    (P.text trail s (.declarations declarations)).map fun text => Text.blankAfterEach modifiers ++ text ++ ";"
  | .expr value => (P.text trail s (.expr value)).map (· ++ ";")
  | .block b => P.text trail s (.block b)

/-- The text of a declaration. -/
def itemText : Declaration → Option String
  | ⟨target, type, value⟩ => do
    let name ← P.text trail s (.target target)
    let annotation ← P.annotationText trail s type
    let initial ← P.optionText trail s " = " value
    return name ++ annotation ++ initial

/-- The text of a list of declarations with their keyword. -/
def declarationsText (d : Declarations) : Option String :=
  (d.items.mapM (P.itemText trail s)).map fun texts => d.kind.keyword ++ " " ++ Text.commaList texts

/-- The text of a property signature. -/
def signatureText : PropertySignature → Option String
  | ⟨name, optional, type⟩ =>
    (P.annotationText trail s type).map fun text => name ++ (if optional then "?" else "") ++ text

/-- The text of a type. -/
def typeText : TypeExpr → Option String
  | .reference name arguments => do
    let texts ← arguments.mapM fun t => P.text trail s (.type t)
    return if arguments.isEmpty then name else name ++ "<" ++ Text.commaList texts ++ ">"
  | .array element =>
    (P.text trail s (.type element)).map fun text => (if element.isUnion then Text.parenthesized text else text) ++ "[]"
  | .union members => (members.mapM fun t => P.text trail s (.type t)).map fun texts => " | ".intercalate texts
  | .literal properties => (properties.mapM (P.signatureText trail s)).map (Text.bracedList "; ")
  | .verbatim text => some text

/-- The tag that the value of the variable `name` is, without the parentheses around it. -/
def valueTag (name : String) : Expr → Option ResolvedTag
  | .conditional condition whenTrue whenFalse => do
    let c ← P.text trail s (.expr condition)
    let t ← P.tag trail s whenTrue
    let f ← P.tag trail s whenFalse
    return .choice c t f
  | e => (P.text trail s (.expr e)).map (.hoisted name)

theorem valueTag_of_isConditional_eq_false (name : String) {e : Expr} (h : e.isConditional = false) :
    P.valueTag trail s name e = (P.text trail s (.expr e)).map (.hoisted name) := by
  cases e with
  | conditional _ _ _ => cases h
  | _ => rfl

/-- The tag that `tag` is.  It fails if the value of its variable is being printed already. -/
def resolvedTag (tag : Expr) : Option ResolvedTag := do
  let text ← P.text trail s (.expr tag)
  let name := tag.ident?.getD "Tag"
  if Text.isComponentTag text then return .name text
  else
    match tag.replacement? s with
    | none => return .hoisted name text
    | some (v, inner) =>
      if name ∈ trail then none else P.valueTag (name :: trail) (some inner) name v.stripParens

/-- The text of a piece of syntax. -/
def nodeText : Node → Option String
  | .expr e => P.exprText trail s e
  | .markup m => P.markupText trail s m
  | .pattern p => P.patternText trail s p
  | .target t => P.targetText trail s t
  | .binding b => P.bindingText trail s b
  | .parameter p => P.parameterText trail s p
  | .decorator e => (P.text trail s (.expr e)).map ("@" ++ ·)
  | .function f => P.functionText trail s f
  | .block b => P.blockText trail s b
  | .statement t => P.statementText trail s t
  | .declarations d => P.declarationsText trail s d
  | .type t => P.typeText trail s t

end

/-- The printer whose own calls are answered by `P`. -/
def outer (P : Printer) : Printer :=
  ⟨P.nodeText, P.resolvedTag⟩

/-- The printer that allows `n` calls within each other. -/
def upTo : Nat → Printer
  | 0 => ⟨fun _ _ _ => none, fun _ _ _ => none⟩
  | n + 1 => (upTo n).outer

/-! ### One call -/

/-- The printer answers the calls for pieces of height at most `N` as printing with `E` in the scope `s` does. -/
def Answers (P : Printer) (N : Nat) (E : Expansion) (trail : List String) (s : Option Scope) : Prop :=
  ∀ n : Node, n.height ≤ N → P.text trail s n = some (n.renderWith E s)

/-- The printer also answers so where names are hidden, for the value of a name, and for tags. -/
structure Follows (P : Printer) (N : Nat) (E : Expansion) (trail : List String) (s : Option Scope) : Prop where
  inner : ∀ names, P.Answers N E trail (Scope.hiding s names)
  ident : ∀ x, P.identText trail s x = some (E.identText s x)
  tag : ∀ e : Expr, e.height ≤ N → P.tag trail s e = some (.ofText E s e (e.renderWith E s))

/-- A list is gone through if its first member and the rest are. -/
private theorem mapM_cons {α β : Type} {f : α → Option β} {a : α} {as : List α} {b : β} {bs : List β}
    (h : f a = some b) (hs : as.mapM f = some bs) : (a :: as).mapM f = some (b :: bs) := by
  rw [List.mapM_cons, h, hs]
  rfl

section

variable {P : Printer} {N : Nat} {E : Expansion} {trail : List String} {s : Option Scope}

namespace Answers

theorem optionText (h : P.Answers N E trail s) (before : String) :
    ∀ e, heightOfExpr? e ≤ N → P.optionText trail s before e = some (renderExpr? E s before e)
  | none, _ => by rw [Printer.optionText, renderExpr?]
  | some e, he => by
    rw [Printer.optionText, h (.expr e) he, renderExpr?]
    rfl

theorem exprs (h : P.Answers N E trail s) :
    ∀ es, heightOfExprs es ≤ N → es.mapM (fun e => P.text trail s (.expr e)) = some (renderExprs E s es)
  | [], _ => by rw [renderExprs]; rfl
  | e :: es, he => by
    rw [heightOfExprs, Nat.max_le] at he
    rw [renderExprs]
    exact mapM_cons (h (.expr e) he.1) (h.exprs es he.2)

theorem decorators (h : P.Answers N E trail s) :
    ∀ es, heightOfDecorators es ≤ N →
      es.mapM (fun e => P.text trail s (.decorator e)) = some ((renderExprs E s es).map ("@" ++ ·))
  | [], _ => by rw [renderExprs]; rfl
  | e :: es, he => by
    rw [heightOfDecorators, Nat.max_le] at he
    rw [renderExprs]
    exact mapM_cons (h (.decorator e) he.1) (h.decorators es he.2)

theorem attributeText (h : P.Answers N E trail s) :
    ∀ a : Attribute, a.height ≤ N → P.attributeText trail s a = some (a.renderWith E s)
  | .flag _, _ | .text _ _, _ => by rw [Printer.attributeText, Attribute.renderWith]
  | .value name value, ha => by
    rw [Printer.attributeText, h (.expr value) ha, Attribute.renderWith]
    rfl
  | .spread value, ha => by
    rw [Printer.attributeText, h (.expr value) ha, Attribute.renderWith]
    rfl

theorem attributes (h : P.Answers N E trail s) :
    ∀ as, heightOfAttributes as ≤ N → as.mapM (P.attributeText trail s) = some (renderAttributes E s as)
  | [], _ => by rw [renderAttributes]; rfl
  | a :: as, ha => by
    rw [heightOfAttributes, Nat.max_le] at ha
    rw [renderAttributes]
    exact mapM_cons (h.attributeText a ha.1) (h.attributes as ha.2)

theorem childText (h : P.Answers N E trail s) :
    ∀ c : Child, c.height ≤ N → P.childText trail s c = some (c.renderWith E s)
  | .text _, _ => by rw [Printer.childText, Child.renderWith]
  | .markup m, hc => by
    rw [Printer.childText, h (.markup m) hc, Child.renderWith]
    rfl

theorem children (h : P.Answers N E trail s) :
    ∀ cs, heightOfChildren cs ≤ N → cs.mapM (P.childText trail s) = some (renderChildren E s cs)
  | [], _ => by rw [renderChildren]; rfl
  | c :: cs, hc => by
    rw [heightOfChildren, Nat.max_le] at hc
    rw [renderChildren]
    exact mapM_cons (h.childText c hc.1) (h.children cs hc.2)

theorem bindings (h : P.Answers N E trail s) :
    ∀ bs, heightOfBindings bs ≤ N → bs.mapM (fun b => P.text trail s (.binding b)) = some (renderBindings E s bs)
  | [], _ => by rw [renderBindings]; rfl
  | b :: bs, hb => by
    rw [heightOfBindings, Nat.max_le] at hb
    rw [renderBindings]
    exact mapM_cons (h (.binding b) hb.1) (h.bindings bs hb.2)

theorem patternText (h : P.Answers N E trail s) :
    ∀ p : Pattern, p.height ≤ N + 1 → P.patternText trail s p = some (p.renderWith E s)
  | ⟨.object, elements⟩, hp => by
    rw [Pattern.height, Nat.add_le_add_iff_right] at hp
    rw [Printer.patternText, h.bindings elements hp, Pattern.renderWith]
    rfl
  | ⟨.array, elements⟩, hp => by
    rw [Pattern.height, Nat.add_le_add_iff_right] at hp
    rw [Printer.patternText, h.bindings elements hp, Pattern.renderWith]
    rfl

theorem bindingText (h : P.Answers N E trail s) :
    ∀ b : Binding, b.height ≤ N + 1 → P.bindingText trail s b = some (b.renderWith E s)
  | ⟨rest, key, target, fallback⟩, hb => by
    rw [Binding.height, Nat.add_le_add_iff_right, Nat.max_le] at hb
    rw [Printer.bindingText, h (.target target) hb.1, h.optionText " = " fallback hb.2, Binding.renderWith]
    rfl

theorem targetText (h : P.Answers N E trail s) :
    ∀ t : Target, t.height ≤ N + 1 → P.targetText trail s t = some (t.renderWith E s)
  | .name _, _ => by rw [Printer.targetText, Target.renderWith]
  | .pattern p, ht => by
    rw [Target.height, Nat.add_le_add_iff_right] at ht
    rw [Printer.targetText, h (.pattern p) ht, Target.renderWith]
    rfl

theorem annotationText (h : P.Answers N E trail s) :
    ∀ t, heightOfType? t ≤ N → P.annotationText trail s t = some ( renderAnnotation t)
  | none, _ => by rw [Printer.annotationText, renderAnnotation]
  | some t, ht => by
    rw [Printer.annotationText, h (.type t) ht, renderAnnotation]
    rfl

theorem parameterText (h : P.Answers N E trail s) :
    ∀ p : Parameter, p.height ≤ N + 1 → P.parameterText trail s p = some (p.renderWith E s)
  | ⟨decorators, modifiers, rest, target, optional, type, fallback⟩, hp => by
    rw [Parameter.height, Nat.add_le_add_iff_right, Nat.max_le, Nat.max_le, Nat.max_le] at hp
    rw [Printer.parameterText, h.decorators decorators hp.1, h (.target target) hp.2.1,
      h.annotationText type hp.2.2.1, h.optionText " = " fallback hp.2.2.2, Parameter.renderWith]
    rfl

theorem parameters (h : P.Answers N E trail s) :
    ∀ ps, heightOfParameters ps ≤ N →
      ps.mapM (fun p => P.text trail s (.parameter p)) = some (renderParameters E s ps)
  | [], _ => by rw [renderParameters]; rfl
  | p :: ps, hp => by
    rw [heightOfParameters, Nat.max_le] at hp
    rw [renderParameters]
    exact mapM_cons (h (.parameter p) hp.1) (h.parameters ps hp.2)

theorem bodyText (h : P.Answers N E trail s) :
    ∀ b : Body, b.height ≤ N → P.bodyText trail s b = some (b.renderWith E s)
  | .block b, hb => by
    rw [Printer.bodyText, h (.block b) hb, Body.renderWith]
    rfl
  | .expr value, hb => by
    rw [Printer.bodyText, h (.expr value) hb, Body.renderWith]
    rfl

theorem formText (h : P.Answers N E trail s) (modifiers signature body : String) :
    ∀ f : FunctionForm, f.height ≤ N →
      P.formText trail s modifiers signature body f = some (f.renderWith E s modifiers signature body)
  | .keyword decorators generator name, hf => by
    have hlines : ((renderExprs E s decorators).map ("@" ++ ·)).map (· ++ "\n") =
        (renderExprs E s decorators).map ("@" ++ · ++ "\n") := List.map_map
    rw [Printer.formText, h.decorators decorators hf, FunctionForm.renderWith, ← hlines]
    rfl
  | .arrow, _ => by rw [Printer.formText, FunctionForm.renderWith]

theorem statements (h : P.Answers N E trail s) :
    ∀ ts, heightOfStatements ts ≤ N →
      ts.mapM (fun t => P.text trail s (.statement t)) = some (renderStatements E s ts)
  | [], _ => by rw [renderStatements]; rfl
  | t :: ts, ht => by
    rw [heightOfStatements, Nat.max_le] at ht
    rw [renderStatements]
    exact mapM_cons (h (.statement t) ht.1) (h.statements ts ht.2)

theorem blockText (h : P.Answers N E trail s) :
    ∀ b : Block, b.height ≤ N + 1 → P.blockText trail s b = some (b.renderWith E s)
  | ⟨statements⟩, hb => by
    rw [Block.height, Nat.add_le_add_iff_right] at hb
    rw [Printer.blockText, h.statements statements hb, Block.renderWith]
    rfl

theorem statementText (h : P.Answers N E trail s) :
    ∀ t : Statement, t.height ≤ N + 1 → P.statementText trail s t = some (t.renderWith E s)
  | .ret value, ht => by
    rw [Statement.height, Nat.add_le_add_iff_right] at ht
    rw [Printer.statementText, h.optionText " " value ht, Statement.renderWith]
    rfl
  | .declare modifiers declarations, ht => by
    rw [Statement.height, Nat.add_le_add_iff_right] at ht
    rw [Printer.statementText, h (.declarations declarations) ht, Statement.renderWith]
    rfl
  | .expr value, ht => by
    rw [Statement.height, Nat.add_le_add_iff_right] at ht
    rw [Printer.statementText, h (.expr value) ht, Statement.renderWith]
    rfl
  | .block b, ht => by
    rw [Statement.height, Nat.add_le_add_iff_right] at ht
    rw [Printer.statementText, h (.block b) ht, Statement.renderWith]
    rfl

theorem itemText (h : P.Answers N E trail s) :
    ∀ d : Declaration, d.height ≤ N → P.itemText trail s d = some (d.renderWith E s)
  | ⟨target, type, value⟩, hd => by
    rw [Declaration.height, Nat.max_le, Nat.max_le] at hd
    rw [Printer.itemText, h (.target target) hd.1, h.annotationText type hd.2.1, h.optionText " = " value hd.2.2,
      Declaration.renderWith]
    rfl

theorem items (h : P.Answers N E trail s) :
    ∀ ds, heightOfItems ds ≤ N → ds.mapM (P.itemText trail s) = some (renderItems E s ds)
  | [], _ => by rw [renderItems]; rfl
  | d :: ds, hd => by
    rw [heightOfItems, Nat.max_le] at hd
    rw [renderItems]
    exact mapM_cons (h.itemText d hd.1) (h.items ds hd.2)

theorem declarationsText (h : P.Answers N E trail s) :
    ∀ d : Declarations, d.height ≤ N + 1 → P.declarationsText trail s d = some (d.renderWith E s)
  | ⟨kind, items⟩, hd => by
    rw [Declarations.height, Nat.add_le_add_iff_right] at hd
    rw [Printer.declarationsText, h.items items hd, Declarations.renderWith]
    rfl

theorem types (h : P.Answers N E trail s) :
    ∀ ts, heightOfTypes ts ≤ N → ts.mapM (fun t => P.text trail s (.type t)) = some (renderTypes ts)
  | [], _ => by rw [renderTypes]; rfl
  | t :: ts, ht => by
    rw [heightOfTypes, Nat.max_le] at ht
    rw [renderTypes]
    exact mapM_cons (h (.type t) ht.1) (h.types ts ht.2)

theorem signatureText (h : P.Answers N E trail s) :
    ∀ q : PropertySignature, q.height ≤ N → P.signatureText trail s q = some q.render
  | ⟨name, optional, type⟩, hq => by
    rw [PropertySignature.height] at hq
    rw [Printer.signatureText, h.annotationText type hq, PropertySignature.render]
    rfl

theorem signatures (h : P.Answers N E trail s) :
    ∀ qs, heightOfSignatures qs ≤ N → qs.mapM (P.signatureText trail s) = some (renderSignatures qs)
  | [], _ => by rw [renderSignatures]; rfl
  | q :: qs, hq => by
    rw [heightOfSignatures, Nat.max_le] at hq
    rw [renderSignatures]
    exact mapM_cons (h.signatureText q hq.1) (h.signatures qs hq.2)

theorem typeText (h : P.Answers N E trail s) :
    ∀ t : TypeExpr, t.height ≤ N + 1 → P.typeText trail s t = some t.render
  | .reference name arguments, ht => by
    rw [TypeExpr.height, Nat.add_le_add_iff_right] at ht
    rw [Printer.typeText, h.types arguments ht, TypeExpr.render]
    rfl
  | .array element, ht => by
    rw [TypeExpr.height, Nat.add_le_add_iff_right] at ht
    rw [Printer.typeText, h (.type element) ht, TypeExpr.render]
    rfl
  | .union members, ht => by
    rw [TypeExpr.height, Nat.add_le_add_iff_right] at ht
    rw [Printer.typeText, h.types members ht, TypeExpr.render]
    rfl
  | .literal properties, ht => by
    rw [TypeExpr.height, Nat.add_le_add_iff_right] at ht
    rw [Printer.typeText, h.signatures properties ht, TypeExpr.render]
    rfl
  | .verbatim _, _ => by rw [Printer.typeText, TypeExpr.render]

end Answers

namespace Follows

theorem text (h : P.Follows N E trail s) : P.Answers N E trail s := by
  have hinner := h.inner []
  rwa [Scope.hiding_nil] at hinner

theorem entryText (h : P.Follows N E trail s) :
    ∀ e : ObjectEntry, e.height ≤ N → P.entryText trail s e = some (e.renderWith E s)
  | .keyed key value, he => by
    rw [Printer.entryText, h.text (.expr value) he, ObjectEntry.renderWith]
    rfl
  | .shorthand x, _ => by
    rw [Printer.entryText, h.ident x, ObjectEntry.renderWith]
    rfl
  | .spread value, he => by
    rw [Printer.entryText, h.text (.expr value) he, ObjectEntry.renderWith]
    rfl

theorem entries (h : P.Follows N E trail s) :
    ∀ es, heightOfEntries es ≤ N → es.mapM (P.entryText trail s) = some (renderEntries E s es)
  | [], _ => by rw [renderEntries]; rfl
  | e :: es, he => by
    rw [heightOfEntries, Nat.max_le] at he
    rw [renderEntries]
    exact mapM_cons (h.entryText e he.1) (h.entries es he.2)

theorem exprText (h : P.Follows N E trail s) :
    ∀ e : Expr, e.height ≤ N + 1 → P.exprText trail s e = some (e.renderWith E s)
  | .ident x, _ => by rw [Printer.exprText, h.ident x, Expr.renderWith]
  | .verbatim _, _ | .string _, _ | .number _, _ => by rw [Printer.exprText, Expr.renderWith]
  | .property object name optional, he => by
    rw [Expr.height, Nat.add_le_add_iff_right] at he
    rw [Printer.exprText, h.text (.expr object) he, Expr.renderWith]
    rfl
  | .element object argument, he => by
    rw [Expr.height, Nat.add_le_add_iff_right, Nat.max_le] at he
    rw [Printer.exprText, h.text (.expr object) he.1, h.text (.expr argument) he.2, Expr.renderWith]
    rfl
  | .call callee arguments, he => by
    rw [Expr.height, Nat.add_le_add_iff_right, Nat.max_le] at he
    rw [Printer.exprText, h.text (.expr callee) he.1, h.text.exprs arguments he.2, Expr.renderWith]
    rfl
  | .binary left operator right, he => by
    rw [Expr.height, Nat.add_le_add_iff_right, Nat.max_le] at he
    rw [Printer.exprText, h.text (.expr left) he.1, h.text (.expr right) he.2, Expr.renderWith]
    rfl
  | .unary operator operand, he => by
    rw [Expr.height, Nat.add_le_add_iff_right] at he
    rw [Printer.exprText, h.text (.expr operand) he, Expr.renderWith]
    rfl
  | .conditional condition whenTrue whenFalse, he => by
    rw [Expr.height, Nat.add_le_add_iff_right, Nat.max_le, Nat.max_le] at he
    rw [Printer.exprText, h.text (.expr condition) he.1, h.text (.expr whenTrue) he.2.1,
      h.text (.expr whenFalse) he.2.2, Expr.renderWith]
    rfl
  | .paren inner, he => by
    rw [Expr.height, Nat.add_le_add_iff_right] at he
    rw [Printer.exprText, h.text (.expr inner) he, Expr.renderWith]
    rfl
  | .object entries, he => by
    rw [Expr.height, Nat.add_le_add_iff_right] at he
    rw [Printer.exprText, h.entries entries he, Expr.renderWith]
    rfl
  | .array elements, he => by
    rw [Expr.height, Nat.add_le_add_iff_right] at he
    rw [Printer.exprText, h.text.exprs elements he, Expr.renderWith]
    rfl
  | .pattern p, he => by
    rw [Expr.height, Nat.add_le_add_iff_right] at he
    rw [Printer.exprText, h.text (.pattern p) he, Expr.renderWith]
    rfl
  | .type t, he => by
    rw [Expr.height, Nat.add_le_add_iff_right] at he
    rw [Printer.exprText, h.text (.type t) he, Expr.renderWith]
    rfl
  | .markup m, he => by
    rw [Expr.height, Nat.add_le_add_iff_right] at he
    rw [Printer.exprText, h.text (.markup m) he, Expr.renderWith]
    rfl
  | .function f, he => by
    rw [Expr.height, Nat.add_le_add_iff_right] at he
    rw [Printer.exprText, h.text (.function f) he, Expr.renderWith]
    rfl

theorem elementText (h : P.Follows N E trail s) (children : Option String) :
    ∀ t : OpeningTag, t.height ≤ N → P.elementText trail s children t = some (t.renderWith E s children)
  | ⟨tag, attributes⟩, ht => by
    rw [OpeningTag.height, Nat.max_le] at ht
    rw [Printer.elementText, h.text.attributes attributes ht.2, OpeningTag.renderWith]
    -- a tag of the page itself is not resolved
    cases hi : OpeningTag.isIntrinsic ⟨tag, attributes⟩ with
    | true => rfl
    | false =>
      rw [h.tag tag ht.1]
      rfl

theorem markupText (h : P.Follows N E trail s) :
    ∀ m : Markup, m.height ≤ N + 1 → P.markupText trail s m = some (m.renderWith E s)
  | .element opening children, hm => by
    rw [Markup.height, Nat.add_le_add_iff_right, Nat.max_le] at hm
    rw [Printer.markupText, h.text.children children hm.2, Markup.renderWith]
    exact h.elementText _ opening hm.1
  | .selfClosing opening, hm => by
    rw [Markup.height, Nat.add_le_add_iff_right] at hm
    rw [Printer.markupText, h.elementText none opening hm, Markup.renderWith]
  | .fragment children, hm => by
    rw [Markup.height, Nat.add_le_add_iff_right] at hm
    rw [Printer.markupText, h.text.children children hm, Markup.renderWith]
    rfl
  | .container content, hm => by
    rw [Markup.height, Nat.add_le_add_iff_right] at hm
    rw [Printer.markupText, h.text.optionText "" content hm, Markup.renderWith]
    rfl

theorem functionText (h : P.Follows N E trail s) :
    ∀ f : Function, f.height ≤ N + 1 → P.functionText trail s f = some (f.renderWith E s)
  | ⟨form, modifiers, typeParameters, parameters, returnType, body⟩, hf => by
    rw [Function.height, Nat.add_le_add_iff_right, Nat.max_le, Nat.max_le, Nat.max_le] at hf
    obtain ⟨hform, hparameters, htype, hbody⟩ := hf
    have hinner := h.inner (Function.boundNames ⟨form, modifiers, typeParameters, parameters, returnType, body⟩)
    rw [Printer.functionText, hinner.parameters parameters hparameters, hinner.annotationText returnType htype,
      hinner.bodyText body hbody, Function.renderWith]
    exact h.text.formText _ _ _ form hform

/-- A printer whose calls for the parts are answered as printing does prints the whole so. -/
theorem nodeText (h : P.Follows N E trail s) (n : Node) (hn : n.height ≤ N + 1) :
    P.nodeText trail s n = some (n.renderWith E s) := by
  cases n with
  | expr e => exact h.exprText e hn
  | markup m => exact h.markupText m hn
  | pattern p => exact h.text.patternText p hn
  | target t => exact h.text.targetText t hn
  | binding b => exact h.text.bindingText b hn
  | parameter p => exact h.text.parameterText p hn
  | decorator e =>
    rw [Printer.nodeText, h.text (.expr e) (Nat.le_of_succ_le_succ hn)]
    rfl
  | function f => exact h.functionText f hn
  | block b => exact h.text.blockText b hn
  | statement t => exact h.text.statementText t hn
  | declarations d => exact h.text.declarationsText d hn
  | type t => exact h.text.typeText t hn

end Follows

end

end Printer

/-! ### What is left in the scope -/

/-- The heights of the values and one more for each of them. -/
def weightOfEntries : List (String × Expr) → Nat
  | [] => 0
  | (_, v) :: entries => v.height + 1 + weightOfEntries entries

/-- The heights of the values of all variables and one more for each of them. -/
def Scope.weight (s : Option Scope) : Nat :=
  (s.map fun t => weightOfEntries t.vars.entries).getD 0

theorem weightOfEntries_filter_le (p : String × Expr → Bool) (l : List (String × Expr)) :
    weightOfEntries (l.filter p) ≤ weightOfEntries l := by
  induction l with
  | nil => exact Nat.le_refl 0
  | cons entry l ih =>
    rw [List.filter_cons]
    split
    · exact Nat.add_le_add_left ih _
    · exact Nat.le_trans ih (Nat.le_add_left _ _)

/-- Entries that are left out take their height with them. -/
theorem weightOfEntries_filter_of_lookup {p : String × Expr → Bool} {l : List (String × Expr)} {x : String}
    {v : Expr} (h : l.lookup x = some v) (hp : p (x, v) = false) :
    v.height + 1 + weightOfEntries (l.filter p) ≤ weightOfEntries l := by
  induction l with
  | nil => simp at h
  | cons entry l ih =>
    obtain ⟨y, w⟩ := entry
    rw [lookup_cons_ite] at h
    split at h
    · next hxy =>
      obtain rfl := Option.some.inj h
      subst hxy
      rw [List.filter_cons_of_neg (by simp [hp])]
      exact Nat.add_le_add_left (weightOfEntries_filter_le p l) _
    · have hle := ih h
      rw [List.filter_cons]
      split
      · rw [weightOfEntries, weightOfEntries]
        omega
      · rw [weightOfEntries]
        omega

namespace Scope

theorem weight_hiding_le (s : Option Scope) (names : List String) : weight (Scope.hiding s names) ≤ weight s := by
  cases s with
  | none => exact Nat.le_refl 0
  | some t => exact weightOfEntries_filter_le _ t.vars.entries

theorem weight_without {s : Scope} {x : String} {v : Expr} (h : s.value? x = some v) :
    v.height + 1 + weight (some (s.without [x])) ≤ weight (some s) :=
  weightOfEntries_filter_of_lookup h (by simp)

/-- None of the names stands for anything in the scope. -/
def Lacks (s : Option Scope) (names : List String) : Prop :=
  ∀ t ∈ s, ∀ x ∈ names, t.value? x = none

theorem Lacks.hiding {s : Option Scope} {names : List String} (h : Lacks s names) (names' : List String) :
    Lacks (Scope.hiding s names') names := by
  cases s with
  | none => exact nofun
  | some t =>
    rintro _ ⟨⟩ x hx
    rw [value?_without, h t rfl x hx, ite_self]

/-- A variable that is replaced joins the names that stand for nothing. -/
theorem Lacks.without {s : Scope} {names : List String} (h : Lacks (some s) names) (x : String) :
    Lacks (some (s.without [x])) (x :: names) := by
  rintro _ ⟨⟩ y hy
  rw [value?_without]
  split
  · rfl
  · next hne =>
    have hyx : y ≠ x := by simpa using hne
    exact h s rfl y ((List.mem_cons.1 hy).resolve_left hyx)

theorem Lacks.not_mem {s : Scope} {names : List String} {x : String} {v : Expr} (h : Lacks (some s) names)
    (hv : s.value? x = some v) : x ∉ names := by
  intro hx
  rw [h s rfl x hx] at hv
  cases hv

end Scope

theorem Expr.exists_of_replacement? {s : Option Scope} {tag : Expr} {r : Expr × Scope}
    (h : tag.replacement? s = some r) :
    ∃ x t v, tag = .ident x ∧ s = some t ∧ t.value? x = some v ∧ r = (v, t.without [x]) := by
  obtain ⟨t, ht, hname⟩ := Option.bind_eq_some_iff.1 h
  obtain ⟨x, hx, hvalue⟩ := Option.bind_eq_some_iff.1 hname
  obtain ⟨v, hv, hr⟩ := Option.map_eq_some_iff.1 hvalue
  exact ⟨x, t, v, Expr.eq_ident_of_ident? hx, ht, hv, hr.symm⟩

/-- Where names are hidden, the expansion for the whole scope prints as the one for what is left. -/
theorem Node.renderWith_within_hiding (s : Option Scope) (names : List String) (n : Node) :
    n.renderWith (.within s) (Scope.hiding s names) = n.render (Scope.hiding s names) := by
  cases s with
  | none => rfl
  | some t => exact n.renderWith_upTo (t.size_without_le names)

/-! ### Enough calls -/

namespace Printer

/-- The printer answers all calls for which `n` calls within each other have to be enough, in scopes that lack the
variables that are being replaced. -/
structure Serves (P : Printer) (n : Nat) : Prop where
  text {trail s} : Scope.Lacks s trail → ∀ m : Node, 2 * (m.height + Scope.weight s) ≤ n →
    P.text trail s m = some (m.render s)
  tag {trail s} : Scope.Lacks s trail → ∀ e : Expr, 2 * (e.height + Scope.weight s) + 1 ≤ n →
    P.tag trail s e = some (e.resolveTag s)

namespace Serves

variable {P : Printer} {n N : Nat} {trail : List String} {s : Option Scope}

/-- A variable is not being replaced where it stands for something, and its value has left the scope. -/
theorem identText (h : P.Serves n) (hs : Scope.Lacks s trail) (hn : 2 * Scope.weight s ≤ n + 2) (x : String) :
    P.identText trail s x = some ((Expr.ident x).render s) := by
  cases s with
  | none => rfl
  | some t =>
    rw [Printer.identText]
    cases hv : t.value? x with
    | none => simp [Expr.render, Expr.renderWith, Expansion.identText, hv]
    | some v =>
      by_cases hself : v.ident? = some x
      · simp [Expr.render, Expr.renderWith, Expansion.identText, hv, hself]
      · have hw := Scope.weight_without hv
        have htext := h.text (hs.without x) (.expr v) (by rw [Node.height]; omega)
        simp only [if_neg hself, if_neg (hs.not_mem hv), htext]
        rw [Expr.render_ident_of_value? hv hself]
        rfl

theorem follows (h : P.Serves n) (hs : Scope.Lacks s trail) (hn : 2 * (N + 1 + Scope.weight s) ≤ n + 1) :
    P.Follows N (.within s) trail s where
  inner names m hm := by
    have hw := Scope.weight_hiding_le s names
    rw [m.renderWith_within_hiding]
    exact h.text (hs.hiding names) m (by omega)
  ident x := h.identText hs (by omega) x
  tag e he := h.tag hs e (by omega)

theorem valueTag (h : P.Serves n) {t : Scope} {x : String} {v : Expr}
    (hs : Scope.Lacks (some (t.without [x])) trail)
    (htag : Text.isComponentTag ((Expr.ident x).render (some t)) = false) (hv : t.value? x = some v)
    (hn : 2 * (v.height + Scope.weight (some (t.without [x]))) ≤ n) :
    P.valueTag trail (some (t.without [x])) x v.stripParens = some ((Expr.ident x).resolveTag (some t)) := by
  have hparens := v.height_stripParens_le
  cases hc : v.stripParens with
  | conditional condition whenTrue whenFalse =>
    rw [hc, Expr.height] at hparens
    rw [Printer.valueTag, h.text hs (.expr condition) (by rw [Node.height]; omega), h.tag hs whenTrue (by omega),
      h.tag hs whenFalse (by omega), Expr.resolveTag_of_conditional htag hv hc]
    rfl
  | _ =>
    have hother : v.stripParens.isConditional = false := by rw [hc]; rfl
    rw [← hc, P.valueTag_of_isConditional_eq_false trail _ x hother,
      h.text hs (.expr v.stripParens) (by rw [Node.height]; omega), Expr.resolveTag_of_value htag hv hother]
    rfl

theorem resolvedTag (h : P.Serves n) (hs : Scope.Lacks s trail) (e : Expr)
    (hn : 2 * (e.height + Scope.weight s) ≤ n) : P.resolvedTag trail s e = some (e.resolveTag s) := by
  have hheight := Node.height_pos (.expr e)
  have htext : P.text trail s (.expr e) = some (e.render s) := h.text hs (.expr e) hn
  rw [Printer.resolvedTag, htext, Option.bind_eq_bind, Option.bind_some]
  cases htag : Text.isComponentTag (e.render s) with
  | true =>
    rw [Expr.resolveTag_of_isComponentTag htag]
    rfl
  | false =>
    cases hr : e.replacement? s with
    | none =>
      rw [Expr.resolveTag_of_replacement?_eq_none htag hr]
      rfl
    | some r =>
      obtain ⟨x, t, v, rfl, rfl, hv, rfl⟩ := Expr.exists_of_replacement? hr
      have hw := Scope.weight_without hv
      have hparens := v.height_stripParens_le
      have hnew : (Expr.ident x).ident?.getD "Tag" ∉ trail := hs.not_mem hv
      simp only [Bool.false_eq_true, if_false, if_neg hnew]
      exact h.valueTag (hs.without x) htag hv (by omega)

/-- One more call within each other is enough for the printer whose calls are answered so. -/
theorem outer (h : P.Serves n) : P.outer.Serves (n + 1) where
  text hs m hn := by
    have hheight := m.height_pos
    have hfollows : P.Follows (m.height - 1) _ _ _ := h.follows hs (by omega)
    exact hfollows.nodeText m (by omega)
  tag hs e hn := h.resolvedTag hs e (by omega)

end Serves

theorem serves_upTo : ∀ n, (upTo n).Serves n
  | 0 =>
    { text := fun _ m hn => by
        have hheight := m.height_pos
        omega
      tag := nofun }
  | n + 1 => (serves_upTo n).outer

/-- Printing ends.  With twice the height of the piece of syntax and of the values of all variables together, and any
number of calls on top of it, the calls within each other are enough, and no variable is replaced while it is being
replaced.  For a tag it takes one call more. -/
theorem upTo_eq_render (s : Option Scope) (extra : Nat) :
    (∀ n : Node, (upTo (2 * (n.height + Scope.weight s) + extra)).text [] s n = some (n.render s)) ∧
      ∀ tag : Expr, (upTo (2 * (tag.height + Scope.weight s) + 1 + extra)).tag [] s tag = some (tag.resolveTag s) := by
  have hs : Scope.Lacks s [] := fun _ _ _ hx => absurd hx List.not_mem_nil
  exact ⟨fun n => (serves_upTo _).text hs n (Nat.le_add_right _ _),
    fun tag => (serves_upTo _).tag hs tag (Nat.le_add_right _ _)⟩

end Printer

end ViewTemplate
