import ViewTemplate.Proofs.Replaced.Basic
import ViewTemplate.Proofs.Text

/-!
# Printing follows a replacement

If every name is printed as what stands for it, and every tag as what stands for the tag, then a piece of syntax is
printed in a scope as the replaced syntax is printed by itself (`Function.renderWith_eq_replaceWith`), but for line
breaks: the constant for the value of a tag is written on one line, and as syntax it is a line of its own.
-/

namespace ViewTemplate

/-! ### Tags that are printed as syntax -/

/-- Names are names, and no text that is printed as it is could be read as one. -/
def Check.legible : Check where
  expr
    | .ident x => Text.isName x
    | .verbatim text | .number text => !Text.isName text
    | _ => true
  entry
    | .shorthand x => Text.isName x
    | _ => true

/-- An element with the tag `tag` is printed with `text` as its tag. -/
def Expr.IsTag (tag : Expr) (text : String) : Prop :=
  (if OpeningTag.isIntrinsic ⟨tag, []⟩ then ResolvedTag.name (tag.ident?.getD "")
    else .ofText (.within none) none tag (tag.render none)) = .name text

/-- A tag as syntax is printed as the resolved tag, but for line breaks. -/
def TagTree.PrintsAs : TagTree → ResolvedTag → Prop
  | .name tag, .name text => tag.IsTag text
  | .choice condition whenTrue whenFalse, .choice text textTrue textFalse =>
    Text.oneLine text = Text.oneLine (condition.render none) ∧ whenTrue.PrintsAs textTrue ∧
      whenFalse.PrintsAs textFalse
  | .hoisted x value, .hoisted y text =>
    x = y ∧ (Expr.ident x).IsTag x ∧ Text.oneLine text = Text.oneLine (value.render none)
  | _, _ => False

/-- A proper name is a tag, of the page or of a component. -/
theorem Expr.isTag_ident {x : String} (h : Text.isName x = true) : (Expr.ident x).IsTag x := by
  rw [IsTag]
  cases hi : OpeningTag.isIntrinsic ⟨.ident x, []⟩ with
  | true => rfl
  | false =>
    have hx : Text.isComponentTag x = true := Text.isComponentTag_of_isName h hi
    simp only [Bool.false_eq_true, ↓reduceIte, ResolvedTag.ofText, render, renderWith, Expansion.identText, hx]

/-- A tag of the page is printed as it is. -/
theorem Expr.isTag_of_isIntrinsic {tag : Expr} {attributes : List Attribute}
    (h : OpeningTag.isIntrinsic ⟨tag, attributes⟩ = true) : tag.IsTag (tag.ident?.getD "") :=
  if_pos h

/-- An expression whose text is the tag of a component is a tag. -/
theorem Expr.isTag_of_isComponentTag {tag : Expr} (h : Text.isComponentTag (tag.render none) = true) :
    tag.IsTag (tag.render none) := by
  rw [IsTag]
  split
  · next hi =>
    cases tag with
    | ident x => rfl
    | _ => simp [OpeningTag.isIntrinsic, ident?] at hi
  · rw [ResolvedTag.ofText, if_pos h]

section

variable {attributes : List Attribute} {children : Option (List Child)} {attributesText : String}
  {childrenText : Option String}

theorem OpeningTag.render_toMarkup {tag : Expr} {text : String} (h : tag.IsTag text) :
    (OpeningTag.toMarkup children ⟨tag, attributes⟩).render none =
      ResolvedTag.elementText text (String.join (renderAttributes (.within none) none attributes))
        (children.map fun children => String.join (renderChildren (.within none) none children)) := by
  rw [Markup.render, renderWith_toMarkup, renderWith]
  exact congrArg (ResolvedTag.render _ _) h

theorem ResolvedTag.oneLine_elementText_congr {text attributesText' : String} {childrenText' : Option String}
    (ha : Text.oneLine attributesText = Text.oneLine attributesText')
    (hc : childrenText.map Text.oneLine = childrenText'.map Text.oneLine) :
    Text.oneLine (elementText text attributesText childrenText) =
      Text.oneLine (elementText text attributesText' childrenText') := by
  cases childrenText <;> cases childrenText' <;> simp_all [elementText, Text.oneLine_append]

/-- The constant of a hoisted tag stands on a line of its own when it is printed as syntax. -/
private theorem TagTree.render_hoisted (x : String) (value : Expr) :
    ((TagTree.hoisted x value).toExpr attributes children).render none =
      "(() => " ++ Text.braced ("\nconst " ++ x ++ " = " ++ value.render none ++ ";\nreturn " ++
        (OpeningTag.toMarkup children ⟨.ident x, attributes⟩).render none ++ ";\n") ++ ")()" := by
  simp only [toExpr, Function.arrow, Statement.constant, Expr.render, Expr.renderWith, Expr.operandText,
    Expr.isPrimary, ↓reduceIte, Function.renderWith, FunctionForm.renderWith, renderParameters, List.isEmpty_nil,
    Body.renderWith, Block.renderWith, renderStatements, Statement.renderWith, Declarations.renderWith, renderItems,
    Declaration.renderWith, Target.renderWith, renderAnnotation, renderExpr?, renderExprs, Markup.render, Scope.hiding,
    Option.map_none]
  rw [← String.toList_inj]
  simp [Text.parenthesized, Text.braced, Text.commaList, Text.blankAfterEach, VariableKind.keyword]

theorem TagTree.PrintsAs.toExpr {t : TagTree} {r : ResolvedTag} (h : t.PrintsAs r)
    (ha : Text.oneLine attributesText = Text.oneLine (String.join (renderAttributes (.within none) none attributes)))
    (hc : childrenText.map Text.oneLine =
      (children.map fun children => String.join (renderChildren (.within none) none children)).map Text.oneLine) :
    Text.oneLine (r.markup attributesText childrenText) =
      Text.oneLine ((t.toExpr attributes children).render none) := by
  have helement : ∀ {tag text}, Expr.IsTag tag text →
      Text.oneLine (ResolvedTag.elementText text attributesText childrenText) =
        Text.oneLine ((OpeningTag.toMarkup children ⟨tag, attributes⟩).render none) := by
    intro tag text htag
    rw [OpeningTag.render_toMarkup htag]
    exact ResolvedTag.oneLine_elementText_congr ha hc
  induction t generalizing r with
  | name tag =>
    cases r with
    | name text => exact helement h
    | choice _ _ _ => exact h.elim
    | hoisted _ _ => exact h.elim
  | choice condition whenTrue whenFalse ih ih' =>
    cases r with
    | name _ => exact h.elim
    | choice text textTrue textFalse =>
      obtain ⟨htext, htrue, hfalse⟩ := h
      have htrue := ih htrue
      have hfalse := ih' hfalse
      rw [Expr.render] at htext htrue hfalse
      rw [ResolvedTag.markup, TagTree.toExpr, Expr.render, Expr.renderWith]
      simp only [Text.oneLine_append, htext, htrue, hfalse]
    | hoisted _ _ => exact h.elim
  | hoisted x value =>
    cases r with
    | name _ => exact h.elim
    | choice _ _ _ => exact h.elim
    | hoisted y text =>
      obtain ⟨rfl, hx, htext⟩ := h
      rw [ResolvedTag.markup, TagTree.render_hoisted]
      simp only [Text.braced, Text.oneLine_append, htext, helement hx]
      rw [← String.toList_inj]
      simp [Text.oneLine]

theorem TagTree.PrintsAs.toMarkup {t : TagTree} {r : ResolvedTag} (h : t.PrintsAs r)
    (ha : Text.oneLine attributesText = Text.oneLine (String.join (renderAttributes (.within none) none attributes)))
    (hc : childrenText.map Text.oneLine =
      (children.map fun children => String.join (renderChildren (.within none) none children)).map Text.oneLine) :
    Text.oneLine (r.render attributesText childrenText) =
      Text.oneLine ((t.toMarkup attributes children).render none) := by
  have hexpr := h.toExpr ha hc
  -- all tags but names stand between braces
  have hbraces : Text.oneLine (Text.braced (r.markup attributesText childrenText)) =
      Text.oneLine ((Markup.container (some (t.toExpr attributes children))).render none) := by
    have hempty : Text.oneLine "" = "" := Text.oneLine_eq_self (by simp)
    rw [Expr.render] at hexpr
    rw [Markup.render, Markup.renderWith, renderExpr?, Text.oneLine_braced, Text.oneLine_braced, hexpr,
      Text.oneLine_append, hempty, String.empty_append]
  cases t with
  | name tag =>
    cases r with
    | name text =>
      rw [TagTree.toExpr, Expr.render, Expr.renderWith] at hexpr
      exact hexpr
    | choice _ _ _ => exact h.elim
    | hoisted _ _ => exact h.elim
  | choice _ _ _ =>
    cases r with
    | name _ => exact h.elim
    | choice _ _ _ => exact hbraces
    | hoisted _ _ => exact h.elim
  | hoisted _ _ =>
    cases r with
    | name _ => exact h.elim
    | choice _ _ _ => exact h.elim
    | hoisted _ _ => exact hbraces

end

/-! ### Printing follows the replacement -/

/-- Printing in the scope `s` with the expansion `E` follows the replacement `R`, but for line breaks, wherever names
are hidden; tags follow it if their expressions do. -/
structure Replacement.Prints (R : Replacement) (E : Expansion) (s : Scope) : Prop where
  context : s.context = ""
  primary : ∀ hidden x, (R.name hidden x).isPrimary = true
  notObject : ∀ hidden x, (R.name hidden x).isObject = false
  ident : ∀ hidden x, Text.oneLine (E.identText (some (s.without hidden)) x) =
    Text.oneLine ((R.name hidden x).render none)
  /-- what is printed as a name is that name -/
  self : ∀ hidden x y, Text.isName y = true →
    (E.identText (some (s.without hidden)) x = y ↔ (R.name hidden x).ident? = some y)
  tag : ∀ hidden tag, tag.every .legible = true →
    Text.oneLine (tag.renderWith E (some (s.without hidden))) =
      Text.oneLine ((tag.replaceWith R hidden).render none) →
    (R.tag hidden tag (tag.replaceWith R hidden)).PrintsAs
      (.ofText E (some (s.without hidden)) tag (tag.renderWith E (some (s.without hidden))))

section

variable {R : Replacement} {E : Expansion} {s : Scope}

theorem Expr.isPrimary_replaceWith (hP : R.Prints E s) (hidden : List String) (e : Expr) :
    (e.replaceWith R hidden).isPrimary = e.isPrimary := by
  cases e with
  | ident x => exact hP.primary hidden x
  | _ => simp only [Expr.replaceWith, Expr.isPrimary]

theorem Expr.isObject_replaceWith (hP : R.Prints E s) (hidden : List String) (e : Expr) :
    (e.replaceWith R hidden).isObject = e.isObject := by
  cases e with
  | ident x => exact hP.notObject hidden x
  | _ => simp only [Expr.replaceWith, Expr.isObject]

theorem Expr.oneLine_operandText_congr {e e' : Expr} {text text' : String} (he : e'.isPrimary = e.isPrimary)
    (h : Text.oneLine text = Text.oneLine text') :
    Text.oneLine (e.operandText text) = Text.oneLine (e'.operandText text') := by
  rw [operandText, operandText, he]
  split
  · exact h
  · rw [Text.oneLine_parenthesized, Text.oneLine_parenthesized, h]

theorem Expr.oneLine_propertyText_congr {e e' : Expr} {text text' : String} (hc : s.context = "")
    (he : e'.isPrimary = e.isPrimary) (h : Text.oneLine text = Text.oneLine text') (name : String) (optional : Bool) :
    Text.oneLine (e.propertyText (some s) text name optional) =
      Text.oneLine (e'.propertyText none text' name optional) := by
  have hnone : e'.instance? none = none := rfl
  rw [← propertyText_congr_of_isPrimary hc he]
  simp only [propertyText, hnone, Text.oneLine_append, oneLine_operandText_congr rfl h]

mutual

/-- Where printing follows the replacement, an expression is printed as the replaced one by itself, but for line
breaks. -/
theorem Expr.renderWith_eq_replaceWith (hP : R.Prints E s) (hidden : List String) :
    ∀ e : Expr, e.every .legible = true →
      Text.oneLine (e.renderWith E (some (s.without hidden))) =
        Text.oneLine ((e.replaceWith R hidden).renderWith (.within none) none)
  | .ident x, _ => by
    rw [Expr.renderWith, Expr.replaceWith]
    exact hP.ident hidden x
  | .verbatim _, _ | .string _, _ | .number _, _ | .type _, _ => by
    rw [Expr.replaceWith, Expr.renderWith, Expr.renderWith]
  | .property object name optional, h => by
    simp only [Expr.every, Bool.and_eq_true] at h
    rw [Expr.replaceWith, Expr.renderWith, Expr.renderWith]
    have hcontext : (s.without hidden).context = "" := hP.context
    exact Expr.oneLine_propertyText_congr hcontext (object.isPrimary_replaceWith hP hidden)
      (Expr.renderWith_eq_replaceWith hP hidden object h.2) name optional
  | .element object argument, h => by
    simp only [Expr.every, Bool.and_eq_true] at h
    rw [Expr.replaceWith, Expr.renderWith, Expr.renderWith, Text.oneLine_append, Text.oneLine_append,
      Text.oneLine_bracketed, Text.oneLine_bracketed, Expr.renderWith_eq_replaceWith hP hidden argument h.2,
      Expr.oneLine_operandText_congr (object.isPrimary_replaceWith hP hidden)
        (Expr.renderWith_eq_replaceWith hP hidden object h.1.2)]
  | .call callee arguments, h => by
    simp only [Expr.every, Bool.and_eq_true] at h
    rw [Expr.replaceWith, Expr.renderWith, Expr.renderWith, Text.oneLine_append, Text.oneLine_append,
      Text.oneLine_parenthesized, Text.oneLine_parenthesized, Text.oneLine_commaList, Text.oneLine_commaList,
      renderExprs_eq_replaceExprs hP hidden arguments h.2,
      Expr.oneLine_operandText_congr (callee.isPrimary_replaceWith hP hidden)
        (Expr.renderWith_eq_replaceWith hP hidden callee h.1.2)]
  | .binary left operator right, h => by
    simp only [Expr.every, Bool.and_eq_true] at h
    rw [Expr.replaceWith, Expr.renderWith, Expr.renderWith]
    simp only [Text.oneLine_append, Expr.renderWith_eq_replaceWith hP hidden left h.1.2,
      Expr.renderWith_eq_replaceWith hP hidden right h.2]
  | .unary operator operand, h => by
    simp only [Expr.every, Bool.and_eq_true] at h
    rw [Expr.replaceWith, Expr.renderWith, Expr.renderWith, unaryText, unaryText]
    split <;> simp only [Text.oneLine_append, Expr.renderWith_eq_replaceWith hP hidden operand h.2]
  | .conditional condition whenTrue whenFalse, h => by
    simp only [Expr.every, Bool.and_eq_true] at h
    rw [Expr.replaceWith, Expr.renderWith, Expr.renderWith]
    simp only [Text.oneLine_append, Expr.renderWith_eq_replaceWith hP hidden condition h.1.1.2,
      Expr.renderWith_eq_replaceWith hP hidden whenTrue h.1.2, Expr.renderWith_eq_replaceWith hP hidden whenFalse h.2]
  | .paren inner, h => by
    simp only [Expr.every, Bool.and_eq_true] at h
    rw [Expr.replaceWith, Expr.renderWith, Expr.renderWith, Text.oneLine_parenthesized, Text.oneLine_parenthesized,
      Expr.renderWith_eq_replaceWith hP hidden inner h.2]
  | .object entries, h => by
    simp only [Expr.every, Bool.and_eq_true] at h
    rw [Expr.replaceWith, Expr.renderWith, Expr.renderWith, Text.oneLine_bracedList, Text.oneLine_bracedList,
      renderEntries_eq_replaceEntries hP hidden entries h.2]
  | .array elements, h => by
    simp only [Expr.every, Bool.and_eq_true] at h
    rw [Expr.replaceWith, Expr.renderWith, Expr.renderWith, Text.oneLine_bracketed, Text.oneLine_bracketed,
      Text.oneLine_commaList, Text.oneLine_commaList, renderExprs_eq_replaceExprs hP hidden elements h.2]
  | .pattern p, h => by
    simp only [Expr.every, Bool.and_eq_true] at h
    rw [Expr.replaceWith, Expr.renderWith, Expr.renderWith, Pattern.renderWith_eq_replaceWith hP hidden p h.2]
  | .markup m, h => by
    simp only [Expr.every, Bool.and_eq_true] at h
    rw [Expr.replaceWith, Expr.renderWith, Expr.renderWith, Markup.renderWith_eq_replaceWith hP hidden m h.2]
  | .function f, h => by
    simp only [Expr.every, Bool.and_eq_true] at h
    rw [Expr.replaceWith, Expr.renderWith, Expr.renderWith, Function.renderWith_eq_replaceWith hP hidden f h.2]

theorem renderExprs_eq_replaceExprs (hP : R.Prints E s) (hidden : List String) :
    ∀ es : List Expr, everyExpr .legible es = true →
      (renderExprs E (some (s.without hidden)) es).map Text.oneLine =
        (renderExprs (.within none) none (replaceExprs R hidden es)).map Text.oneLine
  | [], _ => by rw [replaceExprs, renderExprs, renderExprs]
  | e :: es, h => by
    simp only [everyExpr, Bool.and_eq_true] at h
    rw [replaceExprs, renderExprs, renderExprs, List.map_cons, List.map_cons,
      Expr.renderWith_eq_replaceWith hP hidden e h.1, renderExprs_eq_replaceExprs hP hidden es h.2]

theorem renderExpr?_eq_replaceExpr? (hP : R.Prints E s) (hidden : List String) (before : String) :
    ∀ e : Option Expr, everyExpr? .legible e = true →
      Text.oneLine (renderExpr? E (some (s.without hidden)) before e) =
        Text.oneLine (renderExpr? (.within none) none before (replaceExpr? R hidden e))
  | none, _ => by rw [replaceExpr?, renderExpr?, renderExpr?]
  | some e, h => by
    rw [everyExpr?] at h
    rw [replaceExpr?, renderExpr?, renderExpr?, Text.oneLine_append, Text.oneLine_append,
      Expr.renderWith_eq_replaceWith hP hidden e h]

theorem ObjectEntry.renderWith_eq_replaceWith (hP : R.Prints E s) (hidden : List String) :
    ∀ e : ObjectEntry, e.every .legible = true →
      Text.oneLine (e.renderWith E (some (s.without hidden))) =
        Text.oneLine ((e.replaceWith R hidden).renderWith (.within none) none)
  | .keyed key value, h => by
    simp only [ObjectEntry.every, Bool.and_eq_true] at h
    rw [ObjectEntry.replaceWith, ObjectEntry.renderWith, ObjectEntry.renderWith]
    simp only [Text.oneLine_append, Expr.renderWith_eq_replaceWith hP hidden value h.2]
  | .shorthand x, h => by
    have hx : Text.isName x = true := h
    have hself := hP.self hidden x x hx
    have htext := hP.ident hidden x
    rw [Expr.render] at htext
    rw [ObjectEntry.renderWith, Expansion.shorthandText, ObjectEntry.replaceWith]
    by_cases hk : (R.name hidden x).ident? = some x
    · rw [if_pos hk, ObjectEntry.renderWith]
      simp only [hself.2 hk, ↓reduceIte]
      exact congrArg Text.oneLine (if_pos rfl).symm
    · have hne : E.identText (some (s.without hidden)) x ≠ x := fun h => hk (hself.1 h)
      simp only [hne, hk, ↓reduceIte, ObjectEntry.renderWith, Text.oneLine_append, htext]
  | .spread value, h => by
    simp only [ObjectEntry.every, Bool.and_eq_true] at h
    rw [ObjectEntry.replaceWith, ObjectEntry.renderWith, ObjectEntry.renderWith]
    simp only [Text.oneLine_append, Expr.renderWith_eq_replaceWith hP hidden value h.2]

theorem renderEntries_eq_replaceEntries (hP : R.Prints E s) (hidden : List String) :
    ∀ es : List ObjectEntry, everyEntry .legible es = true →
      (renderEntries E (some (s.without hidden)) es).map Text.oneLine =
        (renderEntries (.within none) none (replaceEntries R hidden es)).map Text.oneLine
  | [], _ => by rw [replaceEntries, renderEntries, renderEntries]
  | e :: es, h => by
    simp only [everyEntry, Bool.and_eq_true] at h
    rw [replaceEntries, renderEntries, renderEntries, List.map_cons, List.map_cons,
      ObjectEntry.renderWith_eq_replaceWith hP hidden e h.1, renderEntries_eq_replaceEntries hP hidden es h.2]

theorem Markup.renderWith_eq_replaceWith (hP : R.Prints E s) (hidden : List String) :
    ∀ m : Markup, m.every .legible = true →
      Text.oneLine (m.renderWith E (some (s.without hidden))) =
        Text.oneLine ((m.replaceWith R hidden).renderWith (.within none) none)
  | .element opening children, h => by
    simp only [Markup.every, Bool.and_eq_true] at h
    rw [Markup.replaceWith, Markup.renderWith]
    refine OpeningTag.renderWith_eq_replaceWith hP hidden opening h.1 ?_
    simp only [Option.map_some, Text.oneLine_join, renderChildren_eq_replaceChildren hP hidden children h.2]
  | .selfClosing opening, h => by
    rw [Markup.every] at h
    rw [Markup.replaceWith, Markup.renderWith]
    exact OpeningTag.renderWith_eq_replaceWith hP hidden opening h rfl
  | .fragment children, h => by
    rw [Markup.every] at h
    rw [Markup.replaceWith, Markup.renderWith, Markup.renderWith]
    simp only [Text.oneLine_append, Text.oneLine_join, renderChildren_eq_replaceChildren hP hidden children h]
  | .container content, h => by
    rw [Markup.every] at h
    rw [Markup.replaceWith, Markup.renderWith, Markup.renderWith, Text.oneLine_braced, Text.oneLine_braced,
      renderExpr?_eq_replaceExpr? hP hidden "" content h]

theorem OpeningTag.renderWith_eq_replaceWith (hP : R.Prints E s) (hidden : List String)
    {childrenText : Option String} {children : Option (List Child)} :
    ∀ t : OpeningTag, t.every .legible = true →
      childrenText.map Text.oneLine =
        (children.map fun children => String.join (renderChildren (.within none) none children)).map Text.oneLine →
      Text.oneLine (t.renderWith E (some (s.without hidden)) childrenText) =
        Text.oneLine ((t.replaceWith R hidden children).renderWith (.within none) none)
  | ⟨tag, attributes⟩, h, hchildren => by
    simp only [OpeningTag.every, Bool.and_eq_true] at h
    rw [OpeningTag.replaceWith, OpeningTag.renderWith]
    have hattributes : Text.oneLine (String.join (renderAttributes E (some (s.without hidden)) attributes)) =
        Text.oneLine (String.join (renderAttributes (.within none) none (replaceAttributes R hidden attributes))) := by
      rw [Text.oneLine_join, Text.oneLine_join, renderAttributes_eq_replaceAttributes hP hidden attributes h.2]
    refine TagTree.PrintsAs.toMarkup ?_ hattributes hchildren
    cases hi : OpeningTag.isIntrinsic ⟨tag, attributes⟩ with
    | true => exact Expr.isTag_of_isIntrinsic hi
    | false => exact hP.tag hidden tag h.1 (Expr.renderWith_eq_replaceWith hP hidden tag h.1)

theorem Attribute.renderWith_eq_replaceWith (hP : R.Prints E s) (hidden : List String) :
    ∀ a : Attribute, a.every .legible = true →
      Text.oneLine (a.renderWith E (some (s.without hidden))) =
        Text.oneLine ((a.replaceWith R hidden).renderWith (.within none) none)
  | .flag _, _ | .text _ _, _ => by rw [Attribute.replaceWith, Attribute.renderWith, Attribute.renderWith]
  | .value name value, h => by
    simp only [Attribute.every, Bool.and_eq_true] at h
    rw [Attribute.replaceWith, Attribute.renderWith, Attribute.renderWith]
    simp only [Text.oneLine_append, Text.oneLine_braced, Expr.renderWith_eq_replaceWith hP hidden value h.2]
  | .spread value, h => by
    simp only [Attribute.every, Bool.and_eq_true] at h
    rw [Attribute.replaceWith, Attribute.renderWith, Attribute.renderWith]
    simp only [Text.oneLine_append, Text.oneLine_braced, Expr.renderWith_eq_replaceWith hP hidden value h.2]

theorem renderAttributes_eq_replaceAttributes (hP : R.Prints E s) (hidden : List String) :
    ∀ as : List Attribute, everyAttribute .legible as = true →
      (renderAttributes E (some (s.without hidden)) as).map Text.oneLine =
        (renderAttributes (.within none) none (replaceAttributes R hidden as)).map Text.oneLine
  | [], _ => by rw [replaceAttributes, renderAttributes, renderAttributes]
  | a :: as, h => by
    simp only [everyAttribute, Bool.and_eq_true] at h
    rw [replaceAttributes, renderAttributes, renderAttributes, List.map_cons, List.map_cons,
      Attribute.renderWith_eq_replaceWith hP hidden a h.1, renderAttributes_eq_replaceAttributes hP hidden as h.2]

theorem Child.renderWith_eq_replaceWith (hP : R.Prints E s) (hidden : List String) :
    ∀ c : Child, c.every .legible = true →
      Text.oneLine (c.renderWith E (some (s.without hidden))) =
        Text.oneLine ((c.replaceWith R hidden).renderWith (.within none) none)
  | .text _, _ => by rw [Child.replaceWith, Child.renderWith, Child.renderWith]
  | .markup m, h => by
    simp only [Child.every, Bool.and_eq_true] at h
    rw [Child.replaceWith, Child.renderWith, Child.renderWith, Markup.renderWith_eq_replaceWith hP hidden m h.2]

theorem renderChildren_eq_replaceChildren (hP : R.Prints E s) (hidden : List String) :
    ∀ cs : List Child, everyChild .legible cs = true →
      (renderChildren E (some (s.without hidden)) cs).map Text.oneLine =
        (renderChildren (.within none) none (replaceChildren R hidden cs)).map Text.oneLine
  | [], _ => by rw [replaceChildren, renderChildren, renderChildren]
  | c :: cs, h => by
    simp only [everyChild, Bool.and_eq_true] at h
    rw [replaceChildren, renderChildren, renderChildren, List.map_cons, List.map_cons,
      Child.renderWith_eq_replaceWith hP hidden c h.1, renderChildren_eq_replaceChildren hP hidden cs h.2]

theorem Pattern.renderWith_eq_replaceWith (hP : R.Prints E s) (hidden : List String) :
    ∀ p : Pattern, p.every .legible = true →
      Text.oneLine (p.renderWith E (some (s.without hidden))) =
        Text.oneLine ((p.replaceWith R hidden).renderWith (.within none) none)
  | ⟨kind, elements⟩, h => by
    rw [Pattern.every] at h
    have helements := renderBindings_eq_replaceBindings hP hidden elements h
    cases kind with
    | object =>
      rw [Pattern.replaceWith, Pattern.renderWith, Pattern.renderWith, Text.oneLine_bracedList,
        Text.oneLine_bracedList, helements]
    | array =>
      rw [Pattern.replaceWith, Pattern.renderWith, Pattern.renderWith, Text.oneLine_bracketed, Text.oneLine_bracketed,
        Text.oneLine_commaList, Text.oneLine_commaList, helements]

theorem Binding.renderWith_eq_replaceWith (hP : R.Prints E s) (hidden : List String) :
    ∀ b : Binding, b.every .legible = true →
      Text.oneLine (b.renderWith E (some (s.without hidden))) =
        Text.oneLine ((b.replaceWith R hidden).renderWith (.within none) none)
  | ⟨rest, key, target, fallback⟩, h => by
    simp only [Binding.every, Bool.and_eq_true] at h
    rw [Binding.replaceWith, Binding.renderWith, Binding.renderWith]
    simp only [Text.oneLine_append, Target.renderWith_eq_replaceWith hP hidden target h.1.2,
      renderExpr?_eq_replaceExpr? hP hidden _ fallback h.2]

theorem renderBindings_eq_replaceBindings (hP : R.Prints E s) (hidden : List String) :
    ∀ bs : List Binding, everyBinding .legible bs = true →
      (renderBindings E (some (s.without hidden)) bs).map Text.oneLine =
        (renderBindings (.within none) none (replaceBindings R hidden bs)).map Text.oneLine
  | [], _ => by rw [replaceBindings, renderBindings, renderBindings]
  | b :: bs, h => by
    simp only [everyBinding, Bool.and_eq_true] at h
    rw [replaceBindings, renderBindings, renderBindings, List.map_cons, List.map_cons,
      Binding.renderWith_eq_replaceWith hP hidden b h.1, renderBindings_eq_replaceBindings hP hidden bs h.2]

theorem Target.renderWith_eq_replaceWith (hP : R.Prints E s) (hidden : List String) :
    ∀ t : Target, t.every .legible = true →
      Text.oneLine (t.renderWith E (some (s.without hidden))) =
        Text.oneLine ((t.replaceWith R hidden).renderWith (.within none) none)
  | .name _, _ => by rw [Target.replaceWith, Target.renderWith, Target.renderWith]
  | .pattern p, h => by
    simp only [Target.every, Bool.and_eq_true] at h
    rw [Target.replaceWith, Target.renderWith, Target.renderWith, Pattern.renderWith_eq_replaceWith hP hidden p h.2]

theorem Parameter.renderWith_eq_replaceWith (hP : R.Prints E s) (hidden : List String) :
    ∀ p : Parameter, p.every .legible = true →
      Text.oneLine (p.renderWith E (some (s.without hidden))) =
        Text.oneLine ((p.replaceWith R hidden).renderWith (.within none) none)
  | ⟨decorators, modifiers, rest, target, optional, type, fallback⟩, h => by
    simp only [Parameter.every, Bool.and_eq_true] at h
    obtain ⟨⟨⟨-, hd⟩, ht⟩, hf⟩ := h
    have hdecorators :
        Text.oneLine (Text.blankAfterEach ((renderExprs E (some (s.without hidden)) decorators).map ("@" ++ ·))) =
        Text.oneLine (Text.blankAfterEach
          ((renderExprs (.within none) none (replaceExprs R hidden decorators)).map ("@" ++ ·))) := by
      refine Text.oneLine_blankAfterEach_congr (Text.map_oneLine_congr ?_
        (renderExprs_eq_replaceExprs hP hidden decorators hd))
      intro text text' htext
      simp only [Text.oneLine_append, htext]
    rw [Parameter.replaceWith, Parameter.renderWith, Parameter.renderWith]
    simp only [Text.oneLine_append, hdecorators, Target.renderWith_eq_replaceWith hP hidden target ht,
      renderExpr?_eq_replaceExpr? hP hidden _ fallback hf]

theorem renderParameters_eq_replaceParameters (hP : R.Prints E s) (hidden : List String) :
    ∀ ps : List Parameter, everyParameter .legible ps = true →
      (renderParameters E (some (s.without hidden)) ps).map Text.oneLine =
        (renderParameters (.within none) none (replaceParameters R hidden ps)).map Text.oneLine
  | [], _ => by rw [replaceParameters, renderParameters, renderParameters]
  | p :: ps, h => by
    simp only [everyParameter, Bool.and_eq_true] at h
    rw [replaceParameters, renderParameters, renderParameters, List.map_cons, List.map_cons,
      Parameter.renderWith_eq_replaceWith hP hidden p h.1, renderParameters_eq_replaceParameters hP hidden ps h.2]

/-- Where printing follows the replacement, a function is printed as the replaced one by itself, but for line
breaks. -/
theorem Function.renderWith_eq_replaceWith (hP : R.Prints E s) (hidden : List String) :
    ∀ f : Function, f.every .legible = true →
      Text.oneLine (f.renderWith E (some (s.without hidden))) =
        Text.oneLine ((f.replaceWith R hidden).renderWith (.within none) none)
  | ⟨form, modifiers, typeParameters, parameters, returnType, body⟩, h => by
    simp only [Function.every, Bool.and_eq_true] at h
    obtain ⟨⟨⟨-, hform⟩, hparameters⟩, hbody⟩ := h
    have hhiding : ∀ bound, Scope.hiding (some (s.without hidden)) bound = some (s.without (bound ++ hidden)) :=
      fun bound => congrArg some (s.without_without hidden bound)
    have hnone : ∀ bound, Scope.hiding none bound = none := fun _ => rfl
    rw [Function.replaceWith, Function.renderWith, Function.renderWith, hhiding, hnone]
    refine FunctionForm.renderWith_eq_replaceWith hP hidden form _ hform ?_
      (Body.renderWith_eq_replaceWith hP _ body hbody)
    simp only [Text.oneLine_append, Text.oneLine_parenthesized, Text.oneLine_commaList,
      renderParameters_eq_replaceParameters hP _ parameters hparameters]

theorem FunctionForm.renderWith_eq_replaceWith (hP : R.Prints E s) (hidden : List String) :
    ∀ (f : FunctionForm) (modifiers : String) {signature signature' body body' : String},
      f.every .legible = true → Text.oneLine signature = Text.oneLine signature' →
      Text.oneLine body = Text.oneLine body' →
      Text.oneLine (f.renderWith E (some (s.without hidden)) modifiers signature body) =
        Text.oneLine ((f.replaceWith R hidden).renderWith (.within none) none modifiers signature' body')
  | .keyword decorators generator name, modifiers, signature, signature', body, body', h, hsignature, hbody => by
    simp only [FunctionForm.every, Bool.and_eq_true] at h
    rw [FunctionForm.replaceWith, FunctionForm.renderWith, FunctionForm.renderWith]
    have hdecorators :
        Text.oneLine (String.join ((renderExprs E (some (s.without hidden)) decorators).map ("@" ++ · ++ "\n"))) =
        Text.oneLine (String.join
          ((renderExprs (.within none) none (replaceExprs R hidden decorators)).map ("@" ++ · ++ "\n"))) := by
      have htexts := renderExprs_eq_replaceExprs hP hidden decorators h.2
      rw [Text.oneLine_join, Text.oneLine_join, Text.map_oneLine_congr ?_ htexts]
      intro text text' htext
      simp only [Text.oneLine_append, htext]
    simp only [Text.oneLine_append, hdecorators, hsignature, hbody]
  | .arrow, modifiers, signature, signature', body, body', _, hsignature, hbody => by
    rw [FunctionForm.replaceWith, FunctionForm.renderWith, FunctionForm.renderWith]
    simp only [Text.oneLine_append, hsignature, hbody]

theorem Body.renderWith_eq_replaceWith (hP : R.Prints E s) (hidden : List String) :
    ∀ b : Body, b.every .legible = true →
      Text.oneLine (b.renderWith E (some (s.without hidden))) =
        Text.oneLine ((b.replaceWith R hidden).renderWith (.within none) none)
  | .block b, h => by
    rw [Body.every] at h
    rw [Body.replaceWith, Body.renderWith, Body.renderWith, Block.renderWith_eq_replaceWith hP hidden b h]
  | .expr value, h => by
    rw [Body.every] at h
    have hvalue := Expr.renderWith_eq_replaceWith hP hidden value h
    rw [Body.replaceWith, Body.renderWith, Body.renderWith, Expr.bodyText, Expr.bodyText,
      value.isObject_replaceWith hP hidden]
    split
    · rw [Text.oneLine_parenthesized, Text.oneLine_parenthesized, hvalue]
    · exact hvalue

theorem Block.renderWith_eq_replaceWith (hP : R.Prints E s) (hidden : List String) :
    ∀ b : Block, b.every .legible = true →
      Text.oneLine (b.renderWith E (some (s.without hidden))) =
        Text.oneLine ((b.replaceWith R hidden).renderWith (.within none) none)
  | ⟨statements⟩, h => by
    rw [Block.every] at h
    have hstatements := renderStatements_eq_replaceStatements hP hidden statements h
    have hempty : (replaceStatements R hidden statements).isEmpty = statements.isEmpty := by
      cases statements <;> simp only [replaceStatements, List.isEmpty_nil, List.isEmpty_cons]
    rw [Block.replaceWith, Block.renderWith, Block.renderWith, hempty]
    split
    · rfl
    · simp only [Text.oneLine_braced, Text.oneLine_append, Text.oneLine_join]
      rw [Text.map_oneLine_congr ?_ hstatements]
      intro text text' htext
      simp only [Text.oneLine_append, htext]

theorem Statement.renderWith_eq_replaceWith (hP : R.Prints E s) (hidden : List String) :
    ∀ t : Statement, t.every .legible = true →
      Text.oneLine (t.renderWith E (some (s.without hidden))) =
        Text.oneLine ((t.replaceWith R hidden).renderWith (.within none) none)
  | .ret value, h => by
    simp only [Statement.every, Bool.and_eq_true] at h
    rw [Statement.replaceWith, Statement.renderWith, Statement.renderWith]
    simp only [Text.oneLine_append, renderExpr?_eq_replaceExpr? hP hidden _ value h.2]
  | .declare modifiers declarations, h => by
    simp only [Statement.every, Bool.and_eq_true] at h
    rw [Statement.replaceWith, Statement.renderWith, Statement.renderWith]
    simp only [Text.oneLine_append, Declarations.renderWith_eq_replaceWith hP hidden declarations h.2]
  | .expr value, h => by
    simp only [Statement.every, Bool.and_eq_true] at h
    rw [Statement.replaceWith, Statement.renderWith, Statement.renderWith]
    simp only [Text.oneLine_append, Expr.renderWith_eq_replaceWith hP hidden value h.2]
  | .block b, h => by
    simp only [Statement.every, Bool.and_eq_true] at h
    rw [Statement.replaceWith, Statement.renderWith, Statement.renderWith,
      Block.renderWith_eq_replaceWith hP hidden b h.2]

theorem renderStatements_eq_replaceStatements (hP : R.Prints E s) (hidden : List String) :
    ∀ ts : List Statement, everyStatement .legible ts = true →
      (renderStatements E (some (s.without hidden)) ts).map Text.oneLine =
        (renderStatements (.within none) none (replaceStatements R hidden ts)).map Text.oneLine
  | [], _ => by rw [replaceStatements, renderStatements, renderStatements]
  | t :: ts, h => by
    simp only [everyStatement, Bool.and_eq_true] at h
    rw [replaceStatements, renderStatements, renderStatements, List.map_cons, List.map_cons,
      Statement.renderWith_eq_replaceWith hP hidden t h.1, renderStatements_eq_replaceStatements hP hidden ts h.2]

theorem Declarations.renderWith_eq_replaceWith (hP : R.Prints E s) (hidden : List String) :
    ∀ d : Declarations, d.every .legible = true →
      Text.oneLine (d.renderWith E (some (s.without hidden))) =
        Text.oneLine ((d.replaceWith R hidden).renderWith (.within none) none)
  | ⟨kind, items⟩, h => by
    rw [Declarations.every] at h
    rw [Declarations.replaceWith, Declarations.renderWith, Declarations.renderWith]
    simp only [Text.oneLine_append, Text.oneLine_commaList, renderItems_eq_replaceItems hP hidden items h]

theorem renderItems_eq_replaceItems (hP : R.Prints E s) (hidden : List String) :
    ∀ ds : List Declaration, everyItem .legible ds = true →
      (renderItems E (some (s.without hidden)) ds).map Text.oneLine =
        (renderItems (.within none) none (replaceItems R hidden ds)).map Text.oneLine
  | [], _ => by rw [replaceItems, renderItems, renderItems]
  | d :: ds, h => by
    simp only [everyItem, Bool.and_eq_true] at h
    rw [replaceItems, renderItems, renderItems, List.map_cons, List.map_cons,
      Declaration.renderWith_eq_replaceWith hP hidden d h.1, renderItems_eq_replaceItems hP hidden ds h.2]

theorem Declaration.renderWith_eq_replaceWith (hP : R.Prints E s) (hidden : List String) :
    ∀ d : Declaration, d.every .legible = true →
      Text.oneLine (d.renderWith E (some (s.without hidden))) =
        Text.oneLine ((d.replaceWith R hidden).renderWith (.within none) none)
  | ⟨target, type, value⟩, h => by
    simp only [Declaration.every, Bool.and_eq_true] at h
    rw [Declaration.replaceWith, Declaration.renderWith, Declaration.renderWith]
    simp only [Text.oneLine_append, Target.renderWith_eq_replaceWith hP hidden target h.1.2,
      renderExpr?_eq_replaceExpr? hP hidden _ value h.2]

end

end

end ViewTemplate
