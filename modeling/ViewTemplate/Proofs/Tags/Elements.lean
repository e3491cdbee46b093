import ViewTemplate.Proofs.Tags.Names

/-!
# Elements as expressions

An element is printed as an element or, if its tag resolves to anything but a name, as a container: an expression
between braces.  Among the children of another element both are the same, but an element is printed so wherever it
stands.  As an expression a text that begins with a brace is no element: it reads as an object, or as a block after an
arrow.  `OpeningTag.render_toExpr` says when this happens, and that the braces are all that is wrong.
-/

namespace ViewTemplate

/-- The text that is a tag itself, if the tag resolves to one. -/
def ResolvedTag.name? : ResolvedTag → Option String
  | .name text => some text
  | _ => none

/-- An element stands between angles if its tag is a name, and between braces if it is anything else. -/
theorem ResolvedTag.head?_render (attributes : String) (children : Option String) (r : ResolvedTag) :
    (r.render attributes children).toList.head? = some (if r.name?.isSome then '<' else '\x7b') := by
  cases r with
  | name text => cases children <;> simp [render, name?, elementText]
  | choice _ _ _ => simp [render, name?, Text.braced]
  | hoisted _ _ => simp [render, name?, Text.braced]

/-- Only a text that is a tag of a component is a name. -/
theorem Expr.name?_resolveTag (s : Option Scope) (tag : Expr) :
    (tag.resolveTag s).name?.isSome = Text.isComponentTag (tag.render s) := by
  cases htag : Text.isComponentTag (tag.render s) with
  | true => rw [resolveTag_of_isComponentTag htag]; rfl
  | false =>
    rw [resolveTag, ResolvedTag.ofText, htag]
    cases hr : tag.replacement? s with
    | none => rfl
    | some r =>
      obtain ⟨v, inner⟩ := r
      cases hc : v.stripParens <;> simp [hc, ResolvedTag.name?]

/-- What stands for a tag that is no name is a choice between elements, or a call that binds a value to a name. -/
theorem Expr.toMarkup_replacedTag {s : Scope} {tag : Expr} (htag : Text.isComponentTag (tag.render (some s)) = false)
    (attributes : List Attribute) (children : Option (List Child)) :
    ∃ e : Expr, (e.isConditional = true ∨ ∃ f, e = .call f []) ∧
      (tag.replacedTag s).toMarkup attributes children = .container (some e) := by
  induction s, tag using resolveTag_induction with
  | component s tag hcomponent => simp [hcomponent] at htag
  | kept s tag htag hr =>
    rw [replacedTag_of_replacement?_eq_none htag hr]
    exact ⟨_, Or.inr ⟨_, rfl⟩, rfl⟩
  | value s x v htag hv hc =>
    rw [replacedTag_of_value htag hv hc]
    exact ⟨_, Or.inr ⟨_, rfl⟩, rfl⟩
  | choice s x v condition whenTrue whenFalse htag hv hc =>
    rw [replacedTag_of_conditional htag hv hc]
    exact ⟨_, Or.inl rfl, rfl⟩

/-- The element of a tag as an expression, with its children or as one tag. -/
def OpeningTag.toExpr (children : Option (List Child)) (t : OpeningTag) : Expr :=
  .markup (t.toMarkup children)

namespace OpeningTag

/-- An element begins with a brace, exactly if its tag is no tag of the page and its text no tag of a component. -/
theorem head?_render_toExpr (t : OpeningTag) (children : Option (List Child)) (s : Option Scope) :
    ((t.toExpr children).render s).toList.head? =
      some (if t.isIntrinsic || Text.isComponentTag (t.tag.render s) then '<' else '\x7b') := by
  obtain ⟨tag, attributes⟩ := t
  have hname : (if isIntrinsic ⟨tag, attributes⟩ then ResolvedTag.name (tag.ident?.getD "")
      else .ofText (.within s) s tag (tag.renderWith (.within s) s)).name?.isSome =
        (isIntrinsic ⟨tag, attributes⟩ || Text.isComponentTag (tag.render s)) := by
    cases isIntrinsic ⟨tag, attributes⟩ with
    | true => rfl
    | false => exact tag.name?_resolveTag s
  rw [toExpr, Expr.render, Expr.renderWith, renderWith_toMarkup, renderWith, ResolvedTag.head?_render, hname]

/-- The body of an arrow function that is an element is written as the element is by itself, in the scope inside the
function. -/
theorem render_arrow_toExpr (t : OpeningTag) (children : Option (List Child)) (s : Option Scope)
    (ps : List Parameter) :
    ∃ signature, (Function.arrow ps (.expr (t.toExpr children))).render s = signature ++ " => " ++
      (t.toExpr children).render (Scope.hiding s (Function.arrow ps (.expr (t.toExpr children))).boundNames) := by
  have hbody : ∀ names, (t.toExpr children).renderWith (.within s) (Scope.hiding s names) =
      (t.toExpr children).render (Scope.hiding s names) := by
    intro names
    cases s with
    | none => rfl
    | some s => exact Node.renderWith_upTo (s.size_without_le names) (.expr (t.toExpr children))
  refine ⟨Text.blankAfterEach [] ++ ("" ++ Text.parenthesized (Text.commaList (renderParameters (.within s)
    (Scope.hiding s (Function.arrow ps (.expr (t.toExpr children))).boundNames) ps)) ++ ""), ?_⟩
  rw [← hbody]
  rfl

/-- An element as an expression begins with a brace, exactly if its tag is no tag of the page and is not printed as a tag
of a component.  The body of an arrow function that is such an element begins with the same brace.  In a legible scope
what stands between the braces is a choice between elements or a call. -/
theorem render_toExpr (t : OpeningTag) (children : Option (List Child)) (s : Option Scope) :
    (((t.toExpr children).render s).toList.head? = some '\x7b' ↔
      t.isIntrinsic = false ∧ Text.isComponentTag (t.tag.render s) = false) ∧
    (∀ ps, ∃ signature, (Function.arrow ps (.expr (t.toExpr children))).render s = signature ++ " => " ++
      (t.toExpr children).render (Scope.hiding s (Function.arrow ps (.expr (t.toExpr children))).boundNames)) ∧
    ∀ u, s = some u → u.Legible → (t.toExpr children).every .legible = true → t.isIntrinsic = false →
      Text.isComponentTag (t.tag.render s) = false →
      ∃ e : Expr, (e.isConditional = true ∨ ∃ f, e = .call f []) ∧
        Text.oneLine ((t.toExpr children).render s) = Text.oneLine (Text.braced (e.render none)) := by
  refine ⟨?_, t.render_arrow_toExpr children s, ?_⟩
  · rw [head?_render_toExpr]
    cases t.isIntrinsic <;> cases Text.isComponentTag (t.tag.render s) <;> decide
  · rintro u rfl hl he hi htag
    obtain ⟨tag, attributes⟩ := t
    obtain ⟨e, hshape, hcontainer⟩ := Expr.toMarkup_replacedTag htag (replaceAttributes u.replacement [] attributes)
      (children.map (replaceChildren u.replacement []))
    have hreplaced : (toExpr children ⟨tag, attributes⟩).replaceWith u.replacement [] =
        .markup (.container (some e)) := by
      rw [← hcontainer, toExpr, Expr.replaceWith, replaceWith_toMarkup, replaceWith, hi]
      rfl
    have htext := (hl.prints (Nat.le_refl _)).render he
    rw [hreplaced] at htext
    refine ⟨e, hshape, htext.trans ?_⟩
    rw [Expr.render, Expr.renderWith, Markup.renderWith, renderExpr?, String.empty_append, Expr.render]

/-- A tag that stands for one of two components. -/
theorem render_toExpr_choice :
    let t : OpeningTag := ⟨.ident "ItemTemplate", []⟩
    let s := (Scope.ofContext "").withVars (.ofList [("ItemTemplate", .conditional (.ident "custom")
      (.property (.ident "props") "item" false) (.ident "Row"))])
    (s.Legible ∧ (t.toExpr none).every .legible = true ∧ t.isIntrinsic = false ∧
      Text.isComponentTag (t.tag.render (some s)) = false) ∧
    ((t.toExpr none).render (some s)).toList.head? = some '\x7b' ∧
    ∃ e : Expr, (e.isConditional = true ∨ ∃ f, e = .call f []) ∧
      Text.oneLine ((t.toExpr none).render (some s)) = Text.oneLine (Text.braced (e.render none)) := by
  intro t s
  have hs : s.Legible := ⟨rfl, by decide, by decide⟩
  have ht : (t.toExpr none).every .legible = true := by decide
  have hi : t.isIntrinsic = false := by decide
  have htag : Text.isComponentTag (t.tag.render (some s)) = false := by decide
  obtain ⟨hbrace, -, hexpr⟩ := render_toExpr t none (some s)
  exact ⟨⟨hs, ht, hi, htag⟩, hbrace.2 ⟨hi, htag⟩, hexpr s rfl hs ht hi htag⟩

/-- The arrow function for each item of a list has a block as its body, which returns nothing. -/
theorem render_toExpr_arrow :
    let t : OpeningTag := ⟨.ident "ItemTemplate", []⟩
    let s := (Scope.ofContext "").withVars (.ofList [("ItemTemplate", .conditional (.ident "custom")
      (.property (.ident "props") "item" false) (.ident "Row"))])
    (t.toExpr none).render (some s) = "\x7bcustom ? <props.item /> : <Row />\x7d" ∧
      (Expr.call (.property (.ident "items") "map" false) [.function (.arrow [.ofTarget (.name "i")]
        (.expr (t.toExpr none)))]).render (some s) =
          "items.map((i) => \x7bcustom ? <props.item /> : <Row />\x7d)" := by
  decide

end OpeningTag

end ViewTemplate
