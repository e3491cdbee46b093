import ViewTemplate.Proofs.Brackets.Text
import ViewTemplate.Proofs.Syntax.Lookups

/-!
# Printing writes matching brackets

Syntax whose names and fragments of text have neither brackets nor quotes is printed with matching brackets, in any
scope that is free of them as well (`Node.wellBracketed_render`).  String literals and texts of attributes may hold
anything: they are quoted.

Names are the only place where printing leaves the syntax, so the induction on the syntax is done for any expansion
that writes balanced texts and tags (`Expansion.Balanced`); for the expansions that printing uses this follows by
induction on the number of variables.
-/

namespace ViewTemplate

open Text (undelimited Balanced)

/-! ### Syntax and scopes without brackets and quotes -/

/-- Nothing that is printed as it stands has brackets or quotes. -/
def Check.undelimited : Check where
  expr
    | .ident x => Text.undelimited x
    | .verbatim text | .number text => Text.undelimited text
    | .property _ name _ => Text.undelimited name
    | .binary _ operator _ | .unary operator _ => Text.undelimited operator
    | .type t => t.everyText Text.undelimited
    | _ => true
  entry
    | .keyed key _ => Text.undelimited key
    | .shorthand x => Text.undelimited x
    | .spread _ => true
  attr
    | .flag name | .text name _ | .value name _ => Text.undelimited name
    | .spread _ => true
  child
    | .text text => Text.undelimited text
    | .markup _ => true
  binding b := b.key.all Text.undelimited
  target
    | .name x => Text.undelimited x
    | .pattern _ => true
  parameter p := p.modifiers.all Text.undelimited && everyTypeText? Text.undelimited p.type
  function f :=
    f.modifiers.all Text.undelimited && f.typeParameters.all Text.undelimited &&
      everyTypeText? Text.undelimited f.returnType
  form
    | .keyword _ _ name => name.all Text.undelimited
    | .arrow => true
  statement
    | .declare modifiers _ => modifiers.all Text.undelimited
    | _ => true
  declaration d := everyTypeText? Text.undelimited d.type

/-- A piece of syntax in which nothing that is printed as it stands has brackets or quotes. -/
def Node.undelimited : Node → Bool
  | .type t => t.everyText Text.undelimited
  | n => n.every .undelimited

/-- A scope in which the names of the instance, the members with their paths, and the values of the variables have
neither brackets nor quotes. -/
structure Scope.Undelimited (s : Scope) : Prop where
  context : undelimited s.context = true
  newContext : ∀ context ∈ s.newContext, undelimited context = true
  members : ∀ m ∈ s.members, undelimited m.name = true ∧ undelimited m.externalName = true ∧
    ∀ path ∈ m.path, undelimited path = true
  vars : s.vars.every .undelimited = true

section

variable {s : Scope} {x : String}

theorem Scope.Undelimited.without (h : s.Undelimited) (names : List String) : (s.without names).Undelimited where
  context := h.context
  newContext := h.newContext
  members := h.members
  vars := VariableMap.every_eraseAll h.vars names

theorem Scope.Undelimited.of_mem_some (h : s.Undelimited) : ∀ t ∈ some s, t.Undelimited := by
  intro t ht
  rwa [← Option.some.inj ht]

theorem Scope.Undelimited.hiding {s : Option Scope} (h : ∀ t ∈ s, t.Undelimited) (names : List String) :
    ∀ t ∈ Scope.hiding s names, t.Undelimited := by
  intro t ht
  obtain ⟨t', ht', rfl⟩ := Option.map_eq_some_iff.1 ht
  exact (h t' ht').without names

theorem Scope.Undelimited.effectiveContext (h : s.Undelimited) : undelimited s.effectiveContext = true := by
  rw [Scope.effectiveContext]
  cases hc : s.newContext with
  | none => exact h.context
  | some context => exact h.newContext context hc

theorem Scope.Undelimited.contextText (h : s.Undelimited) (hx : undelimited x = true) :
    undelimited (s.contextText x) = true := by
  rw [Scope.contextText]
  split
  · split
    · next context hc =>
      split
      · exact hx
      · exact h.newContext context hc
    · exact hx
  · exact hx

theorem Scope.Undelimited.memberAccess (h : s.Undelimited) (hx : undelimited x = true) :
    Balanced (s.memberAccess x) := by
  have hcontext := Balanced.of_undelimited h.effectiveContext
  rw [Scope.memberAccess]
  split
  · next m hm =>
    obtain ⟨hname, hexternal, hpath⟩ := h.members m (List.mem_of_find?_eq_some hm)
    rw [Member.getter]
    split
    · exact .of_undelimited hexternal
    · next path hp =>
      have hpath := Balanced.of_undelimited (hpath path hp)
      split
      · exact hpath.before hname
      · exact ((hcontext.before (by decide)).append hpath).before hname
  · split
    · exact .of_undelimited hx
    · exact (hcontext.before (by decide)).before hx

theorem Expr.undelimited_ident?_getD {e : Expr} (h : e.every .undelimited = true) {other : String}
    (hother : undelimited other = true) : undelimited (e.ident?.getD other) = true := by
  cases e with
  | ident x =>
    rw [Expr.every] at h
    exact h
  | _ => exact hother

end

/-! ### Types -/

mutual

theorem TypeExpr.balanced_render : ∀ t : TypeExpr, t.everyText undelimited = true → Balanced t.render
  | .reference name arguments, h => by
    simp only [TypeExpr.everyText, Bool.and_eq_true] at h
    have hname := Balanced.of_undelimited h.1
    rw [TypeExpr.render]
    split
    · exact hname
    · have hlist := Text.balanced_commaList (balanced_renderTypes arguments h.2)
      exact ((hname.before (by decide)).append hlist).before (by decide)
  | .array element, h => by
    simp only [TypeExpr.everyText] at h
    have helement := TypeExpr.balanced_render element h
    have hsuffix : Balanced "[]" := Text.balanced_empty.bracketed
    rw [TypeExpr.render]
    split
    · exact helement.parenthesized.append hsuffix
    · exact helement.append hsuffix
  | .union members, h => by
    simp only [TypeExpr.everyText] at h
    rw [TypeExpr.render]
    exact Text.balanced_intercalate (by decide) (balanced_renderTypes members h)
  | .literal properties, h => by
    simp only [TypeExpr.everyText] at h
    rw [TypeExpr.render]
    exact Text.balanced_bracedList (by decide) (balanced_renderSignatures properties h)
  | .verbatim text, h => by
    simp only [TypeExpr.everyText] at h
    rw [TypeExpr.render]
    exact .of_undelimited h

theorem balanced_renderTypes :
    ∀ ts : List TypeExpr, everyTypeText undelimited ts = true → ∀ text ∈ renderTypes ts, Balanced text
  | [], _ => by simp [renderTypes]
  | t :: ts, h => by
    simp only [everyTypeText, Bool.and_eq_true] at h
    rw [renderTypes]
    exact List.forall_mem_cons.2 ⟨TypeExpr.balanced_render t h.1, balanced_renderTypes ts h.2⟩

theorem balanced_renderAnnotation :
    ∀ t : Option TypeExpr, everyTypeText? undelimited t = true → Balanced ( renderAnnotation t)
  | none, _ => by
    rw [ renderAnnotation]
    exact Text.balanced_empty
  | some t, h => by
    simp only [everyTypeText?] at h
    rw [ renderAnnotation]
    exact (TypeExpr.balanced_render t h).after (by decide)

theorem PropertySignature.balanced_render :
    ∀ p : PropertySignature, p.everyText undelimited = true → Balanced p.render
  | ⟨name, optional, type⟩, h => by
    simp only [PropertySignature.everyText, Bool.and_eq_true] at h
    have hmark : undelimited (if optional then "?" else "") = true := by cases optional <;> decide
    have htype := balanced_renderAnnotation type h.2
    rw [PropertySignature.render]
    exact ((Balanced.of_undelimited h.1).before hmark).append htype

theorem balanced_renderSignatures :
    ∀ ps : List PropertySignature, everySignatureText undelimited ps = true →
      ∀ text ∈ renderSignatures ps, Balanced text
  | [], _ => by simp [renderSignatures]
  | p :: ps, h => by
    simp only [everySignatureText, Bool.and_eq_true] at h
    rw [renderSignatures]
    exact List.forall_mem_cons.2 ⟨PropertySignature.balanced_render p h.1, balanced_renderSignatures ps h.2⟩

end

/-! ### Names and tags -/

/-- A tag whose texts are balanced. -/
def ResolvedTag.Balanced : ResolvedTag → Prop
  | .name text => Text.Balanced text
  | .choice condition whenTrue whenFalse => Text.Balanced condition ∧ whenTrue.Balanced ∧ whenFalse.Balanced
  | .hoisted x value => Text.Balanced x ∧ Text.Balanced value

/-- The expansion writes balanced texts and tags for values without brackets and quotes. -/
structure Expansion.Balanced (E : Expansion) : Prop where
  text : ∀ (s : Scope) (v : Expr), s.Undelimited → v.every .undelimited = true → Text.Balanced (E.text s v)
  tag : ∀ (s : Scope) (v : Expr), s.Undelimited → v.every .undelimited = true → (E.tag s v).Balanced

section

variable {E : Expansion} {s : Option Scope} {e : Expr} {text x attributes operator : String}
  {children : Option String}

theorem Expr.balanced_operandText (h : Balanced text) : Balanced (e.operandText text) := by
  rw [operandText]
  split
  · exact h
  · exact h.parenthesized

theorem Expr.balanced_bodyText (h : Balanced text) : Balanced (e.bodyText text) := by
  rw [bodyText]
  split
  · exact h.parenthesized
  · exact h

theorem balanced_unaryText (ho : undelimited operator = true) (h : Balanced text) :
    Balanced (unaryText operator text) := by
  have hoperator := Balanced.of_undelimited ho
  rw [unaryText]
  split
  · exact (hoperator.before (by decide)).append h
  · exact hoperator.append h

theorem Expansion.Balanced.identText (hE : E.Balanced) (hs : ∀ t ∈ s, t.Undelimited) (hx : undelimited x = true) :
    Text.Balanced (E.identText s x) := by
  have hname := Text.Balanced.of_undelimited hx
  cases s with
  | none => exact hname
  | some t =>
    have ht : t.Undelimited := hs t rfl
    rw [Expansion.identText]
    split
    · next v hv =>
      split
      · exact hname
      · exact Expr.balanced_operandText (hE.text _ v (ht.without [x]) (VariableMap.every_of_get? ht.vars hv))
    · exact .of_undelimited (ht.contextText hx)

theorem Expansion.Balanced.shorthandText (hE : E.Balanced) (hs : ∀ t ∈ s, t.Undelimited) (hx : undelimited x = true) :
    Text.Balanced (E.shorthandText s x) := by
  have htext := hE.identText hs hx
  rw [Expansion.shorthandText]
  split
  · exact htext
  · exact ((Text.Balanced.of_undelimited hx).before (by decide)).append htext

theorem Expr.balanced_propertyText (hs : ∀ t ∈ s, t.Undelimited) (h : Balanced text) (hx : undelimited x = true)
    (optional : Bool) : Balanced (e.propertyText s text x optional) := by
  have hdot : undelimited (if optional then "?." else ".") = true := by cases optional <;> decide
  rw [propertyText]
  split
  · next t ht => exact (hs t (Option.filter_eq_some_iff.1 ht).1).memberAccess hx
  · exact ((balanced_operandText h).before hdot).before hx

theorem ResolvedTag.balanced_ofText (hE : E.Balanced) (hs : ∀ t ∈ s, t.Undelimited) (he : e.every .undelimited = true)
    (h : Text.Balanced text) : (ofText E s e text).Balanced := by
  have hname : Text.Balanced (e.ident?.getD "Tag") :=
    .of_undelimited (e.undelimited_ident?_getD he (by decide))
  rw [ofText]
  split
  · exact h
  · split
    · exact ⟨hname, h⟩
    · next v inner hreplacement =>
      -- the value and the scope it is printed in
      obtain ⟨t, ht, hvalue⟩ := Option.bind_eq_some_iff.1 hreplacement
      obtain ⟨x, -, hvalue⟩ := Option.bind_eq_some_iff.1 hvalue
      obtain ⟨v', hv, hpair⟩ := Option.map_eq_some_iff.1 hvalue
      obtain ⟨rfl, rfl⟩ := Prod.mk.inj hpair
      have hinner := (hs t ht).without [x]
      have hstripped := v'.every_stripParens (VariableMap.every_of_get? (hs t ht).vars hv)
      split
      · next condition whenTrue whenFalse hcond =>
        simp only [hcond, Expr.every, Bool.and_eq_true] at hstripped
        obtain ⟨⟨⟨-, hcondition⟩, htrue⟩, hfalse⟩ := hstripped
        exact ⟨hE.text _ _ hinner hcondition, hE.tag _ _ hinner htrue, hE.tag _ _ hinner hfalse⟩
      · exact ⟨hname, hE.text _ _ hinner hstripped⟩

theorem ResolvedTag.balanced_elementText (hx : Text.Balanced x) (ha : Text.Balanced attributes)
    (hc : ∀ text ∈ children, Text.Balanced text) : Text.Balanced (elementText x attributes children) := by
  have hopening : Text.Balanced ("<" ++ x ++ attributes) := (hx.after (by decide)).append ha
  cases children with
  | none => exact hopening.before (by decide)
  | some text =>
    have hchildren : Text.Balanced ("<" ++ x ++ attributes ++ ">" ++ text) :=
      (hopening.before (by decide)).append (hc text rfl)
    exact ((hchildren.before (by decide)).append hx).before (by decide)

theorem ResolvedTag.Balanced.markup {t : ResolvedTag} (h : t.Balanced) (ha : Text.Balanced attributes)
    (hc : ∀ text ∈ children, Text.Balanced text) : Text.Balanced (t.markup attributes children) := by
  induction t with
  | name x => exact balanced_elementText h ha hc
  | choice condition whenTrue whenFalse ih ih' =>
    obtain ⟨hcondition, htrue, hfalse⟩ := h
    exact ((((hcondition.before (by decide)).append (ih htrue)).before (by decide)).append (ih' hfalse))
  | hoisted x value =>
    obtain ⟨hx, hvalue⟩ := h
    have hconstant : Text.Balanced (" const " ++ x ++ " = " ++ value ++ "; return ") :=
      (((hx.after (by decide)).before (by decide)).append hvalue).before (by decide)
    have hbody := (hconstant.append (balanced_elementText hx ha hc)).append (.of_undelimited (s := "; ") (by decide))
    -- the parenthesis in front of the arrow is closed behind the body
    exact hbody.braced.enclosed ')' (fun _ => rfl) (fun _ => rfl)

theorem ResolvedTag.Balanced.render {t : ResolvedTag} (h : t.Balanced) (ha : Text.Balanced attributes)
    (hc : ∀ text ∈ children, Text.Balanced text) : Text.Balanced (t.render attributes children) := by
  cases t with
  | name x => exact balanced_elementText h ha hc
  | choice _ _ _ | hoisted _ _ => exact (h.markup ha hc).braced

end

/-! ### The induction on syntax -/

section

variable {E : Expansion}

theorem undelimited_dots (rest : Bool) : undelimited (if rest then "..." else "") = true := by
  cases rest <;> decide

theorem balanced_of_all {words : List String} (h : words.all undelimited = true) : ∀ word ∈ words, Balanced word :=
  fun word hword => .of_undelimited (List.all_eq_true.1 h word hword)

mutual

/-- An expression without brackets and quotes is printed with matching brackets. -/
theorem Expr.balanced_renderWith (hE : E.Balanced) {s : Option Scope} (hs : ∀ t ∈ s, t.Undelimited) :
    ∀ e : Expr, e.every .undelimited = true → Balanced (e.renderWith E s)
  | .ident x, h => by
    rw [Expr.every] at h
    rw [Expr.renderWith]
    exact hE.identText hs h
  | .verbatim text, h | .number text, h => by
    rw [Expr.every] at h
    rw [Expr.renderWith]
    exact .of_undelimited h
  | .string value, _ => by
    rw [Expr.renderWith]
    exact Text.balanced_quoted value
  | .property object name optional, h => by
    rw [Expr.every, Bool.and_eq_true] at h
    rw [Expr.renderWith]
    exact Expr.balanced_propertyText hs (Expr.balanced_renderWith hE hs object h.2) h.1 optional
  | .element object argument, h => by
    simp only [Expr.every, Bool.and_eq_true] at h
    have hobject := Expr.balanced_operandText (e := object) (Expr.balanced_renderWith hE hs object h.1.2)
    rw [Expr.renderWith]
    exact hobject.append (Expr.balanced_renderWith hE hs argument h.2).bracketed
  | .call callee arguments, h => by
    simp only [Expr.every, Bool.and_eq_true] at h
    have hcallee := Expr.balanced_operandText (e := callee) (Expr.balanced_renderWith hE hs callee h.1.2)
    rw [Expr.renderWith]
    exact hcallee.append (Text.balanced_commaList (balanced_renderExprs hE hs arguments h.2)).parenthesized
  | .binary left operator right, h => by
    simp only [Expr.every, Bool.and_eq_true] at h
    obtain ⟨⟨ho, hl⟩, hr⟩ := h
    have hleft := Expr.balanced_renderWith hE hs left hl
    rw [Expr.renderWith]
    exact (((hleft.before (by decide)).before ho).before (by decide)).append (Expr.balanced_renderWith hE hs right hr)
  | .unary operator operand, h => by
    simp only [Expr.every, Bool.and_eq_true] at h
    rw [Expr.renderWith]
    exact balanced_unaryText h.1 (Expr.balanced_renderWith hE hs operand h.2)
  | .conditional condition whenTrue whenFalse, h => by
    simp only [Expr.every, Bool.and_eq_true] at h
    obtain ⟨⟨⟨-, hc⟩, ht⟩, hf⟩ := h
    have hcondition := Expr.balanced_renderWith hE hs condition hc
    have htrue := Expr.balanced_renderWith hE hs whenTrue ht
    rw [Expr.renderWith]
    exact (((hcondition.before (by decide)).append htrue).before (by decide)).append
      (Expr.balanced_renderWith hE hs whenFalse hf)
  | .paren inner, h => by
    simp only [Expr.every, Bool.and_eq_true] at h
    rw [Expr.renderWith]
    exact (Expr.balanced_renderWith hE hs inner h.2).parenthesized
  | .object entries, h => by
    simp only [Expr.every, Bool.and_eq_true] at h
    rw [Expr.renderWith]
    exact Text.balanced_bracedList (by decide) (balanced_renderEntries hE hs entries h.2)
  | .array elements, h => by
    simp only [Expr.every, Bool.and_eq_true] at h
    rw [Expr.renderWith]
    exact (Text.balanced_commaList (balanced_renderExprs hE hs elements h.2)).bracketed
  | .pattern p, h => by
    simp only [Expr.every, Bool.and_eq_true] at h
    rw [Expr.renderWith]
    exact Pattern.balanced_renderWith hE hs p h.2
  | .type t, h => by
    rw [Expr.every] at h
    rw [Expr.renderWith]
    exact t.balanced_render h
  | .markup m, h => by
    simp only [Expr.every, Bool.and_eq_true] at h
    rw [Expr.renderWith]
    exact Markup.balanced_renderWith hE hs m h.2
  | .function f, h => by
    simp only [Expr.every, Bool.and_eq_true] at h
    rw [Expr.renderWith]
    exact Function.balanced_renderWith hE hs f h.2

theorem balanced_renderExprs (hE : E.Balanced) {s : Option Scope} (hs : ∀ t ∈ s, t.Undelimited) :
    ∀ es : List Expr, everyExpr .undelimited es = true → ∀ text ∈ renderExprs E s es, Balanced text
  | [], _ => by simp [renderExprs]
  | e :: es, h => by
    simp only [everyExpr, Bool.and_eq_true] at h
    rw [renderExprs]
    exact List.forall_mem_cons.2 ⟨Expr.balanced_renderWith hE hs e h.1, balanced_renderExprs hE hs es h.2⟩

theorem balanced_renderExpr? (hE : E.Balanced) {s : Option Scope} (hs : ∀ t ∈ s, t.Undelimited) {before : String}
    (hbefore : undelimited before = true) :
    ∀ e : Option Expr, everyExpr? .undelimited e = true → Balanced (renderExpr? E s before e)
  | none, _ => by
    rw [renderExpr?]
    exact Text.balanced_empty
  | some e, h => by
    rw [everyExpr?] at h
    rw [renderExpr?]
    exact (Expr.balanced_renderWith hE hs e h).after hbefore

theorem ObjectEntry.balanced_renderWith (hE : E.Balanced) {s : Option Scope} (hs : ∀ t ∈ s, t.Undelimited) :
    ∀ e : ObjectEntry, e.every .undelimited = true → Balanced (e.renderWith E s)
  | .keyed key value, h => by
    rw [ObjectEntry.every, Bool.and_eq_true] at h
    rw [ObjectEntry.renderWith]
    exact ((Balanced.of_undelimited h.1).before (by decide)).append (Expr.balanced_renderWith hE hs value h.2)
  | .shorthand x, h => by
    rw [ObjectEntry.every] at h
    rw [ObjectEntry.renderWith]
    exact hE.shorthandText hs h
  | .spread value, h => by
    rw [ObjectEntry.every, Bool.and_eq_true] at h
    rw [ObjectEntry.renderWith]
    exact (Expr.balanced_renderWith hE hs value h.2).after (by decide)

theorem balanced_renderEntries (hE : E.Balanced) {s : Option Scope} (hs : ∀ t ∈ s, t.Undelimited) :
    ∀ es : List ObjectEntry, everyEntry .undelimited es = true → ∀ text ∈ renderEntries E s es, Balanced text
  | [], _ => by simp [renderEntries]
  | e :: es, h => by
    simp only [everyEntry, Bool.and_eq_true] at h
    rw [renderEntries]
    exact List.forall_mem_cons.2 ⟨ObjectEntry.balanced_renderWith hE hs e h.1, balanced_renderEntries hE hs es h.2⟩

/-- Markup without brackets and quotes is printed with matching brackets. -/
theorem Markup.balanced_renderWith (hE : E.Balanced) {s : Option Scope} (hs : ∀ t ∈ s, t.Undelimited) :
    ∀ m : Markup, m.every .undelimited = true → Balanced (m.renderWith E s)
  | .element opening children, h => by
    simp only [Markup.every, Bool.and_eq_true] at h
    have hchildren := Text.balanced_join (balanced_renderChildren hE hs children h.2)
    rw [Markup.renderWith]
    refine OpeningTag.balanced_renderWith hE hs (fun text htext => ?_) opening h.1
    rwa [← Option.some.inj htext]
  | .selfClosing opening, h => by
    rw [Markup.every] at h
    rw [Markup.renderWith]
    exact OpeningTag.balanced_renderWith hE hs (fun text htext => absurd htext (Option.not_mem_none text)) opening h
  | .fragment children, h => by
    rw [Markup.every] at h
    have hchildren := Text.balanced_join (balanced_renderChildren hE hs children h)
    rw [Markup.renderWith]
    exact (hchildren.after (by decide)).before (by decide)
  | .container content, h => by
    rw [Markup.every] at h
    rw [Markup.renderWith]
    exact (balanced_renderExpr? hE hs (by decide) content h).braced

theorem OpeningTag.balanced_renderWith (hE : E.Balanced) {s : Option Scope} (hs : ∀ t ∈ s, t.Undelimited)
    {children : Option String} (hc : ∀ text ∈ children, Balanced text) :
    ∀ t : OpeningTag, t.every .undelimited = true → Balanced (t.renderWith E s children)
  | ⟨tag, attributes⟩, h => by
    simp only [OpeningTag.every, Bool.and_eq_true] at h
    have hattributes := Text.balanced_join (balanced_renderAttributes hE hs attributes h.2)
    rw [OpeningTag.renderWith]
    refine ResolvedTag.Balanced.render ?_ hattributes hc
    split
    · exact Balanced.of_undelimited (tag.undelimited_ident?_getD h.1 (by decide))
    · exact ResolvedTag.balanced_ofText hE hs h.1 (Expr.balanced_renderWith hE hs tag h.1)

theorem Attribute.balanced_renderWith (hE : E.Balanced) {s : Option Scope} (hs : ∀ t ∈ s, t.Undelimited) :
    ∀ a : Attribute, a.every .undelimited = true → Balanced (a.renderWith E s)
  | .flag name, h => by
    rw [Attribute.every] at h
    rw [Attribute.renderWith]
    exact (Balanced.of_undelimited h).after (by decide)
  | .text name text, h => by
    rw [Attribute.every] at h
    rw [Attribute.renderWith]
    exact (((Balanced.of_undelimited h).after (by decide)).before (by decide)).append (Text.balanced_quoted text)
  | .value name value, h => by
    rw [Attribute.every, Bool.and_eq_true] at h
    have hvalue := Expr.balanced_renderWith hE hs value h.2
    rw [Attribute.renderWith]
    exact (((Balanced.of_undelimited h.1).after (by decide)).before (by decide)).append hvalue.braced
  | .spread value, h => by
    rw [Attribute.every, Bool.and_eq_true] at h
    have hvalue := Expr.balanced_renderWith hE hs value h.2
    rw [Attribute.renderWith]
    exact (hvalue.after (by decide)).braced.after (by decide)

theorem balanced_renderAttributes (hE : E.Balanced) {s : Option Scope} (hs : ∀ t ∈ s, t.Undelimited) :
    ∀ as : List Attribute, everyAttribute .undelimited as = true → ∀ text ∈ renderAttributes E s as, Balanced text
  | [], _ => by simp [renderAttributes]
  | a :: as, h => by
    simp only [everyAttribute, Bool.and_eq_true] at h
    rw [renderAttributes]
    exact List.forall_mem_cons.2 ⟨Attribute.balanced_renderWith hE hs a h.1, balanced_renderAttributes hE hs as h.2⟩

theorem Child.balanced_renderWith (hE : E.Balanced) {s : Option Scope} (hs : ∀ t ∈ s, t.Undelimited) :
    ∀ c : Child, c.every .undelimited = true → Balanced (c.renderWith E s)
  | .text text, h => by
    rw [Child.every] at h
    rw [Child.renderWith]
    exact .of_undelimited h
  | .markup m, h => by
    rw [Child.every, Bool.and_eq_true] at h
    rw [Child.renderWith]
    exact Markup.balanced_renderWith hE hs m h.2

theorem balanced_renderChildren (hE : E.Balanced) {s : Option Scope} (hs : ∀ t ∈ s, t.Undelimited) :
    ∀ cs : List Child, everyChild .undelimited cs = true → ∀ text ∈ renderChildren E s cs, Balanced text
  | [], _ => by simp [renderChildren]
  | c :: cs, h => by
    simp only [everyChild, Bool.and_eq_true] at h
    rw [renderChildren]
    exact List.forall_mem_cons.2 ⟨Child.balanced_renderWith hE hs c h.1, balanced_renderChildren hE hs cs h.2⟩

theorem Pattern.balanced_renderWith (hE : E.Balanced) {s : Option Scope} (hs : ∀ t ∈ s, t.Undelimited) :
    ∀ p : Pattern, p.every .undelimited = true → Balanced (p.renderWith E s)
  | ⟨.object, elements⟩, h => by
    rw [Pattern.every] at h
    rw [Pattern.renderWith]
    exact Text.balanced_bracedList (by decide) (balanced_renderBindings hE hs elements h)
  | ⟨.array, elements⟩, h => by
    rw [Pattern.every] at h
    rw [Pattern.renderWith]
    exact (Text.balanced_commaList (balanced_renderBindings hE hs elements h)).bracketed

theorem Binding.balanced_renderWith (hE : E.Balanced) {s : Option Scope} (hs : ∀ t ∈ s, t.Undelimited) :
    ∀ b : Binding, b.every .undelimited = true → Balanced (b.renderWith E s)
  | ⟨rest, key, target, fallback⟩, h => by
    simp only [Binding.every, Bool.and_eq_true] at h
    obtain ⟨⟨hkey, ht⟩, hf⟩ := h
    have hkey : Balanced ((key.map (· ++ ": ")).getD "") := by
      cases key with
      | none => exact Text.balanced_empty
      | some name => exact (Balanced.of_undelimited hkey).before (by decide)
    have htarget := Target.balanced_renderWith hE hs target ht
    rw [Binding.renderWith]
    exact ((hkey.after (undelimited_dots rest)).append htarget).append
      (balanced_renderExpr? hE hs (by decide) fallback hf)

theorem balanced_renderBindings (hE : E.Balanced) {s : Option Scope} (hs : ∀ t ∈ s, t.Undelimited) :
    ∀ bs : List Binding, everyBinding .undelimited bs = true → ∀ text ∈ renderBindings E s bs, Balanced text
  | [], _ => by simp [renderBindings]
  | b :: bs, h => by
    simp only [everyBinding, Bool.and_eq_true] at h
    rw [renderBindings]
    exact List.forall_mem_cons.2 ⟨Binding.balanced_renderWith hE hs b h.1, balanced_renderBindings hE hs bs h.2⟩

theorem Target.balanced_renderWith (hE : E.Balanced) {s : Option Scope} (hs : ∀ t ∈ s, t.Undelimited) :
    ∀ t : Target, t.every .undelimited = true → Balanced (t.renderWith E s)
  | .name x, h => by
    rw [Target.every] at h
    rw [Target.renderWith]
    exact .of_undelimited h
  | .pattern p, h => by
    rw [Target.every, Bool.and_eq_true] at h
    rw [Target.renderWith]
    exact Pattern.balanced_renderWith hE hs p h.2

theorem Parameter.balanced_renderWith (hE : E.Balanced) {s : Option Scope} (hs : ∀ t ∈ s, t.Undelimited) :
    ∀ p : Parameter, p.every .undelimited = true → Balanced (p.renderWith E s)
  | ⟨decorators, modifiers, rest, target, optional, type, fallback⟩, h => by
    simp only [Parameter.every, Bool.and_eq_true] at h
    obtain ⟨⟨⟨hp, hd⟩, ht⟩, hf⟩ := h
    obtain ⟨hm, htype⟩ := Bool.and_eq_true_iff.1 hp
    have hdecorators : ∀ text ∈ (renderExprs E s decorators).map ("@" ++ ·), Balanced text :=
      List.forall_mem_map.2 fun text htext => (balanced_renderExprs hE hs decorators hd text htext).after (by decide)
    have hwords := (Text.balanced_blankAfterEach hdecorators).append
      (Text.balanced_blankAfterEach (balanced_of_all hm))
    have hmark : undelimited (if optional then "?" else "") = true := by cases optional <;> decide
    have htarget := (hwords.before (undelimited_dots rest)).append (Target.balanced_renderWith hE hs target ht)
    have htype := balanced_renderAnnotation type htype
    rw [Parameter.renderWith]
    exact ((htarget.before hmark).append htype).append (balanced_renderExpr? hE hs (by decide) fallback hf)

theorem balanced_renderParameters (hE : E.Balanced) {s : Option Scope} (hs : ∀ t ∈ s, t.Undelimited) :
    ∀ ps : List Parameter, everyParameter .undelimited ps = true → ∀ text ∈ renderParameters E s ps, Balanced text
  | [], _ => by simp [renderParameters]
  | p :: ps, h => by
    simp only [everyParameter, Bool.and_eq_true] at h
    rw [renderParameters]
    exact List.forall_mem_cons.2 ⟨Parameter.balanced_renderWith hE hs p h.1, balanced_renderParameters hE hs ps h.2⟩

/-- A function without brackets and quotes is printed with matching brackets. -/
theorem Function.balanced_renderWith (hE : E.Balanced) {s : Option Scope} (hs : ∀ t ∈ s, t.Undelimited) :
    ∀ f : Function, f.every .undelimited = true → Balanced (f.renderWith E s)
  | ⟨form, modifiers, typeParameters, parameters, returnType, body⟩, h => by
    simp only [Function.every, Bool.and_eq_true] at h
    obtain ⟨⟨⟨hf, hform⟩, hp⟩, hb⟩ := h
    obtain ⟨hwords, hr⟩ := Bool.and_eq_true_iff.1 hf
    obtain ⟨hm, ht⟩ := Bool.and_eq_true_iff.1 hwords
    -- parameters and body are printed where the bound names are hidden, the rest where the function stands
    have hinner := Scope.Undelimited.hiding hs
      (Function.boundNames ⟨form, modifiers, typeParameters, parameters, returnType, body⟩)
    have htypes : Balanced (if typeParameters.isEmpty then "" else "<" ++ Text.commaList typeParameters ++ ">") := by
      split
      · exact Text.balanced_empty
      · exact ((Text.balanced_commaList (balanced_of_all ht)).after (by decide)).before (by decide)
    have hparameters := Text.balanced_commaList (balanced_renderParameters hE hinner parameters hp)
    have hreturn := balanced_renderAnnotation returnType hr
    have hsignature := (htypes.append hparameters.parenthesized).append hreturn
    rw [Function.renderWith]
    exact FunctionForm.balanced_renderWith hE hs (Text.balanced_blankAfterEach (balanced_of_all hm)) hsignature
      (Body.balanced_renderWith hE hinner body hb) form hform

theorem FunctionForm.balanced_renderWith (hE : E.Balanced) {s : Option Scope} (hs : ∀ t ∈ s, t.Undelimited)
    {modifiers signature body : String} (hm : Balanced modifiers) (hsignature : Balanced signature)
    (hb : Balanced body) :
    ∀ f : FunctionForm, f.every .undelimited = true → Balanced (f.renderWith E s modifiers signature body)
  | .keyword decorators generator name, h => by
    rw [FunctionForm.every, Bool.and_eq_true] at h
    have hdecorators : ∀ text ∈ (renderExprs E s decorators).map ("@" ++ · ++ "\n"), Balanced text :=
      List.forall_mem_map.2 fun text htext =>
        ((balanced_renderExprs hE hs decorators h.2 text htext).after (by decide)).before (by decide)
    have hstar : undelimited (if generator then "*" else "") = true := by cases generator <;> decide
    have hname : Balanced ((name.map (" " ++ ·)).getD "") := by
      cases name with
      | none => exact Text.balanced_empty
      | some x => exact (Balanced.of_undelimited h.1).after (by decide)
    have hkeyword := (((Text.balanced_join hdecorators).append hm).before (t := "function") (by decide)).before hstar
    rw [FunctionForm.renderWith]
    exact (((hkeyword.append hname).append hsignature).before (by decide)).append hb
  | .arrow, _ => by
    rw [FunctionForm.renderWith]
    exact ((hm.append hsignature).before (by decide)).append hb

theorem Body.balanced_renderWith (hE : E.Balanced) {s : Option Scope} (hs : ∀ t ∈ s, t.Undelimited) :
    ∀ b : Body, b.every .undelimited = true → Balanced (b.renderWith E s)
  | .block b, h => by
    rw [Body.every] at h
    rw [Body.renderWith]
    exact Block.balanced_renderWith hE hs b h
  | .expr value, h => by
    rw [Body.every] at h
    rw [Body.renderWith]
    exact Expr.balanced_bodyText (Expr.balanced_renderWith hE hs value h)

theorem Block.balanced_renderWith (hE : E.Balanced) {s : Option Scope} (hs : ∀ t ∈ s, t.Undelimited) :
    ∀ b : Block, b.every .undelimited = true → Balanced (b.renderWith E s)
  | ⟨statements⟩, h => by
    rw [Block.every] at h
    have hlines : ∀ text ∈ (renderStatements E s statements).map (· ++ "\n"), Balanced text :=
      List.forall_mem_map.2 fun text htext =>
        (balanced_renderStatements hE hs statements h text htext).before (by decide)
    rw [Block.renderWith]
    split
    · exact Text.balanced_empty.braced
    · exact ((Text.balanced_join hlines).after (by decide)).braced

theorem Statement.balanced_renderWith (hE : E.Balanced) {s : Option Scope} (hs : ∀ t ∈ s, t.Undelimited) :
    ∀ t : Statement, t.every .undelimited = true → Balanced (t.renderWith E s)
  | .ret value, h => by
    rw [Statement.every, Bool.and_eq_true] at h
    rw [Statement.renderWith]
    exact ((balanced_renderExpr? hE hs (by decide) value h.2).after (by decide)).before (by decide)
  | .declare modifiers declarations, h => by
    rw [Statement.every, Bool.and_eq_true] at h
    have hdeclarations := Declarations.balanced_renderWith hE hs declarations h.2
    rw [Statement.renderWith]
    exact ((Text.balanced_blankAfterEach (balanced_of_all h.1)).append hdeclarations).before (by decide)
  | .expr value, h => by
    rw [Statement.every, Bool.and_eq_true] at h
    rw [Statement.renderWith]
    exact (Expr.balanced_renderWith hE hs value h.2).before (by decide)
  | .block b, h => by
    rw [Statement.every, Bool.and_eq_true] at h
    rw [Statement.renderWith]
    exact Block.balanced_renderWith hE hs b h.2

theorem balanced_renderStatements (hE : E.Balanced) {s : Option Scope} (hs : ∀ t ∈ s, t.Undelimited) :
    ∀ ts : List Statement, everyStatement .undelimited ts = true → ∀ text ∈ renderStatements E s ts, Balanced text
  | [], _ => by simp [renderStatements]
  | t :: ts, h => by
    simp only [everyStatement, Bool.and_eq_true] at h
    rw [renderStatements]
    exact List.forall_mem_cons.2 ⟨Statement.balanced_renderWith hE hs t h.1, balanced_renderStatements hE hs ts h.2⟩

theorem Declarations.balanced_renderWith (hE : E.Balanced) {s : Option Scope} (hs : ∀ t ∈ s, t.Undelimited) :
    ∀ d : Declarations, d.every .undelimited = true → Balanced (d.renderWith E s)
  | ⟨kind, items⟩, h => by
    rw [Declarations.every] at h
    have hkeyword : undelimited kind.keyword = true := by cases kind <;> decide
    rw [Declarations.renderWith]
    exact ((Balanced.of_undelimited hkeyword).before (by decide)).append
      (Text.balanced_commaList (balanced_renderItems hE hs items h))

theorem balanced_renderItems (hE : E.Balanced) {s : Option Scope} (hs : ∀ t ∈ s, t.Undelimited) :
    ∀ ds : List Declaration, everyItem .undelimited ds = true → ∀ text ∈ renderItems E s ds, Balanced text
  | [], _ => by simp [renderItems]
  | d :: ds, h => by
    simp only [everyItem, Bool.and_eq_true] at h
    rw [renderItems]
    exact List.forall_mem_cons.2 ⟨Declaration.balanced_renderWith hE hs d h.1, balanced_renderItems hE hs ds h.2⟩

theorem Declaration.balanced_renderWith (hE : E.Balanced) {s : Option Scope} (hs : ∀ t ∈ s, t.Undelimited) :
    ∀ d : Declaration, d.every .undelimited = true → Balanced (d.renderWith E s)
  | ⟨target, type, value⟩, h => by
    simp only [Declaration.every, Bool.and_eq_true] at h
    obtain ⟨⟨htype, ht⟩, hv⟩ := h
    have htarget := Target.balanced_renderWith hE hs target ht
    have htype := balanced_renderAnnotation type htype
    rw [Declaration.renderWith]
    exact (htarget.append htype).append (balanced_renderExpr? hE hs (by decide) value hv)

end

end

/-! ### Any scope -/

/-- The value of a variable is printed with the expansion for fewer variables. -/
theorem Expansion.balanced_upTo (n : Nat) : (upTo n).Balanced := by
  induction n with
  | zero => exact ⟨fun _ _ _ _ => Text.balanced_empty, fun _ _ _ _ => Text.balanced_empty⟩
  | succ n ih =>
    have htext : ∀ (s : Scope) (v : Expr), s.Undelimited → v.every .undelimited = true →
        Text.Balanced (v.renderWith (upTo n) (some s)) := by
      intro s v hs hv
      exact v.balanced_renderWith ih hs.of_mem_some hv
    exact ⟨htext, fun s v hs hv => ResolvedTag.balanced_ofText ih hs.of_mem_some hv (htext s v hs hv)⟩

namespace Node

/-- Any piece of syntax without brackets and quotes is printed with matching brackets, with and without a scope that
has none either.  String literals and texts of attributes are not restricted. -/
theorem wellBracketed_render {s : Option Scope} (hs : ∀ t ∈ s, t.Undelimited) {n : Node} (hn : n.undelimited = true) :
    Text.WellBracketed (n.render s) := by
  have hE : (Expansion.within s).Balanced := Expansion.balanced_upTo _
  refine Text.Balanced.wellBracketed ?_
  rw [render]
  cases n with
  | expr e => exact e.balanced_renderWith hE hs hn
  | markup m => exact m.balanced_renderWith hE hs hn
  | pattern p => exact p.balanced_renderWith hE hs hn
  | target t => exact t.balanced_renderWith hE hs hn
  | binding b => exact b.balanced_renderWith hE hs hn
  | parameter p => exact p.balanced_renderWith hE hs hn
  | decorator e => exact (e.balanced_renderWith hE hs hn).after (by decide)
  | function f => exact f.balanced_renderWith hE hs hn
  | block b => exact b.balanced_renderWith hE hs hn
  | statement t => exact t.balanced_renderWith hE hs hn
  | declarations d => exact d.balanced_renderWith hE hs hn
  | type t => exact t.balanced_render hn

/-- A tag whose variable is a choice between a component and a string of brackets and quotes, in a scope where two
variables stand for each other. -/
theorem wellBracketed_render_quoted :
    let s := Scope.mk "model" (some "viewModel") (.ofList [("Item", .conditional (.ident "a") (.ident "List")
      (.string "])\"\\")), ("a", .binary (.ident "b") "+" (.number "1")), ("b", .ident "a")])
      [(Member.ofKind .slot "content").withExternalName "body"] none
    let opening := OpeningTag.mk (.ident "Item") [.text "title" "\\(\"[", .value "style" (.object [.shorthand "b"])]
    let n := Node.markup (.element opening [.text "none", .ofExpr (.property (.ident "model") "body" false)])
    (s.Undelimited ∧ n.undelimited = true) ∧ Text.WellBracketed (n.render (some s)) := by
  intro s opening n
  have hs : s.Undelimited := by
    refine ⟨by decide, by decide, ?_, by decide⟩
    rw [List.forall_mem_singleton]
    exact ⟨by decide, by decide, by decide⟩
  have hn : n.undelimited = true := by decide
  exact ⟨⟨hs, hn⟩, wellBracketed_render hs.of_mem_some hn⟩

end Node

end ViewTemplate
