import ViewTemplate.Proofs.Scope
import ViewTemplate.Proofs.Syntax.Sites

/-!
# What is written at a site is part of the text

An expansion shows a text at a name if the text is part of what it writes for the name: as an identifier, as the object of
a property and as a tag (`Expansion.Shows`).  What is shown at one site of a piece of syntax is part of the text of the
whole (`Node.contains_renderWith`), since printing puts the texts of the parts together and drops none of them.
-/

namespace ViewTemplate

/-! ### Parts of a text -/

namespace Text

/-- The text `part` occurs in `s`, in one piece. -/
def Contains (part s : String) : Prop :=
  part.toList <:+: s.toList

variable {part s t : String} {parts : List String}

theorem contains_self (s : String) : Contains s s :=
  List.infix_rfl

theorem Contains.length_le (h : Contains part s) : part.length ≤ s.length := by
  have hle := List.IsInfix.length_le h
  rwa [String.length_toList, String.length_toList] at hle

/-- No text has all others as parts. -/
theorem not_forall_contains (t : String) : ¬ ∀ part, part ≠ "" → Contains part t := by
  intro h
  have hone : " ".length = 1 := rfl
  have hlength : (t ++ " ").length = t.length + 1 := by rw [String.length_append, hone]
  have hle := (h (t ++ " ") fun he => by simp [he] at hlength).length_le
  omega

theorem Contains.trans (h : Contains part s) (h' : Contains s t) : Contains part t :=
  List.IsInfix.trans h h'

theorem contains_append_left (s t : String) : Contains s (s ++ t) := by
  rw [Contains, String.toList_append]
  exact (List.prefix_append _ _).isInfix

theorem contains_append_right (s t : String) : Contains t (s ++ t) := by
  rw [Contains, String.toList_append]
  exact (List.suffix_append _ _).isInfix

/-- A part of what stands before. -/
theorem Contains.before (h : Contains part s) (t : String) : Contains part (s ++ t) :=
  h.trans (contains_append_left s t)

/-- A part of what stands behind. -/
theorem Contains.after (h : Contains part t) (s : String) : Contains part (s ++ t) :=
  h.trans (contains_append_right s t)

theorem Contains.parenthesized (h : Contains part s) : Contains part (parenthesized s) :=
  (h.after "(").before ")"

theorem Contains.bracketed (h : Contains part s) : Contains part (bracketed s) :=
  (h.after "[").before "]"

theorem Contains.braced (h : Contains part s) : Contains part (braced s) :=
  (h.after "\x7b").before "\x7d"

theorem contains_join (h : ∃ text ∈ parts, Contains part text) : Contains part (String.join parts) := by
  obtain ⟨text, htext, h⟩ := h
  induction parts with
  | nil => simp at htext
  | cons first parts ih =>
    rw [String.join_cons]
    rcases List.mem_cons.1 htext with rfl | htext
    · exact h.before _
    · exact (ih htext).after _

theorem contains_intercalate (separator : String) (h : ∃ text ∈ parts, Contains part text) :
    Contains part (separator.intercalate parts) := by
  obtain ⟨text, htext, h⟩ := h
  induction parts with
  | nil => simp at htext
  | cons first parts ih =>
    cases parts with
    | nil =>
      obtain rfl := List.mem_singleton.1 htext
      rwa [String.intercalate_singleton]
    | cons next parts =>
      rw [String.intercalate_cons_cons]
      rcases List.mem_cons.1 htext with rfl | htext
      · exact (h.before _).before _
      · exact (ih htext).after _

theorem contains_commaList (h : ∃ text ∈ parts, Contains part text) : Contains part (commaList parts) :=
  contains_intercalate ", " h

theorem contains_bracedList {separator : String} (h : ∃ text ∈ parts, Contains part text) :
    Contains part (bracedList separator parts) := by
  have hlist := contains_intercalate separator h
  obtain ⟨text, htext, -⟩ := h
  have hne : parts.isEmpty = false := by
    rw [List.isEmpty_eq_false_iff]
    exact List.ne_nil_of_mem htext
  rw [bracedList, hne, if_neg Bool.false_ne_true]
  exact ((hlist.after " ").before " ").braced

/-- Parts of the texts of a list, when something is written around each of them. -/
theorem exists_contains_map {f : String → String} (hf : ∀ text, Contains text (f text))
    (h : ∃ text ∈ parts, Contains part text) : ∃ text ∈ parts.map f, Contains part text := by
  obtain ⟨text, htext, h⟩ := h
  exact ⟨f text, List.mem_map_of_mem htext, h.trans (hf text)⟩

theorem exists_contains_cons_left (h : Contains part s) : ∃ text ∈ s :: parts, Contains part text :=
  ⟨s, List.mem_cons_self, h⟩

theorem exists_contains_cons_right (h : ∃ text ∈ parts, Contains part text) :
    ∃ text ∈ s :: parts, Contains part text := by
  obtain ⟨text, htext, h⟩ := h
  exact ⟨text, List.mem_cons_of_mem s htext, h⟩

end Text

open Text (Contains)

/-! ### Names -/

/-- The text `part` occurs in a resolved tag, at whatever end of its branches. -/
def ResolvedTag.Shows (part : String) : ResolvedTag → Prop
  | .name text => Contains part text
  | .choice condition whenTrue whenFalse => Contains part condition ∨ whenTrue.Shows part ∨ whenFalse.Shows part
  | .hoisted _ value => Contains part value

/-- The text `part` occurs in what the expansion writes for the name `x`: as an identifier, as the object of a property
and as a tag. -/
structure Expansion.Shows (E : Expansion) (s : Option Scope) (part x : String) : Prop where
  ident : Contains part (E.identText s x)
  property : ∀ text name optional, Contains part text →
    Contains part ((Expr.ident x).propertyText s text name optional)
  tag : ∀ text, Contains part text → (ResolvedTag.ofText E s (.ident x) text).Shows part

section

variable {E : Expansion} {s : Option Scope} {part text x attributes operator : String} {children : Option String}
  {e : Expr}

theorem Expr.contains_operandText (h : Contains part text) : Contains part (e.operandText text) := by
  rw [operandText]
  split
  · exact h
  · exact h.parenthesized

theorem Expr.contains_bodyText (h : Contains part text) : Contains part (e.bodyText text) := by
  rw [bodyText]
  split
  · exact h.parenthesized
  · exact h

theorem contains_unaryText (h : Contains part text) : Contains part (unaryText operator text) := by
  rw [unaryText]
  split
  · exact h.after _
  · exact h.after _

theorem Expansion.contains_shorthandText (h : Contains part (E.identText s x)) :
    Contains part (E.shorthandText s x) := by
  rw [shorthandText]
  split
  · exact h
  · exact h.after _

theorem ResolvedTag.contains_elementText (h : Contains part x ∨ Contains part attributes ∨
    ∃ inner ∈ children, Contains part inner) : Contains part (elementText x attributes children) := by
  cases children with
  | none =>
    rcases h with h | h | ⟨inner, hinner, -⟩
    · exact ((h.after "<").before attributes).before " />"
    · exact (h.after ("<" ++ x)).before " />"
    · simp at hinner
  | some inner =>
    rcases h with h | h | ⟨inner', hinner, h⟩
    · exact ((((((h.after "<").before attributes).before ">").before inner).before "</").before x).before ">"
    · exact (((((h.after ("<" ++ x)).before ">").before inner).before "</").before x).before ">"
    · obtain rfl := Option.some.inj hinner
      exact (((h.after ("<" ++ x ++ attributes ++ ">")).before "</").before x).before ">"

theorem ResolvedTag.contains_markup {t : ResolvedTag} (h : t.Shows part ∨ Contains part attributes ∨
    ∃ inner ∈ children, Contains part inner) : Contains part (t.markup attributes children) := by
  induction t with
  | name text => exact contains_elementText h
  | choice condition whenTrue whenFalse ih ih' =>
    rw [markup]
    rcases h with (h | h | h) | h
    · exact (((h.before _).before _).before _).before _
    · exact (((ih (Or.inl h)).after _).before _).before _
    · exact (ih' (Or.inl h)).after _
    · exact (ih' (Or.inr h)).after _
  | hoisted x value =>
    rw [markup]
    refine (Contains.after (Contains.braced ?_) _).before _
    rcases h with h | h
    · exact (((h.after _).before _).before _).before _
    · exact ((contains_elementText (Or.inr h)).after _).before _

theorem ResolvedTag.contains_render {t : ResolvedTag} (h : t.Shows part ∨ Contains part attributes ∨
    ∃ inner ∈ children, Contains part inner) : Contains part (t.render attributes children) := by
  cases t with
  | name text => exact contains_elementText h
  | choice _ _ _ | hoisted _ _ => exact (contains_markup h).braced

/-- What is shown at a site of the object of a property is part of the text of the property. -/
theorem Expr.contains_propertyText {hidden inner : List String} {object : Expr}
    (hx : E.Shows (Scope.hiding s inner) part x) (hsite : .name inner x ∈ object.sites hidden) (h : Contains part text)
    (name : String) (optional : Bool) :
    Contains part (object.propertyText (Scope.hiding s hidden) text name optional) := by
  cases object with
  | ident y =>
    rw [Expr.sites, List.mem_singleton, Site.name.injEq] at hsite
    obtain ⟨rfl, rfl⟩ := hsite
    exact hx.property text name optional h
  | _ =>
    -- only an identifier is the instance
    cases s <;> exact ((contains_operandText h).before _).before name

/-- What is shown at a site of a tag is shown in the tag it resolves to. -/
theorem ResolvedTag.shows_ofText {hidden inner : List String} {tag : Expr} (hx : E.Shows (Scope.hiding s inner) part x)
    (hsite : .name inner x ∈ tag.sites hidden) (h : Contains part text) :
    (ofText E (Scope.hiding s hidden) tag text).Shows part := by
  cases tag with
  | ident y =>
    rw [Expr.sites, List.mem_singleton, Site.name.injEq] at hsite
    obtain ⟨rfl, rfl⟩ := hsite
    exact hx.tag text h
  | _ =>
    -- only an identifier is replaced
    rw [ofText]
    split
    · exact h
    · cases s <;> exact h

end

/-! ### The induction on syntax -/

section

variable {E : Expansion} {s : Option Scope} {part x : String} {inner : List String}

mutual

/-- What is shown at a site of an expression is part of its text. -/
theorem Expr.contains_renderWith (hx : E.Shows (Scope.hiding s inner) part x) (hidden : List String) :
    ∀ e : Expr, .name inner x ∈ e.sites hidden → Contains part (e.renderWith E (Scope.hiding s hidden))
  | .ident y, h => by
    rw [Expr.sites, List.mem_singleton, Site.name.injEq] at h
    obtain ⟨rfl, rfl⟩ := h
    rw [Expr.renderWith]
    exact hx.ident
  | .verbatim _, h | .string _, h | .number _, h | .type _, h => by
    rw [Expr.sites] at h
    exact absurd h List.not_mem_nil
  | .property object name optional, h => by
    rw [Expr.sites] at h
    have hobject := Expr.contains_renderWith hx hidden object h
    rw [Expr.renderWith]
    exact object.contains_propertyText hx h hobject name optional
  | .element object argument, h => by
    rw [Expr.sites, List.mem_append] at h
    rw [Expr.renderWith]
    rcases h with h | h
    · exact (Expr.contains_operandText (Expr.contains_renderWith hx hidden object h)).before _
    · exact (Expr.contains_renderWith hx hidden argument h).bracketed.after _
  | .call callee arguments, h => by
    rw [Expr.sites, List.mem_append] at h
    rw [Expr.renderWith]
    rcases h with h | h
    · exact (Expr.contains_operandText (Expr.contains_renderWith hx hidden callee h)).before _
    · exact (Text.contains_commaList (contains_renderExprs hx hidden arguments h)).parenthesized.after _
  | .binary left operator right, h => by
    rw [Expr.sites, List.mem_append] at h
    rw [Expr.renderWith]
    rcases h with h | h
    · exact ((((Expr.contains_renderWith hx hidden left h).before _).before _).before _).before _
    · exact (Expr.contains_renderWith hx hidden right h).after _
  | .unary operator operand, h => by
    rw [Expr.sites] at h
    rw [Expr.renderWith]
    exact contains_unaryText (Expr.contains_renderWith hx hidden operand h)
  | .conditional condition whenTrue whenFalse, h => by
    rw [Expr.sites, List.mem_append, List.mem_append] at h
    rw [Expr.renderWith]
    rcases h with (h | h) | h
    · exact ((((Expr.contains_renderWith hx hidden condition h).before _).before _).before _).before _
    · exact (((Expr.contains_renderWith hx hidden whenTrue h).after _).before _).before _
    · exact (Expr.contains_renderWith hx hidden whenFalse h).after _
  | .paren operand, h => by
    rw [Expr.sites] at h
    rw [Expr.renderWith]
    exact (Expr.contains_renderWith hx hidden operand h).parenthesized
  | .object entries, h => by
    rw [Expr.sites] at h
    rw [Expr.renderWith]
    exact Text.contains_bracedList (contains_renderEntries hx hidden entries h)
  | .array elements, h => by
    rw [Expr.sites] at h
    rw [Expr.renderWith]
    exact (Text.contains_commaList (contains_renderExprs hx hidden elements h)).bracketed
  | .pattern p, h => by
    rw [Expr.sites] at h
    rw [Expr.renderWith]
    exact Pattern.contains_renderWith hx hidden p h
  | .markup m, h => by
    rw [Expr.sites] at h
    rw [Expr.renderWith]
    exact Markup.contains_renderWith hx hidden m h
  | .function f, h => by
    rw [Expr.sites] at h
    rw [Expr.renderWith]
    exact Function.contains_renderWith hx hidden f h
termination_by structural e => e

theorem contains_renderExprs (hx : E.Shows (Scope.hiding s inner) part x) (hidden : List String) :
    ∀ es : List Expr, .name inner x ∈ sitesOfExprs hidden es →
      ∃ text ∈ renderExprs E (Scope.hiding s hidden) es, Contains part text
  | [], h => by
    rw [sitesOfExprs] at h
    exact absurd h List.not_mem_nil
  | e :: es, h => by
    rw [sitesOfExprs, List.mem_append] at h
    rw [renderExprs]
    rcases h with h | h
    · exact Text.exists_contains_cons_left (Expr.contains_renderWith hx hidden e h)
    · exact Text.exists_contains_cons_right (contains_renderExprs hx hidden es h)
termination_by structural es => es

theorem contains_renderExpr? (hx : E.Shows (Scope.hiding s inner) part x) (hidden : List String) (before : String) :
    ∀ e : Option Expr, .name inner x ∈ sitesOfExpr? hidden e →
      Contains part (renderExpr? E (Scope.hiding s hidden) before e)
  | none, h => by
    rw [sitesOfExpr?] at h
    exact absurd h List.not_mem_nil
  | some e, h => by
    rw [sitesOfExpr?] at h
    rw [renderExpr?]
    exact (Expr.contains_renderWith hx hidden e h).after before
termination_by structural e => e

theorem ObjectEntry.contains_renderWith (hx : E.Shows (Scope.hiding s inner) part x) (hidden : List String) :
    ∀ e : ObjectEntry, .name inner x ∈ e.sites hidden → Contains part (e.renderWith E (Scope.hiding s hidden))
  | .keyed key value, h => by
    rw [ObjectEntry.sites] at h
    rw [ObjectEntry.renderWith]
    exact (Expr.contains_renderWith hx hidden value h).after _
  | .shorthand y, h => by
    obtain ⟨rfl, rfl⟩ : inner = hidden ∧ x = y := by simpa [ObjectEntry.sites] using h
    rw [ObjectEntry.renderWith]
    exact Expansion.contains_shorthandText hx.ident
  | .spread value, h => by
    rw [ObjectEntry.sites] at h
    rw [ObjectEntry.renderWith]
    exact (Expr.contains_renderWith hx hidden value h).after _
termination_by structural e => e

theorem contains_renderEntries (hx : E.Shows (Scope.hiding s inner) part x) (hidden : List String) :
    ∀ es : List ObjectEntry, .name inner x ∈ sitesOfEntries hidden es →
      ∃ text ∈ renderEntries E (Scope.hiding s hidden) es, Contains part text
  | [], h => by
    rw [sitesOfEntries] at h
    exact absurd h List.not_mem_nil
  | e :: es, h => by
    rw [sitesOfEntries, List.mem_append] at h
    rw [renderEntries]
    rcases h with h | h
    · exact Text.exists_contains_cons_left (ObjectEntry.contains_renderWith hx hidden e h)
    · exact Text.exists_contains_cons_right (contains_renderEntries hx hidden es h)
termination_by structural es => es

/-- What is shown at a site of a markup tree is part of its text. -/
theorem Markup.contains_renderWith (hx : E.Shows (Scope.hiding s inner) part x) (hidden : List String) :
    ∀ m : Markup, .name inner x ∈ m.sites hidden → Contains part (m.renderWith E (Scope.hiding s hidden))
  | .element opening children, h => by
    rw [Markup.sites, List.mem_append] at h
    rw [Markup.renderWith]
    refine OpeningTag.contains_renderWith hx hidden children _ opening (h.imp_right fun h => ?_)
    exact ⟨_, rfl, Text.contains_join (contains_renderChildren hx hidden children h)⟩
  | .selfClosing opening, h => by
    rw [Markup.sites] at h
    rw [Markup.renderWith]
    exact OpeningTag.contains_renderWith hx hidden [] _ opening (Or.inl h)
  | .fragment children, h => by
    rw [Markup.sites] at h
    rw [Markup.renderWith]
    exact ((Text.contains_join (contains_renderChildren hx hidden children h)).after "<>").before "</>"
  | .container content, h => by
    rw [Markup.sites] at h
    rw [Markup.renderWith]
    exact (contains_renderExpr? hx hidden "" content h).braced
termination_by structural m => m

theorem OpeningTag.contains_renderWith (hx : E.Shows (Scope.hiding s inner) part x) (hidden : List String)
    (children : List Child) (text : Option String) :
    ∀ t : OpeningTag, .name inner x ∈ t.sites hidden children ∨ (∃ inner ∈ text, Contains part inner) →
      Contains part (t.renderWith E (Scope.hiding s hidden) text)
  | ⟨tag, attributes⟩, h => by
    rw [OpeningTag.sites, List.mem_append] at h
    rw [OpeningTag.renderWith]
    apply ResolvedTag.contains_render
    rcases h with (h | h) | h
    · cases hi : OpeningTag.isIntrinsic ⟨tag, attributes⟩ with
      | true =>
        rw [hi, if_pos rfl] at h
        exact absurd h List.not_mem_nil
      | false =>
        rw [hi, if_neg Bool.false_ne_true, List.mem_append] at h
        have htag := h.resolve_right (by simp)
        exact Or.inl (ResolvedTag.shows_ofText hx htag (Expr.contains_renderWith hx hidden tag htag))
    · exact Or.inr (Or.inl (Text.contains_join (contains_renderAttributes hx hidden attributes h)))
    · exact Or.inr (Or.inr h)
termination_by structural t => t

theorem Attribute.contains_renderWith (hx : E.Shows (Scope.hiding s inner) part x) (hidden : List String) :
    ∀ a : Attribute, .name inner x ∈ a.sites hidden → Contains part (a.renderWith E (Scope.hiding s hidden))
  | .flag _, h | .text _ _, h => by
    rw [Attribute.sites] at h
    exact absurd h List.not_mem_nil
  | .value name value, h => by
    rw [Attribute.sites] at h
    rw [Attribute.renderWith]
    exact (Expr.contains_renderWith hx hidden value h).braced.after _
  | .spread value, h => by
    rw [Attribute.sites] at h
    rw [Attribute.renderWith]
    exact ((Expr.contains_renderWith hx hidden value h).after "...").braced.after " "
termination_by structural a => a

theorem contains_renderAttributes (hx : E.Shows (Scope.hiding s inner) part x) (hidden : List String) :
    ∀ as : List Attribute, .name inner x ∈ sitesOfAttributes hidden as →
      ∃ text ∈ renderAttributes E (Scope.hiding s hidden) as, Contains part text
  | [], h => by
    rw [sitesOfAttributes] at h
    exact absurd h List.not_mem_nil
  | a :: as, h => by
    rw [sitesOfAttributes, List.mem_append] at h
    rw [renderAttributes]
    rcases h with h | h
    · exact Text.exists_contains_cons_left (Attribute.contains_renderWith hx hidden a h)
    · exact Text.exists_contains_cons_right (contains_renderAttributes hx hidden as h)
termination_by structural as => as

theorem Child.contains_renderWith (hx : E.Shows (Scope.hiding s inner) part x) (hidden : List String) :
    ∀ c : Child, .name inner x ∈ c.sites hidden → Contains part (c.renderWith E (Scope.hiding s hidden))
  | .text _, h => by
    rw [Child.sites] at h
    exact absurd h List.not_mem_nil
  | .markup m, h => by
    rw [Child.sites] at h
    rw [Child.renderWith]
    exact Markup.contains_renderWith hx hidden m h
termination_by structural c => c

theorem contains_renderChildren (hx : E.Shows (Scope.hiding s inner) part x) (hidden : List String) :
    ∀ cs : List Child, .name inner x ∈ sitesOfChildren hidden cs →
      ∃ text ∈ renderChildren E (Scope.hiding s hidden) cs, Contains part text
  | [], h => by
    rw [sitesOfChildren] at h
    exact absurd h List.not_mem_nil
  | c :: cs, h => by
    rw [sitesOfChildren, List.mem_append] at h
    rw [renderChildren]
    rcases h with h | h
    · exact Text.exists_contains_cons_left (Child.contains_renderWith hx hidden c h)
    · exact Text.exists_contains_cons_right (contains_renderChildren hx hidden cs h)
termination_by structural cs => cs

theorem Pattern.contains_renderWith (hx : E.Shows (Scope.hiding s inner) part x) (hidden : List String) :
    ∀ p : Pattern, .name inner x ∈ p.sites hidden → Contains part (p.renderWith E (Scope.hiding s hidden))
  | ⟨kind, elements⟩, h => by
    rw [Pattern.sites] at h
    have helements := contains_renderBindings hx hidden elements h
    cases kind with
    | object =>
      rw [Pattern.renderWith]
      exact Text.contains_bracedList helements
    | array =>
      rw [Pattern.renderWith]
      exact (Text.contains_commaList helements).bracketed
termination_by structural p => p

theorem Binding.contains_renderWith (hx : E.Shows (Scope.hiding s inner) part x) (hidden : List String) :
    ∀ b : Binding, .name inner x ∈ b.sites hidden → Contains part (b.renderWith E (Scope.hiding s hidden))
  | ⟨rest, key, target, fallback⟩, h => by
    rw [Binding.sites, List.mem_append] at h
    rw [Binding.renderWith]
    rcases h with h | h
    · exact ((Target.contains_renderWith hx hidden target h).after _).before _
    · exact (contains_renderExpr? hx hidden _ fallback h).after _
termination_by structural b => b

theorem contains_renderBindings (hx : E.Shows (Scope.hiding s inner) part x) (hidden : List String) :
    ∀ bs : List Binding, .name inner x ∈ sitesOfBindings hidden bs →
      ∃ text ∈ renderBindings E (Scope.hiding s hidden) bs, Contains part text
  | [], h => by
    rw [sitesOfBindings] at h
    exact absurd h List.not_mem_nil
  | b :: bs, h => by
    rw [sitesOfBindings, List.mem_append] at h
    rw [renderBindings]
    rcases h with h | h
    · exact Text.exists_contains_cons_left (Binding.contains_renderWith hx hidden b h)
    · exact Text.exists_contains_cons_right (contains_renderBindings hx hidden bs h)
termination_by structural bs => bs

theorem Target.contains_renderWith (hx : E.Shows (Scope.hiding s inner) part x) (hidden : List String) :
    ∀ t : Target, .name inner x ∈ t.sites hidden → Contains part (t.renderWith E (Scope.hiding s hidden))
  | .name _, h => by
    rw [Target.sites] at h
    exact absurd h List.not_mem_nil
  | .pattern p, h => by
    rw [Target.sites] at h
    rw [Target.renderWith]
    exact Pattern.contains_renderWith hx hidden p h
termination_by structural t => t

theorem Parameter.contains_renderWith (hx : E.Shows (Scope.hiding s inner) part x) (hidden : List String) :
    ∀ p : Parameter, .name inner x ∈ p.sites hidden → Contains part (p.renderWith E (Scope.hiding s hidden))
  | ⟨decorators, modifiers, rest, target, optional, type, fallback⟩, h => by
    rw [Parameter.sites, List.mem_append, List.mem_append] at h
    rw [Parameter.renderWith]
    rcases h with (h | h) | h
    · have hdecorators := Text.exists_contains_map (f := ("@" ++ ·)) (Text.contains_append_right "@")
        (contains_renderExprs hx hidden decorators h)
      have hwords := Text.contains_join (Text.exists_contains_map (f := (· ++ " "))
        (fun text => Text.contains_append_left text " ") hdecorators)
      exact (((((hwords.before _).before _).before _).before _).before _).before _
    · exact ((((Target.contains_renderWith hx hidden target h).after _).before _).before _).before _
    · exact (contains_renderExpr? hx hidden _ fallback h).after _
termination_by structural p => p

theorem contains_renderParameters (hx : E.Shows (Scope.hiding s inner) part x) (hidden : List String) :
    ∀ ps : List Parameter, .name inner x ∈ sitesOfParameters hidden ps →
      ∃ text ∈ renderParameters E (Scope.hiding s hidden) ps, Contains part text
  | [], h => by
    rw [sitesOfParameters] at h
    exact absurd h List.not_mem_nil
  | p :: ps, h => by
    rw [sitesOfParameters, List.mem_append] at h
    rw [renderParameters]
    rcases h with h | h
    · exact Text.exists_contains_cons_left (Parameter.contains_renderWith hx hidden p h)
    · exact Text.exists_contains_cons_right (contains_renderParameters hx hidden ps h)
termination_by structural ps => ps

/-- What is shown at a site of a function is part of its text. -/
theorem Function.contains_renderWith (hx : E.Shows (Scope.hiding s inner) part x) (hidden : List String) :
    ∀ f : Function, .name inner x ∈ f.sites hidden → Contains part (f.renderWith E (Scope.hiding s hidden))
  | ⟨form, modifiers, typeParameters, parameters, returnType, body⟩, h => by
    rw [Function.sites, List.mem_append, List.mem_append] at h
    rw [Function.renderWith, Scope.hiding_hiding]
    apply FunctionForm.contains_renderWith hx hidden
    rcases h with h | h | h
    · exact Or.inl h
    · have hparameters := Text.contains_commaList (contains_renderParameters hx _ parameters h)
      exact Or.inr (Or.inl ((hparameters.parenthesized.after _).before _))
    · exact Or.inr (Or.inr (Body.contains_renderWith hx _ body h))
termination_by structural f => f

theorem FunctionForm.contains_renderWith (hx : E.Shows (Scope.hiding s inner) part x) (hidden : List String)
    {modifiers signature body : String} :
    ∀ f : FunctionForm, .name inner x ∈ f.sites hidden ∨ Contains part signature ∨ Contains part body →
      Contains part (f.renderWith E (Scope.hiding s hidden) modifiers signature body)
  | .keyword decorators generator name, h => by
    rw [FunctionForm.sites] at h
    rw [FunctionForm.renderWith]
    rcases h with h | h | h
    · have hdecorators := Text.contains_join (Text.exists_contains_map (f := ("@" ++ · ++ "\n"))
        (fun text => (Text.contains_append_right "@" text).before "\n")
        (contains_renderExprs hx hidden decorators h))
      exact ((((((hdecorators.before _).before _).before _).before _).before _).before _).before _
    · exact ((h.after _).before _).before _
    · exact h.after _
  | .arrow, h => by
    rw [FunctionForm.sites] at h
    rw [FunctionForm.renderWith]
    rcases h with h | h | h
    · exact absurd h List.not_mem_nil
    · exact ((h.after _).before _).before _
    · exact h.after _
termination_by structural f => f

theorem Body.contains_renderWith (hx : E.Shows (Scope.hiding s inner) part x) (hidden : List String) :
    ∀ b : Body, .name inner x ∈ b.sites hidden → Contains part (b.renderWith E (Scope.hiding s hidden))
  | .block b, h => by
    rw [Body.sites] at h
    rw [Body.renderWith]
    exact Block.contains_renderWith hx hidden b h
  | .expr value, h => by
    rw [Body.sites] at h
    rw [Body.renderWith]
    exact Expr.contains_bodyText (Expr.contains_renderWith hx hidden value h)
termination_by structural b => b

theorem Block.contains_renderWith (hx : E.Shows (Scope.hiding s inner) part x) (hidden : List String) :
    ∀ b : Block, .name inner x ∈ b.sites hidden → Contains part (b.renderWith E (Scope.hiding s hidden))
  | ⟨statements⟩, h => by
    rw [Block.sites] at h
    have hlines := Text.contains_join (Text.exists_contains_map (f := (· ++ "\n"))
      (fun text => Text.contains_append_left text "\n") (contains_renderStatements hx hidden statements h))
    cases statements with
    | nil =>
      rw [sitesOfStatements] at h
      exact absurd h List.not_mem_nil
    | cons t ts =>
      rw [Block.renderWith, if_neg (by simp)]
      exact (hlines.after "\n").braced
termination_by structural b => b

theorem Statement.contains_renderWith (hx : E.Shows (Scope.hiding s inner) part x) (hidden : List String) :
    ∀ t : Statement, .name inner x ∈ t.sites hidden → Contains part (t.renderWith E (Scope.hiding s hidden))
  | .ret value, h => by
    rw [Statement.sites] at h
    rw [Statement.renderWith]
    exact ((contains_renderExpr? hx hidden " " value h).after "return").before ";"
  | .declare modifiers declarations, h => by
    rw [Statement.sites] at h
    rw [Statement.renderWith]
    exact ((Declarations.contains_renderWith hx hidden declarations h).after _).before ";"
  | .expr value, h => by
    rw [Statement.sites] at h
    rw [Statement.renderWith]
    exact (Expr.contains_renderWith hx hidden value h).before ";"
  | .block b, h => by
    rw [Statement.sites] at h
    rw [Statement.renderWith]
    exact Block.contains_renderWith hx hidden b h
termination_by structural t => t

theorem contains_renderStatements (hx : E.Shows (Scope.hiding s inner) part x) (hidden : List String) :
    ∀ ts : List Statement, .name inner x ∈ sitesOfStatements hidden ts →
      ∃ text ∈ renderStatements E (Scope.hiding s hidden) ts, Contains part text
  | [], h => by
    rw [sitesOfStatements] at h
    exact absurd h List.not_mem_nil
  | t :: ts, h => by
    rw [sitesOfStatements, List.mem_append] at h
    rw [renderStatements]
    rcases h with h | h
    · exact Text.exists_contains_cons_left (Statement.contains_renderWith hx hidden t h)
    · exact Text.exists_contains_cons_right (contains_renderStatements hx hidden ts h)
termination_by structural ts => ts

theorem Declarations.contains_renderWith (hx : E.Shows (Scope.hiding s inner) part x) (hidden : List String) :
    ∀ d : Declarations, .name inner x ∈ d.sites hidden → Contains part (d.renderWith E (Scope.hiding s hidden))
  | ⟨kind, items⟩, h => by
    rw [Declarations.sites] at h
    rw [Declarations.renderWith]
    exact (Text.contains_commaList (contains_renderItems hx hidden items h)).after _
termination_by structural d => d

theorem contains_renderItems (hx : E.Shows (Scope.hiding s inner) part x) (hidden : List String) :
    ∀ ds : List Declaration, .name inner x ∈ sitesOfItems hidden ds →
      ∃ text ∈ renderItems E (Scope.hiding s hidden) ds, Contains part text
  | [], h => by
    rw [sitesOfItems] at h
    exact absurd h List.not_mem_nil
  | d :: ds, h => by
    rw [sitesOfItems, List.mem_append] at h
    rw [renderItems]
    rcases h with h | h
    · exact Text.exists_contains_cons_left (Declaration.contains_renderWith hx hidden d h)
    · exact Text.exists_contains_cons_right (contains_renderItems hx hidden ds h)
termination_by structural ds => ds

theorem Declaration.contains_renderWith (hx : E.Shows (Scope.hiding s inner) part x) (hidden : List String) :
    ∀ d : Declaration, .name inner x ∈ d.sites hidden → Contains part (d.renderWith E (Scope.hiding s hidden))
  | ⟨target, type, value⟩, h => by
    rw [Declaration.sites, List.mem_append] at h
    rw [Declaration.renderWith]
    rcases h with h | h
    · exact ((Target.contains_renderWith hx hidden target h).before _).before _
    · exact (contains_renderExpr? hx hidden _ value h).after _
termination_by structural d => d

end

/-- What is shown at a site of a piece of syntax is part of its text. -/
theorem Node.contains_renderWith (hx : E.Shows (Scope.hiding s inner) part x) (n : Node)
    (h : .name inner x ∈ n.sites) : Contains part (n.renderWith E s) := by
  rw [← Scope.hiding_nil s]
  cases n with
  | expr e => exact e.contains_renderWith hx [] h
  | markup m => exact m.contains_renderWith hx [] h
  | pattern p => exact p.contains_renderWith hx [] h
  | target t => exact t.contains_renderWith hx [] h
  | binding b => exact b.contains_renderWith hx [] h
  | parameter p => exact p.contains_renderWith hx [] h
  | decorator e => exact (e.contains_renderWith hx [] h).after "@"
  | function f => exact f.contains_renderWith hx [] h
  | block b => exact b.contains_renderWith hx [] h
  | statement t => exact t.contains_renderWith hx [] h
  | declarations d => exact d.contains_renderWith hx [] h
  | type _ => exact absurd h List.not_mem_nil

end

end ViewTemplate
