import ViewTemplate.Proofs.Render.Agreement
import ViewTemplate.Proofs.Render.Substitution

/-!
# Bodies of arrows that begin with a brace

A brace after an arrow begins a block, so a body that is an object literal is put between parentheses.  This looks at the
body as it was written.  The text begins with the leftmost leaf of the body, and that may be an object literal within a
larger expression, or the value of a variable.  `Function.opensBlock_arrow_iff` says that these are the only cases: apart
from texts that are printed as they are, the body is read as a block exactly if it is no object literal itself and leads to
one.
-/

namespace ViewTemplate

/-! ### The first character -/

namespace Text

/-- The text begins with a brace. -/
def opensBlock (s : String) : Bool :=
  s.toList.head? == some '\x7b'

variable {s t : String} {parts : List String}

theorem opensBlock_append (s t : String) :
    opensBlock (s ++ t) = if s = "" then opensBlock t else opensBlock s := by
  by_cases hs : s = ""
  · rw [hs, if_pos rfl, String.empty_append]
  · have hne : s.toList ≠ [] := fun h => hs (String.toList_eq_nil_iff.1 h)
    obtain ⟨c, cs, hc⟩ := List.exists_cons_of_ne_nil hne
    rw [if_neg hs, opensBlock, opensBlock, String.toList_append, hc]
    rfl

/-- What stands behind does not begin with a brace. -/
theorem opensBlock_append_of_right (ht : opensBlock t = false) : opensBlock (s ++ t) = opensBlock s := by
  rw [opensBlock_append]
  split
  · next hs =>
    rw [ht, hs]
    rfl
  · rfl

/-- What stands in front decides. -/
theorem opensBlock_append_of_left (hs : s ≠ "") : opensBlock (s ++ t) = opensBlock s := by
  rw [opensBlock_append, if_neg hs]

theorem opensBlock_append_eq_false (hs : opensBlock s = false) (ht : opensBlock t = false) :
    opensBlock (s ++ t) = false := by
  rw [opensBlock_append_of_right ht, hs]

theorem opensBlock_join (h : ∀ part ∈ parts, opensBlock part = false) : opensBlock (String.join parts) = false := by
  induction parts with
  | nil => rfl
  | cons part parts ih =>
    rw [List.forall_mem_cons] at h
    rw [String.join_cons]
    exact opensBlock_append_eq_false h.1 (ih h.2)

theorem opensBlock_parenthesized (s : String) : opensBlock (parenthesized s) = false := by
  rw [parenthesized, String.append_assoc, opensBlock_append_of_left (by decide)]
  rfl

theorem opensBlock_bracketed (s : String) : opensBlock (bracketed s) = false := by
  rw [bracketed, String.append_assoc, opensBlock_append_of_left (by decide)]
  rfl

theorem opensBlock_braced (s : String) : opensBlock (braced s) = true := by
  rw [braced, String.append_assoc, opensBlock_append_of_left (by decide)]
  rfl

theorem opensBlock_bracedList (separator : String) (parts : List String) :
    opensBlock (bracedList separator parts) = true := by
  rw [bracedList]
  split
  · exact opensBlock_braced _
  · exact opensBlock_braced _

theorem opensBlock_quoted (s : String) : opensBlock (quoted s) = false := by
  rw [opensBlock, quoted, String.toList_ofList]
  rfl

end Text

open Text (opensBlock)

/-! ### Names that are no braces -/

/-- No expression whose text is printed as it is, no pattern, no type and no markup; and no name, numeral, operator or
modifier begins with a brace. -/
def Check.unbraced : Check where
  expr
    | .ident x => !opensBlock x
    | .number text => !opensBlock text
    | .property _ name _ => !opensBlock name
    | .unary operator _ => operator != "" && !opensBlock operator
    | .verbatim _ | .pattern _ | .type _ | .markup _ => false
    | _ => true
  function f := f.modifiers.all fun modifier => !opensBlock modifier

/-- The same for everything that a scope makes of a name. -/
structure Scope.Unbraced (s : Scope) : Prop where
  vars : s.vars.every .unbraced = true
  newContext : ∀ c ∈ s.newContext, opensBlock c = false
  members : ∀ m ∈ s.members, opensBlock m.name = false ∧ ∀ path ∈ m.path, opensBlock path = false

/-- The expression begins with an object literal once variables are replaced: it is one, or it begins with an expression
without parentheses that does. -/
inductive Expr.LeadsToObject : Option Scope → Expr → Prop where
  | object {s : Option Scope} {entries : List ObjectEntry} : LeadsToObject s (.object entries)
  | ident {s : Option Scope} {x : String} {v : Expr} {t : Scope} (hx : (Expr.ident x).replacement? s = some (v, t))
    (hself : v.ident? ≠ some x) (hv : v.isPrimary = true) (h : LeadsToObject (some t) v) : LeadsToObject s (.ident x)
  | property {s : Option Scope} {object : Expr} {name : String} {optional : Bool} (ho : object.instance? s = none)
    (hp : object.isPrimary = true) (h : LeadsToObject s object) : LeadsToObject s (.property object name optional)
  | element {s : Option Scope} {object argument : Expr} (hp : object.isPrimary = true) (h : LeadsToObject s object) :
    LeadsToObject s (.element object argument)
  | call {s : Option Scope} {callee : Expr} {arguments : List Expr} (hp : callee.isPrimary = true)
    (h : LeadsToObject s callee) : LeadsToObject s (.call callee arguments)
  | binary {s : Option Scope} {left right : Expr} {operator : String} (h : LeadsToObject s left) :
    LeadsToObject s (.binary left operator right)
  | conditional {s : Option Scope} {condition whenTrue whenFalse : Expr} (h : LeadsToObject s condition) :
    LeadsToObject s (.conditional condition whenTrue whenFalse)

namespace Expr

variable {s : Option Scope} {x name operator : String} {optional : Bool} {object argument callee left right condition
  whenTrue whenFalse : Expr} {arguments : List Expr}

theorem leadsToObject_ident : LeadsToObject s (.ident x) ↔ ∃ v t, (Expr.ident x).replacement? s = some (v, t) ∧
    v.ident? ≠ some x ∧ v.isPrimary = true ∧ LeadsToObject (some t) v := by
  refine ⟨fun h => ?_, fun ⟨v, t, hx, hself, hv, h⟩ => .ident hx hself hv h⟩
  cases h with
  | ident hx hself hv h => exact ⟨_, _, hx, hself, hv, h⟩

theorem leadsToObject_property : LeadsToObject s (.property object name optional) ↔
    object.instance? s = none ∧ object.isPrimary = true ∧ LeadsToObject s object := by
  refine ⟨fun h => ?_, fun ⟨ho, hp, h⟩ => .property ho hp h⟩
  cases h with
  | property ho hp h => exact ⟨ho, hp, h⟩

theorem leadsToObject_element :
    LeadsToObject s (.element object argument) ↔ object.isPrimary = true ∧ LeadsToObject s object := by
  refine ⟨fun h => ?_, fun ⟨hp, h⟩ => .element hp h⟩
  cases h with
  | element hp h => exact ⟨hp, h⟩

theorem leadsToObject_call :
    LeadsToObject s (.call callee arguments) ↔ callee.isPrimary = true ∧ LeadsToObject s callee := by
  refine ⟨fun h => ?_, fun ⟨hp, h⟩ => .call hp h⟩
  cases h with
  | call hp h => exact ⟨hp, h⟩

theorem leadsToObject_binary : LeadsToObject s (.binary left operator right) ↔ LeadsToObject s left := by
  refine ⟨fun h => ?_, .binary⟩
  cases h with
  | binary h => exact h

theorem leadsToObject_conditional :
    LeadsToObject s (.conditional condition whenTrue whenFalse) ↔ LeadsToObject s condition := by
  refine ⟨fun h => ?_, .conditional⟩
  cases h with
  | conditional h => exact h

end Expr

namespace Scope.Unbraced

variable {s : Scope} {x name : String}

theorem without (h : s.Unbraced) (names : List String) : (s.without names).Unbraced :=
  ⟨VariableMap.every_eraseAll h.vars names, h.newContext, h.members⟩

/-- Nothing that is written for a name by itself begins with a brace. -/
theorem opensBlock_contextText (h : s.Unbraced) (hx : opensBlock x = false) : opensBlock (s.contextText x) = false := by
  rw [contextText]
  split
  · split
    · next context hcontext =>
      split
      · exact hx
      · exact h.newContext context hcontext
    · exact hx
  · exact hx

/-- Nor does what is written to read a property of the instance. -/
theorem opensBlock_memberAccess (h : s.Unbraced) (hc : opensBlock s.context = false) (hname : opensBlock name = false) :
    opensBlock (s.memberAccess name) = false := by
  have heffective : opensBlock s.effectiveContext = false := by
    rw [effectiveContext]
    cases hn : s.newContext with
    | none => exact hc
    | some context => exact h.newContext context hn
  have hdot : opensBlock "." = false := rfl
  rw [memberAccess]
  split
  · next m hm =>
    have hfound : (s.members.find? fun m => m.externalName = name) = some m := hm
    have hmem : m ∈ s.members := List.mem_of_find?_eq_some hfound
    have hexternal : m.externalName = name := by simpa using List.find?_some hfound
    rw [Member.getter]
    split
    · rw [hexternal]
      exact hname
    · next path hpath =>
      have hpath := (h.members m hmem).2 path hpath
      have hm := (h.members m hmem).1
      split
      · exact Text.opensBlock_append_eq_false hpath hm
      · exact Text.opensBlock_append_eq_false
          (Text.opensBlock_append_eq_false (Text.opensBlock_append_eq_false heffective hdot) hpath) hm
  · split
    · exact hname
    · exact Text.opensBlock_append_eq_false (Text.opensBlock_append_eq_false heffective hdot) hname

end Scope.Unbraced

/-! ### The text of a function -/

theorem Text.opensBlock_blankAfterEach {words : List String} (h : ∀ word ∈ words, opensBlock word = false) :
    opensBlock (blankAfterEach words) = false := by
  refine opensBlock_join fun part hpart => ?_
  obtain ⟨word, hword, rfl⟩ := List.mem_map.1 hpart
  exact opensBlock_append_eq_false (h word hword) rfl

/-- A function begins with a decorator, a modifier, its keyword, its type parameters or its parameters. -/
theorem Function.opensBlock_renderWith (E : Expansion) (s : Option Scope) {f : Function}
    (hf : f.every .unbraced = true) : opensBlock (f.renderWith E s) = false := by
  obtain ⟨form, modifiers, typeParameters, parameters, returnType, body⟩ := f
  simp only [Function.every, Check.unbraced, Bool.and_eq_true, List.all_eq_true, Bool.not_eq_true'] at hf
  have hmodifiers := Text.opensBlock_blankAfterEach hf.1.1.1
  rw [Function.renderWith]
  cases form with
  | keyword decorators generator name =>
    simp only [FunctionForm.renderWith, String.append_assoc]
    refine Text.opensBlock_append_eq_false (Text.opensBlock_join fun part hpart => ?_)
      (Text.opensBlock_append_eq_false hmodifiers (Text.opensBlock_append_of_left (by decide)))
    obtain ⟨text, -, rfl⟩ := List.mem_map.1 hpart
    exact Text.opensBlock_append_of_left (by decide)
  | arrow =>
    simp only [FunctionForm.renderWith, Text.parenthesized, String.append_assoc]
    refine Text.opensBlock_append_eq_false hmodifiers (Text.opensBlock_append_eq_false ?_
      (Text.opensBlock_append_of_left (by decide)))
    split
    · rfl
    · exact Text.opensBlock_append_of_left (by decide)

/-! ### The text of an expression -/

section

variable {E : Expansion} {s : Option Scope}

/-- A text that is put between parentheses does not begin with a brace. -/
theorem Expr.opensBlock_operandText (e : Expr) (text : String) :
    opensBlock (e.operandText text) = true ↔ e.isPrimary = true ∧ opensBlock text = true := by
  rw [operandText]
  split
  · next h => simp [h]
  · next h => simp [h, Text.opensBlock_parenthesized]

/-- The property of an expression begins as the expression does, unless it is read from the instance. -/
theorem Expr.opensBlock_propertyText_iff (hs : ∀ t ∈ s, t.Unbraced) {object : Expr} {name : String}
    (ho : object.every .unbraced = true) (hname : opensBlock name = false) (text : String) (optional : Bool) :
    opensBlock (object.propertyText s text name optional) = true ↔
      object.instance? s = none ∧ object.isPrimary = true ∧ opensBlock text = true := by
  have hdot : opensBlock (if optional then "?." else ".") = false := by cases optional <;> rfl
  rw [propertyText]
  cases hi : object.instance? s with
  | none =>
    rw [Text.opensBlock_append_of_right hname, Text.opensBlock_append_of_right hdot, opensBlock_operandText]
    simp
  | some t =>
    obtain ⟨ht, hcontext⟩ := Option.filter_eq_some_iff.1 hi
    obtain ⟨x, hx, hcontext⟩ := (Option.any_eq_true _ _).1 hcontext
    obtain rfl := Expr.eq_ident_of_ident? hx
    have hc : opensBlock t.context = false := by
      rw [Scope.context_eq_of_isContext hcontext]
      simpa [Expr.every, Check.unbraced] using ho
    show opensBlock (t.memberAccess name) = true ↔ _
    rw [(hs t ht).opensBlock_memberAccess hc hname]
    simp

/-- An expression begins with a brace exactly if it leads to an object literal, as far as this holds of identifiers. -/
theorem Expr.opensBlock_renderWith_iff
    (hident : ∀ x, opensBlock x = false → (opensBlock (E.identText s x) = true ↔ LeadsToObject s (.ident x)))
    (hs : ∀ t ∈ s, t.Unbraced) :
    ∀ e : Expr, e.every .unbraced = true → (opensBlock (e.renderWith E s) = true ↔ LeadsToObject s e)
  | .ident x, h => by
    rw [Expr.renderWith]
    exact hident x (by simpa [Expr.every, Check.unbraced] using h)
  | .verbatim _, h | .pattern _, h | .type _, h | .markup _, h => by
    simp [Expr.every, Check.unbraced] at h
  | .string value, _ => by
    rw [Expr.renderWith, Text.opensBlock_quoted]
    exact iff_of_false Bool.false_ne_true nofun
  | .number text, h => by
    have htext : opensBlock text = false := by simpa [Expr.every, Check.unbraced] using h
    rw [Expr.renderWith, htext]
    exact iff_of_false Bool.false_ne_true nofun
  | .property base name optional, h => by
    simp only [Expr.every, Bool.and_eq_true] at h
    have hname : opensBlock name = false := by simpa [Check.unbraced] using h.1
    rw [Expr.renderWith, opensBlock_propertyText_iff hs h.2 hname, leadsToObject_property,
      Expr.opensBlock_renderWith_iff hident hs base h.2]
  | .element base argument, h => by
    simp only [Expr.every, Bool.and_eq_true] at h
    rw [Expr.renderWith, Text.opensBlock_append_of_right (Text.opensBlock_bracketed _), opensBlock_operandText,
      Expr.opensBlock_renderWith_iff hident hs base h.1.2, leadsToObject_element]
  | .call callee arguments, h => by
    simp only [Expr.every, Bool.and_eq_true] at h
    rw [Expr.renderWith, Text.opensBlock_append_of_right (Text.opensBlock_parenthesized _), opensBlock_operandText,
      Expr.opensBlock_renderWith_iff hident hs callee h.1.2, leadsToObject_call]
  | .binary left operator right, h => by
    simp only [Expr.every, Bool.and_eq_true] at h
    rw [Expr.renderWith, String.append_assoc, String.append_assoc, String.append_assoc,
      Text.opensBlock_append_of_right (Text.opensBlock_append_of_left (by decide)),
      Expr.opensBlock_renderWith_iff hident hs left h.1.2, leadsToObject_binary]
  | .unary operator operand, h => by
    simp only [Expr.every, Check.unbraced, Bool.and_eq_true, Bool.not_eq_true', bne_iff_ne] at h
    have htext : opensBlock (unaryText operator (operand.renderWith E s)) = false := by
      rw [unaryText]
      split
      · rw [String.append_assoc, Text.opensBlock_append_of_left h.1.1, h.1.2]
      · rw [Text.opensBlock_append_of_left h.1.1, h.1.2]
    rw [Expr.renderWith, htext]
    exact iff_of_false Bool.false_ne_true nofun
  | .conditional condition whenTrue whenFalse, h => by
    simp only [Expr.every, Bool.and_eq_true] at h
    rw [Expr.renderWith, String.append_assoc, String.append_assoc, String.append_assoc,
      Text.opensBlock_append_of_right (Text.opensBlock_append_of_left (by decide)),
      Expr.opensBlock_renderWith_iff hident hs condition h.1.1.2, leadsToObject_conditional]
  | .paren inner, _ => by
    rw [Expr.renderWith, Text.opensBlock_parenthesized]
    exact iff_of_false Bool.false_ne_true nofun
  | .object entries, _ => by
    rw [Expr.renderWith, Text.opensBlock_bracedList]
    exact iff_of_true rfl .object
  | .array elements, _ => by
    rw [Expr.renderWith, Text.opensBlock_bracketed]
    exact iff_of_false Bool.false_ne_true nofun
  | .function f, h => by
    simp only [Expr.every, Bool.and_eq_true] at h
    rw [Expr.renderWith, f.opensBlock_renderWith E s h.2]
    exact iff_of_false Bool.false_ne_true nofun
termination_by structural e => e

end

/-- An identifier begins with a brace exactly if it leads to an object literal: by induction on how many variables there are,
since a value is printed with one less. -/
theorem Scope.Unbraced.opensBlock_identText_iff {s : Scope} {k : Nat} {x : String} (hs : s.Unbraced)
    (hk : s.vars.size ≤ k) (hx : opensBlock x = false) :
    opensBlock ((Expansion.upTo k).identText (some s) x) = true ↔ (Expr.ident x).LeadsToObject (some s) := by
  induction k using Nat.strongRecOn generalizing s x with
  | ind k ih =>
    have hreplacement : (Expr.ident x).replacement? (some s) = (s.value? x).map fun v => (v, s.without [x]) := rfl
    rw [Expr.leadsToObject_ident, hreplacement, Expansion.identText]
    cases hv : s.value? x with
    | none =>
      rw [hs.opensBlock_contextText hx]
      refine iff_of_false Bool.false_ne_true ?_
      rintro ⟨_, _, heq, -⟩
      cases heq
    | some v =>
      have hlt := Scope.size_without_lt hv
      obtain ⟨k, rfl⟩ : ∃ m, k = m + 1 := ⟨k - 1, by omega⟩
      have hevery : v.every .unbraced = true := VariableMap.every_of_get? hs.vars hv
      have hinner := hs.without [x]
      have hvalue := v.opensBlock_renderWith_iff (E := .upTo k) (s := some (s.without [x]))
        (fun y hy => ih k (by omega) hinner (by omega) hy) (by simpa using hinner) hevery
      show opensBlock (if v.ident? = some x then x else v.operandText (v.renderWith (.upTo k) (some (s.without [x])))) =
        true ↔ _
      by_cases hself : v.ident? = some x
      · -- the name stands for itself and is written as it is
        rw [if_pos hself, hx]
        refine iff_of_false Bool.false_ne_true ?_
        rintro ⟨_, _, heq, hne, -⟩
        cases heq
        exact hne hself
      · rw [if_neg hself, Expr.opensBlock_operandText, hvalue]
        constructor
        · rintro ⟨hp, h⟩
          exact ⟨v, _, rfl, hself, hp, h⟩
        · rintro ⟨_, _, heq, -, hp, h⟩
          cases heq
          exact ⟨hp, h⟩

/-- An expression begins with a brace exactly if it leads to an object literal. -/
theorem Expr.opensBlock_render_iff {s : Option Scope} {e : Expr} (he : e.every .unbraced = true)
    (hs : ∀ t ∈ s, t.Unbraced) : opensBlock (e.render s) = true ↔ e.LeadsToObject s := by
  refine e.opensBlock_renderWith_iff (fun x hx => ?_) hs he
  cases s with
  | none =>
    rw [leadsToObject_ident]
    show opensBlock x = true ↔ _
    rw [hx]
    exact iff_of_false Bool.false_ne_true nofun
  | some s => exact (hs s rfl).opensBlock_identText_iff (Nat.le_refl _) hx

/-! ### Bodies -/

/-- Inside something that binds names an expression is printed as in the scope that is left. -/
theorem Expr.renderWith_within_hiding (s : Option Scope) (names : List String) (e : Expr) :
    e.renderWith (.within s) (Scope.hiding s names) = e.render (Scope.hiding s names) := by
  cases s with
  | none => rfl
  | some s => exact Node.renderWith_upTo (s.size_without_le names) (.expr e)

theorem Expr.opensBlock_bodyText (e : Expr) (text : String) :
    opensBlock (e.bodyText text) = true ↔ e.isObject = false ∧ opensBlock text = true := by
  rw [bodyText]
  split
  · next h => simp [h, Text.opensBlock_parenthesized]
  · next h => simp [h]

namespace Function

/-- The text of the body stands after the arrow, in the scope without what the function binds. -/
theorem exists_render_arrow {f : Function} {e : Expr} (hform : f.form = .arrow) (hbody : f.body = .expr e)
    (s : Option Scope) :
    ∃ signature, f.render s = signature ++ " => " ++ e.bodyText (e.render (Scope.hiding s f.boundNames)) := by
  obtain ⟨form, modifiers, typeParameters, parameters, returnType, body⟩ := f
  cases hform
  cases hbody
  simp only [render, renderWith, FunctionForm.renderWith, Body.renderWith, Expr.renderWith_within_hiding]
  exact ⟨_, rfl⟩

/-- What stands after the arrow begins with a brace exactly if the body leads to an object literal and is none itself. -/
theorem opensBlock_arrow_iff {f : Function} {e : Expr} {s : Option Scope} (hform : f.form = .arrow)
    (hbody : f.body = .expr e) (he : e.every .unbraced = true) (hs : ∀ t ∈ s, t.Unbraced) :
    ∃ signature, f.render s = signature ++ " => " ++ e.bodyText (e.render (Scope.hiding s f.boundNames)) ∧
      (opensBlock (e.bodyText (e.render (Scope.hiding s f.boundNames))) = true ↔
        e.isObject = false ∧ e.LeadsToObject (Scope.hiding s f.boundNames)) := by
  have hinner : ∀ t ∈ Scope.hiding s f.boundNames, t.Unbraced := by
    intro t ht
    obtain ⟨u, hu, rfl⟩ := Option.map_eq_some_iff.1 ht
    exact (hs u hu).without f.boundNames
  obtain ⟨signature, hrender⟩ := exists_render_arrow hform hbody s
  refine ⟨signature, hrender, ?_⟩
  rw [Expr.opensBlock_bodyText, Expr.opensBlock_render_iff he hinner]

/-- A property of a name that stands for another name, which stands for an object literal. -/
theorem opensBlock_arrow_iff_chain :
    let e := Expr.property (.ident "row") "cell" false
    let f := Function.arrow [.ofTarget (.name "model")] (.expr e)
    let s := (Scope.ofContext "model").withVars (.ofList [("row", .ident "empty"), ("empty", .object [])])
    (f.form = .arrow ∧ f.body = .expr e ∧ e.every .unbraced = true ∧ ∀ t ∈ some s, t.Unbraced) ∧
      e.LeadsToObject (Scope.hiding (some s) f.boundNames) ∧
      ∃ signature, f.render (some s) = signature ++ " => " ++ e.bodyText (e.render (Scope.hiding (some s) f.boundNames)) ∧
        opensBlock (e.bodyText (e.render (Scope.hiding (some s) f.boundNames))) = true := by
  intro e f s
  have he : e.every .unbraced = true := by decide
  have hs : ∀ t ∈ some s, t.Unbraced := by
    rintro _ ⟨⟩
    exact ⟨by decide, nofun, nofun⟩
  have hrow : (Expr.ident "row").LeadsToObject (Scope.hiding (some s) f.boundNames) :=
    .ident rfl (by decide) rfl (.ident rfl (by decide) rfl .object)
  have hleads : e.LeadsToObject (Scope.hiding (some s) f.boundNames) := .property rfl rfl hrow
  obtain ⟨signature, hrender, hopens⟩ := opensBlock_arrow_iff (f := f) (s := some s) rfl rfl he hs
  exact ⟨⟨rfl, rfl, he, hs⟩, hleads, signature, hrender, hopens.2 ⟨rfl, hleads⟩⟩

/-- A name that stands for an object literal is a body that reads as a block. -/
theorem opensBlock_arrow_of_value :
    let f := Function.arrow [] (.expr (.ident "empty"))
    let s := (Scope.ofContext "").withVars (.ofList [("empty", .object [])])
    f.render (some s) = "() => " ++ Text.braced "" ∧ opensBlock (Text.braced "") = true := by
  intro f s
  exact ⟨by decide, by decide⟩

end Function

end ViewTemplate
