import ViewTemplate.Proofs.Tokens.Front

/-!
# Tokens that run together

Nothing is written between a prefix operator and its operand unless the operator is a word, so a sign runs together with
the same sign at the front of the operand; and a dot runs together with a numeral in front of it, as its decimal
point.  Parentheses are put around an operand by its form alone, before any of its text is known.

`Expr.runs_together_iff` says in which cases this happens: if the operand begins with the sign (`Expr.BeginsWith`), and
if the object stands for a numeral (`Expr.StandsForNumeral`).  Around a value that begins with a sign there are
parentheses, so where names are written as names, only a sign of the operand itself counts
(`Expr.leadsWith_of_beginsWith`).  A numeral may also be the value of a variable.
-/

namespace ViewTemplate

open Text (first? isSign isNumeral startsName)

/-! ### Objects that are numerals -/

/-- The expression is printed as a numeral once variables are replaced. -/
inductive Expr.StandsForNumeral : Option Scope → Expr → Prop where
  /-- a name that is written so -/
  | name {s : Option Scope} {x : String} (hx : Scope.replaced? s x = none)
    (h : isNumeral (Scope.ownText s x) = true) : StandsForNumeral s (.ident x)
  | value {s : Option Scope} {x : String} {v : Expr} {t : Scope} (hx : Scope.replaced? s x = some (v, t))
    (h : StandsForNumeral (some t) v) : StandsForNumeral s (.ident x)
  | verbatim {s : Option Scope} {text : String} (h : isNumeral text = true) : StandsForNumeral s (.verbatim text)
  | number {s : Option Scope} {text : String} (h : isNumeral text = true) : StandsForNumeral s (.number text)
  /-- a property of the component instance -/
  | member {s : Option Scope} {object : Expr} {name : String} {optional : Bool} {t : Scope}
    (ho : object.instance? s = some t) (h : isNumeral (t.memberAccess name) = true) :
    StandsForNumeral s (.property object name optional)

namespace Expr

variable {s : Option Scope} {x : String}

theorem standsForNumeral_ident_of_replaced? {v : Expr} {t : Scope} (hx : Scope.replaced? s x = some (v, t)) :
    StandsForNumeral s (.ident x) ↔ StandsForNumeral (some t) v := by
  refine ⟨fun h => ?_, .value hx⟩
  cases h with
  | name hx' _ => cases hx.symm.trans hx'
  | value hx' h =>
    cases hx.symm.trans hx'
    exact h

theorem standsForNumeral_ident_of_replaced?_eq_none (hx : Scope.replaced? s x = none) :
    StandsForNumeral s (.ident x) ↔ isNumeral (Scope.ownText s x) = true := by
  refine ⟨fun h => ?_, .name hx⟩
  cases h with
  | name _ h => exact h
  | value hx' _ => cases hx.symm.trans hx'

/-- The property of an expression is a numeral only if it is read from the instance: otherwise there is a dot. -/
theorem isNumeral_propertyText_iff (base : Expr) (text name : String) (optional : Bool) :
    isNumeral (base.propertyText s text name optional) = true ↔ StandsForNumeral s (.property base name optional) := by
  rw [propertyText]
  cases hi : base.instance? s with
  | none =>
    have hdot : '.' ∈ (base.operandText text ++ (if optional then "?." else ".") ++ name).toList := by
      cases optional <;> simp
    refine iff_of_false (Text.not_isNumeral_of_mem hdot rfl) fun h => ?_
    cases h with
    | member ho _ => cases hi.symm.trans ho
  | some t =>
    refine ⟨.member hi, fun h => ?_⟩
    cases h with
    | member ho h =>
      cases hi.symm.trans ho
      exact h

/-- An operand is written as a numeral exactly if it stands for one. -/
theorem isNumeral_operandText_iff (s : Option Scope) (e : Expr) :
    isNumeral (e.operandText (e.render s)) = true ↔ e.StandsForNumeral s := by
  induction s using Scope.replaced?_induction generalizing e with
  | h s ih =>
    cases e with
    | ident x =>
      show isNumeral ((Expr.ident x).render s) = true ↔ _
      cases hr : Scope.replaced? s x with
      | none => rw [render_ident_of_replaced?_eq_none hr, standsForNumeral_ident_of_replaced?_eq_none hr]
      | some r =>
        obtain ⟨v, t⟩ := r
        rw [render_ident_of_replaced? hr, standsForNumeral_ident_of_replaced? hr]
        exact ih x v t hr v
    | verbatim text =>
      refine ⟨.verbatim, fun h => ?_⟩
      cases h with
      | verbatim h => exact h
    | number text =>
      refine ⟨.number, fun h => ?_⟩
      cases h with
      | number h => exact h
    | property base name optional => exact isNumeral_propertyText_iff base _ name optional
    | element base argument =>
      have hbracket : '[' ∈ ((Expr.element base argument).render s).toList := by
        simp [Expr.render, Expr.renderWith, Text.bracketed]
      exact iff_of_false (Text.not_isNumeral_of_mem hbracket rfl) (by rintro ⟨⟩)
    | call callee arguments =>
      have hparen : '(' ∈ ((Expr.call callee arguments).render s).toList := by
        simp [Expr.render, Expr.renderWith, Text.parenthesized]
      exact iff_of_false (Text.not_isNumeral_of_mem hparen rfl) (by rintro ⟨⟩)
    | string value => exact iff_of_false (Text.not_isNumeral_of_first? (Text.first?_quoted value) rfl) (by rintro ⟨⟩)
    | object entries => exact iff_of_false (Text.not_isNumeral_of_first? (Text.first?_bracedList _ _) rfl) (by rintro ⟨⟩)
    | array elements => exact iff_of_false (Text.not_isNumeral_of_first? (Text.first?_bracketed _) rfl) (by rintro ⟨⟩)
    | markup m =>
      refine iff_of_false ?_ (by rintro ⟨⟩)
      rcases m.first?_renderWith (.within s) s with h | h
      · exact Text.not_isNumeral_of_first? h rfl
      · exact Text.not_isNumeral_of_first? h rfl
    | paren _ | binary _ _ _ | unary _ _ | conditional _ _ _ | pattern _ | type _ | function _ =>
      exact iff_of_false (Text.not_isNumeral_of_first? (Text.first?_parenthesized _) rfl) (by rintro ⟨⟩)

end Expr

/-! ### Where names are written as names -/

/-- No text that is printed as it is.  Identifiers are names, and numerals have no sign. -/
def Check.wellNamed : Check where
  expr
    | .ident x | .property _ x _ => Text.isName x
    | .number text => !(first? text).any isSign
    | .verbatim _ => false
    | _ => true

/-- The same for the values of variables, and what is written for the instance and its members begins as names do. -/
structure Scope.WellNamed (s : Scope) : Prop where
  vars : s.vars.every .wellNamed = true
  newContext : ∀ context ∈ s.newContext, context = "" ∨ startsName context = true
  members : ∀ m ∈ s.members, ∀ path ∈ m.path, startsName (path ++ m.name) = true

/-- The expression itself begins with `c`, with nothing replaced. -/
def Expr.leadsWith (c : Char) : Expr → Bool
  | .binary left _ _ => left.leadsWith c
  | .unary operator operand => first? operator == some c || (operator == "" && operand.leadsWith c)
  | .conditional condition _ _ => condition.leadsWith c
  | .type t => first? t.render == some c
  | .function f => (f.leadingModifier?.bind first?) == some c
  | _ => false

namespace Scope.WellNamed

variable {s : Scope} {x name : String}

theorem without (h : s.WellNamed) (names : List String) : (s.without names).WellNamed :=
  ⟨VariableMap.every_eraseAll h.vars names, h.newContext, h.members⟩

theorem startsName_contextText (h : s.WellNamed) (hx : Text.isName x = true) : startsName (s.contextText x) = true := by
  have hown := Text.startsName_of_isName hx
  rw [contextText]
  split
  · split
    · next context hcontext =>
      split
      · exact hown
      · next hne => exact (h.newContext context hcontext).resolve_left (by simpa using hne)
    · exact hown
  · exact hown

/-- What is written to read a member of the instance begins as names do, or it is the name of the member. -/
theorem startsName_memberAccess (h : s.WellNamed) (hc : Text.isName s.context = true) (name : String) :
    s.memberAccess name = name ∨ startsName (s.memberAccess name) = true := by
  have heffective : s.effectiveContext = "" ∨ startsName s.effectiveContext = true := by
    rw [effectiveContext]
    cases hn : s.newContext with
    | none => exact Or.inr (Text.startsName_of_isName hc)
    | some context => exact h.newContext context hn
  have hnonempty : s.effectiveContext.isEmpty = false → ∀ text, startsName (s.effectiveContext ++ text) = true := by
    intro hne text
    refine Text.startsName_append (heffective.resolve_left fun he => ?_) text
    rw [he] at hne
    exact Bool.noConfusion hne
  rw [memberAccess]
  split
  · next m hm =>
    have hfound : (s.members.find? fun m => m.externalName = name) = some m := hm
    have hexternal : m.externalName = name := by simpa using List.find?_some hfound
    rw [Member.getter]
    split
    · exact Or.inl hexternal
    · next path hpath =>
      split
      · exact Or.inr (h.members m (List.mem_of_find?_eq_some hfound) path hpath)
      · next hne =>
        rw [String.append_assoc, String.append_assoc]
        exact Or.inr (hnonempty (by simpa using hne) _)
  · split
    · exact Or.inl rfl
    · next hne =>
      rw [String.append_assoc]
      exact Or.inr (hnonempty (by simpa using hne) _)

end Scope.WellNamed

namespace Expr

variable {c : Char} {s : Option Scope} {e : Expr}

/-- Around an operand that begins with a sign itself there are parentheses. -/
theorem leadsWith_eq_false_of_isPrimary (hp : e.isPrimary = true) : e.leadsWith c = false := by
  cases e with
  | binary _ _ _ | unary _ _ | conditional _ _ _ | function _ | pattern _ | type _ => exact Bool.noConfusion hp
  | _ => rfl

/-- The name of the instance is an identifier of the expression. -/
theorem isName_context_of_instance? {t : Scope} (he : e.every .wellNamed = true) (ho : e.instance? s = some t) :
    s = some t ∧ Text.isName t.context = true := by
  obtain ⟨ht, hcontext⟩ := Option.filter_eq_some_iff.1 ho
  obtain ⟨x, hx, hcontext⟩ := (Option.any_eq_true _ _).1 hcontext
  obtain rfl := Expr.eq_ident_of_ident? hx
  refine ⟨ht, ?_⟩
  rw [Scope.context_eq_of_isContext hcontext]
  simpa [Expr.every, Check.wellNamed] using he

theorem beginsWith_of_leadsWith : ∀ e : Expr, e.leadsWith c = true → BeginsWith c s e
  | .binary left _ _, h => .binary (beginsWith_of_leadsWith left h)
  | .unary operator operand, h => by
    simp only [leadsWith, Bool.or_eq_true, Bool.and_eq_true, beq_iff_eq] at h
    rcases h with h | ⟨rfl, h⟩
    · exact .operator h
    · exact .operand (beginsWith_of_leadsWith operand h)
  | .conditional condition _ _, h => .conditional (beginsWith_of_leadsWith condition h)
  | .type t, h => .type (beq_iff_eq.1 h)
  | .function f, h => by
    obtain ⟨modifier, hf, h⟩ := Option.bind_eq_some_iff.1 (beq_iff_eq.1 h)
    exact .function hf h

/-- Where names are written as names, a sign at the front is a sign of the expression itself. -/
theorem leadsWith_of_beginsWith (hc : isSign c = true) (h : BeginsWith c s e) (he : e.every .wellNamed = true)
    (hs : ∀ t ∈ s, t.WellNamed) : e.leadsWith c = true := by
  -- an operand that begins with a sign is none that is written without parentheses
  have hprimary : ∀ {operand : Expr}, operand.isPrimary = true → operand.leadsWith c = true → False := by
    intro operand hp h
    rw [leadsWith_eq_false_of_isPrimary hp] at h
    exact Bool.noConfusion h
  induction h with
  | @name s x hx h =>
    have hname : Text.isName x = true := by simpa [Expr.every, Check.wellNamed] using he
    refine absurd h (Text.first?_ne_of_startsName hc ?_)
    cases s with
    | none => exact Text.startsName_of_isName hname
    | some u => exact (hs u rfl).startsName_contextText hname
  | @value s x v t hx hv h ih =>
    obtain ⟨u, rfl, hvalue, -, rfl⟩ := Scope.exists_of_replaced? hx
    have hinner : (u.without [x]).WellNamed := (hs u rfl).without [x]
    have hevery : v.every .wellNamed = true := VariableMap.every_of_get? (hs u rfl).vars hvalue
    exact (hprimary hv (ih hevery (by simpa using hinner))).elim
  | verbatim _ => simp [Expr.every, Check.wellNamed] at he
  | number h => simp [Expr.every, Check.wellNamed, h, hc] at he
  | @member s base name optional t ho h =>
    simp only [Expr.every, Bool.and_eq_true] at he
    have hname : startsName name = true := Text.startsName_of_isName (by simpa [Check.wellNamed] using he.1)
    obtain ⟨rfl, hcontext⟩ := isName_context_of_instance? he.2 ho
    rcases (hs t rfl).startsName_memberAccess hcontext name with heq | hstart
    · rw [heq] at h
      exact absurd h (Text.first?_ne_of_startsName hc hname)
    · exact absurd h (Text.first?_ne_of_startsName hc hstart)
  | property _ hp _ ih =>
    simp only [Expr.every, Bool.and_eq_true] at he
    exact (hprimary hp (ih he.2 hs)).elim
  | element hp _ ih | call hp _ ih =>
    simp only [Expr.every, Bool.and_eq_true] at he
    exact (hprimary hp (ih he.1.2 hs)).elim
  | binary _ ih =>
    simp only [Expr.every, Bool.and_eq_true] at he
    exact ih he.1.2 hs
  | operator h => simp [leadsWith, h]
  | operand _ ih =>
    simp only [Expr.every, Bool.and_eq_true] at he
    simp [leadsWith, ih he.2 hs]
  | conditional _ ih =>
    simp only [Expr.every, Bool.and_eq_true] at he
    exact ih he.1.1.2 hs
  | type h => simp [leadsWith, h]
  | function hf h => simp [leadsWith, hf, h]

/-- Where names are written as names, a property of the instance does not read as a decimal number. -/
theorem memberAccess_ne_of_isNumeral {t : Scope} (he : e.every .wellNamed = true) (hs : ∀ t ∈ s, t.WellNamed)
    (ho : e.instance? s = some t) {numeral : String} (hn : isNumeral numeral = true) (name : String) :
    t.memberAccess name ≠ numeral ++ "." ++ name := by
  intro h
  obtain ⟨rfl, hcontext⟩ := isName_context_of_instance? he ho
  rcases (hs t rfl).startsName_memberAccess hcontext name with heq | hstart
  · -- the text would be longer than itself
    have hlength := congrArg String.length (heq.symm.trans h)
    simp only [String.length_append] at hlength
    have hdot : ".".length = 1 := rfl
    omega
  · rw [h, String.append_assoc] at hstart
    obtain ⟨d, hd⟩ : ∃ d, first? numeral = some d := by
      refine Option.ne_none_iff_exists'.1 (Text.first?_ne_none ?_)
      rintro rfl
      exact Bool.noConfusion hn
    have hnumeral : startsName numeral = true := by
      rw [startsName, Text.first?_append_of_eq_some hd] at hstart
      rw [startsName, hd]
      exact hstart
    rw [Text.startsName_of_isNumeral hn] at hnumeral
    exact Bool.noConfusion hnumeral

end Expr

/-! ### Both tokens -/

theorem unaryText_eq_of_getLast? {operator : String} {c : Char} (hc : isSign c = true)
    (ho : operator.toList.getLast? = some c) (text : String) : unaryText operator text = operator ++ text := by
  have hletter : c.isAlpha = false := by
    simp only [isSign, Bool.or_eq_true, decide_eq_true_eq] at hc
    rcases hc with rfl | rfl <;> rfl
  rw [unaryText, ho, Option.any_some, hletter]
  rfl

theorem Expr.render_property_iff {s : Option Scope} {e : Expr} {name : String} :
    (∃ numeral, isNumeral numeral = true ∧ (property e name false).render s = numeral ++ "." ++ name) ↔
      (e.instance? s = none ∧ e.StandsForNumeral s) ∨ ∃ t numeral, e.instance? s = some t ∧
        isNumeral numeral = true ∧ t.memberAccess name = numeral ++ "." ++ name := by
  have htext : (property e name false).render s = e.propertyText s (e.render s) name false := rfl
  rw [htext, propertyText, ← isNumeral_operandText_iff s e]
  cases e.instance? s with
  | some t => simp
  | none =>
    constructor
    · rintro ⟨numeral, hn, h⟩
      have hoperand : e.operandText (e.render s) = numeral := by
        simpa [String.append_assoc, String.append_left_inj] using h
      exact Or.inl ⟨rfl, by rw [hoperand]; exact hn⟩
    · rintro (⟨-, h⟩ | ⟨t, numeral, ho, -⟩)
      · exact ⟨_, h, rfl⟩
      · cases ho

/-- Two tokens run together in exactly these cases.  An operator that ends in a sign stands directly before its
operand, and the operand begins with the same sign if one of its leftmost parts does.  A property is read directly from
a numeral if the object stands for one, or if one is written for the instance.  Where names are written as names, a
sign is one of the operand itself, whatever the values of variables are, and no numeral is written for the instance. -/
theorem Expr.runs_together_iff (s : Option Scope) (e : Expr) :
    (∀ operator c, isSign c = true → operator.toList.getLast? = some c →
      (unary operator e).render s = operator ++ e.render s ∧ (first? (e.render s) = some c ↔ e.BeginsWith c s)) ∧
      (∀ name, (∃ numeral, isNumeral numeral = true ∧ (property e name false).render s = numeral ++ "." ++ name) ↔
        (e.instance? s = none ∧ e.StandsForNumeral s) ∨ ∃ t numeral, e.instance? s = some t ∧
          isNumeral numeral = true ∧ t.memberAccess name = numeral ++ "." ++ name) ∧
      (e.every .wellNamed = true → (∀ t ∈ s, t.WellNamed) →
        (∀ c, isSign c = true → (e.BeginsWith c s ↔ e.leadsWith c = true)) ∧
          ∀ t, e.instance? s = some t → ∀ name numeral, isNumeral numeral = true →
            t.memberAccess name ≠ numeral ++ "." ++ name) := by
  refine ⟨?sign, fun name => render_property_iff, fun he hs => ⟨?front, ?member⟩⟩
  case sign =>
    intro operator c hc ho
    exact ⟨unaryText_eq_of_getLast? hc ho (e.render s), first?_render_iff hc s e⟩
  case front =>
    intro c hc
    exact ⟨fun h => leadsWith_of_beginsWith hc h he hs, beginsWith_of_leadsWith e⟩
  case member =>
    intro t ho name numeral hn
    exact memberAccess_ne_of_isNumeral he hs ho hn name

/-- A minus before an expression that begins with one in its condition, and a name that stands for a name that stands
for a numeral: both tokens run together.  A minus before the name of a negated value does not. -/
theorem Expr.runs_together_iff_chain :
    let e := Expr.conditional (.binary (.unary "-" (.ident "n")) "<" (.ident "m")) (.ident "n") (.ident "below")
    let s := (Scope.ofContext "model").withVars
      (.ofList [("n", .ident "m"), ("m", .number "12"), ("below", .unary "-" (.ident "n"))])
    ((isSign '-' = true ∧ "-".toList.getLast? = some '-') ∧
        (e.every .wellNamed = true ∧ (Expr.ident "below").every .wellNamed = true) ∧ ∀ t ∈ some s, t.WellNamed) ∧
      ((unary "-" e).render (some s) = "-" ++ e.render (some s) ∧ first? (e.render (some s)) = some '-') ∧
      (∃ numeral, isNumeral numeral = true ∧
        (property (.ident "n") "text" false).render (some s) = numeral ++ "." ++ "text") ∧
      first? ((Expr.ident "below").render (some s)) ≠ some '-' := by
  intro e s
  have he : e.every .wellNamed = true := by decide
  have hbelow : (Expr.ident "below").every .wellNamed = true := by decide
  have hs : ∀ t ∈ some s, t.WellNamed := by
    rintro _ ⟨⟩
    exact ⟨by decide, nofun, nofun⟩
  have hnumeral : (Expr.ident "n").StandsForNumeral (some s) :=
    .value (v := .ident "m") rfl (.value (v := .number "12") rfl (.number (by decide)))
  obtain ⟨hsign, -, hnamed⟩ := runs_together_iff (some s) e
  obtain ⟨-, hdot, -⟩ := runs_together_iff (some s) (.ident "n")
  obtain ⟨hvalue, -, hvalueNamed⟩ := runs_together_iff (some s) (.ident "below")
  have hminus : isSign '-' = true := rfl
  have htext := hsign "-" '-' hminus rfl
  refine ⟨⟨⟨hminus, rfl⟩, ⟨he, hbelow⟩, hs⟩, ⟨htext.1, ?_⟩, (hdot "text").2 (Or.inl ⟨rfl, hnumeral⟩), ?_⟩
  · exact htext.2.2 (((hnamed he hs).1 '-' hminus).2 (by decide))
  · rw [ne_eq, (hvalue "-" '-' hminus rfl).2, (hvalueNamed hbelow hs).1 '-' hminus]
    decide

/-- A negated operand under a minus, and a property of a numeral, which is written in place or the value of a name. -/
theorem Expr.runs_together_of_operand :
    let negated := Expr.unary "-" (.ident "x")
    let e := Expr.call (.ident "f") [.unary "-" negated, .property (.number "1") "text" false]
    let s := (Scope.ofContext "").withVars (.ofList [("n", .number "1")])
    e.every .wellNamed = true ∧ e.render none = "f(--x, 1.text)" ∧
      ((unary "-" negated).render none = "-" ++ negated.render none ∧ first? (negated.render none) = some '-') ∧
      isNumeral "1" = true ∧ (property (.number "1") "text" false).render none = "1" ++ ".text" ∧
      (property (.ident "n") "text" false).render (some s) = "1" ++ ".text" := by
  decide

end ViewTemplate
