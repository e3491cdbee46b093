import ViewTemplate.Json.Encode
import ViewTemplate.Proofs.Json.Edits

/-!
# Reading what was written

Every piece of syntax is read back from its JSON form, by as many layers of decoders as that form is deep. With what is
known about edits, it is also read back from any value that edits lead to from its JSON form or from any other value it
was read from.
-/

namespace ViewTemplate

namespace Json

variable {α β : Type} {d : Nat} {D : Decoder α} {j : Json} {a : α}

/-- `D` reads `a` from `j` if that is less than `d` deep. -/
def Yields (d : Nat) (D : Decoder α) (j : Json) (a : α) : Prop :=
  j.depth < d → D j = some a

namespace Yields

theorem within (h : Yields (d + 1) D j a) : Yields d D j a :=
  fun hd => h (Nat.lt_succ_of_lt hd)

theorem pure : Yields d (fun _ => some a) j a :=
  fun _ => rfl

theorem string {s : String} : Yields d string? (.string s) s :=
  fun _ => rfl

theorem bool {b : Bool} : Yields d bool? (.bool b) b :=
  fun _ => rfl

theorem bind {E : α → Decoder β} {b : β} (h : Yields d D j a) (hE : Yields d (E a) j b) :
    Yields d (fun j => (D j).bind fun a => E a j) j b :=
  fun hd => Option.bind_eq_some_iff.2 ⟨a, h hd, hE hd⟩

theorem map {f : α → β} (h : Yields d D j a) : Yields d (fun j => (D j).map f) j (f a) :=
  fun hd => Option.map_eq_some_iff.2 ⟨a, h hd, rfl⟩

theorem list {encode : α → Json} (h : ∀ a, Yields d D (encode a) a) (as : List α) :
    Yields d (list? D) (.array (as.map encode)) as := by
  intro hd
  have hdepth : ∀ item ∈ as.map encode, item.depth < d := fun item hm =>
    Nat.lt_trans (depth_lt_of_mem_items hm) hd
  clear hd
  rw [list?]
  induction as with
  | nil => rfl
  | cons a as ih =>
    rw [List.map_cons, List.forall_mem_cons] at hdepth
    rw [List.map_cons, List.mapM_cons, h a hdepth.1, ih hdepth.2]
    rfl

theorem strings (texts : List String) : Yields d (list? string?) (.ofStrings texts) texts :=
  .list (fun _ => .string) texts

theorem null : Yields d (nullable? D) .null none :=
  fun _ => rfl

theorem nullable (hj : j ≠ .null) (h : Yields d D j a) : Yields d (nullable? D) j (some a) := by
  intro hd
  rw [nullable?_of_ne_null hj, h hd, Option.map_some]

theorem string? (o : Option String) : Yields d (nullable? string?) (.ofString? o) o := by
  cases o with
  | none => exact .null
  | some s => exact .nullable (by simp [ofString?]) .string

theorem field {fields : List (String × Json)} {key : String} {value : Json} (hv : fields.lookup key = some value)
    (h : Yields d D value a) : Yields (d + 1) (field? key D) (.object fields) a := by
  intro hd
  have hdepth := depth_lt_of_mem_fields (mem_of_lookup_eq_some hv)
  simp only [field?, fields?, Option.bind_some, hv]
  exact h (by omega)

theorem optField {fields : List (String × Json)} {key : String} {value : Json} {o : Option α}
    (hv : fields.lookup key = some value) (h : Yields d (nullable? D) value o) :
    Yields (d + 1) (optField? key D) (.object fields) o := by
  intro hd
  have hdepth := depth_lt_of_mem_fields (mem_of_lookup_eq_some hv)
  simp only [optField?, fields?, Option.bind_some, hv]
  exact h (by omega)

theorem tagged {E : String × Json → Option α} {tag : String} (h : Yields d (fun payload => E (tag, payload)) j a) :
    Yields (d + 1) (fun j => j.tagged?.bind E) (.tagged tag j) a := by
  intro hd
  have hdepth := depth_lt_tagged tag j
  exact h (by omega)

end Yields

end Json

open Json

/-! ### Lists and optional parts -/

theorem typesToJson_eq_map (ts : List TypeExpr) : typesToJson ts = ts.map TypeExpr.toJson := by
  induction ts with
  | nil => rfl
  | cons t ts ih => rw [typesToJson, ih, List.map_cons]

theorem signaturesToJson_eq_map (ss : List PropertySignature) :
    signaturesToJson ss = ss.map PropertySignature.toJson := by
  induction ss with
  | nil => rfl
  | cons s ss ih => rw [signaturesToJson, ih, List.map_cons]

theorem exprsToJson_eq_map (es : List Expr) : exprsToJson es = es.map Expr.toJson := by
  induction es with
  | nil => rfl
  | cons e es ih => rw [exprsToJson, ih, List.map_cons]

theorem entriesToJson_eq_map (es : List ObjectEntry) : entriesToJson es = es.map ObjectEntry.toJson := by
  induction es with
  | nil => rfl
  | cons e es ih => rw [entriesToJson, ih, List.map_cons]

theorem attributesToJson_eq_map (as : List Attribute) : attributesToJson as = as.map Attribute.toJson := by
  induction as with
  | nil => rfl
  | cons a as ih => rw [attributesToJson, ih, List.map_cons]

theorem childrenToJson_eq_map (cs : List Child) : childrenToJson cs = cs.map Child.toJson := by
  induction cs with
  | nil => rfl
  | cons c cs ih => rw [childrenToJson, ih, List.map_cons]

theorem bindingsToJson_eq_map (bs : List Binding) : bindingsToJson bs = bs.map Binding.toJson := by
  induction bs with
  | nil => rfl
  | cons b bs ih => rw [bindingsToJson, ih, List.map_cons]

theorem parametersToJson_eq_map (ps : List Parameter) : parametersToJson ps = ps.map Parameter.toJson := by
  induction ps with
  | nil => rfl
  | cons p ps ih => rw [parametersToJson, ih, List.map_cons]

theorem statementsToJson_eq_map (ss : List Statement) : statementsToJson ss = ss.map Statement.toJson := by
  induction ss with
  | nil => rfl
  | cons s ss ih => rw [statementsToJson, ih, List.map_cons]

theorem itemsToJson_eq_map (ds : List Declaration) : itemsToJson ds = ds.map Declaration.toJson := by
  induction ds with
  | nil => rfl
  | cons d ds ih => rw [itemsToJson, ih, List.map_cons]

theorem decoratorsToJson_eq_map (es : List Expr) :
    decoratorsToJson es = es.map fun e => .object [("expression", e.toJson)] := by
  induction es with
  | nil => rfl
  | cons e es ih => rw [decoratorsToJson, ih, List.map_cons]

theorem TypeExpr.toJson_ne_null (t : TypeExpr) : t.toJson ≠ .null := by
  cases t <;> simp [TypeExpr.toJson, Json.tagged]

theorem Expr.toJson_ne_null (e : Expr) : e.toJson ≠ .null := by
  cases e <;> simp [Expr.toJson, Json.tagged]

namespace Decoders

/-- Decoders that read every piece of syntax from its JSON form if that is less than `d` deep. -/
structure Reads (D : Decoders) (d : Nat) : Prop where
  type : ∀ t : TypeExpr, Yields d D.type t.toJson t
  expr : ∀ e : Expr, Yields d D.expr e.toJson e
  markup : ∀ m : Markup, Yields d D.markup m.toJson m
  pattern : ∀ p : Pattern, Yields d D.pattern p.toJson p
  function : ∀ f : Function, Yields d D.function f.toJson f
  block : ∀ b : Block, Yields d D.block b.toJson b

namespace Reads

variable {D : Decoders} {d : Nat}

/-! ### One lemma for each decoder -/

theorem type? (h : D.Reads d) (o : Option TypeExpr) : Yields d (nullable? D.type) (typeToJson? o) o := by
  cases o with
  | none => exact .null
  | some t => exact .nullable t.toJson_ne_null (h.type t)

theorem expr? (h : D.Reads d) (o : Option Expr) : Yields d (nullable? D.expr) (exprToJson? o) o := by
  cases o with
  | none => exact .null
  | some e => exact .nullable e.toJson_ne_null (h.expr e)

theorem types (h : D.Reads d) (ts : List TypeExpr) : Yields d (list? D.type) (.array (typesToJson ts)) ts := by
  rw [typesToJson_eq_map]
  exact .list h.type ts

theorem exprs (h : D.Reads d) (es : List Expr) : Yields d (list? D.expr) (.array (exprsToJson es)) es := by
  rw [exprsToJson_eq_map]
  exact .list h.expr es

theorem signature (h : D.Reads d) (s : PropertySignature) : Yields (d + 1) D.signature s.toJson s := by
  obtain ⟨name, optional, type⟩ := s
  exact .bind (.field rfl .string) <| .bind (.field rfl .bool) <| .bind (.optField rfl (h.type? type)) .pure

theorem typeOf (h : D.Reads d) (t : TypeExpr) : Yields (d + 1) D.typeOf t.toJson t := by
  cases t with
  | reference name arguments =>
    exact .tagged (.within (.bind (.field rfl .string) <| .bind (.field rfl (h.types arguments)) .pure))
  | array element => exact .tagged (.map (h.type element))
  | union members => exact .tagged (.map (h.types members))
  | literal properties =>
    rw [TypeExpr.toJson, signaturesToJson_eq_map]
    exact .tagged (.map (.list (fun s => (h.signature s).within) properties))
  | verbatim text => exact .tagged (.map .string)

theorem entry (h : D.Reads d) (e : ObjectEntry) : Yields (d + 1) D.entry e.toJson e := by
  cases e with
  | keyed key value => exact .tagged (.within (.bind (.field rfl .string) <| .bind (.field rfl (h.expr value)) .pure))
  | shorthand name => exact .tagged (.map .string)
  | spread value => exact .tagged (.map (h.expr value))

theorem exprOf (h : D.Reads d) (e : Expr) : Yields (d + 1) D.exprOf e.toJson e := by
  cases e with
  | ident name => exact .tagged (.map .string)
  | verbatim text => exact .tagged (.map .string)
  | string value => exact .tagged (.map .string)
  | number text => exact .tagged (.map .string)
  | property object name optional =>
    exact .tagged (.within (.bind (.field rfl (h.expr object)) <| .bind (.field rfl .string) <|
      .bind (.field rfl .bool) .pure))
  | element object argument =>
    exact .tagged (.within (.bind (.field rfl (h.expr object)) <| .bind (.field rfl (h.expr argument)) .pure))
  | call callee arguments =>
    exact .tagged (.within (.bind (.field rfl (h.expr callee)) <| .bind (.field rfl (h.exprs arguments)) .pure))
  | binary left operator right =>
    exact .tagged (.within (.bind (.field rfl (h.expr left)) <| .bind (.field rfl .string) <|
      .bind (.field rfl (h.expr right)) .pure))
  | unary operator operand =>
    exact .tagged (.within (.bind (.field rfl .string) <| .bind (.field rfl (h.expr operand)) .pure))
  | conditional condition whenTrue whenFalse =>
    exact .tagged (.within (.bind (.field rfl (h.expr condition)) <| .bind (.field rfl (h.expr whenTrue)) <|
      .bind (.field rfl (h.expr whenFalse)) .pure))
  | paren inner => exact .tagged (.map (h.expr inner))
  | object entries =>
    rw [Expr.toJson, entriesToJson_eq_map]
    exact .tagged (.map (.list (fun e => (h.entry e).within) entries))
  | array elements => exact .tagged (.map (h.exprs elements))
  | pattern p => exact .tagged (.map (h.pattern p))
  | type t => exact .tagged (.map (h.type t))
  | markup m => exact .tagged (.map (h.markup m))
  | function f => exact .tagged (.map (h.function f))

theorem namedOrSpread (h : D.Reads d) (a : Attribute) : Yields (d + 1) D.namedOrSpread a.toJson a := by
  cases a with
  | flag name => exact .tagged (.within (.bind (.field rfl .string) <| .bind (.optField rfl .null) .pure))
  | text name text =>
    have value : Yields (d + 1) (D.attributeValue name) (.tagged "String" (.string text)) (.text name text) :=
      .tagged (.map .string)
    exact .tagged (.within (.bind (.field rfl .string) <|
      .bind (.optField rfl (.nullable (by simp [Json.tagged]) value.within)) .pure))
  | value name e =>
    have value : Yields (d + 1) (D.attributeValue name) (.tagged "Expression" e.toJson) (.value name e) :=
      .tagged (.map (h.expr e))
    exact .tagged (.within (.bind (.field rfl .string) <|
      .bind (.optField rfl (.nullable (by simp [Json.tagged]) value.within)) .pure))
  | spread value => exact .tagged (.map (h.expr value))

theorem opening (h : D.Reads d) (t : OpeningTag) : Yields (d + 1) D.opening t.toJson t := by
  obtain ⟨tag, attributes⟩ := t
  rw [OpeningTag.toJson, attributesToJson_eq_map]
  exact .bind (.field rfl (h.expr tag)) <|
    .bind (.field rfl (.list (fun a => (h.namedOrSpread a).within) attributes)) .pure

theorem child (h : D.Reads d) (c : Child) : Yields (d + 1) D.child c.toJson c := by
  cases c with
  | text text => exact .tagged (.map .string)
  | markup m => exact .tagged (.map (h.markup m))

theorem children (h : D.Reads d) (cs : List Child) : Yields d (list? D.child) (.array (childrenToJson cs)) cs := by
  rw [childrenToJson_eq_map]
  exact .list (fun c => (h.child c).within) cs

theorem markupOf (h : D.Reads d) (m : Markup) : Yields (d + 1) D.markupOf m.toJson m := by
  cases m with
  | element opening children =>
    exact .tagged (.within (.bind (.field rfl (h.opening opening).within) <|
      .bind (.field rfl (h.children children)) .pure))
  | selfClosing opening => exact .tagged (.map (h.opening opening).within)
  | fragment children => exact .tagged (.map (h.children children))
  | container content => exact .tagged (.map (h.expr? content))

theorem target (h : D.Reads d) (t : Target) : Yields (d + 1) D.target t.toJson t := by
  cases t with
  | name x => exact .tagged (.map .string)
  | pattern p => exact .tagged (.map (h.pattern p))

theorem binding (h : D.Reads d) (b : Binding) : Yields (d + 1) D.binding b.toJson b := by
  obtain ⟨rest, key, target, fallback⟩ := b
  exact .bind (.field rfl .bool) <| .bind (.optField rfl (.string? key)) <|
    .bind (.field rfl (h.target target).within) <| .bind (.optField rfl (h.expr? fallback)) .pure

theorem patternOf (h : D.Reads d) (p : Pattern) : Yields (d + 1) D.patternOf p.toJson p := by
  obtain ⟨kind, elements⟩ := p
  have hkind : Yields d PatternKind.ofJson? kind.toJson kind := fun _ => by cases kind <;> rfl
  rw [Pattern.toJson, bindingsToJson_eq_map]
  exact .bind (.field rfl hkind) <| .bind (.field rfl (.list (fun b => (h.binding b).within) elements)) .pure

theorem decorator (h : D.Reads d) (e : Expr) : Yields (d + 1) D.decorator (.object [("expression", e.toJson)]) e :=
  .field rfl (h.expr e)

theorem decorators (h : D.Reads d) (es : List Expr) :
    Yields d (list? D.decorator) (.array (decoratorsToJson es)) es := by
  rw [decoratorsToJson_eq_map]
  exact .list (fun e => (h.decorator e).within) es

theorem parameter (h : D.Reads d) (p : Parameter) : Yields (d + 1) D.parameter p.toJson p := by
  obtain ⟨decorators, modifiers, rest, target, optional, type, fallback⟩ := p
  exact .bind (.field rfl (h.decorators decorators)) <| .bind (.field rfl (.strings modifiers)) <|
    .bind (.field rfl .bool) <| .bind (.field rfl (h.target target).within) <| .bind (.field rfl .bool) <|
    .bind (.optField rfl (h.type? type)) <| .bind (.optField rfl (h.expr? fallback)) .pure

theorem body (h : D.Reads d) (b : Body) : Yields (d + 1) D.body b.toJson b := by
  cases b with
  | block b => exact .tagged (.map (h.block b))
  | expr value => exact .tagged (.map (h.expr value))

theorem functionOf (h : D.Reads d) (f : Function) : Yields (d + 1) D.functionOf f.toJson f := by
  obtain ⟨form, modifiers, typeParameters, parameters, returnType, body⟩ := f
  have hparts : Yields d (D.parts form)
      (.object [("modifiers", .ofStrings modifiers), ("type_parameters", .ofStrings typeParameters),
        ("parameters", .array (parametersToJson parameters)), ("return_type", typeToJson? returnType),
        ("body", body.toJson)])
      ⟨form, modifiers, typeParameters, parameters, returnType, body⟩ := by
    rw [parametersToJson_eq_map]
    exact .within <| .bind (.field rfl (.strings modifiers)) <| .bind (.field rfl (.strings typeParameters)) <|
      .bind (.field rfl (.list (fun p => (h.parameter p).within) parameters)) <|
      .bind (.optField rfl (h.type? returnType)) <| .bind (.field rfl (h.body body).within) .pure
  cases form with
  | keyword decorators generator name =>
    exact .tagged (.within (.bind (.field rfl (h.decorators decorators)) <| .bind (.field rfl .bool) <|
      .bind (.optField rfl (.string? name)) <| .field rfl hparts))
  | arrow => exact .tagged (.within (.field rfl hparts))

theorem declaration (h : D.Reads d) (i : Declaration) : Yields (d + 1) D.declaration i.toJson i := by
  obtain ⟨target, type, value⟩ := i
  exact .bind (.field rfl (h.target target).within) <| .bind (.optField rfl (h.type? type)) <|
    .bind (.optField rfl (h.expr? value)) .pure

theorem declarations (h : D.Reads d) (l : Declarations) : Yields (d + 1) D.declarations l.toJson l := by
  obtain ⟨kind, items⟩ := l
  have hkind : Yields d VariableKind.ofJson? kind.toJson kind := fun _ => by cases kind <;> rfl
  rw [Declarations.toJson, itemsToJson_eq_map]
  exact .bind (.field rfl hkind) <| .bind (.field rfl (.list (fun i => (h.declaration i).within) items)) .pure

theorem statement (h : D.Reads d) (s : Statement) : Yields (d + 1) D.statement s.toJson s := by
  cases s with
  | ret value => exact .tagged (.map (h.expr? value))
  | declare modifiers declarations =>
    exact .tagged (.within (.bind (.field rfl (.strings modifiers)) <|
      .bind (.field rfl (h.declarations declarations).within) .pure))
  | expr value => exact .tagged (.map (h.expr value))
  | block b => exact .tagged (.map (h.block b))

theorem blockOf (h : D.Reads d) (b : Block) : Yields (d + 1) D.blockOf b.toJson b := by
  obtain ⟨statements⟩ := b
  rw [Block.toJson, statementsToJson_eq_map]
  exact .map (.field rfl (.list (fun s => (h.statement s).within) statements))

/-- One more layer reads what is one level deeper. -/
theorem outer (h : D.Reads d) : D.outer.Reads (d + 1) where
  type := h.typeOf
  expr := h.exprOf
  markup := h.markupOf
  pattern := h.patternOf
  function := h.functionOf
  block := h.blockOf

/-- As many layers as a JSON form is deep read it. -/
theorem below (d : Nat) : (Decoders.below d).Reads d := by
  induction d with
  | zero => constructor <;> intro v hd <;> exact absurd hd (Nat.not_lt_zero _)
  | succ d ih => exact ih.outer

end Reads

/-- Reading a value with enough layers for it carries over to edited values. -/
theorem carries_reading {α : Type} {F : Form} {X : Decoders → Decoder α}
    (h : ∀ {D D' : Decoders} {d : Nat}, D.Carries D' d → Json.Carries F d (X D) (X D')) (d : Nat) :
    Json.Carries F d (fun j => X (reading j) j) fun j => X (reading j) j :=
  fun j j' a hj _ ha => h (Carries.below _ (j'.depth + 1)) j j' a hj (Nat.lt_succ_self _) ha

/-- Reading a JSON form with enough layers for it gives back what was written. -/
theorem yields_reading {α : Type} {encode : α → Json} {X : Decoders → Decoder α}
    (h : ∀ {D : Decoders} {d : Nat}, D.Reads d → ∀ a, Yields d (X D) (encode a) a) (d : Nat) (a : α) :
    Yields d (fun j => X (reading j) j) (encode a) a :=
  fun _ => h (Reads.below _) a (Nat.lt_succ_self _)

end Decoders

/-! ### Members and components -/

theorem Member.carries_ofJson? (d : Nat) : Json.Carries .member (d + 1) Member.ofJson? Member.ofJson? :=
  have type : Json.Carries (.kind .type) d TypeExpr.ofJson? TypeExpr.ofJson? := Decoders.carries_reading (·.type) d
  have expr : Json.Carries (.kind .expr) d Expr.ofJson? Expr.ofJson? := Decoders.carries_reading (·.expr) d
  have decorator : Json.Carries .decorator d Expr.decoratorOfJson? Expr.decoratorOfJson? :=
    Decoders.carries_reading (·.decorator.within) d
  .bind (.field rfl rfl .plain) fun _ => .bind (.field rfl rfl .plain) fun _ => .bind (.optField rfl .plain) fun _ =>
    .bind (.field rfl rfl .plain) fun _ => .bind (.optField rfl type) fun _ => .bind (.optField rfl expr) fun _ =>
    .bind (.field rfl rfl decorator.list) fun _ => .pure _

theorem Component.carries_ofJson? (d : Nat) : Json.Carries .component (d + 1) Component.ofJson? Component.ofJson? :=
  have decorator : Json.Carries .decorator d Expr.decoratorOfJson? Expr.decoratorOfJson? :=
    Decoders.carries_reading (·.decorator.within) d
  .bind (.field rfl rfl .plain) fun _ => .bind (.field rfl rfl (Member.carries_ofJson? d).within.list) fun _ =>
    .bind (.optField rfl .plain) fun _ => .bind (.optField rfl .plain) fun _ =>
    .bind (.field rfl rfl decorator.list) fun _ => .pure _

theorem Expr.yields_decorators (d : Nat) (es : List Expr) :
    Yields d (list? Expr.decoratorOfJson?) (.array (decoratorsToJson es)) es := by
  rw [decoratorsToJson_eq_map]
  exact .list (Decoders.yields_reading (fun h e => (h.decorator e).within) d) es

theorem Member.yields_ofJson? (d : Nat) (m : Member) : Yields (d + 1) Member.ofJson? m.toJson m := by
  obtain ⟨name, externalName, path, kind, type, fallback, decorators⟩ := m
  have hkind : Yields d MemberKind.ofJson? kind.toJson kind := fun _ => by cases kind <;> rfl
  have htype : Yields d (nullable? TypeExpr.ofJson?) (typeToJson? type) type := by
    cases type with
    | none => exact .null
    | some t => exact .nullable t.toJson_ne_null (Decoders.yields_reading (·.type) d t)
  have hfallback : Yields d (nullable? Expr.ofJson?) (exprToJson? fallback) fallback := by
    cases fallback with
    | none => exact .null
    | some e => exact .nullable e.toJson_ne_null (Decoders.yields_reading (·.expr) d e)
  exact .bind (.field rfl .string) <| .bind (.field rfl .string) <| .bind (.optField rfl (.string? path)) <|
    .bind (.field rfl hkind) <| .bind (.optField rfl htype) <| .bind (.optField rfl hfallback) <|
    .bind (.field rfl (Expr.yields_decorators d decorators)) .pure

theorem Component.yields_ofJson? (d : Nat) (c : Component) : Yields (d + 1) Component.ofJson? c.toJson c := by
  obtain ⟨name, members, view, viewModel, decorators⟩ := c
  exact .bind (.field rfl .string) <|
    .bind (.field rfl (.list (fun m => (Member.yields_ofJson? d m).within) members)) <|
    .bind (.optField rfl (.string? view)) <| .bind (.optField rfl (.string? viewModel)) <|
    .bind (.field rfl (Expr.yields_decorators d decorators)) .pure

/-! ### The JSON form is faithful -/

namespace Json

/-- Data of one kind is read back from the form it is written in, and edits of a value do not change what is read from
it. -/
structure Faithful {α : Type} (F : Form) (encode : α → Json) (decode : Decoder α) : Prop where
  decode_encode : ∀ a, decode (encode a) = some a
  decode_edited : ∀ j j' a, decode j = some a → Relation.ReflTransGen F.Edit j j' → decode j' = some a

theorem Faithful.of_carries {α : Type} {F : Form} {encode : α → Json} {decode : Decoder α}
    (hc : ∀ d, Carries F d decode decode) (hy : ∀ d a, Yields d decode (encode a) a) : Faithful F encode decode where
  decode_encode a := hy _ a (Nat.lt_succ_self _)
  decode_edited j j' a ha hj := by
    induction hj with
    | refl => exact ha
    | tail _ hedit ih => exact hc _ _ _ a (.single hedit) (Nat.lt_succ_self _) ih

/-- Syntax, members and components are read back as they were written, whatever fields are added that nothing reads,
in whatever order the fields stand, and whether or not absent parts are written as null. -/
theorem faithful_forms :
    Faithful (.kind .expr) Expr.toJson Expr.ofJson? ∧ Faithful (.kind .markup) Markup.toJson Markup.ofJson? ∧
      Faithful (.kind .pattern) Pattern.toJson Pattern.ofJson? ∧
      Faithful .parameter Parameter.toJson Parameter.ofJson? ∧
      Faithful (.kind .function) Function.toJson Function.ofJson? ∧
      Faithful .statement Statement.toJson Statement.ofJson? ∧
      Faithful (.kind .type) TypeExpr.toJson TypeExpr.ofJson? ∧ Faithful .member Member.toJson Member.ofJson? ∧
      Faithful .component Component.toJson Component.ofJson? := by
  have expr : Faithful (.kind .expr) Expr.toJson Expr.ofJson? :=
    .of_carries (Decoders.carries_reading (·.expr)) (Decoders.yields_reading (·.expr))
  have markup : Faithful (.kind .markup) Markup.toJson Markup.ofJson? :=
    .of_carries (Decoders.carries_reading (·.markup)) (Decoders.yields_reading (·.markup))
  have pattern : Faithful (.kind .pattern) Pattern.toJson Pattern.ofJson? :=
    .of_carries (Decoders.carries_reading (·.pattern)) (Decoders.yields_reading (·.pattern))
  have parameter : Faithful .parameter Parameter.toJson Parameter.ofJson? :=
    .of_carries (Decoders.carries_reading (·.parameter.within))
      (Decoders.yields_reading fun h p => (h.parameter p).within)
  have function : Faithful (.kind .function) Function.toJson Function.ofJson? :=
    .of_carries (Decoders.carries_reading (·.function)) (Decoders.yields_reading (·.function))
  have statement : Faithful .statement Statement.toJson Statement.ofJson? :=
    .of_carries (Decoders.carries_reading (·.statement.within))
      (Decoders.yields_reading fun h s => (h.statement s).within)
  have type : Faithful (.kind .type) TypeExpr.toJson TypeExpr.ofJson? :=
    .of_carries (Decoders.carries_reading (·.type)) (Decoders.yields_reading (·.type))
  have member : Faithful .member Member.toJson Member.ofJson? :=
    .of_carries (fun d => (Member.carries_ofJson? d).within) fun d m => (Member.yields_ofJson? d m).within
  have component : Faithful .component Component.toJson Component.ofJson? :=
    .of_carries (fun d => (Component.carries_ofJson? d).within) fun d c => (Component.yields_ofJson? d c).within
  exact ⟨expr, markup, pattern, parameter, function, statement, type, member, component⟩

/-- Fields in another order, one that nothing reads, and none for the default. -/
example :
    Binding.ofJson?
        (.object
          [("name", .tagged "Identifier" (.string "x")), ("comment", .array []), ("property_name", .string "key"),
            ("dot_dot_dot", .bool false)]) =
      some (.aliased "key" "x") := rfl

end Json

end ViewTemplate
