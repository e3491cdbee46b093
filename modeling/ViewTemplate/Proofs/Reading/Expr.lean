import ViewTemplate.Proofs.Reading.Reader
import ViewTemplate.Render.Basic

/-!
# Expressions are read back

If the parts of every operator, and what is accessed or called, are operands, then an expression can be read back from
the text it was written as, so no other such expression is written alike (`Expr.Parenthesized.render_inj`).  Names may
have any letters; those of ASCII alone are among them (`Text.isName_of_isAsciiName`).

The text of an operand is read from its innermost object outwards.  So what is shown of an operand is that reading its
text comes to the same as reading what may be added to it (`Expr.ReadsAsOperand`); it is read as itself where nothing
is added.
-/

namespace ViewTemplate

open Text Reader

/-! ### Expressions with operands in place -/

mutual

/-- Expressions that can stand in a larger one as they are: names, literals, what is between brackets, and accesses and
calls of such expressions. -/
inductive Expr.Operand : Expr → Prop
  | ident {x : String} (hx : Text.isName x = true) : Operand (.ident x)
  | string (value : String) : Operand (.string value)
  | number {text : String} (htext : Text.isNumeral text = true) : Operand (.number text)
  | property {object : Expr} {name : String} (hobject : Operand object) (hname : Text.isName name = true)
      (optional : Bool) : Operand (.property object name optional)
  | element {object argument : Expr} (hobject : Operand object) (hargument : Parenthesized argument) :
      Operand (.element object argument)
  | call {callee : Expr} {arguments : List Expr} (hcallee : Operand callee)
      (harguments : ∀ e ∈ arguments, Parenthesized e) : Operand (.call callee arguments)
  | paren {inner : Expr} (hinner : Parenthesized inner) : Operand (.paren inner)
  | array {elements : List Expr} (helements : ∀ e ∈ elements, Parenthesized e) : Operand (.array elements)

/-- Operands, and one operator over operands. -/
inductive Expr.Parenthesized : Expr → Prop
  | operand {e : Expr} (he : Operand e) : Parenthesized e
  | unary {operator : String} {e : Expr} (hoperator : operator ∈ prefixOperators) (he : Operand e) :
      Parenthesized (.unary operator e)
  | binary {left right : Expr} {operator : String} (hleft : Operand left) (hoperator : operator ∈ infixOperators)
      (hright : Operand right) : Parenthesized (.binary left operator right)
  | conditional {condition whenTrue whenFalse : Expr} (hcondition : Operand condition) (htrue : Operand whenTrue)
      (hfalse : Operand whenFalse) : Parenthesized (.conditional condition whenTrue whenFalse)

end

/-! ### Reading what is written -/

/-- The text of an expression as it was written. -/
def Expr.chars (e : Expr) : List Char :=
  (e.render none).toList

/-- The text of a list of expressions as it was written. -/
def charsOfExprs (es : List Expr) : List Char :=
  (commaList (renderExprs (.within none) none es)).toList

/-- Reading the text of an operand comes to reading what may be added to the operand. -/
def Expr.ReadsAsOperand (e : Expr) : Prop :=
  ∀ r out, EndsWord r → Reads (accesses · e) r out → Reads operand (e.chars ++ r) out

/-- The text of an expression is read as the expression, where it ends. -/
def Expr.ReadsAsExpr (e : Expr) : Prop :=
  ∀ r, ends r = true → Reads expr (e.chars ++ r) (e, r)

section

variable {e : Expr} {es : List Expr} {r : List Char} {closing : Char}

theorem Expr.ReadsAsOperand.reads (h : e.ReadsAsOperand) (hr : EndsOperand r) : Reads operand (e.chars ++ r) (e, r) :=
  h r (e, r) hr.endsWord (reads_nothing hr e)

theorem Expr.ReadsAsOperand.readsAsExpr (h : e.ReadsAsOperand) : e.ReadsAsExpr :=
  fun _ hr => reads_expr (h.reads (endsOperand_of_ends hr)) hr

theorem Expr.Operand.isPrimary (h : e.Operand) : e.isPrimary = true := by
  cases h <;> rfl

theorem Expr.Operand.operandText (h : e.Operand) (text : String) : e.operandText text = text := by
  rw [Expr.operandText, if_pos h.isPrimary]

theorem charsOfExprs_cons_cons (e e' : Expr) (es : List Expr) :
    charsOfExprs (e :: e' :: es) = e.chars ++ ',' :: ' ' :: charsOfExprs (e' :: es) := by
  show (commaList (e.render none :: e'.render none :: renderExprs (.within none) none es)).toList = _
  rw [commaList, String.intercalate_cons_cons, String.toList_append, String.toList_append, List.append_assoc]
  rfl

private theorem reads_exprs₁ (hclosing : closing ∈ [')', ']']) :
    ∀ {es : List Expr} {e : Expr}, (∀ a ∈ e :: es, a.ReadsAsExpr) →
      Reads (exprs₁ · closing) (charsOfExprs (e :: es) ++ closing :: r) (e :: es, r)
  | [], e, h => by
    have hall : ∀ closing ∈ [')', ']'], closing ≠ ',' ∧ ends [closing] = true := List.all_iff_forall_prop.1 (by decide)
    obtain ⟨hcomma, hends⟩ := hall closing hclosing
    exact reads_last hcomma (h e List.mem_cons_self _ hends)
  | e' :: es, e, h => by
    rw [charsOfExprs_cons_cons, List.append_assoc]
    exact reads_next (h e List.mem_cons_self _ rfl) (reads_exprs₁ hclosing fun a ha => h a (List.mem_cons_of_mem _ ha))

/-- A list of expressions is read up to its closing bracket. -/
theorem reads_charsOfExprs (hclosing : closing ∈ [')', ']']) (h : ∀ e ∈ es, e.ReadsAsExpr) (r : List Char) :
    Reads (exprs · closing) (charsOfExprs es ++ closing :: r) (es, r) := by
  cases es with
  | nil => exact reads_none hclosing r
  | cons e es => exact reads_exprs (reads_exprs₁ hclosing h)

end

/-! ### Texts -/

namespace Expr

variable {object : Expr}

theorem chars_ident (x : String) : (ident x).chars = x.toList := rfl

theorem chars_string (value : String) : (string value).chars = (quoted value).toList := rfl

theorem chars_number (text : String) : (number text).chars = text.toList := rfl

theorem chars_property (h : object.Operand) (name : String) (optional : Bool) :
    (property object name optional).chars =
      object.chars ++ (if optional then ['?', '.'] else ['.']) ++ name.toList := by
  show (object.operandText (object.render none) ++ (if optional then "?." else ".") ++ name).toList = _
  rw [h.operandText, String.toList_append, String.toList_append]
  cases optional <;> rfl

theorem chars_element (h : object.Operand) (argument : Expr) :
    (element object argument).chars = object.chars ++ '[' :: (argument.chars ++ [']']) := by
  show (object.operandText (object.render none) ++ bracketed (argument.render none)).toList = _
  rw [h.operandText, bracketed]
  simp only [String.toList_append]
  rfl

theorem chars_call (h : object.Operand) (arguments : List Expr) :
    (call object arguments).chars = object.chars ++ '(' :: (charsOfExprs arguments ++ [')']) := by
  show (object.operandText (object.render none) ++
    parenthesized (commaList (renderExprs (.within none) none arguments))).toList = _
  rw [h.operandText, parenthesized]
  simp only [String.toList_append]
  rfl

theorem chars_paren (inner : Expr) : (paren inner).chars = '(' :: (inner.chars ++ [')']) := by
  show (parenthesized (inner.render none)).toList = _
  rw [parenthesized]
  simp only [String.toList_append]
  rfl

theorem chars_array (elements : List Expr) : (array elements).chars = '[' :: (charsOfExprs elements ++ [']']) := by
  show (bracketed (commaList (renderExprs (.within none) none elements))).toList = _
  rw [bracketed]
  simp only [String.toList_append]
  rfl

theorem chars_unary_sign {c : Char} (hc : c ∈ prefixSigns) (e : Expr) :
    (unary (String.singleton c) e).chars = c :: e.chars := by
  have hall : ∀ c ∈ prefixSigns, (String.singleton c).toList.getLast?.any Char.isAlpha = false :=
    List.all_iff_forall_prop.1 (by decide)
  show (unaryText (String.singleton c) (e.render none)).toList = _
  rw [unaryText, hall c hc, if_neg Bool.false_ne_true, String.toList_append, String.toList_singleton]
  rfl

theorem chars_unary_word {word : String} (hword : word ∈ prefixWords) (e : Expr) :
    (unary word e).chars = word.toList ++ ' ' :: e.chars := by
  have hall : ∀ word ∈ prefixWords, word.toList.getLast?.any Char.isAlpha = true := by decide
  show (unaryText word (e.render none)).toList = _
  rw [unaryText, if_pos (hall word hword), String.toList_append, String.toList_append, List.append_assoc]
  rfl

theorem chars_binary (left : Expr) (operator : String) (right : Expr) :
    (binary left operator right).chars = left.chars ++ ' ' :: (operator.toList ++ ' ' :: right.chars) := by
  show (left.render none ++ " " ++ operator ++ " " ++ right.render none).toList = _
  simp only [String.toList_append, List.append_assoc]
  rfl

theorem chars_conditional (condition whenTrue whenFalse : Expr) :
    (conditional condition whenTrue whenFalse).chars =
      condition.chars ++ ' ' :: '?' :: ' ' :: (whenTrue.chars ++ ' ' :: ':' :: ' ' :: whenFalse.chars) := by
  show (condition.render none ++ " ? " ++ whenTrue.render none ++ " : " ++ whenFalse.render none).toList = _
  simp only [String.toList_append, List.append_assoc]
  rfl

end Expr

/-- An operator before one operand is a sign or a word. -/
theorem mem_prefixOperators {operator : String} (h : operator ∈ prefixOperators) :
    (∃ c ∈ prefixSigns, String.singleton c = operator) ∨ operator ∈ prefixWords := by
  have hsplit : prefixOperators = prefixSigns.map String.singleton ++ prefixWords := by decide
  rw [hsplit, List.mem_append, List.mem_map] at h
  exact h

mutual

/-- An operand is read innermost first: its object before what is read of it. -/
theorem Expr.Operand.reads {e : Expr} : e.Operand → e.ReadsAsOperand
  | .ident hx => fun r out hr hout => by
    rw [chars_ident]
    exact reads_operand (reads_ident hx hr) hout
  | .string value => fun r out _ hout => by
    rw [chars_string]
    exact reads_operand (reads_string value r) hout
  | .number htext => fun r out hr hout => by
    rw [chars_number]
    exact reads_operand (reads_number htext hr) hout
  | .property hobject hname false => fun r out hr hout => by
    rw [chars_property hobject, List.append_assoc, List.append_assoc]
    exact hobject.reads _ out (endsWord_cons (by decide)) (reads_property hname hr hout)
  | .property hobject hname true => fun r out hr hout => by
    rw [chars_property hobject, List.append_assoc, List.append_assoc]
    exact hobject.reads _ out (endsWord_cons (by decide)) (reads_optional hname hr hout)
  | .element hobject hargument => fun r out _ hout => by
    rw [chars_element hobject, List.append_assoc, List.cons_append, List.append_assoc]
    exact hobject.reads _ out (endsWord_cons (by decide)) (reads_element (hargument.reads _ rfl) hout)
  | .call hcallee harguments => fun r out _ hout => by
    rw [chars_call hcallee, List.append_assoc, List.cons_append, List.append_assoc]
    have hlist := reads_charsOfExprs (show ')' ∈ _ by decide) (fun a ha => (harguments a ha).reads) r
    exact hcallee.reads _ out (endsWord_cons (by decide)) (reads_call hlist hout)
  | .paren hinner => fun r out _ hout => by
    rw [chars_paren, List.cons_append, List.append_assoc]
    exact reads_operand (reads_paren (hinner.reads _ rfl)) hout
  | .array helements => fun r out _ hout => by
    rw [chars_array, List.cons_append, List.append_assoc]
    have hlist := reads_charsOfExprs (show ']' ∈ _ by decide) (fun a ha => (helements a ha).reads) r
    exact reads_operand (reads_array hlist) hout

/-- An expression with operands in place is read where it ends. -/
theorem Expr.Parenthesized.reads {e : Expr} : e.Parenthesized → e.ReadsAsExpr
  | .operand he => he.reads.readsAsExpr
  | @Expr.Parenthesized.unary operator operand hoperator he => fun r hr => by
    have hoperand := he.reads.reads (endsOperand_of_ends hr)
    rcases mem_prefixOperators hoperator with ⟨c, hc, rfl⟩ | hword
    · rw [chars_unary_sign hc]
      exact reads_sign hc hoperand
    · have hall : ∀ word ∈ prefixWords, isName word = true := by decide
      have hblank : EndsOperand (' ' :: (operand.chars ++ r)) := endsOperand_cons (by decide)
      have hname := reads_operand (reads_ident (hall operator hword) hblank.endsWord) (reads_nothing hblank _)
      rw [chars_unary_word hword, List.append_assoc, List.cons_append]
      exact reads_word hword hname hoperand hr
  | .binary hleft hoperator hright => fun r hr => by
    rw [chars_binary, List.append_assoc, List.cons_append, List.append_assoc]
    have hlast := hright.reads.reads (endsOperand_of_ends hr)
    exact reads_binary hoperator (hleft.reads.reads (endsOperand_cons (by decide))) hlast
  | .conditional hcondition htrue hfalse => fun r hr => by
    rw [chars_conditional]
    simp only [List.append_assoc, List.cons_append]
    have hlast := hfalse.reads.reads (endsOperand_of_ends hr)
    exact reads_conditional (hcondition.reads.reads (endsOperand_cons (by decide)))
      (htrue.reads.reads (endsOperand_cons (by decide))) hlast

end

/-- Expressions with operands in place are written alike only if they are equal. -/
theorem Expr.Parenthesized.render_inj {a b : Expr} (ha : a.Parenthesized) (hb : b.Parenthesized) :
    a.render none = b.render none ↔ a = b := by
  refine ⟨fun h => ?_, congrArg _⟩
  obtain ⟨n, hn⟩ := ha.reads [] rfl
  obtain ⟨m, hm⟩ := hb.reads [] rfl
  have hchars : a.chars = b.chars := congrArg String.toList h
  have hread := hn (max n m) (Nat.le_max_left n m)
  rw [hchars, hm (max n m) (Nat.le_max_right n m)] at hread
  exact (congrArg Prod.fst (Option.some.inj hread)).symm

/-- A comma between arguments and one in a string. -/
theorem Expr.Parenthesized.render_inj_comma :
    let a : Expr := .binary (.call (.property (.ident "typeof") "f" true) [.string "a, \"b"]) "in" (.array [])
    let b : Expr := .binary (.call (.property (.ident "typeof") "f" true) [.string "a", .ident "b"]) "in" (.array [])
    (a.Parenthesized ∧ b.Parenthesized) ∧ (a.render none = b.render none ↔ a = b) ∧ a.render none ≠ b.render none := by
  intro a b
  have hname : (Expr.property (.ident "typeof") "f" true).Operand :=
    .property (.ident (isName_of_isAsciiName (by decide))) (isName_of_isAsciiName (by decide)) true
  have hlist : (Expr.array []).Operand := .array nofun
  have ha : a.Parenthesized := by
    refine .binary (.call hname fun e he => ?_) (by decide) hlist
    obtain rfl := List.mem_singleton.1 he
    exact .operand (.string _)
  have hb : b.Parenthesized := by
    refine .binary (.call hname fun e he => ?_) (by decide) hlist
    rcases List.mem_cons.1 he with rfl | he
    · exact .operand (.string _)
    · obtain rfl := List.mem_singleton.1 he
      exact .operand (.ident (isName_of_isAsciiName (by decide)))
  have hinj := render_inj ha hb
  have hne : a ≠ b := by simp [a, b]
  exact ⟨⟨ha, hb⟩, hinj, fun h => hne (hinj.1 h)⟩

end ViewTemplate
