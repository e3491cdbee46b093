import Mathlib.Data.Bool.AllAny
import ViewTemplate.Proofs.Reading.Text
import ViewTemplate.Syntax.Shape

/-!
# A reader of expressions

The reader takes an operand and then, as long as there is one, a property, an element or a call of it; behind an operand
it takes an operator with its further operands.  An operator that is a word reads as a name first, so what is behind it
is tried as its operand before it is tried as an operator.

The reader is told how many calls may lie within each other.  A text is read if it is with every number that is large
enough (`Reader.Reads`), so what is read of the parts of a text can be put together without counting.
-/

namespace ViewTemplate

/-! ### Operators -/

/-- The operators before one operand. -/
def prefixOperators : List String :=
  ["!", "-", "+", "~", "typeof", "void"]

/-- The operators between two operands. -/
def infixOperators : List String :=
  ["+", "-", "*", "/", "%", "**", "<", ">", "<=", ">=", "in", "instanceof", "==", "!=", "===", "!==", "&&", "||", "??",
    "&", "|", "^", "<<", ">>", ">>>"]

/-! ### The reader -/

namespace Reader

open Text

/-- The operators before one operand that are signs. -/
def prefixSigns : List Char :=
  ['!', '-', '+', '~']

/-- The operators before one operand that are words. -/
def prefixWords : List String :=
  ["typeof", "void"]

/-- What is left of the text behind the character it begins with. -/
def skip (c : Char) : List Char → Option (List Char)
  | [] => none
  | d :: cs => if d = c then some cs else none

/-- An expression ends here. -/
def ends (cs : List Char) : Bool :=
  cs.head?.all fun c => c = ')' || c = ']' || c = ','

/-- The operand behind a word that is an operator, if the expression ends there. -/
def wordOperand (operand : List Char → Option (Expr × List Char)) (e : Expr) (cs : List Char) :
    Option (Expr × List Char) := do
  let word ← e.ident?
  let (v, cs) ← operand cs
  if word ∈ prefixWords && ends cs then some (.unary word v, cs) else none

/-- What is behind the first operand `e` of an operator and a blank. -/
def infixOperands (operand : List Char → Option (Expr × List Char)) (e : Expr) (cs : List Char) :
    Option (Expr × List Char) := do
  let (operator, cs) := readWhile (· != ' ') cs
  let cs ← skip ' ' cs
  let (v, cs) ← operand cs
  if operator = "?" then
    let cs ← (skip ' ' cs).bind (skip ':') |>.bind (skip ' ')
    let (w, cs) ← operand cs
    return (.conditional e v w, cs)
  else return (.binary e operator v, cs)

/-- What is behind the operand `e`: an operator after a blank, or nothing of the expression. -/
def afterOperand (operand : List Char → Option (Expr × List Char)) (e : Expr) (cs : List Char) :
    Option (Expr × List Char) :=
  match skip ' ' cs with
  | some cs => (wordOperand operand e cs).or (infixOperands operand e cs)
  | none => some (e, cs)

/-- The operand behind a sign. -/
def signOperand (operand : List Char → Option (Expr × List Char)) : List Char → Option (Expr × List Char)
  | [] => none
  | c :: cs => if c ∈ prefixSigns then (operand cs).map fun (e, cs) => (.unary (String.singleton c) e, cs) else none

mutual

/-- The expression that the text begins with. -/
def expr : Nat → List Char → Option (Expr × List Char)
  | 0, _ => none
  | n + 1, cs =>
    match operand n cs with
    | some (e, cs) => afterOperand (operand n) e cs
    | none => signOperand (operand n) cs

/-- The operand that the text begins with. -/
def operand : Nat → List Char → Option (Expr × List Char)
  | 0, _ => none
  | n + 1, cs => (atom n cs).bind fun (e, cs) => accesses n e cs

/-- The operand that the text begins with, without accesses and calls. -/
def atom : Nat → List Char → Option (Expr × List Char)
  | 0, _ => none
  | _ + 1, [] => none
  | n + 1, c :: cs =>
    if c = '(' then do
      let (e, cs) ← expr n cs
      let cs ← skip ')' cs
      return (.paren e, cs)
    else if c = '[' then (exprs n ']' cs).map fun (es, cs) => (.array es, cs)
    else if c = '"' then (readString cs).map fun (value, cs) => (.string (String.ofList value), cs)
    else if c.isDigit then
      let (text, cs) := readWhile Char.isDigit (c :: cs)
      some (.number text, cs)
    else (readName (c :: cs)).map fun (x, cs) => (.ident x, cs)

/-- The operand `e` with the accesses and calls that the text begins with. -/
def accesses : Nat → Expr → List Char → Option (Expr × List Char)
  | 0, _, _ => none
  | _ + 1, e, [] => some (e, [])
  | n + 1, e, c :: cs =>
    if c = '.' then do
      let (name, cs) ← readName cs
      accesses n (.property e name false) cs
    else if c = '?' then do
      let cs ← skip '.' cs
      let (name, cs) ← readName cs
      accesses n (.property e name true) cs
    else if c = '[' then do
      let (argument, cs) ← expr n cs
      let cs ← skip ']' cs
      accesses n (.element e argument) cs
    else if c = '(' then do
      let (arguments, cs) ← exprs n ')' cs
      accesses n (.call e arguments) cs
    else some (e, c :: cs)

/-- The expressions up to the closing bracket. -/
def exprs : Nat → Char → List Char → Option (List Expr × List Char)
  | 0, _, _ => none
  | n + 1, closing, cs => (exprs₁ n closing cs).or ((skip closing cs).map fun cs => ([], cs))

/-- One expression or more up to the closing bracket. -/
def exprs₁ : Nat → Char → List Char → Option (List Expr × List Char)
  | 0, _, _ => none
  | n + 1, closing, cs => do
    let (e, cs) ← expr n cs
    match skip ',' cs with
    | some cs => do
      let cs ← skip ' ' cs
      let (es, cs) ← exprs₁ n closing cs
      return (e :: es, cs)
    | none => do
      let cs ← skip closing cs
      return ([e], cs)

end

/-- Whatever number of calls within each other is allowed, as long as it is large enough, this is read. -/
def Reads {α : Type} (read : Nat → List Char → Option (α × List Char)) (cs : List Char) (out : α × List Char) : Prop :=
  ∃ n, ∀ m, n ≤ m → read m cs = some out

namespace Reads

variable {α β γ : Type} {f : Nat → List Char → Option (α × List Char)} {g : Nat → List Char → Option (β × List Char)}
  {h : Nat → List Char → Option (γ × List Char)} {cs ds es : List Char} {a : α × List Char} {b : β × List Char}
  {c : γ × List Char}

/-- One call more. -/
theorem succ (hf : Reads (fun n => f (n + 1)) cs a) : Reads f cs a := by
  obtain ⟨n, hn⟩ := hf
  refine ⟨n + 1, fun m hm => ?_⟩
  obtain ⟨k, rfl⟩ : ∃ k, m = k + 1 := ⟨m - 1, by omega⟩
  exact hn k (by omega)

theorem always (hf : ∀ n, f n cs = some a) : Reads f cs a :=
  ⟨0, fun n _ => hf n⟩

theorem imp (hf : Reads f cs a) (himp : ∀ n, f n cs = some a → g n ds = some b) : Reads g ds b := by
  obtain ⟨n, hn⟩ := hf
  exact ⟨n, fun m hm => himp m (hn m hm)⟩

theorem imp₂ (hf : Reads f cs a) (hg : Reads g ds b)
    (himp : ∀ n, f n cs = some a → g n ds = some b → h n es = some c) : Reads h es c := by
  obtain ⟨n, hn⟩ := hf
  obtain ⟨m, hm⟩ := hg
  exact ⟨max n m, fun k hk => himp k (hn k (by omega)) (hm k (by omega))⟩

end Reads

variable {cs ds r : List Char} {e : Expr} {es : List Expr} {x name text : String} {c : Char} {out : Expr × List Char}

/-! ### Reading operands -/

/-- A character that an operand can begin with. -/
def startsOperand (c : Char) : Bool :=
  c = '(' || c = '[' || c = '"' || c.isDigit || isNameStart c

theorem atom_eq_none (hc : startsOperand c = false) : ∀ n, atom n (c :: cs) = none
  | 0 => rfl
  | n + 1 => by
    simp only [startsOperand, Bool.or_eq_false_iff, decide_eq_false_iff_not] at hc
    obtain ⟨⟨⟨⟨hparen, hbracket⟩, hquote⟩, hdigit⟩, hname⟩ := hc
    simp [atom, hparen, hbracket, hquote, hdigit, readName, hname]

theorem operand_eq_none (hc : startsOperand c = false) : ∀ n, operand n (c :: cs) = none
  | 0 => rfl
  | n + 1 => by rw [operand, atom_eq_none hc, Option.bind_none]

/-- What begins with a letter, a digit, an underscore or a dollar sign is a number or a name. -/
theorem atom_word (hc : isNamePart c = true) (cs : List Char) (n : Nat) :
    atom (n + 1) (c :: cs) =
      if c.isDigit then some (.number (readWhile Char.isDigit (c :: cs)).1, (readWhile Char.isDigit (c :: cs)).2)
      else (readName (c :: cs)).map fun (x, cs) => (.ident x, cs) := by
  have hne : ∀ d, isNamePart d = false → c ≠ d := fun d hd h => Bool.eq_false_iff.1 hd (h ▸ hc)
  rw [atom, if_neg (hne _ (by decide)), if_neg (hne _ (by decide)), if_neg (hne _ (by decide))]

theorem atom_ident (hx : isName x = true) (hr : EndsWord r) (n : Nat) :
    atom (n + 1) (x.toList ++ r) = some (.ident x, r) := by
  obtain ⟨c, cs, hcs, hstart⟩ := exists_cons_of_isName hx
  have hdigit : ¬ c.isDigit = true := fun hd => Bool.eq_false_iff.1 (isNameStart_of_isDigit hd) hstart
  have hname := readName_append hx hr
  rw [hcs, List.cons_append] at hname ⊢
  rw [atom_word (isNamePart_of_isNameStart hstart), if_neg hdigit, hname, Option.map_some]

theorem reads_ident (hx : isName x = true) (hr : EndsWord r) : Reads atom (x.toList ++ r) (.ident x, r) :=
  .succ (.always (atom_ident hx hr))

theorem reads_number (htext : isNumeral text = true) (hr : EndsWord r) :
    Reads atom (text.toList ++ r) (.number text, r) := by
  obtain ⟨c, cs, hcs, hdigit⟩ := exists_cons_of_isNumeral htext
  have hnumeral := readNumeral_append htext hr
  rw [hcs, List.cons_append] at hnumeral ⊢
  refine .succ (.always fun n => ?_)
  rw [atom_word (isNamePart_of_isDigit hdigit), if_pos hdigit, hnumeral]

theorem reads_string (value : String) (r : List Char) : Reads atom ((quoted value).toList ++ r) (.string value, r) := by
  refine .succ (.always fun n => ?_)
  rw [toList_quoted_append, atom, if_neg (by decide), if_neg (by decide), if_pos rfl, readString_flatMap_escape, Option.map_some]
  simp only [String.ofList_toList]

theorem reads_paren (h : Reads expr cs (e, ')' :: r)) : Reads atom ('(' :: cs) (.paren e, r) := by
  refine .succ (h.imp fun n hn => ?_)
  rw [atom, if_pos rfl, hn]
  rfl

theorem reads_array (h : Reads (exprs · ']') cs (es, r)) : Reads atom ('[' :: cs) (.array es, r) := by
  refine .succ (h.imp fun n hn => ?_)
  rw [atom, if_neg (by decide), if_pos rfl, hn]
  rfl

theorem reads_operand (h : Reads atom cs (e, ds)) (haccesses : Reads (accesses · e) ds out) : Reads operand cs out := by
  refine .succ (h.imp₂ haccesses fun n hn hout => ?_)
  rw [operand, hn]
  exact hout

/-! ### Reading accesses and calls -/

/-- The text does not go on with an access or a call. -/
def EndsOperand (cs : List Char) : Prop :=
  ∀ c ∈ cs.head?, c ∈ [' ', ')', ']', ',']

theorem endsOperand_cons (hc : c ∈ [' ', ')', ']', ',']) : EndsOperand (c :: r) := by
  rintro _ ⟨⟩
  exact hc

theorem EndsOperand.endsWord (h : EndsOperand r) : EndsWord r := by
  have hall : ∀ c ∈ [' ', ')', ']', ','], isNamePart c = false := List.all_iff_forall_prop.1 (by decide)
  exact fun c hc => hall c (h c hc)

theorem accesses_of_endsOperand (hr : EndsOperand r) (e : Expr) (n : Nat) : accesses (n + 1) e r = some (e, r) := by
  cases r with
  | nil => rfl
  | cons c r =>
    have hall : ∀ c ∈ [' ', ')', ']', ','], c ≠ '.' ∧ c ≠ '?' ∧ c ≠ '[' ∧ c ≠ '(' :=
      List.all_iff_forall_prop.1 (by decide)
    obtain ⟨hdot, hquestion, hbracket, hparen⟩ := hall c (hr c rfl)
    simp only [accesses, if_neg hdot, if_neg hquestion, if_neg hbracket, if_neg hparen]

theorem reads_nothing (hr : EndsOperand r) (e : Expr) : Reads (accesses · e) r (e, r) :=
  .succ (.always (accesses_of_endsOperand hr e))

theorem reads_property (hname : isName name = true) (hr : EndsWord r)
    (h : Reads (accesses · (.property e name false)) r out) :
    Reads (accesses · e) ('.' :: (name.toList ++ r)) out := by
  refine .succ (h.imp fun n hn => ?_)
  rw [accesses, if_pos rfl, readName_append hname hr]
  exact hn

theorem reads_optional (hname : isName name = true) (hr : EndsWord r)
    (h : Reads (accesses · (.property e name true)) r out) :
    Reads (accesses · e) ('?' :: '.' :: (name.toList ++ r)) out := by
  refine .succ (h.imp fun n hn => ?_)
  rw [accesses, if_neg (by decide), if_pos rfl, skip, if_pos rfl]
  show (readName (name.toList ++ r)).bind _ = _
  rw [readName_append hname hr]
  exact hn

theorem reads_element {argument : Expr} (h : Reads expr cs (argument, ']' :: r))
    (haccesses : Reads (accesses · (.element e argument)) r out) : Reads (accesses · e) ('[' :: cs) out := by
  refine .succ (h.imp₂ haccesses fun n hn hout => ?_)
  rw [accesses, if_neg (by decide), if_neg (by decide), if_pos rfl, hn]
  exact hout

theorem reads_call {arguments : List Expr} (h : Reads (exprs · ')') cs (arguments, r))
    (haccesses : Reads (accesses · (.call e arguments)) r out) : Reads (accesses · e) ('(' :: cs) out := by
  refine .succ (h.imp₂ haccesses fun n hn hout => ?_)
  rw [accesses, if_neg (by decide), if_neg (by decide), if_neg (by decide), if_pos rfl, hn]
  exact hout

/-! ### Reading operators -/

theorem endsOperand_of_ends (h : ends r = true) : EndsOperand r := by
  intro c hc
  rw [ends, show r.head? = some c from hc, Option.all_some] at h
  simp only [Bool.or_eq_true, decide_eq_true_eq] at h
  simp only [List.mem_cons, List.not_mem_nil, or_false]
  exact Or.inr (or_assoc.1 h)

/-- Where an expression ends, no operator follows. -/
theorem afterOperand_of_ends {op : List Char → Option (Expr × List Char)} (h : ends r = true) (e : Expr) :
    afterOperand op e r = some (e, r) := by
  have hskip : skip ' ' r = none := by
    cases r with
    | nil => rfl
    | cons c r =>
      have hc : c ≠ ' ' := by
        rintro rfl
        exact absurd (show ends [' '] = true from h) (by decide)
      rw [skip, if_neg hc]
  rw [afterOperand, hskip]

theorem reads_expr (h : Reads operand cs (e, r)) (hr : ends r = true) : Reads expr cs (e, r) := by
  refine .succ (h.imp fun n hn => ?_)
  rw [expr, hn]
  exact afterOperand_of_ends hr e

theorem reads_sign (hc : c ∈ prefixSigns) (h : Reads operand cs (e, r)) :
    Reads expr (c :: cs) (.unary (String.singleton c) e, r) := by
  have hall : ∀ c ∈ prefixSigns, startsOperand c = false := List.all_iff_forall_prop.1 (by decide)
  refine .succ (h.imp fun n hn => ?_)
  rw [expr, operand_eq_none (hall c hc)]
  show signOperand (operand n) (c :: cs) = _
  rw [signOperand, if_pos hc, hn, Option.map_some]

theorem reads_word {word : String} (hword : word ∈ prefixWords) (h : Reads operand cs (.ident word, ' ' :: ds))
    (hoperand : Reads operand ds (e, r)) (hr : ends r = true) : Reads expr cs (.unary word e, r) := by
  refine .succ (h.imp₂ hoperand fun n hn hout => ?_)
  have hwordOperand : wordOperand (operand n) (.ident word) ds = some (.unary word e, r) := by
    simp [wordOperand, Expr.ident?, hout, hword, hr]
  rw [expr, hn]
  show (wordOperand (operand n) (.ident word) ds).or _ = _
  rw [hwordOperand, Option.some_or]

/-- A name before a blank is an operand, if enough calls are allowed. -/
theorem operand_ident (hx : isName x = true) (n : Nat) :
    operand n (x.toList ++ ' ' :: cs) = none ∨ operand n (x.toList ++ ' ' :: cs) = some (.ident x, ' ' :: cs) := by
  have hend : EndsOperand (' ' :: cs) := endsOperand_cons (by decide)
  match n with
  | 0 | 1 => exact Or.inl rfl
  | n + 2 =>
    refine Or.inr ?_
    rw [operand, atom_ident hx hend.endsWord]
    exact accesses_of_endsOperand hend _ n

/-- An operator between operands, or the first sign of a conditional, is no operand at which an expression ends. -/
theorem wordOperand_eq_none {operator : String} (h : operator ∈ "?" :: infixOperators) (e : Expr) (n : Nat) :
    wordOperand (operand n) e (operator.toList ++ ' ' :: cs) = none := by
  have hall : ∀ operator ∈ "?" :: infixOperators,
      isName operator = true ∨ operator.toList.head?.any (!startsOperand ·) = true := by decide
  have hoperand : operand n (operator.toList ++ ' ' :: cs) = none ∨
      operand n (operator.toList ++ ' ' :: cs) = some (.ident operator, ' ' :: cs) := by
    rcases hall operator h with hname | hsign
    · exact operand_ident hname n
    · obtain ⟨c, hc, hstart⟩ := (Option.any_eq_true _ _).1 hsign
      obtain ⟨ds, hds⟩ := List.head?_eq_some_iff.1 hc
      rw [hds, List.cons_append]
      exact Or.inl (operand_eq_none (by simpa using hstart) n)
  rw [wordOperand]
  cases e.ident? with
  | none => rfl
  | some word =>
    rcases hoperand with hnone | hname
    · rw [hnone]
      rfl
    · rw [hname]
      exact if_neg (by simp [ends])

theorem readWhile_operator {operator : String} (h : operator ∈ "?" :: infixOperators) (cs : List Char) :
    readWhile (· != ' ') (operator.toList ++ ' ' :: cs) = (operator, ' ' :: cs) := by
  have hall : ∀ operator ∈ "?" :: infixOperators, operator.toList.all (· != ' ') = true := by decide
  exact readWhile_append (List.all_eq_true.1 (hall operator h)) (by rintro _ ⟨⟩; rfl)

/-- Behind an operand with an operator, the operator is read with its further operands. -/
theorem afterOperand_operator {operator : String} (h : operator ∈ "?" :: infixOperators) (e : Expr) (n : Nat) :
    afterOperand (operand n) e (' ' :: (operator.toList ++ ' ' :: cs)) =
      infixOperands (operand n) e (operator.toList ++ ' ' :: cs) := by
  show (wordOperand (operand n) e _).or _ = _
  rw [wordOperand_eq_none h, Option.none_or]

theorem reads_binary {left right : Expr} {operator : String} (hoperator : operator ∈ infixOperators)
    (hleft : Reads operand cs (left, ' ' :: (operator.toList ++ ' ' :: ds))) (hright : Reads operand ds (right, r)) :
    Reads expr cs (.binary left operator right, r) := by
  have hmem : operator ∈ "?" :: infixOperators := List.mem_cons_of_mem _ hoperator
  have hne : operator ≠ "?" := by
    rintro rfl
    exact absurd hoperator (by decide)
  refine .succ (hleft.imp₂ hright fun n hl hr => ?_)
  rw [expr, hl]
  show afterOperand (operand n) left _ = _
  rw [afterOperand_operator hmem, infixOperands, readWhile_operator hmem]
  show (operand n ds).bind _ = _
  rw [hr]
  exact if_neg hne

theorem reads_conditional {condition whenTrue whenFalse : Expr} {ds' : List Char}
    (hcondition : Reads operand cs (condition, ' ' :: '?' :: ' ' :: ds))
    (htrue : Reads operand ds (whenTrue, ' ' :: ':' :: ' ' :: ds')) (hfalse : Reads operand ds' (whenFalse, r)) :
    Reads expr cs (.conditional condition whenTrue whenFalse, r) := by
  have hmem : "?" ∈ "?" :: infixOperators := List.mem_cons_self
  have hafter : Reads (fun n => afterOperand (operand n) condition) (' ' :: '?' :: ' ' :: ds)
      (.conditional condition whenTrue whenFalse, r) := by
    refine htrue.imp₂ hfalse fun n ht hf => ?_
    show afterOperand (operand n) condition (' ' :: ("?".toList ++ ' ' :: ds)) = _
    rw [afterOperand_operator hmem, infixOperands, readWhile_operator hmem]
    show (operand n ds).bind _ = _
    rw [ht]
    show (operand n ds').bind _ = _
    rw [hf]
    rfl
  refine .succ (hcondition.imp₂ hafter fun n hc ha => ?_)
  rw [expr, hc]
  exact ha

/-! ### Reading lists -/

theorem reads_last {closing : Char} (hclosing : closing ≠ ',') (h : Reads expr cs (e, closing :: r)) :
    Reads (exprs₁ · closing) cs ([e], r) := by
  refine .succ (h.imp fun n hn => ?_)
  rw [exprs₁, hn]
  show (match skip ',' (closing :: r) with | some _ => _ | none => _) = _
  rw [skip, if_neg hclosing]
  show (skip closing (closing :: r)).bind _ = _
  rw [skip, if_pos rfl]
  rfl

theorem reads_next {closing : Char} (h : Reads expr cs (e, ',' :: ' ' :: ds))
    (hrest : Reads (exprs₁ · closing) ds (es, r)) : Reads (exprs₁ · closing) cs (e :: es, r) := by
  refine .succ (h.imp₂ hrest fun n hn hes => ?_)
  rw [exprs₁, hn]
  show (exprs₁ n closing ds).bind _ = _
  rw [hes]
  rfl

theorem reads_exprs {closing : Char} (h : Reads (exprs₁ · closing) cs (es, r)) : Reads (exprs · closing) cs (es, r) := by
  refine .succ (h.imp fun n hn => ?_)
  rw [exprs, hn, Option.some_or]

theorem reads_none {closing : Char} (h : closing ∈ [')', ']']) (r : List Char) :
    Reads (exprs · closing) (closing :: r) ([], r) := by
  have hall : ∀ closing ∈ [')', ']'], startsOperand closing = false ∧ closing ∉ prefixSigns :=
    List.all_iff_forall_prop.1 (by decide)
  obtain ⟨hstarts, hsign⟩ := hall closing h
  have hexpr : ∀ n, expr n (closing :: r) = none
    | 0 => rfl
    | n + 1 => by
      rw [expr, operand_eq_none hstarts]
      exact if_neg hsign
  refine .succ (.always fun n => ?_)
  have hexprs : exprs₁ n closing (closing :: r) = none := by
    cases n with
    | zero => rfl
    | succ n => rw [exprs₁, hexpr]; rfl
  rw [exprs, hexprs, skip, if_pos rfl]
  rfl

end Reader

end ViewTemplate
