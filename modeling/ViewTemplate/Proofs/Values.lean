import ViewTemplate.Proofs.Destructuring

/-!
# The values that destructuring assigns

Reading a pattern gives every name an expression over the value that is taken apart.  `Expr.value` evaluates such
expressions in an environment, and `Pattern.assigned` is what taking a value apart does with the names at run time.
Both agree name by name (`Pattern.value_readings`), so the map of a pattern holds, for the names that are bound outside
the rest, the values that they are assigned last (`Pattern.value_variableMap`).
-/

namespace ViewTemplate

/-! ### Values -/

/-- A value at run time. -/
inductive Value where
  | undefined
  | object (properties : List (String × Value))
  | array (items : List Value)
  /-- a value in which there is nothing to read -/
  | plain (text : String)

namespace Value

/-- The items of an array under their positions, from `start` on. -/
def indexed (start : Nat) : List Value → List (String × Value)
  | [] => []
  | item :: items => (toString start, item) :: indexed (start + 1) items

/-- What a value has under a key; reading anything missing gives `undefined`. -/
def get (key : String) : Value → Value
  | .object properties => (properties.lookup key).getD .undefined
  | .array items =>
    ((indexed 0 items).lookup key).getD (if key = "length" then .plain (toString items.length) else .undefined)
  | .undefined | .plain _ => .undefined

/-- What a value has at a position: an item of an array, and of anything else what is under that number. -/
def item (index : Nat) : Value → Value
  | .array items => items[index]?.getD .undefined
  | v => v.get (toString index)

private theorem lookup_indexed (items : List Value) (start index : Nat) :
    (indexed start items).lookup (toString (start + index)) = items[index]? := by
  induction items generalizing start index with
  | nil => simp [indexed]
  | cons item items ih =>
    rw [indexed, lookup_cons_ite]
    cases index with
    | zero => simp
    | succ index =>
      have hne : toString (start + (index + 1)) ≠ toString start := by
        intro h
        -- numerals read back as their numbers
        have hnumbers := congrArg (fun text : String => Nat.ofDigitChars 10 text.toList 0) h
        simp at hnumbers
      have hplace : start + (index + 1) = start + 1 + index := by omega
      rw [if_neg hne, hplace, ih, List.getElem?_cons_succ]

/-- The positions of an array are the keys of its items. -/
theorem get_toString (index : Nat) (v : Value) : v.get (toString index) = v.item index := by
  cases v with
  | array items =>
    have hlookup := lookup_indexed items 0 index
    have hlength : toString index ≠ "length" := by
      intro h
      rw [Nat.toString_eq_ofList_toDigits] at h
      have hletter : 'l' ∈ Nat.toDigits 10 index := by
        have hchars := congrArg String.toList h
        rw [String.toList_ofList] at hchars
        simp [hchars]
      exact absurd (Nat.isDigit_of_mem_toDigits (by decide) (by decide) hletter) (by decide)
    rw [Nat.zero_add] at hlookup
    rw [get, item, hlookup, if_neg hlength]
  | _ => rfl

end Value

/-! ### Evaluation -/

/-- What is known when an expression is evaluated. -/
structure Environment where
  /-- what names stand for -/
  names : String → Value
  /-- the values of expressions that evaluation does not take apart -/
  others : Expr → Value

/-- The value of an expression.  Evaluation goes through names, parentheses, keys that are written out and the test for
`undefined`; the environment gives the values of all other expressions. -/
def Expr.value (env : Environment) : Expr → Value
  | .ident x => if x = "undefined" then .undefined else env.names x
  | .paren inner => inner.value env
  | .property base key _ => (base.value env).get key
  | .element base (.string key) | .element base (.number key) => (base.value env).get key
  | .conditional (.binary left operator right) whenTrue whenFalse =>
    if operator = "!==" ∧ right.ident? = some "undefined" then
      match left.value env with
      | .undefined => whenFalse.value env
      | _ => whenTrue.value env
    else env.others (.conditional (.binary left operator right) whenTrue whenFalse)
  | e => env.others e

/-! ### Taking values apart -/

/-- The value, or that of the default where it is undefined. -/
def Value.orElse (env : Environment) (v : Value) (fallback : Option Expr) : Value :=
  match v, fallback with
  | .undefined, some fallback => fallback.value env
  | v, _ => v

/-- The part of a value that the binding at `index` takes, with its default: none for the rest, and none for a property
without a key. -/
def Binding.part? (env : Environment) (kind : PatternKind) (index : Nat) (v : Value) (b : Binding) : Option Value :=
  if b.rest then none
  else
    match kind with
    | .array => some ((v.item index).orElse env b.fallback)
    | .object => b.source?.map fun key => (v.get key).orElse env b.fallback

mutual

/-- What taking `v` apart assigns to the names of a pattern outside the rest, in source order. -/
def Pattern.assigned (env : Environment) (v : Value) : Pattern → List (String × Value)
  | ⟨kind, elements⟩ => bindingsAssigned env kind v 0 elements
termination_by structural p => p

/-- What the bindings from `index` on are assigned. -/
def bindingsAssigned (env : Environment) (kind : PatternKind) (v : Value) (index : Nat) :
    List Binding → List (String × Value)
  | [] => []
  | b :: bs => b.assigned env kind v index ++ bindingsAssigned env kind v (index + 1) bs
termination_by structural bs => bs

/-- What the binding at `index` is assigned. -/
def Binding.assigned (env : Environment) (kind : PatternKind) (v : Value) (index : Nat) :
    Binding → List (String × Value)
  | ⟨rest, key, target, fallback⟩ =>
    match Binding.part? env kind index v ⟨rest, key, target, fallback⟩ with
    | none => []
    | some part => target.assigned env part
termination_by structural b => b

/-- What a target is assigned. -/
def Target.assigned (env : Environment) (v : Value) : Target → List (String × Value)
  | .name x => [(x, v)]
  | .pattern p => p.assigned env v
termination_by structural t => t

end

/-! ### Reading and taking apart agree -/

section

variable (env : Environment)

theorem Expr.value_readKey (base : Expr) (key : String) : (base.readKey key).value env = (base.value env).get key := by
  rw [readKey]
  split <;> rw [value]

theorem Expr.value_readIndex (base : Expr) (index : Nat) :
    (base.readIndex index).value env = (base.value env).item index := by
  rw [readIndex, value, Value.get_toString]

theorem Expr.value_orElse (e : Expr) (fallback : Option Expr) :
    (e.orElse fallback).value env = (e.value env).orElse env fallback := by
  cases fallback with
  | none => cases h : e.value env <;> simp [orElse, Value.orElse, h]
  | some fallback => cases h : e.value env <;> simp [orElse, value, ident?, Value.orElse, h]

/-- Parentheses around a conditional do not change its value. -/
theorem Target.value_baseOf (t : Target) (e : Expr) : (t.baseOf e).value env = e.value env := by
  cases t with
  | name x => rfl
  | pattern p =>
    rw [baseOf]
    split
    · rw [Expr.value]
    · rfl

/-- What a binding reads is what it takes. -/
theorem Binding.value_read? (kind : PatternKind) (index : Nat) (base : Expr) (b : Binding) :
    (b.read? kind index base).map (·.value env) = b.part? env kind index (base.value env) := by
  unfold read? part?
  cases b.rest with
  | true => rfl
  | false =>
    cases kind with
    | array => simp [Expr.value_orElse, Expr.value_readIndex]
    | object => simp [Function.comp_def, Expr.value_orElse, Expr.value_readKey]

mutual

/-- Evaluating what the names of a pattern stand for gives what they are assigned, name by name. -/
theorem Pattern.value_readings (base : Expr) : ∀ p : Pattern,
    (p.readings (some base)).map (Prod.map id (·.value env)) = p.assigned env (base.value env)
  | ⟨kind, elements⟩ => by
    rw [Pattern.readings, Pattern.assigned, bindingReadings_value kind base 0 elements]
termination_by structural p => p

theorem bindingReadings_value (kind : PatternKind) (base : Expr) (index : Nat) : ∀ bs : List Binding,
    (bindingReadings kind (some base) index bs).map (Prod.map id (·.value env)) =
      bindingsAssigned env kind (base.value env) index bs
  | [] => by rw [bindingReadings, bindingsAssigned, List.map_nil]
  | b :: bs => by
    rw [bindingReadings, bindingsAssigned, List.map_append, Binding.value_readings kind base index b,
      bindingReadings_value kind base (index + 1) bs]
termination_by structural bs => bs

theorem Binding.value_readings (kind : PatternKind) (base : Expr) (index : Nat) : ∀ b : Binding,
    (b.readings kind (some base) index).map (Prod.map id (·.value env)) = b.assigned env kind (base.value env) index
  | ⟨rest, key, target, fallback⟩ => by
    have hpart := Binding.value_read? env kind index base ⟨rest, key, target, fallback⟩
    rw [Binding.readings, Binding.assigned, ← hpart]
    cases Binding.read? kind index base ⟨rest, key, target, fallback⟩ with
    | none => rfl
    | some value =>
      have htarget := Target.value_readings (target.baseOf value) target
      rw [Target.value_baseOf] at htarget
      exact htarget
termination_by structural b => b

theorem Target.value_readings (base : Expr) : ∀ t : Target,
    (t.readings (some base)).map (Prod.map id (·.value env)) = t.assigned env (base.value env)
  | .name x => by simp [Target.readings, Target.assigned]
  | .pattern p => by rw [Target.readings, Target.assigned, Pattern.value_readings base p]
termination_by structural t => t

end

end

/-! ### The names outside the rest -/

mutual

/-- The names that a pattern binds outside the rest, in source order. -/
def Pattern.namesOutsideRest : Pattern → List String
  | ⟨_, elements⟩ => bindingNamesOutsideRest elements

/-- The names that a list of bindings binds outside the rest. -/
def bindingNamesOutsideRest : List Binding → List String
  | [] => []
  | b :: bs => b.namesOutsideRest ++ bindingNamesOutsideRest bs

/-- The names that a binding binds outside the rest. -/
def Binding.namesOutsideRest : Binding → List String
  | ⟨rest, _, target, _⟩ => if rest then [] else target.namesOutsideRest

/-- The names that a target binds outside the rest. -/
def Target.namesOutsideRest : Target → List String
  | .name x => [x]
  | .pattern p => p.namesOutsideRest

end

mutual

/-- Whether all properties of a pattern outside the rest have a key. -/
def Pattern.isKeyed : Pattern → Bool
  | ⟨kind, elements⟩ => bindingsKeyed kind elements

/-- Whether all properties of a list of bindings outside the rest have a key. -/
def bindingsKeyed (kind : PatternKind) : List Binding → Bool
  | [] => true
  | b :: bs => b.isKeyed kind && bindingsKeyed kind bs

/-- Whether a binding has a key if it needs one, and so have all properties within. -/
def Binding.isKeyed (kind : PatternKind) : Binding → Bool
  | ⟨rest, key, target, fallback⟩ =>
    rest || (kind = .array || (Binding.source? ⟨rest, key, target, fallback⟩).isSome) && target.isKeyed

/-- Whether all properties of a target outside the rest have a key. -/
def Target.isKeyed : Target → Bool
  | .name _ => true
  | .pattern p => p.isKeyed

end

mutual

/-- Where no key is missing, reading a value gives a meaning to the names outside the rest. -/
theorem Pattern.readNames_true : ∀ p : Pattern, p.isKeyed = true → p.readNames true = p.namesOutsideRest
  | ⟨kind, elements⟩, h => by
    rw [Pattern.isKeyed] at h
    rw [Pattern.readNames, Pattern.namesOutsideRest, bindingReadNames_true kind elements h]

theorem bindingReadNames_true (kind : PatternKind) : ∀ bs : List Binding,
    bindingsKeyed kind bs = true → bindingReadNames kind true bs = bindingNamesOutsideRest bs
  | [], _ => by rw [bindingReadNames, bindingNamesOutsideRest]
  | b :: bs, h => by
    rw [bindingsKeyed, Bool.and_eq_true] at h
    rw [bindingReadNames, bindingNamesOutsideRest, Binding.readNames_true kind b h.1, bindingReadNames_true kind bs h.2]

theorem Binding.readNames_true (kind : PatternKind) : ∀ b : Binding,
    b.isKeyed kind = true → b.readNames kind true = b.namesOutsideRest
  | ⟨rest, key, target, fallback⟩, h => by
    rw [Binding.readNames, Binding.namesOutsideRest, Binding.isRead]
    cases rest with
    | true => rfl
    | false =>
      rw [Binding.isKeyed, Bool.false_or, Bool.and_eq_true] at h
      simp [h.1, Target.readNames_true target h.2]

theorem Target.readNames_true : ∀ t : Target, t.isKeyed = true → t.readNames true = t.namesOutsideRest
  | .name x, _ => by rw [Target.readNames, Target.namesOutsideRest]
  | .pattern p, h => by
    rw [Target.isKeyed] at h
    rw [Target.readNames, Target.namesOutsideRest, Pattern.readNames_true p h]

end

/-! ### The map of a pattern -/

private theorem lookup_map_value (l : List (String × Expr)) (f : Expr → Value) (x : String) :
    (l.map (Prod.map id f)).lookup x = (l.lookup x).map f := by
  induction l with
  | nil => rfl
  | cons entry l ih =>
    obtain ⟨y, e⟩ := entry
    rw [List.map_cons, Prod.map_apply, id, lookup_cons_ite, lookup_cons_ite, ih]
    split <;> rfl

/-- A pattern whose properties have keys, and that is not nested too deeply, taken from a value.  Its map has the names
that are bound outside the rest, in the order of their first occurrence, and in every environment the expression that a
name stands for has the value that the name is assigned last. -/
theorem Pattern.value_variableMap {p : Pattern} (hd : p.depth ≤ maxPatternDepth) (hk : p.isKeyed = true) (base : Expr) :
    ∃ m, p.variableMap (some base) = .ok m ∧ m.keys = p.namesOutsideRest.eraseDups ∧
      ∀ (env : Environment) (x : String),
        (m.get? x).map (·.value env) = (p.assigned env (base.value env)).reverse.lookup x := by
  have hdepth : (Target.pattern p).depth ≤ maxPatternDepth := by rwa [Target.depth]
  refine ⟨.ofList (p.readings (some base)), ?_, ?_, fun env x => ?_⟩
  · rw [variableMap, Target.variableMap_of_depth_le hdepth, Target.readings]
  · rw [VariableMap.keys_ofList, p.map_fst_readings, Option.isSome_some, p.readNames_true hk]
  · rw [VariableMap.get?_ofList, ← p.value_readings, ← List.map_reverse, lookup_map_value]

/-- A list with a rest, a key that is no name, a default for a pattern and a name that is bound twice. -/
theorem Pattern.value_variableMap_repeated :
    let p := Pattern.mk .object [.nested "list" ⟨.array, [.ofName "first", .restOf "others", .ofName "last"]⟩,
      (Binding.aliased "data-id" "id").withFallback (.number "0"),
      (Binding.nested "inner" ⟨.object, [.aliased "a" "first"]⟩).withFallback (.ident "fallback"), .restOf "rest"]
    (p.depth ≤ maxPatternDepth ∧ p.isKeyed = true) ∧
      ∃ m, p.variableMap (some (.ident "props")) = .ok m ∧ m.keys = ["first", "last", "id"] ∧
        ∀ (env : Environment) (x : String),
          (m.get? x).map (·.value env) = (p.assigned env (env.names "props")).reverse.lookup x := by
  intro p
  have hd : p.depth ≤ maxPatternDepth := by decide
  have hk : p.isKeyed = true := by decide
  obtain ⟨m, hm, hkeys, hvalues⟩ := value_variableMap hd hk (.ident "props")
  exact ⟨⟨hd, hk⟩, m, hm, hkeys, hvalues⟩

/-- The default stands in for a property that is missing, and the pattern goes on with it. -/
example (items : List Value) :
    let env : Environment := ⟨fun _ => .object [("a", .plain "1")], fun _ => .undefined⟩
    let inner := (Binding.nested "inner" ⟨.object, [.ofName "a"]⟩).withFallback (.ident "fallback")
    (Pattern.mk .object [inner]).assigned env (.object [("list", .array items)]) = [("a", .plain "1")] := rfl

end ViewTemplate
