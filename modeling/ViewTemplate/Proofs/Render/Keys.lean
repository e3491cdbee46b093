import ViewTemplate.Proofs.Reading.Text
import ViewTemplate.Proofs.Rebinding.Frame
import ViewTemplate.Proofs.Rebinding.Slots
import ViewTemplate.Proofs.Render.Drops
import ViewTemplate.Proofs.Render.Source

/-!
# Keys of patterns in print and in what is read

A pattern that takes an object apart reads a property that is no name between brackets, as a string literal.  In print
its keys stand as they are.  A key that is no name has to be a string literal there as well, so the text of a pattern is
right exactly if all keys in it are names, at every depth (`Pattern.render_eq_spelled_iff`).

* (keys) the name itself or else the string literal denotes the property that is read (`Text.keyProperty?_propertyKey`);
  as it stands a key is such a name or literal only if it is a name (`Text.keyProperty?_eq_self_iff`);
* (printing) a key without its quotes has fewer quotation marks than with them, and this is what is carried through the
  syntax (`Text.Drops`);
* (rebinding) an element that takes a slot out of the properties gets the own name of the slot as its key, so this name
  comes into the printed function as well (`mem_objectKeys_rebindProps`).
-/

namespace ViewTemplate

/-! ### Keys -/

namespace Text

/-- The key of the property `k` as it has to be written in a pattern: the name itself, or else the string literal. -/
def propertyKey (k : String) : String :=
  if isName k then k else quoted k

/-- The property that a key in a pattern denotes, if it is a string literal, which denotes its content, or a name, which
denotes itself. -/
def keyProperty? (text : String) : Option String :=
  match text.toList with
  | '"' :: cs =>
    match readString cs with
    | some (value, []) => some (String.ofList value)
    | _ => none
  | _ => if isName text then some text else none

/-- Reading a property is written with its key, behind a dot or between brackets. -/
theorem keyAccess_eq (k : String) :
    keyAccess k = if isName k then "." ++ propertyKey k else bracketed (propertyKey k) := by
  rw [keyAccess, propertyKey]
  split <;> rfl

theorem keyProperty?_of_isName {k : String} (h : isName k = true) : keyProperty? k = some k := by
  obtain ⟨c, cs, hcs, hstart⟩ := exists_cons_of_isName h
  have hquote : c ≠ '"' := by
    rintro rfl
    exact absurd hstart (by decide)
  rw [keyProperty?, hcs]
  split
  · next heq => exact absurd (List.head_eq_of_cons_eq heq) hquote
  · rw [if_pos h]

/-- The key of a property denotes the property. -/
theorem keyProperty?_propertyKey (k : String) : keyProperty? (propertyKey k) = some k := by
  rw [propertyKey]
  split
  · next h => exact keyProperty?_of_isName h
  · have hread : readString (k.toList.flatMap escape ++ ['"']) = some (k.toList, []) := readString_flatMap_escape _ []
    rw [keyProperty?, quoted, String.toList_ofList, List.cons_append]
    simp only [hread, String.ofList_toList]

/-- A string literal is longer than its content. -/
private theorem length_lt_of_readString {cs value rest : List Char} (h : readString cs = some (value, rest)) :
    value.length < cs.length := by
  fun_induction readString cs generalizing value rest with
  | case1 => cases h
  | case2 cs =>
    cases h
    exact Nat.zero_lt_succ _
  | case3 c cs ih =>
    obtain ⟨d, -, hd⟩ := Option.bind_eq_some_iff.1 h
    obtain ⟨⟨value', rest'⟩, hread, hvalue⟩ := Option.map_eq_some_iff.1 hd
    cases hvalue
    exact Nat.lt_succ_of_lt (Nat.succ_lt_succ (ih hread))
  | case4 c cs _ _ ih =>
    obtain ⟨⟨value', rest'⟩, hread, hvalue⟩ := Option.map_eq_some_iff.1 h
    cases hvalue
    exact Nat.succ_lt_succ (ih hread)

/-- As it stands, a key is a name or a string literal for its property only if it is a name. -/
theorem keyProperty?_eq_self_iff {k : String} : keyProperty? k = some k ↔ isName k = true := by
  refine ⟨fun h => ?_, keyProperty?_of_isName⟩
  rw [keyProperty?] at h
  split at h
  · next cs hcs =>
    split at h
    · next value hread =>
      have hlt := length_lt_of_readString hread
      rw [← Option.some.inj h, String.toList_ofList] at hcs
      rw [hcs, List.length_cons] at hlt
      omega
    · cases h
  · split at h
    · next hname => exact hname
    · cases h

private theorem count_le_count_flatMap_escape (cs : List Char) : cs.count '"' ≤ (cs.flatMap escape).count '"' := by
  induction cs with
  | nil => exact Nat.le_refl _
  | cons c cs ih =>
    have hc : [c].count '"' ≤ (escape c).count '"' := by
      unfold escape
      split <;> simp
    rw [← List.singleton_append, List.count_append, List.flatMap_append, List.count_append, List.flatMap_singleton]
    exact Nat.add_le_add hc ih

/-- A key that is printed as it is lacks its quotes if it is no name. -/
theorem drops_propertyKey (k : String) : Drops '"' (isName k) (propertyKey k) k where
  same h := by rw [propertyKey, if_pos h]
  fewer h := by
    have hle := count_le_count_flatMap_escape k.toList
    rw [propertyKey, h, if_neg Bool.false_ne_true, occurrences, occurrences, quoted, String.toList_ofList,
      List.count_append, List.count_cons_self]
    omega

end Text

/-! ### Patterns -/

/-- A key in a pattern of this kind as it has to be written. -/
def PatternKind.spell : PatternKind → String → String
  | .object => Text.propertyKey
  | .array => id

mutual

/-- The pattern with all keys as they have to be written. -/
def Pattern.spelled : Pattern → Pattern
  | ⟨kind, elements⟩ => ⟨kind, spelledBindings kind elements⟩

/-- The bindings of a pattern of this kind with all keys as they have to be written. -/
def spelledBindings (kind : PatternKind) : List Binding → List Binding
  | [] => []
  | b :: bs => b.spelled kind :: spelledBindings kind bs

/-- The binding of a pattern of this kind with all keys as they have to be written. -/
def Binding.spelled (kind : PatternKind) : Binding → Binding
  | ⟨rest, key, target, fallback⟩ => ⟨rest, key.map kind.spell, target.spelled, fallback⟩

/-- The target with all keys as they have to be written. -/
def Target.spelled : Target → Target
  | .name x => .name x
  | .pattern p => .pattern p.spelled

end

/-- The parameter with all keys of its target as they have to be written. -/
def Parameter.spelled (p : Parameter) : Parameter :=
  { p with target := p.target.spelled }

/-- The keys of objects among the keys of a pattern of this kind. -/
def PatternKind.objectKeys : PatternKind → Option String → List String
  | .object, key => key.toList
  | .array, _ => []

mutual

/-- The keys by which a pattern takes objects apart, at every depth. -/
def Pattern.objectKeys : Pattern → List String
  | ⟨kind, elements⟩ => bindingObjectKeys kind elements

/-- The keys by which the bindings of a pattern of this kind take objects apart. -/
def bindingObjectKeys (kind : PatternKind) : List Binding → List String
  | [] => []
  | b :: bs => b.objectKeys kind ++ bindingObjectKeys kind bs

/-- The keys by which a binding of a pattern of this kind takes objects apart, its own first. -/
def Binding.objectKeys (kind : PatternKind) : Binding → List String
  | ⟨_, key, target, _⟩ => kind.objectKeys key ++ target.objectKeys

/-- The keys by which a target takes objects apart. -/
def Target.objectKeys : Target → List String
  | .name _ => []
  | .pattern p => p.objectKeys

end

/-! ### Printing -/

section

open Text (Drops DropsAll drops_self drops_propertyKey)

variable {E : Expansion} {s : Option Scope}

theorem PatternKind.drops_spell (kind : PatternKind) (key : Option String) :
    Drops '"' ((kind.objectKeys key).all Text.isName) (((key.map kind.spell).map (· ++ ": ")).getD "")
      ((key.map (· ++ ": ")).getD "") := by
  cases kind with
  | array =>
    rw [show key.map PatternKind.array.spell = key from Option.map_id_apply]
    exact drops_self _
  | object =>
    cases key with
    | none => exact drops_self _
    | some k =>
      have hkey := (drops_propertyKey k).before ": "
      rwa [← Bool.and_true (Text.isName k)] at hkey

mutual

/-- What is left of the text of a pattern with proper keys. -/
theorem Pattern.drops_spelled :
    ∀ p : Pattern, Drops '"' (p.objectKeys.all Text.isName) (p.spelled.renderWith E s) (p.renderWith E s)
  | ⟨kind, elements⟩ => by
    have helements := drops_spelledBindings kind elements
    rw [Pattern.objectKeys, Pattern.spelled]
    cases kind with
    | object =>
      rw [Pattern.renderWith, Pattern.renderWith]
      exact helements.bracedList ", "
    | array =>
      rw [Pattern.renderWith, Pattern.renderWith]
      exact helements.commaList.bracketed
termination_by structural p => p

theorem drops_spelledBindings (kind : PatternKind) :
    ∀ bs : List Binding, DropsAll '"' ((bindingObjectKeys kind bs).all Text.isName)
      (renderBindings E s (spelledBindings kind bs)) (renderBindings E s bs)
  | [] => by
    rw [spelledBindings, renderBindings]
    exact .nil
  | b :: bs => by
    rw [spelledBindings, renderBindings, renderBindings, bindingObjectKeys, List.all_append]
    exact .cons (Binding.drops_spelled kind b) (drops_spelledBindings kind bs)
termination_by structural bs => bs

theorem Binding.drops_spelled (kind : PatternKind) :
    ∀ b : Binding,
      Drops '"' ((b.objectKeys kind).all Text.isName) ((b.spelled kind).renderWith E s) (b.renderWith E s)
  | ⟨rest, key, target, fallback⟩ => by
    rw [Binding.spelled, Binding.renderWith, Binding.renderWith, Binding.objectKeys, List.all_append]
    exact (((kind.drops_spell key).after _).append (Target.drops_spelled target)).before _
termination_by structural b => b

theorem Target.drops_spelled :
    ∀ t : Target, Drops '"' (t.objectKeys.all Text.isName) (t.spelled.renderWith E s) (t.renderWith E s)
  | .name x => by
    rw [Target.spelled]
    exact drops_self _
  | .pattern p => by
    rw [Target.spelled, Target.renderWith, Target.renderWith, Target.objectKeys]
    exact Pattern.drops_spelled p
termination_by structural t => t

end

theorem Parameter.drops_spelled (p : Parameter) :
    Drops '"' (p.target.objectKeys.all Text.isName) (p.spelled.renderWith E s) (p.renderWith E s) := by
  obtain ⟨decorators, modifiers, rest, target, optional, type, fallback⟩ := p
  rw [Parameter.spelled, Parameter.renderWith, Parameter.renderWith]
  exact ((((Target.drops_spelled target).after _).before _).before _).before _

theorem FunctionForm.drops_signature {a : Bool} {signature signature' : String} (h : Drops '"' a signature signature')
    (modifiers body : String) (form : FunctionForm) :
    Drops '"' a (form.renderWith E s modifiers signature body) (form.renderWith E s modifiers signature' body) := by
  cases form with
  | keyword decorators generator name =>
    rw [FunctionForm.renderWith, FunctionForm.renderWith]
    exact ((h.after _).before " ").before body
  | arrow =>
    rw [FunctionForm.renderWith, FunctionForm.renderWith]
    exact ((h.after modifiers).before " => ").before body

/-- What is left of the text of a function whose first parameter has proper keys. -/
theorem Function.drops_spelled {f : Function} (hf : f.parameters ≠ []) (q : Parameter) :
    Drops '"' (q.target.objectKeys.all Text.isName) (Node.function (f.withFirstParameter q.spelled)).source
      (Node.function (f.withFirstParameter q)).source := by
  obtain ⟨form, modifiers, typeParameters, parameters, returnType, body⟩ := f
  cases parameters with
  | nil => exact absurd rfl hf
  | cons p parameters =>
    have hparameters : ∀ E, DropsAll '"' (q.target.objectKeys.all Text.isName)
        (renderParameters E none (q.spelled :: parameters)) (renderParameters E none (q :: parameters)) := by
      intro E
      rw [renderParameters, renderParameters, ← Bool.and_true (List.all _ _)]
      exact .cons q.drops_spelled (DropsAll.refl _)
    show Drops _ _ (Function.renderWith _ none ⟨form, modifiers, typeParameters, q.spelled :: parameters, _, _⟩)
      (Function.renderWith _ none ⟨form, modifiers, typeParameters, q :: parameters, _, _⟩)
    rw [Function.renderWith, Function.renderWith]
    exact FunctionForm.drops_signature (((hparameters _).commaList.parenthesized.after _).before _) _ _ form

end

/-! ### Rebinding -/

section

variable {members : List Member} {kind : PatternKind} {bs bs' : List Binding} {k : String}

/-- A redirected binding has the same keys, but perhaps the name of a slot for its own. -/
theorem Binding.RedirectedIn.mem_objectKeys {b b' : Binding} (h : b.RedirectedIn members b')
    (hk : k ∈ b'.objectKeys kind) : k ∈ b.objectKeys kind ∨ ∃ m ∈ members, m.isSlot = true ∧ m.name = k := by
  obtain ⟨rest, key, target, fallback⟩ := b
  obtain ⟨rest', key', target', fallback'⟩ := b'
  obtain ⟨-, rfl, -, hkey⟩ := h
  rw [Binding.objectKeys, List.mem_append] at hk ⊢
  rcases hk with hk | hk
  · rcases hkey with rfl | ⟨-, m, hm, hslot, -, rfl⟩
    · exact Or.inl (Or.inl hk)
    · cases kind with
      | object => exact Or.inr ⟨m, hm, hslot, (List.mem_singleton.1 hk).symm⟩
      | array => cases hk
  · exact Or.inl (Or.inr hk)

theorem mem_objectKeys_of_redirected (h : List.Forall₂ (Binding.RedirectedIn members) bs bs')
    (hk : k ∈ bindingObjectKeys kind bs') :
    k ∈ bindingObjectKeys kind bs ∨ ∃ m ∈ members, m.isSlot = true ∧ m.name = k := by
  induction h with
  | nil => exact Or.inl hk
  | cons hb _ ih =>
    rw [bindingObjectKeys, List.mem_append] at hk ⊢
    rcases hk with hk | hk
    · exact (hb.mem_objectKeys hk).imp_left Or.inl
    · exact (ih hk).imp_left Or.inr

/-- Taking the properties apart brings no keys into a pattern but names of slots. -/
theorem mem_objectKeys_rebindProps (hd : ∀ m ∈ members, m.isTemplate = false → m.isSlot = true)
    (hk : k ∈ bindingObjectKeys kind (rebindProps members bs).1) :
    k ∈ bindingObjectKeys kind bs ∨ ∃ m ∈ members, m.isSlot = true ∧ m.name = k := by
  have hsame : List.Forall₂ Member.CopyOf members members := List.forall₂_same.2 fun m _ => .refl m
  induction bs with
  | nil => cases hk
  | cons b bs ih =>
    obtain ⟨rest, key, target, fallback⟩ := b
    rw [rebindProps] at hk
    split at hk
    · cases target with
      | name x => exact Or.inl hk
      | pattern q =>
        obtain ⟨kind', elements⟩ := q
        have hall := (rebindAll_frame hsame hd elements).1
        simp only [bindingObjectKeys, Binding.objectKeys, Target.objectKeys, Pattern.objectKeys,
          List.mem_append] at hk ⊢
        rcases hk with (hk | hk) | hk
        · exact Or.inl (Or.inl (Or.inl hk))
        · exact (mem_objectKeys_of_redirected hall hk).imp_left fun hk => Or.inl (Or.inr hk)
        · exact Or.inl (Or.inr hk)
    · rw [bindingObjectKeys, List.mem_append] at hk ⊢
      rcases hk with hk | hk
      · exact Or.inl (Or.inl hk)
      · exact (ih hk).imp_left Or.inr

end

/-! ### What is read under a key -/

/-- A value from which the property `k` is read is followed by the key. -/
theorem Expr.source_readKey (base : Expr) (k : String) :
    (base.readKey k).render none = base.operandText (base.render none) ++ Text.keyAccess k := by
  rw [Expr.readKey, Text.keyAccess, Expr.render, Expr.render]
  split
  · rw [Expr.renderWith]
    exact String.append_assoc ..
  · rw [Expr.renderWith, Expr.renderWith]

theorem Binding.read?_of_key {b : Binding} {k : String} (hrest : b.rest = false) (hkey : b.key = some k) (index : Nat)
    (base : Expr) : Binding.read? .object index base b = some ((base.readKey k).orElse b.fallback) := by
  simp [Binding.read?, Binding.source?, hrest, hkey]

/-! ### Agreement -/

/-- A function that takes its component apart is printed as it was written, with its parameter rewritten. -/
private theorem renderFunction_of_pattern {r : Registry} {c : Component} {f : Function} {p : Parameter}
    {pattern : Pattern} (hf : f.parameters.head? = some p) (hc : r.componentOf? f = some c)
    (hp : p.target = .pattern pattern) (s : Option Scope) :
    r.renderFunction f s = (Node.function (f.withFirstParameter (c.rewritten p pattern))).source := by
  rw [Registry.renderFunction, Registry.scopeFor?_eq hf hc]
  show (f.rewrittenIn (c.scopeFor p)).render (some (c.scopeFor p)) = _
  rw [Function.rewrittenIn_eq hf (c.parameter_scopeFor hp)]
  exact (c.bindsNothing_scopeFor hp).render_eq_source (.function _)

/-- Written as a name or else quoted, a key denotes the property that is read under it, and reading writes it so.  As it
stands it is such a name or string literal only if it is a name.  So a pattern is printed, in any scope, with the keys
that denote what is read exactly if all keys by which it takes objects apart, at every depth, are names.  A function
that takes its component apart is printed with its rewritten parameter, the keys of which are keys of the declared one
and names of slots; its text has the right keys exactly if all these are names. -/
theorem Pattern.render_eq_spelled_iff (pattern : Pattern) :
    (∀ k, Text.keyProperty? (Text.propertyKey k) = some k ∧
      (Text.keyProperty? k = some k ↔ Text.isName k = true)) ∧
    (∀ (b : Binding) (k : String) (index : Nat) (base : Expr), b.rest = false → b.key = some k →
      Binding.read? .object index base b = some ((base.readKey k).orElse b.fallback) ∧
        (base.readKey k).render none = base.operandText (base.render none) ++
          if Text.isName k then "." ++ Text.propertyKey k else Text.bracketed (Text.propertyKey k)) ∧
    (∀ s, (Node.pattern pattern).render s = (Node.pattern pattern.spelled).render s ↔
      ∀ k ∈ pattern.objectKeys, Text.isName k = true) ∧
    ∀ (r : Registry) (c : Component) (f : Function) (p : Parameter),
      f.parameters.head? = some p → r.componentOf? f = some c → p.target = .pattern pattern →
        ∃ t q, r.scopeFor? f = some t ∧ t.parameter = some ⟨p, q⟩ ∧
          (∀ k ∈ q.target.objectKeys, k ∈ pattern.objectKeys ∨ ∃ m ∈ c.members, m.isSlot = true ∧ m.name = k) ∧
          ∀ s, r.renderFunction f s = (Node.function (f.withFirstParameter q.spelled)).source ↔
            ∀ k ∈ q.target.objectKeys, Text.isName k = true := by
  refine ⟨fun k => ⟨Text.keyProperty?_propertyKey k, Text.keyProperty?_eq_self_iff⟩,
    fun b k index base hrest hkey => ?_, fun s => ?_, fun r c f p hf hc hp => ?_⟩
  · rw [← Text.keyAccess_eq]
    exact ⟨Binding.read?_of_key hrest hkey index base, base.source_readKey k⟩
  · rw [← List.all_eq_true]
    exact pattern.drops_spelled.eq_iff
  · refine ⟨c.scopeFor p, c.rewritten p pattern, Registry.scopeFor?_eq hf hc, c.parameter_scopeFor hp, fun k hk => ?_,
      fun s => ?_⟩
    · obtain ⟨kind, elements⟩ := pattern
      rcases mem_objectKeys_rebindProps (fun m hm => Member.isSlot_of_mem_rebindable hm) hk with hk | ⟨m, hm, hslot⟩
      · exact Or.inl hk
      · exact Or.inr ⟨m, (List.mem_filter.1 hm).1, hslot⟩
    · have hne : f.parameters ≠ [] := by
        intro hnil
        rw [hnil] at hf
        cases hf
      rw [renderFunction_of_pattern hf hc hp, ← List.all_eq_true]
      exact (Function.drops_spelled hne _).eq_iff

/-- A key that is no name, and a component with two slots, one of them with a name of its own that is no name. -/
theorem Pattern.render_eq_spelled_iff_slots :
    let c := ((Component.ofName "Widget").withMember ((Member.ofKind .slot "default-content").withExternalName
      "content")).withMember (.ofKind .slot "footer")
    let r := Registry.register ∅ c
    let takes := fun key => Pattern.mk .object [.nested "props" ⟨.object, [.aliased key "body"]⟩]
    let typed := fun pattern => (Parameter.ofTarget (.pattern pattern)).withType (.reference "Widget" [])
    let view := fun p => Function.named "view" [p] ⟨[.ret (some (.ident "body"))]⟩
    let b := Binding.aliased "data-id" "id"
    (b.rest = false ∧ b.key = some "data-id" ∧
      ∀ key, (view (typed (takes key))).parameters.head? = some (typed (takes key)) ∧
        r.componentOf? (view (typed (takes key))) = some c ∧ (typed (takes key)).target = .pattern (takes key)) ∧
    ((Expr.verbatim "this").readKey "data-id").render none = "this" ++ Text.bracketed (Text.propertyKey "data-id") ∧
    (Node.pattern (takes "footer")).source = (Node.pattern (takes "footer").spelled).source ∧
    r.renderFunction (view (typed (takes "footer"))) none =
      (Node.function (view (typed (takes "footer")).spelled)).source ∧
    r.renderFunction (view (typed (takes "content"))) none ≠
      (Node.function (view (typed (takes "default-content")).spelled)).source := by
  intro c r takes typed view b
  have hf : ∀ key, (view (typed (takes key))).parameters.head? = some (typed (takes key)) := fun _ => rfl
  have hc : ∀ key, r.componentOf? (view (typed (takes key))) = some c := fun _ => rfl
  have hp : ∀ key, (typed (takes key)).target = .pattern (takes key) := fun _ => rfl
  obtain ⟨-, hread, hprint, hfooter⟩ := Pattern.render_eq_spelled_iff (takes "footer")
  obtain ⟨-, -, -, hcontent⟩ := Pattern.render_eq_spelled_iff (takes "content")
  refine ⟨⟨rfl, rfl, fun key => ⟨hf key, hc key, hp key⟩⟩, ?_, ?_, ?_, ?_⟩
  · exact (hread b "data-id" 0 (.verbatim "this") rfl rfl).2
  · exact (hprint none).2 (by decide)
  · obtain ⟨_, _, ⟨⟩, ⟨⟩, -, hiff⟩ := hfooter r c _ _ (hf "footer") (hc "footer") (hp "footer")
    exact (hiff none).2 (by decide)
  · obtain ⟨_, _, ⟨⟩, ⟨⟩, -, hiff⟩ := hcontent r c _ _ (hf "content") (hc "content") (hp "content")
    exact mt (hiff none).1 (by decide)

/-- A key that is no name is quoted where it is read, but printed without quotes, which denotes nothing; so is the own
name of a slot. -/
theorem Pattern.printed_without_quotes :
    let p := Pattern.mk .object [.aliased "data-id" "id"]
    let c := (Component.ofName "Widget").withMember ((Member.ofKind .slot "default-content").withExternalName "content")
    let view := Function.named "view" [(Parameter.ofTarget (.pattern ⟨.object, [.nested "props" ⟨.object,
      [.aliased "content" "body"]⟩]⟩)).withType (.reference "Widget" [])] ⟨[]⟩
    (Node.pattern p).source = Text.braced " data-id: id " ∧ Text.keyProperty? "data-id" = none ∧
      (p.readings (some (.verbatim "this"))).map (fun (x, v) => (x, v.render none)) = [("id", "this[\"data-id\"]")] ∧
      (Node.pattern p.spelled).source = Text.braced " \"data-id\": id " ∧
      (Registry.register ∅ c).renderFunction view none =
        "function view(" ++ Text.braced (" props: " ++ Text.braced " default-content: body " ++ " ") ++ ": Widget) " ++
          Text.braced "" := by
  intro p c view
  refine ⟨by decide, by decide, by decide, by decide, ?_⟩
  exact (renderFunction_of_pattern rfl rfl rfl none).trans (by decide)

end ViewTemplate
