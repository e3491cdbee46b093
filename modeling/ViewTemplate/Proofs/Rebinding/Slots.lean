import ViewTemplate.Proofs.Diagnostic.Depth
import ViewTemplate.Proofs.Rebinding.Scope
import ViewTemplate.Proofs.Render.Agreement

/-!
# Slots from the parameter to the text

A function takes the properties of a component without templates apart under names of its own.  In its template such
a name is printed as reading the property under which the component holds the value: the component's own name for a
slot that callers know by another one, and the key itself for anything else (`Registry.render_slot`).

* (rebinding) the bindings of a component with slots alone take out the declared members, in any order and with any
  repetitions: `rebindAll_slots`, `Binding.source?_redirection`;
* (resolving) of a name that is bound more than once the last binding counts: `Function.templateScope_value?`;
* (printing) reading a property is printed with a dot or with a quoted key: `Expr.render_readKey`.
-/

namespace ViewTemplate

/-- The property that holds what callers supply under `key`: that of the first slot they know by this name and the
component by another one, or else the property `key` itself. -/
def Component.heldAs (c : Component) (key : String) : String :=
  ((c.members.find? fun m => m.isSlot && m.externalName = key && !m.hasDefaultName).map (·.name)).getD key

/-! ### Rebinding slots -/

section

variable {members : List Member} {c : Component} {b : Binding} {key : String}

theorem Member.rebound_of_isSlot {m : Member} (hm : m.isSlot = true) (b : Binding) : m.rebound b = m.asLocal := by
  rw [Member.rebound, if_pos hm]

/-- Which member a binding takes out, and under which key, does not depend on where members live. -/
private theorem redirection_map_asLocal (members : List Member) (b : Binding) :
    b.redirection (members.map Member.asLocal) = b.redirection members := by
  have htaken : b.taken? (members.map Member.asLocal) = (b.taken? members).map Member.asLocal := by
    unfold Binding.taken?
    split
    · rfl
    · cases b.source? with
      | none => rfl
      | some key => exact List.find?_map ..
  rw [Binding.redirection, Binding.redirection, htaken]
  cases b.taken? members with
  | none => rfl
  | some m => rfl

private theorem map_asLocal_updateNamed (name : String) (b : Binding) (h : ∀ m ∈ members, m.isSlot = true) :
    (updateNamed name (·.rebound b) members).map Member.asLocal = members.map Member.asLocal := by
  induction members with
  | nil => rfl
  | cons m ms ih =>
    obtain ⟨hm, hms⟩ := List.forall_mem_cons.1 h
    rw [updateNamed]
    split
    · rw [List.map_cons, List.map_cons, Member.rebound_of_isSlot hm]
      rfl
    · rw [List.map_cons, List.map_cons, ih hms]

private theorem isSlot_of_map_asLocal {members' : List Member} (h : ∀ m ∈ members, m.isSlot = true)
    (heq : members'.map Member.asLocal = members.map Member.asLocal) : ∀ m ∈ members', m.isSlot = true := by
  intro m hm
  have hlocal : m.asLocal ∈ members.map Member.asLocal := heq ▸ List.mem_map_of_mem hm
  obtain ⟨m', hm', hsame⟩ := List.mem_map.1 hlocal
  have hslot : m'.asLocal.isSlot = true := h m' hm'
  rwa [hsame] at hslot

private theorem rebindOne_slots (h : ∀ m ∈ members, m.isSlot = true) (b : Binding) :
    (rebindOne members b).1 = b.redirection members ∧
      (rebindOne members b).2.map Member.asLocal = members.map Member.asLocal := by
  rw [rebindOne, Binding.redirection]
  cases b.taken? members with
  | none => exact ⟨rfl, rfl⟩
  | some m => exact ⟨rfl, map_asLocal_updateNamed m.externalName b h⟩

/-- Taking out slots leaves their names alone, so every binding finds the member that was declared for it. -/
theorem rebindAll_slots (h : ∀ m ∈ members, m.isSlot = true) (bs : List Binding) :
    (rebindAll members bs).1 = bs.map (·.redirection members) := by
  induction bs generalizing members with
  | nil => rfl
  | cons b bs ih =>
    obtain ⟨hb, hlocal⟩ := rebindOne_slots h b
    have htail := ih (isSlot_of_map_asLocal h hlocal)
    have hsame : bs.map (·.redirection (rebindOne members b).2) = bs.map (·.redirection members) := by
      refine List.map_congr_left fun b' _ => ?_
      rw [← redirection_map_asLocal, hlocal, redirection_map_asLocal]
    rw [List.map_cons, ← hb, ← hsame, ← htail]
    rfl

/-- Redirecting a binding changes its key alone. -/
theorem Binding.redirection_eq (members : List Member) (b : Binding) :
    ∃ key, b.redirection members = ⟨b.rest, key, b.target, b.fallback⟩ := by
  obtain ⟨rest, key, target, fallback⟩ := b
  rw [redirection]
  split
  · exact ⟨key, rfl⟩
  · next m _ =>
    rw [redirected]
    split
    · exact ⟨some m.name, rfl⟩
    · exact ⟨key, rfl⟩

theorem Binding.boundNames_redirection (members : List Member) (b : Binding) :
    (b.redirection members).boundNames = b.boundNames := by
  obtain ⟨key, hkey⟩ := b.redirection_eq members
  obtain ⟨rest, _, target, fallback⟩ := b
  rw [hkey, Binding.boundNames, Binding.boundNames]

theorem bindingNames_map_redirection (members : List Member) (bs : List Binding) :
    bindingNames (bs.map (·.redirection members)) = bindingNames bs := by
  induction bs with
  | nil => rfl
  | cons b bs ih => rw [List.map_cons, bindingNames, bindingNames, ih, b.boundNames_redirection]

private theorem isSlot_of_mem_rebindable (ht : ∀ m ∈ c.members, m.isTemplate = false) :
    ∀ m ∈ rebindable c.members, m.isSlot = true := by
  intro m hm
  obtain ⟨hmem, hkept⟩ := List.mem_filter.1 hm
  rw [ht m hmem, Bool.false_or, Bool.and_eq_true] at hkept
  exact hkept.1

private theorem memberNamed?_rebindable (ht : ∀ m ∈ c.members, m.isTemplate = false) (key : String) :
    memberNamed? (rebindable c.members) key =
      c.members.find? fun m => m.isSlot && m.externalName = key && !m.hasDefaultName := by
  rw [memberNamed?, rebindable, List.find?_filter, ← List.head?_filter, ← List.head?_filter]
  congr 1
  refine List.filter_congr fun m hm => ?_
  rw [ht m hm, Bool.false_or]
  cases m.isSlot <;> cases m.hasDefaultName <;> simp

/-- A binding that is not the rest reads the property that holds what it asks for. -/
theorem Binding.source?_redirection (ht : ∀ m ∈ c.members, m.isTemplate = false) (hr : b.rest = false)
    (hk : b.source? = some key) : (b.redirection (rebindable c.members)).source? = some (c.heldAs key) := by
  have htaken : b.taken? (rebindable c.members) = memberNamed? (rebindable c.members) key := by
    simp [taken?, hr, hk]
  rw [redirection, htaken, Component.heldAs, ← memberNamed?_rebindable ht]
  cases hm : memberNamed? (rebindable c.members) key with
  | none => exact hk
  | some m =>
    have hslot : m.isSlot = true := isSlot_of_mem_rebindable ht m (List.mem_of_find?_eq_some hm)
    simp [redirected, hslot, source?]

end

/-! ### What the names of slots stand for -/

section

variable {base : Expr} {key x : String} {before after : List Binding} {props : Pattern}

theorem Binding.readings_name {source? : Option String}
    (h : (Binding.mk false source? (.name x) none).source? = some key) (index : Nat) :
    Binding.readings .object (some base) index ⟨false, source?, .name x, none⟩ = [(x, base.readKey key)] := by
  simp [Binding.readings, Binding.read?, h, Expr.orElse, Target.readings, Target.baseOf]

theorem Expr.isConditional_readKey (base : Expr) (key : String) : (base.readKey key).isConditional = false := by
  rw [Expr.readKey]
  split <;> rfl

theorem Binding.readings_nested (index : Nat) :
    (Binding.nested key props).readings .object (some base) index = props.readings (some (base.readKey key)) := by
  simp [Binding.nested, Binding.readings, Binding.read?, Binding.source?, Expr.orElse, Target.readings, Target.baseOf,
    Expr.isConditional_readKey]

/-- What is read before, from and after a pattern that takes a property apart. -/
theorem Pattern.readings_nested :
    (Pattern.mk .object (before ++ .nested key props :: after)).readings (some base) =
      bindingReadings .object (some base) 0 before ++ (props.readings (some (base.readKey key)) ++
        bindingReadings .object (some base) (before.length + 1) after) := by
  rw [Pattern.readings, bindingReadings_append, bindingReadings, Binding.readings_nested, Nat.zero_add]

theorem not_mem_map_fst_bindingReadings {bs : List Binding} (hx : x ∉ bindingNames bs) (index : Nat) :
    x ∉ (bindingReadings .object (some base) index bs).map (·.1) := by
  rw [bindingReadings_map_fst]
  exact fun hmem => hx (bindingReadNames_subset _ _ bs hmem)

/-- The reading of a name that a nested pattern takes out, and none of the name after it. -/
theorem Pattern.exists_readings_nested {source? : Option String} {name : String} {earlier later : List Binding}
    (h : (Binding.mk false source? (.name x) none).source? = some name) (hx : x ∉ bindingNames later)
    (hafter : x ∉ bindingNames after) :
    ∃ read rest, (Pattern.mk .object (before ++ .nested key ⟨.object, earlier ++ ⟨false, source?, .name x, none⟩ ::
        later⟩ :: after)).readings (some base) = read ++ (x, (base.readKey key).readKey name) :: rest ∧
      x ∉ rest.map (·.1) := by
  refine ⟨bindingReadings .object (some base) 0 before ++
      bindingReadings .object (some (base.readKey key)) 0 earlier,
    bindingReadings .object (some (base.readKey key)) (earlier.length + 1) later ++
      bindingReadings .object (some base) (before.length + 1) after, ?_, ?_⟩
  · rw [Pattern.readings_nested, Pattern.readings, bindingReadings_append, bindingReadings, Binding.readings_name h]
    simp
  · rw [List.map_append, List.mem_append, not_or]
    exact ⟨not_mem_map_fst_bindingReadings hx _, not_mem_map_fst_bindingReadings hafter _⟩

/-- The first pattern under the key `props` is the one that is rebound. -/
theorem rebindProps_nested (members : List Member) (hfirst : ∀ b ∈ before, b.key ≠ some "props") :
    (rebindProps members (before ++ .nested "props" props :: after)).1 =
      before ++ .nested "props" { props with elements := (rebindAll members props.elements).1 } :: after := by
  induction before with
  | nil => simp [rebindProps, Binding.nested]
  | cons b before ih =>
    obtain ⟨hb, hbefore⟩ := List.forall_mem_cons.1 hfirst
    rw [List.cons_append, rebindProps, if_neg hb, List.cons_append, ← ih hbefore]

end

namespace Function

variable {f : Function} {s : Scope} {keep : Bool} {globals : VariableMap} {p q : Parameter} {pattern : Pattern}
  {x : String} {v : Expr}

/-- Of several meanings that the component parameter gives to a name the last one counts. -/
theorem templateScope_value? {earlier later : List (String × Expr)}
    (h : f.parameterReadings s keep = earlier ++ (x, v) :: later) (hx : x ∉ later.map (·.1)) :
    (f.templateScope s keep globals).value? x = some v := by
  rw [Scope.value?, templateScope, h]
  exact VariableMap.get?_insertAll_of_last hx

theorem instanceTarget?_of_parameter (hf : f.parameters.head? = some p) (hs : s.parameter = some ⟨p, q⟩) :
    f.instanceTarget? s = some q.target := by
  simp [instanceTarget?, componentParameter?_eq, instanceParameter?, hf, hs]

/-- A scope that keeps no context reads the component parameter from `this`. -/
theorem parameterReadings_of_pattern (ht : f.instanceTarget? s = some (.pattern pattern)) :
    f.parameterReadings s false = pattern.readings (some (.verbatim "this")) := by
  have htext : f.instanceText s false = "this" := by simp [instanceText, ht]
  rw [parameterReadings, ht, htext]

end Function

/-! ### Printing what is read -/

/-- How reading the property `key` is written behind the value: with a dot, or between brackets if it is no name. -/
def Text.keyAccess (key : String) : String :=
  if isName key then "." ++ key else bracketed (quoted key)

theorem Expr.instance?_of_ident?_eq_none {e : Expr} (h : e.ident? = none) (s : Option Scope) : e.instance? s = none := by
  cases s <;> simp [Expr.instance?, Option.filter, h]

theorem Expr.ident?_readKey (base : Expr) (key : String) : (base.readKey key).ident? = none := by
  rw [Expr.readKey]
  split <;> rfl

theorem Expr.isPrimary_readKey (base : Expr) (key : String) : (base.readKey key).isPrimary = true := by
  rw [Expr.readKey]
  split <;> rfl

theorem Expr.render_readKey {base : Expr} (hi : base.ident? = none) (hp : base.isPrimary = true) (s : Option Scope)
    (key : String) : (base.readKey key).render s = base.render s ++ Text.keyAccess key := by
  rw [Expr.readKey, Text.keyAccess, Expr.render, Expr.render]
  split
  · rw [Expr.renderWith, Expr.propertyText, Expr.instance?_of_ident?_eq_none hi, Expr.operandText, if_pos hp,
      if_neg Bool.false_ne_true, String.append_assoc]
  · rw [Expr.renderWith, Expr.renderWith, Expr.operandText, if_pos hp]

/-- A variable that stands for a property of the properties is printed as reading it from `this`. -/
theorem Expr.render_ident_of_readKey {s : Scope} {x key : String}
    (hv : s.value? x = some (((Expr.verbatim "this").readKey "props").readKey key)) :
    (Expr.ident x).render (some s) = "this.props" ++ Text.keyAccess key := by
  have hbase : ∀ s, ((Expr.verbatim "this").readKey "props").render s = "this.props" := by
    intro s
    rw [Expr.render_readKey rfl rfl]
    rfl
  have hself : (((Expr.verbatim "this").readKey "props").readKey key).ident? ≠ some x := by
    rw [Expr.ident?_readKey]
    exact (Option.some_ne_none x).symm
  rw [Expr.render_ident_of_value? hv hself, Expr.operandText, if_pos (Expr.isPrimary_readKey _ _),
    Expr.render_readKey (Expr.ident?_readKey _ _) (Expr.isPrimary_readKey _ _), hbase]

namespace Registry

variable {r : Registry} {c : Component} {f : Function} {p : Parameter} {before after elements : List Binding} {e : Expr}
  {globals : VariableMap}

/-- A component without templates, and a function with a result that takes its properties apart.  Resolved in the
scope for its component, the function has a template, and every name that it takes out of the properties without a
default, and does not bind again behind, is printed as the property of `this.props` that holds it. -/
theorem render_slot (hf : f.parameters.head? = some p) (hc : r.componentOf? f = some c)
    (hp : p.target = .pattern ⟨.object, before ++ .nested "props" ⟨.object, elements⟩ :: after⟩)
    (hfirst : ∀ b ∈ before, b.key ≠ some "props") (ht : ∀ m ∈ c.members, m.isTemplate = false)
    (he : f.body.result? = some e) (hd : f.WithinDepth) :
    ∃ s t, r.scopeFor? f = some s ∧ f.resolve (some s) false globals = .ok (some (.ofExpr e), some t) ∧
      ∀ earlier key x later, elements = earlier ++ ⟨false, key, .name x, none⟩ :: later →
        x ∉ bindingNames later → x ∉ bindingNames after →
          (Expr.ident x).render (some t) = "this.props" ++ Text.keyAccess (c.heldAs (key.getD x)) := by
  have hs : r.scopeFor? f = some (c.scopeFor p) := scopeFor?_eq hf hc
  have hshallow : f.Shallow (c.scopeFor p) := hd.shallow (Or.inr ⟨r, c.scopeFor p, hs, rfl⟩)
  refine ⟨c.scopeFor p, _, hs, Function.resolve_of_shallow he hshallow, fun earlier key x later helements hx hafter => ?_⟩
  -- the parameter as it is rewritten
  have hrewritten : f.instanceTarget? (c.scopeFor p) = some (.pattern ⟨.object, before ++
      .nested "props" ⟨.object, elements.map (·.redirection (rebindable c.members))⟩ :: after⟩) := by
    rw [Function.instanceTarget?_of_parameter hf (c.parameter_scopeFor hp), Component.rewritten,
      rebindProps_nested _ hfirst, rebindAll_slots (isSlot_of_mem_rebindable ht)]
  -- its element for `x` reads the property that holds the value
  obtain ⟨key', hkey⟩ := Binding.redirection_eq (rebindable c.members) ⟨false, key, .name x, none⟩
  have hsource : (Binding.mk false key' (.name x) none).source? = some (c.heldAs (key.getD x)) := by
    rw [← hkey]
    refine Binding.source?_redirection ht rfl ?_
    cases key <;> rfl
  rw [helements, List.map_append, List.map_cons, hkey] at hrewritten
  have hlater : x ∉ bindingNames (later.map (·.redirection (rebindable c.members))) := by
    rw [bindingNames_map_redirection]
    exact hx
  obtain ⟨read, rest, hreadings, hrest⟩ := Pattern.exists_readings_nested hsource hlater hafter
  rw [← Function.parameterReadings_of_pattern hrewritten] at hreadings
  exact Expr.render_ident_of_readKey (Function.templateScope_value? hreadings hrest)

/-- A slot that callers know by another name, a property whose key is no name, and a slot with one name for all.  A
local and a global have the name that the first slot is given. -/
theorem render_slot_renamed_and_quoted :
    let c := ((Component.ofName "Widget").withMember ((Member.ofKind .slot "defaultContent").withExternalName
      "content")).withMember (.ofKind .slot "footer")
    let r := Registry.register ∅ c
    let elements := [Binding.aliased "content" "body", .aliased "aria-label" "label", .ofName "footer"]
    let before := [Binding.aliased "state" "footer"]
    let p := (Parameter.ofTarget (.pattern ⟨.object, before ++ .nested "props" ⟨.object, elements⟩ ::
      [.restOf "others"]⟩)).withType (.reference "Widget" [])
    let f := Function.named "view" [p]
      ⟨[.constant (.name "body") (.string "local"), .ret (some (.ident "body"))]⟩
    let globals := VariableMap.ofList [("body", .string "global"), ("label", .string "global")]
    (f.parameters.head? = some p ∧ r.componentOf? f = some c ∧ (∀ b ∈ before, b.key ≠ some "props") ∧
      (∀ m ∈ c.members, m.isTemplate = false) ∧ f.body.result? = some (.ident "body") ∧ f.WithinDepth) ∧
    ∃ s t, r.scopeFor? f = some s ∧ f.resolve (some s) false globals = .ok (some (.ofExpr (.ident "body")), some t) ∧
      (Expr.ident "body").render (some t) = "this.props.defaultContent" ∧
      (Expr.ident "label").render (some t) = "this.props[\"aria-label\"]" ∧
      (Expr.ident "footer").render (some t) = "this.props.footer" := by
  intro c r elements before p f globals
  have hf : f.parameters.head? = some p := rfl
  have hc : r.componentOf? f = some c := rfl
  have hfirst : ∀ b ∈ before, b.key ≠ some "props" := by simp [before, Binding.aliased]
  have ht : ∀ m ∈ c.members, m.isTemplate = false := by decide
  have he : f.body.result? = some (.ident "body") := rfl
  have hd : f.WithinDepth := by decide
  obtain ⟨s, t, hs, hresolve, hslot⟩ :
      ∃ s t, r.scopeFor? f = some s ∧ f.resolve (some s) false globals = _ ∧ _ :=
    render_slot hf hc rfl hfirst ht he hd
  have hbody := hslot [] (some "content") "body" _ rfl (by decide) (by decide)
  have hlabel := hslot [.aliased "content" "body"] (some "aria-label") "label" _ rfl (by decide) (by decide)
  have hfooter := hslot [.aliased "content" "body", .aliased "aria-label" "label"] none "footer" _ rfl (by decide)
    (by decide)
  exact ⟨⟨hf, hc, hfirst, ht, he, hd⟩, s, t, hs, hresolve, hbody.trans (by decide), hlabel.trans (by decide),
    hfooter.trans (by decide)⟩

end Registry

end ViewTemplate
