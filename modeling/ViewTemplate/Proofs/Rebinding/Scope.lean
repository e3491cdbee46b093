import ViewTemplate.Proofs.Rebinding.Matching

/-!
# The scope of a function that takes properties apart

A function whose first parameter takes the properties of its component apart gets the members of the component as
they are once all elements have taken out the members declared under their keys, and its parameter with the elements
redirected to them (`Registry.scopeFor?_of_uncaptured`).  This holds as long as no template is given the name that a
later element looks for; otherwise that element takes out a template that is not declared under its key
(`Registry.scopeFor?_captured`).
-/

namespace ViewTemplate

/-- The bindings with `elements` as what the first of them under the key `props` takes apart. -/
def replaceProps (elements : List Binding) : List Binding → List Binding
  | [] => []
  | b :: bs =>
    if b.key = some "props" then
      match b.target with
      | .name _ => b :: bs
      | .pattern p => { b with target := .pattern { p with elements } } :: bs
    else b :: replaceProps elements bs

/-- The parameter with `elements` as what it takes out of the properties. -/
def Parameter.withProps (p : Parameter) (elements : List Binding) : Parameter :=
  match p.target with
  | .name _ => p
  | .pattern q => { p with target := .pattern { q with elements := replaceProps elements q.elements } }

/-- The pattern that takes the properties apart, if the parameter has one. -/
def Parameter.props? (p : Parameter) : Option Pattern :=
  p.target.pattern?.bind Pattern.props?

section

variable {members : List Member} {elements bs : List Binding} {props : Pattern} {p : Parameter}

private theorem replaceProps_self (h : (bs.find? fun b => b.key = some "props").bind (·.target.pattern?) = some props) :
    replaceProps props.elements bs = bs := by
  induction bs with
  | nil => rfl
  | cons b bs ih =>
    obtain ⟨rest, key, target, fallback⟩ := b
    rw [List.find?_cons] at h
    by_cases hb : key = some "props"
    · simp only [hb, decide_true, Option.bind_some] at h
      cases target with
      | name x => simp [Target.pattern?] at h
      | pattern q =>
        obtain ⟨kind, elements⟩ := q
        simp only [Target.pattern?, Option.some.injEq] at h
        subst h
        simp [replaceProps, hb]
    · simp only [hb, decide_false] at h
      simp [replaceProps, hb, ih h]

private theorem rebindProps_replaceProps (members : List Member) (elements : List Binding)
    (h : (bs.find? fun b => b.key = some "props").bind (·.target.pattern?) = some props) :
    rebindProps members (replaceProps elements bs) =
      (replaceProps (rebindAll members elements).1 bs, (rebindAll members elements).2) := by
  induction bs with
  | nil => simp at h
  | cons b bs ih =>
    rw [List.find?_cons] at h
    by_cases hb : b.key = some "props"
    · simp only [hb, decide_true, Option.bind_some] at h
      cases ht : b.target with
      | name x => simp [ht, Target.pattern?] at h
      | pattern q => simp [replaceProps, rebindProps, hb, ht]
    · simp only [hb, decide_false] at h
      simp [replaceProps, rebindProps, hb, ih h]

namespace Parameter

theorem withProps_self (h : p.props? = some props) : p.withProps props.elements = p := by
  obtain ⟨ds, ms, rest, target, optional, type, fallback⟩ := p
  cases target with
  | name x => rfl
  | pattern q =>
    obtain ⟨kind, bs⟩ := q
    have hbs : replaceProps props.elements bs = bs := replaceProps_self h
    simp [withProps, hbs]

theorem typeName?_withProps (p : Parameter) (elements : List Binding) :
    (p.withProps elements).typeName? = p.typeName? := by
  unfold withProps
  split <;> rfl

end Parameter

/-- What a component makes of a parameter that takes out `elements`. -/
theorem Component.scopeFor_withProps (c : Component) (h : p.props? = some props) (elements : List Binding) :
    c.scopeFor (p.withProps elements) =
      ⟨"", some "", ∅, (rebindAll (rebindable c.members) elements).2,
        some ⟨p.withProps elements, p.withProps (rebindAll (rebindable c.members) elements).1⟩⟩ := by
  obtain ⟨ds, ms, rest, target, optional, type, fallback⟩ := p
  cases target with
  | name x => simp [Parameter.props?, Target.pattern?] at h
  | pattern q =>
    obtain ⟨kind, bs⟩ := q
    have hbs : rebindProps (rebindable c.members) (replaceProps elements bs) = _ :=
      rebindProps_replaceProps (rebindable c.members) elements h
    simp [Component.scopeFor, Parameter.withProps, hbs]

/-- The parameter `p` with the elements of its pattern as the component `c` rewrites them. -/
def Component.rewritten (c : Component) (p : Parameter) (pattern : Pattern) : Parameter :=
  { p with target := .pattern { pattern with elements := (rebindProps (rebindable c.members) pattern.elements).1 } }

/-- The scope for a pattern has no variables, its instance has no name, and it holds the rewritten pattern. -/
theorem Component.scopeFor_pattern (c : Component) {pattern : Pattern} (hp : p.target = .pattern pattern) :
    c.scopeFor p = ⟨"", some "", ∅, (rebindProps (rebindable c.members) pattern.elements).2,
      some ⟨p, c.rewritten p pattern⟩⟩ := by
  rw [scopeFor, hp]
  rfl

theorem Component.parameter_scopeFor (c : Component) {pattern : Pattern} (hp : p.target = .pattern pattern) :
    (c.scopeFor p).parameter = some ⟨p, c.rewritten p pattern⟩ := by
  rw [c.scopeFor_pattern hp]

theorem Registry.scopeFor?_eq {r : Registry} {c : Component} {f : Function} (hf : f.parameters.head? = some p)
    (hc : r.componentOf? f = some c) : r.scopeFor? f = some (c.scopeFor p) := by
  rw [scopeFor?, hf, hc]
  rfl

private theorem scopeFor?_withProps {r : Registry} {c : Component} {f g : Function}
    (hp : f.parameters.head? = some p) (hc : r.componentOf? f = some c)
    (hg : g.parameters.head? = some (p.withProps elements)) :
    r.scopeFor? g = some (c.scopeFor (p.withProps elements)) := by
  have hcomponent : r.componentOf? g = some c := by
    rw [Registry.componentOf?, hp] at hc
    rw [Registry.componentOf?, hg, Option.bind_some, Parameter.typeName?_withProps]
    exact hc
  exact Registry.scopeFor?_eq hg hcomponent

end

namespace Registry

/-- For a component whose members have different names for callers, and a function that takes different properties
out of it: each element takes out the member declared under its key exactly when no element captures a later one.
Where all declared members are taken out at once, an element without one changes nothing; one after the other, it
renames a template to which an earlier element gave the name it looks for, as in `{ item: foo, foo: bar }` with the
single template `item`.  Without captures the members and the rewritten parameter are those of taking out all declared members
at once, and reordering the elements reorders the rewritten ones and nothing else. -/
theorem scopeFor?_of_uncaptured {r : Registry} {c : Component} {f : Function} {p : Parameter} {props : Pattern}
    (hp : f.parameters.head? = some p) (hc : r.componentOf? f = some c) (hprops : p.props? = some props)
    (hm : (c.members.map Member.externalName).Nodup) (hk : DistinctKeys props.elements) :
    let declared := rebindable c.members
    (takenPlaces declared props.elements = props.elements.map (·.place? declared) ↔
      Uncaptured declared props.elements) ∧
    (∀ b ∈ props.elements, b.place? declared = none →
      b.redirection declared = b ∧ ∀ bs, declared.map (·.reboundBy (b :: bs)) = declared.map (·.reboundBy bs)) ∧
    (Uncaptured declared props.elements →
      r.scopeFor? f = some ⟨"", some "", ∅, declared.map (·.reboundBy props.elements),
        some ⟨p, p.withProps (props.elements.map (·.redirection declared))⟩⟩) ∧
    ∀ elements, elements.Perm props.elements → Uncaptured declared elements →
      ∀ g, g.parameters.head? = some (p.withProps elements) →
        r.scopeFor? g = some ⟨"", some "", ∅, declared.map (·.reboundBy props.elements),
          some ⟨p.withProps elements, p.withProps (elements.map (·.redirection declared))⟩⟩ := by
  intro declared
  have hdeclared : (declared.map Member.externalName).Nodup :=
    ((List.filter_sublist (l := c.members)).map _).nodup hm
  have hpermuted : ∀ elements, elements.Perm props.elements → Uncaptured declared elements →
      ∀ g, g.parameters.head? = some (p.withProps elements) →
        r.scopeFor? g = some ⟨"", some "", ∅, declared.map (·.reboundBy props.elements),
          some ⟨p.withProps elements, p.withProps (elements.map (·.redirection declared))⟩⟩ := by
    intro elements hperm hu g hg
    have hmembers : declared.map (·.reboundBy elements) = declared.map (·.reboundBy props.elements) :=
      List.map_congr_left fun m _ => Member.reboundBy_perm hk hperm m
    rw [scopeFor?_withProps hp hc hg, c.scopeFor_withProps hprops]
    show some (Scope.mk _ _ _ (rebindAll declared elements).2 (some ⟨_, p.withProps (rebindAll declared elements).1⟩)) = _
    rw [rebindAll_eq hdeclared (hk.perm hperm) hu, hmembers]
  refine ⟨takenPlaces_eq_iff hdeclared hk, fun b _ hb => ?_, fun hu => ?_, hpermuted⟩
  · have hnames := Binding.place?_eq_none_iff.1 hb
    have ht : b.taken? declared = none := by
      rw [Binding.taken?_eq_find?, List.find?_eq_none]
      intro m hm
      simp [hnames m hm]
    refine ⟨by rw [Binding.redirection, ht], fun bs => List.map_congr_left fun m hm => ?_⟩
    simp [Member.reboundBy, hnames m hm]
  · have hself := Parameter.withProps_self hprops
    have h := hpermuted props.elements (.refl _) hu f (by rw [hself, hp])
    rwa [hself] at h

/-- A slot and a template with names of their own for callers, a property that is no member to rebind, and the rest;
then the same elements in another order. -/
theorem scopeFor?_of_uncaptured_slot_and_template :
    let c := (((Component.ofName "Widget").withMember (.ofKind .oneWay "text")).withMember
      ((Member.ofKind .slot "defaultContent").withExternalName "content")).withMember (.ofKind .template "itemTemplate")
    let r := Registry.register ∅ c
    let elements := [Binding.aliased "itemTemplate" "Item", .aliased "content" "body", .ofName "text", .restOf "others"]
    let reordered := [Binding.ofName "text", .restOf "others", .aliased "content" "body", .aliased "itemTemplate" "Item"]
    let p := (Parameter.ofTarget (.pattern ⟨.object, [.nested "props" ⟨.object, elements⟩]⟩)).withType
      (.reference "Widget" [])
    let f := Function.named "view" [p] ⟨[]⟩
    let g := Function.named "view" [p.withProps reordered] ⟨[]⟩
    let members := [((Member.ofKind .slot "defaultContent").withExternalName "content").asLocal,
      ((Member.ofKind .template "itemTemplate").withExternalName "Item").asLocal]
    (f.parameters.head? = some p ∧ r.componentOf? f = some c ∧ p.props? = some ⟨.object, elements⟩ ∧
      (c.members.map Member.externalName).Nodup ∧ DistinctKeys elements ∧ reordered.Perm elements ∧
      Uncaptured (rebindable c.members) elements ∧ Uncaptured (rebindable c.members) reordered) ∧
    r.scopeFor? f = some ⟨"", some "", ∅, members, some ⟨p, p.withProps
      [.aliased "itemTemplate" "Item", .aliased "defaultContent" "body", .ofName "text", .restOf "others"]⟩⟩ ∧
    r.scopeFor? g = some ⟨"", some "", ∅, members, some ⟨p.withProps reordered, p.withProps
      [.ofName "text", .restOf "others", .aliased "defaultContent" "body", .aliased "itemTemplate" "Item"]⟩⟩ := by
  intro c r elements reordered p f g members
  have hp : f.parameters.head? = some p := rfl
  have hc : r.componentOf? f = some c := rfl
  have hprops : p.props? = some ⟨.object, elements⟩ := rfl
  have hm : (c.members.map Member.externalName).Nodup := by decide
  have hk : DistinctKeys elements := by decide
  have hperm : reordered.Perm elements := by
    show ([_, _] ++ [_, _]).Perm _
    exact List.perm_append_comm.trans (.swap _ _ _)
  have hu : Uncaptured (rebindable c.members) elements := by decide
  have hu' : Uncaptured (rebindable c.members) reordered := by decide
  obtain ⟨-, -, hall, hany⟩ := scopeFor?_of_uncaptured hp hc hprops hm hk
  exact ⟨⟨hp, hc, hprops, hm, hk, hperm, hu, hu'⟩, hall hu, hany reordered hperm hu' g rfl⟩

/-- Two templates, the first of them given the name of the second: the element for the second renames the first again
and the second is never taken out.  In the other order both are. -/
theorem scopeFor?_captured :
    let c := ((Component.ofName "List").withMember (.ofKind .template "item")).withMember (.ofKind .template "head")
    let r := Registry.register ∅ c
    let elements := [Binding.aliased "item" "head", .aliased "head" "Head"]
    let view := fun elements => Function.named "view" [(Parameter.ofTarget (.pattern ⟨.object, [.nested "props"
      ⟨.object, elements⟩]⟩)).withType (.reference "List" [])] ⟨[]⟩
    let taken := fun elements => (r.scopeFor? (view elements)).map fun s =>
      s.members.map fun m => (m.name, m.externalName, m.path)
    ((c.members.map Member.externalName).Nodup ∧ DistinctKeys elements) ∧
      takenPlaces (rebindable c.members) elements = [some 0, some 0] ∧
      elements.map (·.place? (rebindable c.members)) = [some 0, some 1] ∧
      taken elements = some [("item", "Head", none), ("head", "head", some "props.")] ∧
      taken elements.reverse = some [("item", "head", none), ("head", "Head", none)] := by
  intro c r elements view taken
  have hm : (c.members.map Member.externalName).Nodup := by decide
  have hk : DistinctKeys elements := by decide
  exact ⟨⟨hm, hk⟩, rfl, rfl, rfl, rfl⟩

end Registry

end ViewTemplate
