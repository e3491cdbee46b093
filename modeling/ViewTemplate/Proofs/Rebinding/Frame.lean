import Mathlib.Data.List.Forall2
import ViewTemplate.Proofs.Rebinding.Names

/-!
# What rebinding leaves alone

A scope for a function holds a copy of the rebindable members of its component, and the first parameter of the function
as it is rewritten.  Each element of the properties that takes a member out changes both, so what it finds depends on
what the elements before it have changed.  Two facts survive every such step (`rebindOne_frame`), and so all of them
(`rebindAll_frame`):

* (members) every member stands in the place of a declared one and is that member, perhaps as a local binding and, if it
  is a template, under another name (`Member.CopyOf`);
* (elements) every element is the declared one, perhaps under another key, which is then the own name of the slot that
  callers know by the declared key (`Binding.RedirectedIn`).

Keys are no names that a parameter binds, so the rewritten parameter binds the same names, is as deep and has the same
defaults (`Target.Alike`).  `Registry.scopeFor?_frame` puts this together.
-/

namespace ViewTemplate

/-! ### Members -/

/-- The member `m'` is the declared member `m`, perhaps as a local binding and, if it is a template, under another name
for callers. -/
structure Member.CopyOf (m m' : Member) : Prop where
  name : m'.name = m.name
  kind : m'.kind = m.kind
  type : m'.type = m.type
  fallback : m'.fallback = m.fallback
  decorators : m'.decorators = m.decorators
  path : m'.path = m.path ∨ m'.path = none
  externalName : m.isTemplate = false → m'.externalName = m.externalName

namespace Member

variable {m m' m'' : Member}

theorem CopyOf.refl (m : Member) : m.CopyOf m :=
  ⟨rfl, rfl, rfl, rfl, rfl, Or.inl rfl, fun _ => rfl⟩

theorem CopyOf.isTemplate (h : m.CopyOf m') : m'.isTemplate = m.isTemplate := by
  rw [Member.isTemplate, Member.isTemplate, h.kind]

theorem CopyOf.isSlot (h : m.CopyOf m') : m'.isSlot = m.isSlot := by
  rw [Member.isSlot, Member.isSlot, h.kind]

theorem CopyOf.trans (h : m.CopyOf m') (h' : m'.CopyOf m'') : m.CopyOf m'' where
  name := h'.name.trans h.name
  kind := h'.kind.trans h.kind
  type := h'.type.trans h.type
  fallback := h'.fallback.trans h.fallback
  decorators := h'.decorators.trans h.decorators
  path := by
    rcases h'.path with hpath | hnone
    · rw [hpath]
      exact h.path
    · exact Or.inr hnone
  externalName hm := (h'.externalName (h.isTemplate.trans hm)).trans (h.externalName hm)

/-- A member that can be rebound is a slot or a template. -/
theorem isSlot_of_mem_rebindable {members : List Member} (hm : m ∈ rebindable members) :
    m.isTemplate = false → m.isSlot = true := by
  intro ht
  obtain ⟨-, hkept⟩ := List.mem_filter.1 hm
  rw [ht, Bool.false_or, Bool.and_eq_true] at hkept
  exact hkept.1

/-- Only a template gets another name. -/
theorem copyOf_rebound (hm : m.isTemplate = false → m.isSlot = true) (b : Binding) : m.CopyOf (m.rebound b) := by
  have hlocal : m.CopyOf m.asLocal := ⟨rfl, rfl, rfl, rfl, rfl, Or.inr rfl, fun _ => rfl⟩
  unfold rebound
  split
  · exact hlocal
  · next hslot =>
    split
    · exact ⟨rfl, rfl, rfl, rfl, rfl, Or.inr rfl, fun ht => absurd (hm ht) hslot⟩
    · exact hlocal

end Member

/-! ### Elements -/

/-- The element `b'` is `b`, perhaps under another key: the own name of a slot among `members` that callers know by what
`b` reads. -/
structure Binding.RedirectedIn (members : List Member) (b b' : Binding) : Prop where
  rest : b'.rest = b.rest
  target : b'.target = b.target
  fallback : b'.fallback = b.fallback
  key : b'.key = b.key ∨ b.rest = false ∧
    ∃ m ∈ members, m.isSlot = true ∧ b.source? = some m.externalName ∧ b'.key = some m.name

theorem Binding.taken?_eq_some {members : List Member} {b : Binding} {m : Member} (h : b.taken? members = some m) :
    b.rest = false ∧ m ∈ members ∧ b.source? = some m.externalName := by
  unfold Binding.taken? at h
  split at h
  · cases h
  · next hrest =>
    obtain ⟨key, hkey, hm⟩ := Option.bind_eq_some_iff.1 h
    have hname : m.externalName = key := by simpa using List.find?_some hm
    exact ⟨Bool.eq_false_iff.2 hrest, List.mem_of_find?_eq_some hm, by rw [hkey, hname]⟩

section

variable {declared members : List Member} {b : Binding} {bs elements : List Binding}

/-- A member of the copy has a declared one that it is a copy of. -/
private theorem exists_copyOf (h : List.Forall₂ Member.CopyOf declared members) {m' : Member} (hm : m' ∈ members) :
    ∃ m ∈ declared, m.CopyOf m' := by
  induction h with
  | nil => cases hm
  | cons hcopy _ ih =>
    rcases List.mem_cons.1 hm with rfl | hm
    · exact ⟨_, List.mem_cons_self, hcopy⟩
    · obtain ⟨m, hmem, hcopy⟩ := ih hm
      exact ⟨m, List.mem_cons_of_mem _ hmem, hcopy⟩

private theorem copyOf_updateNamed (h : List.Forall₂ Member.CopyOf declared members)
    (hd : ∀ m ∈ declared, m.isTemplate = false → m.isSlot = true) (name : String) (b : Binding) :
    List.Forall₂ Member.CopyOf declared (updateNamed name (·.rebound b) members) := by
  induction h with
  | nil => exact .nil
  | @cons m m' declared members hcopy hrest ih =>
    obtain ⟨hm, hd⟩ := List.forall_mem_cons.1 hd
    have hm' : m'.isTemplate = false → m'.isSlot = true := by
      rw [hcopy.isTemplate, hcopy.isSlot]
      exact hm
    rw [updateNamed]
    split
    · exact .cons (hcopy.trans (Member.copyOf_rebound hm' b)) hrest
    · exact .cons hcopy (ih hd)

/-- One element leaves every member in its place, and may itself be redirected to a declared slot. -/
theorem rebindOne_frame (h : List.Forall₂ Member.CopyOf declared members)
    (hd : ∀ m ∈ declared, m.isTemplate = false → m.isSlot = true) (b : Binding) :
    b.RedirectedIn declared (rebindOne members b).1 ∧
      List.Forall₂ Member.CopyOf declared (rebindOne members b).2 := by
  unfold rebindOne
  split
  · exact ⟨⟨rfl, rfl, rfl, Or.inl rfl⟩, h⟩
  · next m' htaken =>
    obtain ⟨hrest, hmem, hsource⟩ := Binding.taken?_eq_some htaken
    obtain ⟨m, hm, hcopy⟩ := exists_copyOf h hmem
    refine ⟨?_, copyOf_updateNamed h hd _ b⟩
    unfold Binding.redirected
    split
    · next hslot =>
      -- a slot keeps its name for callers, so it is still found under the declared one
      have hslot : m.isSlot = true := hcopy.isSlot.symm.trans hslot
      have htemplate : m.isTemplate = false := by
        have hkind : m.kind = .slot := by simpa [Member.isSlot] using hslot
        rw [Member.isTemplate, hkind]
        rfl
      rw [hcopy.externalName htemplate] at hsource
      exact ⟨rfl, rfl, rfl, Or.inr ⟨hrest, m, hm, hslot, hsource, congrArg some hcopy.name⟩⟩
    · exact ⟨rfl, rfl, rfl, Or.inl rfl⟩

/-- So it is for all elements, one after the other. -/
theorem rebindAll_frame (h : List.Forall₂ Member.CopyOf declared members)
    (hd : ∀ m ∈ declared, m.isTemplate = false → m.isSlot = true) (bs : List Binding) :
    List.Forall₂ (Binding.RedirectedIn declared) bs (rebindAll members bs).1 ∧
      List.Forall₂ Member.CopyOf declared (rebindAll members bs).2 := by
  induction bs generalizing members with
  | nil => exact ⟨.nil, h⟩
  | cons b bs ih =>
    obtain ⟨hb, hmembers⟩ := rebindOne_frame h hd b
    obtain ⟨hbs, hmembers⟩ := ih hmembers
    exact ⟨.cons hb hbs, hmembers⟩

end

/-! ### What does not depend on keys -/

mutual

/-- The default values in a pattern, in source order. -/
def Pattern.fallbacks : Pattern → List Expr
  | ⟨_, elements⟩ => bindingFallbacks elements

/-- The default values in a list of bindings. -/
def bindingFallbacks : List Binding → List Expr
  | [] => []
  | b :: bs => b.fallbacks ++ bindingFallbacks bs

/-- The default values in a binding, its own last. -/
def Binding.fallbacks : Binding → List Expr
  | ⟨_, _, target, fallback⟩ => target.fallbacks ++ fallback.toList

/-- The default values in a target. -/
def Target.fallbacks : Target → List Expr
  | .name _ => []
  | .pattern p => p.fallbacks

end

/-- Both targets bind the same names, are equally deep, and have the same default values. -/
structure Target.Alike (t t' : Target) : Prop where
  boundNames : t'.boundNames = t.boundNames
  depth : t'.depth = t.depth
  fallbacks : t'.fallbacks = t.fallbacks

/-- Both bindings do so with their targets, and have the same default value of their own. -/
structure Binding.Alike (b b' : Binding) : Prop where
  target : b.target.Alike b'.target
  fallback : b'.fallback = b.fallback

theorem Target.Alike.refl (t : Target) : t.Alike t :=
  ⟨rfl, rfl, rfl⟩

theorem Binding.Alike.refl (b : Binding) : b.Alike b :=
  ⟨.refl b.target, rfl⟩

theorem Binding.RedirectedIn.alike {members : List Member} {b b' : Binding} (h : b.RedirectedIn members b') :
    b.Alike b' where
  target := h.target ▸ .refl b.target
  fallback := h.fallback

/-- Patterns with elements that are alike are alike. -/
theorem Target.alike_pattern {bs bs' : List Binding} (h : List.Forall₂ Binding.Alike bs bs') (kind : PatternKind) :
    (Target.pattern ⟨kind, bs⟩).Alike (.pattern ⟨kind, bs'⟩) := by
  have hlists : bindingNames bs' = bindingNames bs ∧ bindingDepth bs' = bindingDepth bs ∧
      bindingFallbacks bs' = bindingFallbacks bs := by
    induction h with
    | nil => exact ⟨rfl, rfl, rfl⟩
    | @cons b b' bs bs' hb _ ih =>
      obtain ⟨rest, key, target, fallback⟩ := b
      obtain ⟨rest', key', target', fallback'⟩ := b'
      obtain ⟨⟨hnames, hdepth, hfallbacks⟩, rfl⟩ := hb
      obtain ⟨ihnames, ihdepth, ihfallbacks⟩ := ih
      refine ⟨?_, ?_, ?_⟩
      · rw [bindingNames, bindingNames, Binding.boundNames, Binding.boundNames, hnames, ihnames]
      · rw [bindingDepth, bindingDepth, Binding.depth, Binding.depth, hdepth, ihdepth]
      · rw [bindingFallbacks, bindingFallbacks, Binding.fallbacks, Binding.fallbacks, hfallbacks, ihfallbacks]
  obtain ⟨hnames, hdepth, hfallbacks⟩ := hlists
  refine ⟨?_, ?_, ?_⟩
  · rw [Target.boundNames, Target.boundNames, Pattern.boundNames, Pattern.boundNames, hnames]
  · rw [Target.depth, Target.depth, Pattern.depth, Pattern.depth, hdepth]
  · rw [Target.fallbacks, Target.fallbacks, Pattern.fallbacks, Pattern.fallbacks, hfallbacks]

section

variable {p : Parameter} {elements bs : List Binding}

private theorem alike_replaceProps
    (h : ∀ q, (bs.find? fun b => b.key = some "props").bind (·.target.pattern?) = some q →
      List.Forall₂ Binding.Alike q.elements elements) :
    List.Forall₂ Binding.Alike bs (replaceProps elements bs) := by
  induction bs with
  | nil => exact .nil
  | cons b bs ih =>
    rw [replaceProps]
    rw [List.find?_cons] at h
    split
    · next hb =>
      rw [decide_eq_true hb] at h
      have hsame : List.Forall₂ Binding.Alike bs bs := List.forall₂_same.2 fun b _ => .refl b
      split
      · exact .cons (.refl b) hsame
      · next q hq =>
        obtain ⟨kind, bs'⟩ := q
        have helements : List.Forall₂ Binding.Alike bs' elements := h ⟨kind, bs'⟩ (by rw [Option.bind_some, hq]; rfl)
        refine .cons ⟨?_, rfl⟩ hsame
        rw [hq]
        exact Target.alike_pattern helements kind
    · next hb =>
      rw [decide_eq_false hb] at h
      exact .cons (.refl b) (ih h)

/-- A parameter that takes elements that are alike out of the properties is alike. -/
theorem Parameter.alike_withProps (h : List.Forall₂ Binding.Alike p.propsElements elements) :
    p.target.Alike (p.withProps elements).target := by
  unfold Parameter.withProps
  split
  · exact .refl _
  · next q ht =>
    obtain ⟨kind, bs⟩ := q
    rw [ht]
    refine Target.alike_pattern (alike_replaceProps fun q hq => ?_) kind
    have hprops : p.props? = some q := by rw [Parameter.props?, ht]; exact hq
    rwa [Parameter.propsElements, hprops] at h

/-- Nothing but the target changes. -/
theorem Parameter.withProps_eq (p : Parameter) (elements : List Binding) :
    p.withProps elements = { p with target := (p.withProps elements).target } := by
  obtain ⟨decorators, modifiers, rest, target, optional, type, fallback⟩ := p
  cases target <;> rfl

private theorem replaceProps_of_none
    (h : (bs.find? fun b => b.key = some "props").bind (·.target.pattern?) = none) : replaceProps elements bs = bs := by
  induction bs with
  | nil => rfl
  | cons b bs ih =>
    rw [List.find?_cons] at h
    rw [replaceProps]
    split
    · next hb =>
      rw [decide_eq_true hb, Option.bind_some] at h
      split
      · rfl
      · next q hq =>
        rw [hq] at h
        cases h
    · next hb =>
      rw [decide_eq_false hb] at h
      rw [ih h]

/-- The rewritten parameter is the declared one with the elements of its properties rebound. -/
theorem Component.parameter_scopeFor_eq (c : Component) (p : Parameter) :
    (c.scopeFor p).parameter = some ⟨p, p.withProps (rebindAll (rebindable c.members) p.propsElements).1⟩ := by
  cases hprops : p.props? with
  | some props =>
    have hscope := c.scopeFor_withProps hprops props.elements
    rw [Parameter.withProps_self hprops] at hscope
    rw [hscope, Parameter.propsElements, hprops]
    rfl
  | none =>
    rw [Parameter.propsElements, hprops, Component.scopeFor]
    cases ht : p.target with
    | name x => simp [Parameter.withProps, ht]
    | pattern q =>
      rw [Parameter.props?, ht] at hprops
      simp only [rebindProps_of_none _ hprops, Option.map_none, Option.getD_none, rebindAll]
      rw [Parameter.withProps, ht]
      simp only [replaceProps_of_none hprops]

end

namespace Registry

variable {r : Registry} {f : Function} {s : Scope}

/-- A function that has a scope for its component.  The members of the scope are the rebindable members of the
component, in their places, and each is a copy of the declared one.  The scope holds the first parameter, and as its
rewritten form the same parameter with other keys for some of the elements that it takes out of the properties, which
binds the same names, is as deep and has the same defaults and the same type.  The scope has no variables, and its
instance keeps its name. -/
theorem scopeFor?_frame (h : r.scopeFor? f = some s) :
    ∃ c p elements, r.componentOf? f = some c ∧ f.parameters.head? = some p ∧
      List.Forall₂ Member.CopyOf (rebindable c.members) s.members ∧
      s.parameter = some ⟨p, p.withProps elements⟩ ∧
      List.Forall₂ (Binding.RedirectedIn (rebindable c.members)) p.propsElements elements ∧
      p.target.Alike (p.withProps elements).target ∧
      p.withProps elements = { p with target := (p.withProps elements).target } ∧
      s.vars = ∅ ∧ s.newContext = some s.context := by
  obtain ⟨p, hp, hc⟩ := Option.bind_eq_some_iff.1 h
  obtain ⟨c, hcomponent, rfl⟩ := Option.map_eq_some_iff.1 hc
  have hsame : List.Forall₂ Member.CopyOf (rebindable c.members) (rebindable c.members) :=
    List.forall₂_same.2 fun m _ => .refl m
  obtain ⟨helements, hmembers⟩ :=
    rebindAll_frame hsame (fun m hm => Member.isSlot_of_mem_rebindable hm) p.propsElements
  rw [← c.members_scopeFor p] at hmembers
  have halike := Parameter.alike_withProps (helements.imp fun _ _ hb => Binding.RedirectedIn.alike hb)
  refine ⟨c, p, _, hcomponent, hp, hmembers, c.parameter_scopeFor_eq p, helements, halike, p.withProps_eq _, ?_, ?_⟩
  · rw [Component.scopeFor]
    split <;> rfl
  · rw [Component.scopeFor]
    split <;> rfl

/-- A slot that is taken out twice, once with a default, a template that is renamed twice, since its first new name is
the key of a later element, a template that is left alone, and the rest. -/
theorem scopeFor?_frame_repeated_and_captured :
    let c := (((Component.ofName "List").withMember ((Member.ofKind .slot "defaultContent").withExternalName
      "content")).withMember (.ofKind .template "item")).withMember (.ofKind .template "head")
    let r := Registry.register ∅ c
    let elements := [(Binding.aliased "content" "body").withFallback (.ident "none"), .aliased "item" "head",
      .nested "content" ⟨.array, [.ofName "first"]⟩, .aliased "head" "Head", .restOf "content"]
    let p := (Parameter.ofTarget (.pattern ⟨.object, [.ofName "state", .nested "props" ⟨.object, elements⟩]⟩)).withType
      (.reference "List" [])
    let f := Function.named "view" [p] ⟨[]⟩
    let s := c.scopeFor p
    r.scopeFor? f = some s ∧
      s.members.map (fun m => (m.name, m.externalName, m.path)) =
        [("defaultContent", "content", none), ("item", "Head", none), ("head", "head", some "props.")] ∧
      List.Forall₂ Member.CopyOf (rebindable c.members) s.members ∧
      ∃ q, s.parameter = some ⟨p, q⟩ ∧
        q.propsElements.map Binding.key =
          [some "defaultContent", some "item", some "defaultContent", some "head", none] ∧
        q.target.boundNames = ["state", "body", "head", "first", "Head", "content"] ∧ q.target.depth = 3 ∧
        q.target.fallbacks = [.ident "none"] ∧ q.type = p.type := by
  intro c r elements p f s
  have h : r.scopeFor? f = some s := rfl
  obtain ⟨c', p', elements', hc, hp, hmembers, hparameter, -, halike, hq, -⟩ := scopeFor?_frame h
  obtain rfl : c = c' := Option.some.inj hc
  obtain rfl : p = p' := Option.some.inj hp
  refine ⟨h, rfl, hmembers, _, hparameter, ?_, halike.boundNames, halike.depth, halike.fallbacks, ?_⟩
  · have hrewritten := hparameter.symm.trans (c.parameter_scopeFor_eq p)
    simp only [Option.some.injEq, RewrittenParameter.mk.injEq, true_and] at hrewritten
    rw [hrewritten]
    rfl
  · rw [hq]

end Registry

end ViewTemplate
