import Mathlib.Data.List.Induction
import ViewTemplate.Settings.Basic

/-!
# Settings in layers

Merging puts one layer of settings on top of another.  A value that the upper layer sets wins, and the result is in
normal form: what its platform cannot use is gone, and no later layer brings it back.

* (one merge) a setting has the value of the upper layer, or else that of the lower one, as long as the platform of the
  upper one can use it: `value?_merge`;
* (three layers) so merging is associative up to a value that a platform in the middle cannot use: `merge_assoc_iff`;
* (any number of layers) put on one after the other, the layers give a setting the last value that was set since their
  platforms can use it, `value?_overlay`; put together from the top, the last value that was set at all, if the
  platform of the topmost layer can use it, `value?_overlayFromTop`.
-/

namespace ViewTemplate

/-- A setting that is of no use without widgets. -/
def SettingsField.forWidgets : SettingsField → Bool
  | .widgetRegistrar | .widgetBase => true
  | _ => false

theorem Platform.ofName?_name (p : Platform) : ofName? p.name = some p := by
  cases p <;> rfl

theorem Platform.eq_of_name_eq {p q : Platform} (h : p.name = q.name) : p = q := by
  rw [← Option.some_inj, ← ofName?_name p, h, ofName?_name]

namespace Settings

/-- Whether the platform can use the setting `f`. -/
def uses (f : SettingsField) (s : Settings) : Bool :=
  !f.forWidgets || s.platform.supportsWidgets

/-- Settings without anything that their platform cannot use. -/
def IsNormal (s : Settings) : Prop :=
  s.normalized = s

instance (s : Settings) : Decidable s.IsNormal :=
  inferInstanceAs (Decidable (s.normalized = s))

/-- The layers on top of `s`, put on one after the other. -/
def overlay (s : Settings) (layers : List Settings) : Settings :=
  layers.foldl merge s

/-- The layers on top of `s`, each one put under what the layers above it make together. -/
def overlayFromTop (s : Settings) : List Settings → Settings
  | [] => s
  | t :: layers => s.merge (t.overlayFromTop layers)

variable {s t a b c : Settings} {f : SettingsField} {layers : List Settings}

/-! ### One layer on top of another -/

/-- Settings are the same if all values are. -/
theorem eq_of_value? (h : ∀ f, s.value? f = t.value? f) : s = t := by
  have hplatform : s.platform = t.platform := Platform.eq_of_name_eq (Option.some.inj (h .platform))
  have hdefaults : s.defaultOptionsModule = t.defaultOptionsModule := h .defaultOptionsModule
  have hregistrar : s.widgetRegistrar = t.widgetRegistrar := h .widgetRegistrar
  have hbase : s.widgetBase = t.widgetBase := h .widgetBase
  have hcompiler : s.compilerConfig = t.compilerConfig := h .compilerConfig
  obtain ⟨platform, defaults, registrar, base, compiler⟩ := s
  subst hplatform hdefaults hregistrar hbase hcompiler
  rfl

theorem platform_normalized (s : Settings) : s.normalized.platform = s.platform := by
  rw [normalized]
  split <;> rfl

theorem value?_normalized (s : Settings) (f : SettingsField) :
    s.normalized.value? f = if s.uses f then s.value? f else none := by
  rw [normalized, uses]
  cases s.platform.supportsWidgets <;> cases f <;> rfl

/-- In normal form no value is set that the platform cannot use. -/
theorem IsNormal.value?_eq_none (h : s.IsNormal) (hf : s.uses f = false) : s.value? f = none := by
  rw [← h, value?_normalized, hf, if_neg Bool.false_ne_true]

theorem platform_merge (s t : Settings) : (s.merge t).platform = t.platform := by
  rw [merge, platform_normalized]

theorem uses_merge (s t : Settings) (f : SettingsField) : (s.merge t).uses f = t.uses f := by
  rw [uses, uses, platform_merge]

/-- The value of the upper layer wins, if its platform can use the setting at all. -/
theorem value?_merge (s t : Settings) (f : SettingsField) :
    (s.merge t).value? f = if t.uses f then (t.value? f).or (s.value? f) else none := by
  rw [merge, value?_normalized]
  cases f <;> simp [uses, value?, Option.orElse_eq_or]

theorem isNormal_merge (s t : Settings) : (s.merge t).IsNormal := by
  refine eq_of_value? fun f => ?_
  rw [value?_normalized, uses_merge, value?_merge]
  split <;> rfl

/-! ### Three layers -/

/-- Merging is associative unless the layer in the middle takes a value away that the lower one has, while the upper one
could use the setting and has no value of its own. -/
theorem merge_assoc_iff (hb : b.IsNormal) :
    (a.merge b).merge c = a.merge (b.merge c) ↔
      ∀ f, b.uses f = false → c.uses f = true → c.value? f = none → a.value? f = none := by
  have hleft (f : SettingsField) : ((a.merge b).merge c).value? f =
      if c.uses f then (c.value? f).or (if b.uses f then (b.value? f).or (a.value? f) else none) else none := by
    rw [value?_merge, value?_merge]
  have hright (f : SettingsField) : (a.merge (b.merge c)).value? f =
      if c.uses f then ((c.value? f).or (b.value? f)).or (a.value? f) else none := by
    rw [value?_merge, uses_merge, value?_merge]
    cases c.uses f <;> rfl
  constructor
  · intro h f hbf hcf hnone
    have hvalue := hright f
    rw [← h, hleft f, hbf, hcf, hnone, hb.value?_eq_none hbf] at hvalue
    exact hvalue.symm
  · intro h
    refine eq_of_value? fun f => ?_
    rw [hleft, hright]
    cases hcf : c.uses f with
    | false => rfl
    | true =>
      cases hbf : b.uses f with
      | true => exact (Option.or_assoc ..).symm
      | false =>
        rw [hb.value?_eq_none hbf]
        cases hc : c.value? f with
        | none => exact (h f hbf hcf hc).symm
        | some value => rfl

/-! ### Any number of layers -/

theorem platform_overlay (s : Settings) (layers : List Settings) :
    (s.overlay layers).platform = (layers.getLastD s).platform := by
  induction layers generalizing s with
  | nil => rfl
  | cons t layers ih =>
    show ((s.merge t).overlay layers).platform = _
    rw [ih, List.getLastD_cons]
    cases layers with
    | nil => exact platform_merge s t
    | cons u layers => rfl

theorem platform_overlayFromTop (s : Settings) (layers : List Settings) :
    (s.overlayFromTop layers).platform = (layers.getLastD s).platform := by
  induction layers generalizing s with
  | nil => rfl
  | cons t layers ih => rw [overlayFromTop, platform_merge, ih, List.getLastD_cons]

theorem isNormal_overlay (hs : s.IsNormal) (layers : List Settings) : (s.overlay layers).IsNormal := by
  induction layers generalizing s with
  | nil => exact hs
  | cons t layers ih => exact ih (isNormal_merge s t)

theorem isNormal_overlayFromTop (hs : s.IsNormal) (layers : List Settings) : (s.overlayFromTop layers).IsNormal := by
  cases layers with
  | nil => exact hs
  | cons t layers => exact isNormal_merge s _

/-- The topmost layers down to the last one whose platform cannot use the setting are the ones that count. -/
theorem value?_overlay (hs : s.IsNormal) (layers : List Settings) (f : SettingsField) :
    (s.overlay layers).value? f = ((s :: layers).reverse.takeWhile (·.uses f)).findSome? (·.value? f) := by
  induction layers using List.reverseRecOn with
  | nil =>
    show s.value? f = ([s].takeWhile (·.uses f)).findSome? (·.value? f)
    cases hf : s.uses f with
    | true => simp [hf]
    | false => simp [hf, hs.value?_eq_none hf]
  | append_singleton layers t ih =>
    have hstep : s.overlay (layers ++ [t]) = (s.overlay layers).merge t := by
      rw [overlay, List.foldl_append]
      rfl
    have htop : (s :: (layers ++ [t])).reverse = t :: (s :: layers).reverse := by
      rw [← List.cons_append, List.reverse_append]
      rfl
    rw [hstep, htop, value?_merge, List.takeWhile_cons, ih]
    split
    · rw [List.findSome?_cons]
      cases t.value? f <;> rfl
    · rfl

/-- Whatever layers there are, all values come through to a topmost one that can use them. -/
private theorem value?_overlayFromTop_of_uses (hf : (layers.getLastD s).uses f = true) :
    (s.overlayFromTop layers).value? f = (s :: layers).reverse.findSome? (·.value? f) := by
  have hbottom (s : Settings) : [s].findSome? (·.value? f) = s.value? f := by simp
  induction layers generalizing s with
  | nil => exact (hbottom s).symm
  | cons t layers ih =>
    rw [List.getLastD_cons] at hf
    have huses : (t.overlayFromTop layers).uses f = true := by
      rw [uses, platform_overlayFromTop]
      exact hf
    have hlast : (s :: t :: layers).reverse = (t :: layers).reverse ++ [s] := List.reverse_cons
    rw [overlayFromTop, value?_merge, huses, if_pos rfl, ih hf, hlast, List.findSome?_append, hbottom]

/-- Put together from the top, all layers count as long as the topmost one can use the setting. -/
theorem value?_overlayFromTop (hs : s.IsNormal) (layers : List Settings) (f : SettingsField) :
    (s.overlayFromTop layers).value? f =
      if (layers.getLastD s).uses f then (s :: layers).reverse.findSome? (·.value? f) else none := by
  cases hf : (layers.getLastD s).uses f with
  | true => exact value?_overlayFromTop_of_uses hf
  | false =>
    have huses : (s.overlayFromTop layers).uses f = false := by
      rw [uses, platform_overlayFromTop]
      exact hf
    exact (isNormal_overlayFromTop hs layers).value?_eq_none huses

/-- Settings in layers.  Merging gives settings in normal form.  It is associative for three layers in normal form unless
the platform in the middle cannot use a setting of the lower layer that the upper platform can use and the upper layer
leaves unset.  Put on one after the other, any number of layers give the last platform, and each setting the last value
that was set since all platforms can use it.  Put together from the top, they give the last platform, and each setting
the last value that was set at all, if that platform can use it. -/
theorem values_of_layers :
    (∀ s t : Settings, (s.merge t).IsNormal) ∧
      (∀ a b c : Settings, a.IsNormal → b.IsNormal → c.IsNormal →
        ((a.merge b).merge c = a.merge (b.merge c) ↔
          ∀ f, b.uses f = false → c.uses f = true → c.value? f = none → a.value? f = none)) ∧
      ∀ (s : Settings) (layers : List Settings), s.IsNormal →
        ((s.overlay layers).IsNormal ∧ (s.overlay layers).platform = (layers.getLastD s).platform ∧
          ∀ f, (s.overlay layers).value? f =
            ((s :: layers).reverse.takeWhile (·.uses f)).findSome? (·.value? f)) ∧
        (s.overlayFromTop layers).IsNormal ∧ (s.overlayFromTop layers).platform = (layers.getLastD s).platform ∧
          ∀ f, (s.overlayFromTop layers).value? f =
            if (layers.getLastD s).uses f then (s :: layers).reverse.findSome? (·.value? f) else none := by
  refine ⟨isNormal_merge, fun a b c _ hb _ => merge_assoc_iff hb, fun s layers hs => ⟨⟨?_, ?_, ?_⟩, ?_, ?_, ?_⟩⟩
  · exact isNormal_overlay hs layers
  · exact platform_overlay s layers
  · exact value?_overlay hs layers
  · exact isNormal_overlayFromTop hs layers
  · exact platform_overlayFromTop s layers
  · exact value?_overlayFromTop hs layers

/-- Widget modules that are set below and above a platform without widgets, and a module for any platform. -/
theorem values_of_layers_across_platforms :
    let a : Settings := ⟨.preact, some "defaults", some "registrar", some "base", none⟩
    let b : Settings := ⟨.vue, none, none, none, some "tsconfig.json"⟩
    let c : Settings := ⟨.preact, none, some "other", some "mine", none⟩
    let layers := [b, ⟨.preact, none, some "other", none, none⟩]
    (a.IsNormal ∧ b.IsNormal ∧ c.IsNormal ∧
        ∀ f, b.uses f = false → c.uses f = true → c.value? f = none → a.value? f = none) ∧
      (a.merge b).merge c = a.merge (b.merge c) ∧
      (a.overlay layers).value? .widgetRegistrar = some "other" ∧ (a.overlay layers).value? .widgetBase = none ∧
      (a.overlay layers).value? .defaultOptionsModule = some "defaults" ∧
      (a.overlay layers).value? .platform = some "preact" ∧
      (a.overlayFromTop layers).value? .widgetBase = some "base" := by
  intro a b c layers
  have ha : a.IsNormal := rfl
  have hb : b.IsNormal := rfl
  have hc : c.IsNormal := rfl
  have hkept : ∀ f, b.uses f = false → c.uses f = true → c.value? f = none → a.value? f = none := by
    intro f
    cases f <;> decide
  obtain ⟨-, hassoc, hlayers⟩ := values_of_layers
  obtain ⟨⟨-, -, hvalue⟩, -, -, hvalue'⟩ := hlayers a layers ha
  refine ⟨⟨ha, hb, hc, hkept⟩, (hassoc a b c ha hb hc).2 hkept, ?_, ?_, ?_, ?_, ?_⟩
  · exact hvalue .widgetRegistrar
  · exact hvalue .widgetBase
  · exact hvalue .defaultOptionsModule
  · exact hvalue .platform
  · exact hvalue' .widgetBase

/-- The base module of widgets is lost on the way over a platform without widgets, though no layer sets it again and the
last platform can use it; if the upper two layers are merged first, it is kept. -/
theorem merge_drops_widgetBase :
    let a : Settings := ⟨.preact, none, none, some "base", none⟩
    let b := ofPlatform .react
    let c := ofPlatform .preact
    (a.IsNormal ∧ b.IsNormal ∧ c.IsNormal) ∧ c.platform.supportsWidgets = true ∧
      [c, b, a].findSome? Settings.widgetBase = some "base" ∧ (a.overlay [b, c]).widgetBase = none ∧
      ((a.merge b).merge c).widgetBase = none ∧ (a.merge (b.merge c)).widgetBase = some "base" ∧
      (a.merge b).merge c ≠ a.merge (b.merge c) := by
  decide

end Settings

end ViewTemplate
