/-!
# Settings of a run

Which platform is written for, and the modules that the written code imports. Two of them register components as
widgets, which only one platform can do: settings in normal form keep them for that platform alone.
-/

namespace ViewTemplate

/-- A platform that code is written for. -/
inductive Platform where
  | react
  | angular
  | vue
  | preact
  deriving DecidableEq

namespace Platform

/-- All platforms, in the order in which they are listed. -/
def all : List Platform :=
  [.react, .angular, .vue, .preact]

/-- The name of a platform. -/
def name : Platform → String
  | .react => "react"
  | .angular => "angular"
  | .vue => "vue"
  | .preact => "preact"

/-- The platform of that name. -/
def ofName? (text : String) : Option Platform :=
  all.find? fun p => p.name = text

/-- Whether components can be registered as widgets. -/
def supportsWidgets : Platform → Bool
  | .preact => true
  | _ => false

end Platform

/-- One of the settings. -/
inductive SettingsField where
  | platform
  | defaultOptionsModule
  | widgetRegistrar
  | widgetBase
  | compilerConfig
  deriving DecidableEq

namespace SettingsField

/-- All settings, in the order of their values in an array. -/
def all : List SettingsField :=
  [.platform, .defaultOptionsModule, .widgetRegistrar, .widgetBase, .compilerConfig]

/-- The key of a setting in an object. -/
def key : SettingsField → String
  | .platform => "platform"
  | .defaultOptionsModule => "defaultOptionsModule"
  | .widgetRegistrar => "jqueryComponentRegistratorModule"
  | .widgetBase => "jqueryBaseComponentModule"
  | .compilerConfig => "tsConfig"

/-- The setting with that key. -/
def ofKey? (text : String) : Option SettingsField :=
  all.find? fun field => field.key = text

end SettingsField

/-- The settings of a run. -/
structure Settings where
  platform : Platform
  /-- the module with helpers for default options -/
  defaultOptionsModule : Option String
  /-- the module that registers components as widgets -/
  widgetRegistrar : Option String
  /-- the module with the base class of widgets -/
  widgetBase : Option String
  /-- the path of the compiler's configuration -/
  compilerConfig : Option String
  deriving DecidableEq

namespace Settings

/-- The settings for a platform, all else unset. -/
def ofPlatform (platform : Platform) : Settings :=
  ⟨platform, none, none, none, none⟩

instance : Inhabited Settings := ⟨ofPlatform .react⟩

/-- The value of a setting, if it is set. -/
def value? (s : Settings) : SettingsField → Option String
  | .platform => some s.platform.name
  | .defaultOptionsModule => s.defaultOptionsModule
  | .widgetRegistrar => s.widgetRegistrar
  | .widgetBase => s.widgetBase
  | .compilerConfig => s.compilerConfig

/-- The settings without what the platform cannot use. -/
def normalized (s : Settings) : Settings :=
  if s.platform.supportsWidgets then s else { s with widgetRegistrar := none, widgetBase := none }

/-- The settings with those of `other` on top, in normal form. -/
def merge (s other : Settings) : Settings :=
  normalized
    { platform := other.platform
      defaultOptionsModule := other.defaultOptionsModule <|> s.defaultOptionsModule
      widgetRegistrar := other.widgetRegistrar <|> s.widgetRegistrar
      widgetBase := other.widgetBase <|> s.widgetBase
      compilerConfig := other.compilerConfig <|> s.compilerConfig }

end Settings

end ViewTemplate
