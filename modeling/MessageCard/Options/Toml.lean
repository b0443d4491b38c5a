import MessageCard.Toml.Settings

/-!
Options in a configuration file.
-/

namespace MessageCard.Options

/-- The settings of a configuration file. -/
def settings : List (Toml.Setting Options) := [
  .of "validate" Toml.level? (fun options level => { options with level }),
  .of "locale" Toml.text? (fun options locale => { options with locale := some locale }),
  .of "max_depth" Toml.nat? (fun options maxDepth => { options with maxDepth })]

/-- Reads a configuration file: missing settings take the defaults, others are refused. -/
def ofToml? (text : String) : Option Options := do
  Toml.fill settings true {} (← Toml.ofText text.toList)

end MessageCard.Options
