import ScanQuery.Severity

/-!
Findings and plugins. A plugin is a check of the scanner; a finding is what one plugin reported
on one port of one host. The severity attribute of a finding is kept as the scanner wrote it.
-/

namespace ScanQuery

/-- A check of the scanner, with the level shown for it. -/
structure Plugin where
  id : String
  name : String
  severity : Severity
  deriving DecidableEq, Repr

/-- What a plugin reported. -/
structure Finding where
  pluginId : String
  pluginName : String
  severity : String
  description : String
  output : Option String
  deriving DecidableEq, Repr

namespace Finding

/-- The number in the severity attribute, which queries compare. -/
def ordinal (f : Finding) : Int :=
  Severity.reportOrdinal f.severity

/-- The level shown for the severity attribute. -/
def level (f : Finding) : Severity :=
  Severity.ofReport f.severity

/-- The plugin that a finding comes from. -/
def plugin (f : Finding) : Plugin :=
  ⟨f.pluginId, f.pluginName, f.level⟩

end Finding

namespace Plugin

/-- The line of a plugin in a listing. -/
def line (p : Plugin) : String :=
  p.id ++ ":\t(" ++ p.severity.label ++ ")\t" ++ p.name

/-- The plugins with the most severe first; plugins of one level keep their order. -/
def sortBySeverity (plugins : List Plugin) : List Plugin :=
  plugins.mergeSort fun a b => b.severity ≤ a.severity

/-- The list with a plugin at its end, unless it has one with that id. -/
def addNew (plugins : List Plugin) (p : Plugin) : List Plugin :=
  if plugins.any (·.id = p.id) then plugins else plugins ++ [p]

end Plugin

end ScanQuery
