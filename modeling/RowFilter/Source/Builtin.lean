import RowFilter.Source.Settings

/-!
# The sources of the grid editor

Where no settings are given, two sources are known: the annotations of variables
and the bulk update of charts. Both offer the same places of a chart's document.

These are the built-in variants of the specification (section 4.5).
-/

namespace RowFilter.Builtin

/-- The types that a chart may have. -/
def chartTypes : List String :=
  ["LineChart", "ScatterPlot", "StackedArea", "DiscreteBar", "StackedDiscreteBar",
    "SlopeChart", "StackedBar", "Marimekko"]

/-- The places of a chart's document that the filter panel can offer. -/
def configFields : List ConfigField :=
  [⟨"/type", .dropdown, some chartTypes⟩,
    ⟨"/hasMapTab", .checkbox, none⟩,
    ⟨"/title", .textfield, none⟩,
    ⟨"/subtitle", .textarea, none⟩,
    ⟨"/note", .textarea, none⟩,
    ⟨"/dimensions/0/display/unit", .textfield, none⟩,
    ⟨"/dimensions/0/display/shortUnit", .textfield, none⟩,
    ⟨"/yAxis/min", .numeric, none⟩,
    ⟨"/yAxis/max", .numeric, none⟩,
    ⟨"/map/colorScale/customNumericColors", .colorEditor, none⟩,
    ⟨"/selectedEntityNames", .primitiveListEditor, none⟩]

/-- The annotations of variables. -/
def variableAnnotations : SourceConfig where
  endpoint := "/api/variable-annotations"
  documentField := "grapherConfig"
  whitelist :=
    [⟨"id", .number⟩, ⟨"variables.name", .string⟩, ⟨"datasets.name", .string⟩,
      ⟨"namespaces.name", .string⟩, ⟨"variables.description", .string⟩,
      ⟨"variables.createdAt", .datetime⟩, ⟨"variables.updatedAt", .datetime⟩,
      ⟨"grapherConfig", .json⟩]
  columns :=
    [⟨"id", "Id", .number, "id"⟩,
      ⟨"name", "Variable name", .string, "variables.name"⟩,
      ⟨"datasetname", "Dataset name", .string, "datasets.name"⟩,
      ⟨"namespacename", "Namespace name", .string, "namespaces.name"⟩,
      ⟨"description", "Description", .string, "variables.description"⟩,
      ⟨"createdAt", "Created at", .datetime, "variables.createdAt"⟩,
      ⟨"updatedAt", "Updated at", .datetime, "variables.updatedAt"⟩]
  configFields := configFields

/-- The bulk update of charts. -/
def charts : SourceConfig where
  endpoint := "/api/chart-bulk-update"
  documentField := "config"
  whitelist :=
    [⟨"id", .number⟩, ⟨"charts.createdAt", .datetime⟩, ⟨"charts.updatedAt", .datetime⟩,
      ⟨"charts.lastEditedAt", .datetime⟩, ⟨"charts.publishedAt", .datetime⟩,
      ⟨"lastEditedByUser.fullName", .string⟩, ⟨"publishedByUser.fullName", .string⟩,
      ⟨"config", .json⟩]
  columns :=
    [⟨"id", "Id", .number, "id"⟩,
      ⟨"createdAt", "Created at", .datetime, "charts.createdAt"⟩,
      ⟨"updatedAt", "Updated at", .datetime, "charts.updatedAt"⟩,
      ⟨"lastEditedAt", "Last edited at", .datetime, "charts.lastEditedAt"⟩,
      ⟨"publishedAt", "Published at", .datetime, "charts.publishedAt"⟩,
      ⟨"lastEditedByUser", "Last edited by user", .string, "lastEditedByUser.fullName"⟩,
      ⟨"publishedByUser", "Published by user", .string, "publishedByUser.fullName"⟩]
  configFields := configFields

/-- The settings that hold where none are given. -/
def settings : Settings where
  maxDepth := defaultMaxDepth
  sources := [("variable-annotations", variableAnnotations), ("charts", charts)]

end RowFilter.Builtin
