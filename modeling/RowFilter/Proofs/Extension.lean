import RowFilter.Proofs.Agreement
import RowFilter.Proofs.Registry
import RowFilter.Proofs.Whitelist

/-!
# Sources that grow

A source gets a new column, a column gets another label, the whitelist gets another
entry. A wider source still has what the narrower one has (`Context.Extends`,
`Registry.Extends`), so a field that could be looked up comes to the same, and only a field
that could not is a new matter:

> `extension_keeps_results`: whatever a tree comes to for the narrower source, other than
> an error of a field that cannot be looked up, it comes to for the wider one.

Of a column only the key and the target are looked up (`Column.binding`). Columns with keys
of their own do not get in the way of others, wherever they are put (`Inserted`).
-/

namespace RowFilter

/-- True of the errors of a field that cannot be looked up. -/
def FilterError.IsUnresolved : FilterError → Prop
  | .unknownField _ | .columnNotWhitelisted _ | .documentFieldNotJson _ => True
  | .unknownConjunction _ | .tooDeep _ | .nonFiniteNumber _ => False

/-- True of a context that lists all that another one lists, as the same types, and has
the same document. -/
structure Context.Extends (wider context : Context) : Prop where
  document : wider.documentField = context.documentField
  listed : ∀ {column type}, context.columnType? column = some type →
    wider.columnType? column = some type

namespace Context

variable {context wider : Context}

theorem Extends.column (h : wider.Extends context) {name : String} {symbol : Symbol}
    (hsymbol : context.column name = .ok symbol) : wider.column name = .ok symbol := by
  obtain ⟨hlisted, rfl⟩ := column_eq_ok_iff.mp hsymbol
  obtain ⟨type, htype⟩ := isWhitelisted_iff_exists.mp hlisted
  exact column_eq_ok_iff.mpr ⟨isWhitelisted_iff_exists.mpr ⟨type, h.listed htype⟩, rfl⟩

theorem Extends.pointer (h : wider.Extends context) {path : String} {symbol : Symbol}
    (hsymbol : context.pointer path = .ok symbol) : wider.pointer path = .ok symbol := by
  obtain ⟨hjson, rfl⟩ := pointer_eq_ok_iff.mp hsymbol
  rw [pointer_eq_ok_iff, h.document]
  exact ⟨h.listed hjson, rfl⟩

end Context

/-! ## Registries -/

/-- What is looked up of a column. -/
def Column.binding (column : Column) : String × String := (column.key, column.target)

namespace Registry

/-- The column of the table that a key stands for. -/
def target? (registry : Registry) (key : String) : Option String :=
  (registry.get? key).map (·.target)

/-- True of a registry in which every key of another one stands for the same column of
the table. -/
def Extends (more registry : Registry) : Prop :=
  ∀ {key target}, registry.target? key = some target → more.target? key = some target

/-- A column answers to its key unless one behind it does. -/
theorem get?_cons (column : Column) (columns : List Column) (key : String) :
    get? ⟨column :: columns⟩ key
      = (get? ⟨columns⟩ key).or (if column.key = key then some column else none) := by
  rw [get?_eq_find?, get?_eq_find?, List.reverse_cons, List.find?_append]
  by_cases hkey : column.key = key
  · rw [if_pos hkey, List.find?_cons_of_pos (by simpa using hkey)]
  · rw [if_neg hkey, List.find?_cons_of_neg (by simpa using hkey), List.find?_nil]

theorem target?_eq_of_bindings {columns more : List Column}
    (h : more.map Column.binding = columns.map Column.binding) (key : String) :
    target? ⟨more⟩ key = target? ⟨columns⟩ key := by
  have hread : ∀ columns : List Column, target? ⟨columns⟩ key
      = ((columns.map Column.binding).reverse.find? (·.1 = key)).map Prod.snd := by
    intro columns
    rw [target?, get?_eq_find?, ← List.map_reverse, List.find?_map, Option.map_map]
    rfl
  rw [hread more, hread columns, h]

end Registry

/-- Columns with further ones put among them, at any places, whose keys are none of the
known ones. -/
inductive Inserted (known : List String) : List Column → List Column → Prop
  | nil : Inserted known [] []
  | keep (column : Column) {columns more : List Column} (rest : Inserted known columns more) :
      Inserted known (column :: columns) (column :: more)
  | put {column : Column} (fresh : column.key ∉ known) {columns more : List Column}
      (rest : Inserted known columns more) : Inserted known columns (column :: more)

namespace Registry

variable {known : List String} {columns more : List Column}

/-- Under a known key there is still the same column. -/
theorem get?_of_inserted (h : Inserted known columns more) {key : String} (hkey : key ∈ known) :
    get? ⟨more⟩ key = get? ⟨columns⟩ key := by
  induction h with
  | nil => rfl
  | keep column _ ih => rw [get?_cons, get?_cons, ih]
  | @put column fresh _ _ _ ih =>
    have hne : ¬column.key = key := by
      rintro rfl
      exact fresh hkey
    rw [get?_cons, if_neg hne, Option.or_none, ih]

theorem mem_keys_of_target? {key target : String} (h : target? ⟨columns⟩ key = some target) :
    key ∈ columns.map Column.key := by
  obtain ⟨column, hcolumn, -⟩ := Option.map_eq_some_iff.mp h
  obtain ⟨hmem, hkey⟩ := mem_of_get? hcolumn
  exact List.mem_map.mpr ⟨column, hmem, hkey⟩

theorem extends_of_inserted (h : Inserted (columns.map Column.key) columns more) :
    Extends ⟨more⟩ ⟨columns⟩ := by
  intro key target htarget
  rw [target?, get?_of_inserted h (mem_keys_of_target? htarget)]
  exact htarget

end Registry

/-! ## Fields and trees -/

namespace Scope

/-- Nothing else can be wrong with a field. -/
theorem isUnresolved_of_symbol {scope : Scope} {field : String} {error : FilterError}
    (h : scope.symbol field = .error error) : error.IsUnresolved := by
  rcases symbol_error_cases h with rfl | ⟨_, -, rfl⟩ | rfl
  · trivial
  · trivial
  · trivial

variable {context wider : Context} {registry more : Registry}

/-- A field that the narrower source knows is known to the wider one as the same. -/
theorem symbol_of_extends (hcontext : wider.Extends context) (hregistry : more.Extends registry)
    {bound : Nat} {field : String} {symbol : Symbol}
    (h : Scope.symbol ⟨context, registry, bound⟩ field = .ok symbol) :
    Scope.symbol ⟨wider, more, bound⟩ field = .ok symbol := by
  rcases symbol_cases ⟨context, registry, bound⟩ field with
    ⟨hpath, he⟩ | ⟨hkey, column, hget, he⟩ | ⟨-, -, he⟩
  · rw [symbol_of_isPath hpath]
    exact hcontext.pointer (he.symm.trans h)
  · -- the column itself may be another one, but it has the same target
    obtain ⟨column', hget', htarget⟩ := Option.map_eq_some_iff.mp
      (hregistry (Option.map_eq_some_iff.mpr ⟨column, hget, rfl⟩))
    rw [symbol_of_get? hkey hget', htarget]
    exact hcontext.column (he.symm.trans h)
  · exact absurd (he.symm.trans h) (by simp)

/-- A wider source does the same, unless a field stops the narrower one. -/
theorem agrees_of_extends (hcontext : wider.Extends context) (hregistry : more.Extends registry)
    (bound : Nat) :
    Agrees ⟨context, registry, bound⟩ ⟨wider, more, bound⟩ FilterError.IsUnresolved (· = ·) where
  fields field := by
    cases hsymbol : Scope.symbol ⟨context, registry, bound⟩ field with
    | error error => exact Or.inl ⟨error, isUnresolved_of_symbol hsymbol, rfl⟩
    | ok symbol => exact Or.inr (symbol_of_extends hcontext hregistry hsymbol).symm
  within haligned hd := haligned ▸ hd
  below haligned hdeep := Or.inr ⟨haligned ▸ hdeep, rfl⟩
  children haligned := congrArg (· + 1) haligned

/-- **A wider source keeps the filters of a narrower one.** Whatever a tree comes to under
some bound for the narrower source, an operation, nothing or an error other than one of a
field that cannot be looked up, it comes to for the wider one. A registry is wider if columns
with fresh keys are put among its own, and there is still the same column under each of its
keys, or if its columns keep their keys and targets and change otherwise. -/
theorem extension_keeps_results :
    (∀ {context wider : Context} {registry more : Registry},
      wider.Extends context → more.Extends registry →
      ∀ (bound : Nat) (node : Node) (result : Except FilterError (Option Operation)),
        Scope.filter ⟨context, registry, bound⟩ node = result →
        (∀ error, result = .error error → ¬error.IsUnresolved) →
        Scope.filter ⟨wider, more, bound⟩ node = result) ∧
    (∀ columns more : List Column, Inserted (columns.map Column.key) columns more →
      (∀ key ∈ columns.map Column.key,
        Registry.get? ⟨more⟩ key = Registry.get? ⟨columns⟩ key) ∧
      Registry.Extends ⟨more⟩ ⟨columns⟩) ∧
    ∀ columns more : List Column, more.map Column.binding = columns.map Column.binding →
      Registry.Extends ⟨more⟩ ⟨columns⟩ := by
  refine ⟨?_, ?_, ?_⟩
  · rintro context wider registry more hcontext hregistry bound node _ rfl hresolved
    unfold Scope.filter build at hresolved ⊢
    rcases stopsOrSame_buildAt (agrees_of_extends hcontext hregistry bound) node
      (rfl : 0 = 0) with ⟨error, hstops, herror⟩ | hsame
    · rw [herror] at hresolved
      exact absurd hstops (hresolved error rfl)
    · rw [hsame]
  · intro columns more hinserted
    exact ⟨fun key hkey => Registry.get?_of_inserted hinserted hkey,
      Registry.extends_of_inserted hinserted⟩
  · intro columns more hbindings key target htarget
    rw [Registry.target?_eq_of_bindings hbindings]
    exact htarget

end Scope

namespace Builtin

/-- The annotations with the units of variables listed in front of all other columns. -/
def unitsContext : Context :=
  { variableAnnotations.context with
    whitelist := ("variables.unit", .string) :: variableAnnotations.context.whitelist
    distinct := ⟨by decide⟩ }

/-- The columns of the annotations between two of one key. -/
def unitsColumns : List Column :=
  ⟨"unit", "Unit", .string, "variables.unit"⟩ ::
    (variableAnnotations.columns ++ [⟨"unit", "Unit of values", .string, "variables.unit"⟩])

theorem unitsContext_extends : unitsContext.Extends variableAnnotations.context where
  document := rfl
  listed := by
    intro column type h
    have hne : ¬"variables.unit" = column := by
      rintro rfl
      have hnone : variableAnnotations.context.columnType? "variables.unit" = none := by rfl
      exact absurd (hnone.symm.trans h) (by simp)
    rw [Context.columnType?, unitsContext, Keyed.get?_cons, if_neg hne]
    exact h

theorem inserted_unitsColumns :
    Inserted (variableAnnotations.columns.map Column.key) variableAnnotations.columns
      unitsColumns := by
  refine .put (by decide) ?_
  iterate 7 refine .keep _ ?_
  exact .put (by decide) .nil

/-- A group of an unknown conjunction behind a row. -/
def doubtfulQuery : Json :=
  .object [("type", .string "group"), ("children1", .array [rowOf "name" "like" (.string "gdp"),
    .object [("type", .string "group"), ("properties", .object [("conjunction", .string "XOR")]),
      ("children1", .array [])]])]

/-- With the units, one query has the filter that it had before and another is at fault for
what it was. -/
theorem titleQuery_filter_with_units :
    unitsContext.Extends variableAnnotations.context ∧
    Inserted (variableAnnotations.columns.map Column.key) variableAnnotations.columns
      unitsColumns ∧
    (Registry.get? ⟨unitsColumns⟩ "name").isSome = true ∧
    Registry.get? ⟨unitsColumns⟩ "name" = Registry.get? ⟨variableAnnotations.columns⟩ "name" ∧
    Scope.filter ⟨unitsContext, ⟨unitsColumns⟩, defaultMaxDepth⟩ (Node.ofJson titleQuery)
      = .ok (some titleFilter) ∧
    Scope.filter ⟨unitsContext, ⟨unitsColumns⟩, defaultMaxDepth⟩ (Node.ofJson doubtfulQuery)
      = .error (.unknownConjunction "XOR") := by
  obtain ⟨keeps, inserted, -⟩ := Scope.extension_keeps_results
  obtain ⟨hname, hmore⟩ := inserted _ _ inserted_unitsColumns
  have hdoubtful : annotationsScope.filterOfJson doubtfulQuery
      = .error (.unknownConjunction "XOR") := by cbv
  refine ⟨unitsContext_extends, inserted_unitsColumns, rfl, hname "name" (by decide), ?_, ?_⟩
  · refine keeps unitsContext_extends hmore _ _ _ titleQuery_filter ?_
    exact fun error herror => absurd herror (by simp)
  · refine keeps unitsContext_extends hmore _ _ _ hdoubtful ?_
    rintro error ⟨⟩
    exact id

end Builtin

end RowFilter
