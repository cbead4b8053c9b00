import RowFilter.Command.Run
import RowFilter.Proofs.OfferedFields

/-!
# The default target of a search

A search without a field is meant for the first column that holds texts. That column is
found in order, but its key is then looked up like a field that a user names, and there
another entry may win: a path does over every column, and of two columns with one key the
later one.

> `default_target`: there is a target if and only if some column holds texts, and it is the
> first such column if and only if that column's key is no path and answers with the same
> target.
-/

namespace RowFilter

open Command

namespace DataSource

variable {source : DataSource} {maxDepth : Nat} {column : Column}

/-- The key of a column stands for the path that it looks like, or for the target of the
last column with that key. -/
theorem symbol_key (maxDepth : Nat) (hmem : column ∈ source.registry.columns) :
    ∃ last, IsLast (·.key = column.key) source.registry.columns last ∧
      (source.scope maxDepth).symbol column.key
        = .ok (if isPath column.key then .pointer source.context.documentField column.key
            else .column last.target) := by
  obtain ⟨last, hget⟩ : ∃ last, source.registry.get? column.key = some last := by
    refine Option.ne_none_iff_exists'.mp fun hnone => ?_
    exact Registry.get?_eq_none_iff.mp hnone column hmem rfl
  refine ⟨last, Registry.get?_eq_some_iff.mp hget, ?_⟩
  by_cases hpath : isPath column.key = true
  · rw [if_pos hpath]
    exact symbol_of_isPath hpath
  · rw [if_neg hpath]
    exact symbol_of_get? hpath hget

/-- Without a field, a search is for what the key of the first text column stands for. -/
theorem searchTarget_of_isFirst
    (h : IsFirst (·.fieldType = .string) source.registry.columns column) :
    searchTarget source (source.scope maxDepth) none
      = ((source.scope maxDepth).symbol column.key).mapError .filter := by
  have hfind := isFirst_iff_find?.mp h
  unfold searchTarget
  simp only [hfind]

/-- Without a text column there is nothing to search in. -/
theorem searchTarget_of_no_text_column
    (h : ∀ column ∈ source.registry.columns, column.fieldType ≠ .string) :
    searchTarget source (source.scope maxDepth) none = .error (.noTextColumn source.name) := by
  have hfind : source.registry.columns.find? (fun column => decide (column.fieldType = .string))
      = none := by
    rw [List.find?_eq_none]
    exact fun column hm ht => h column hm (of_decide_eq_true ht)
  unfold searchTarget
  simp only [hfind]

end DataSource

/-- **The default target of a search.** A search without a field fails if and only if no
column holds texts. Otherwise it is for what the key of the first such column stands for:
the place in the document if the key is a path, and else the target of the last column with
that key. So it is for the first text column itself if and only if the key is no path, and
the last column with it has the same target. -/
theorem SourceConfig.default_target {config : SourceConfig} {name : String}
    {source : DataSource} (h : config.compile name = .ok source) (maxDepth : Nat) :
    ((∃ failure, searchTarget source (source.scope maxDepth) none = .error failure) ↔
      ∀ column ∈ config.columns, column.fieldType ≠ .string) ∧
    ∀ column, IsFirst (·.fieldType = .string) config.columns column →
      ∃ last, IsLast (·.key = column.key) config.columns last ∧
        searchTarget source (source.scope maxDepth) none
          = .ok (if isPath column.key then .pointer config.documentField column.key
              else .column last.target) ∧
        (searchTarget source (source.scope maxDepth) none = .ok (.column column.target) ↔
          isPath column.key = false ∧ last.target = column.target) := by
  obtain ⟨-, -, hcontext, hregistry, -⟩ := parts_of_compile h
  have hcolumns : source.registry.columns = config.columns := by rw [hregistry]
  have hdocument : source.context.documentField = config.documentField := by rw [hcontext]; rfl
  -- what is found if some column holds texts
  have found : ∀ column, IsFirst (·.fieldType = .string) config.columns column →
      ∃ last, IsLast (·.key = column.key) config.columns last ∧
        searchTarget source (source.scope maxDepth) none
          = .ok (if isPath column.key then .pointer config.documentField column.key
              else .column last.target) := by
    intro column hfirst
    rw [← hcolumns] at hfirst ⊢
    rw [← hdocument]
    obtain ⟨last, hlast, hsymbol⟩ := DataSource.symbol_key maxDepth hfirst.mem
    refine ⟨last, hlast, ?_⟩
    rw [DataSource.searchTarget_of_isFirst hfirst, hsymbol]
    rfl
  refine ⟨⟨?_, ?_⟩, ?_⟩
  · rintro ⟨failure, hfailure⟩ column hm ht
    obtain ⟨first, hfirst⟩ : ∃ first, IsFirst (·.fieldType = .string) config.columns first :=
      exists_isFirst hm ht
    obtain ⟨last, -, hok⟩ := found first hfirst
    exact absurd (hfailure.symm.trans hok) (by simp)
  · intro hnone
    rw [← hcolumns] at hnone
    exact ⟨_, DataSource.searchTarget_of_no_text_column hnone⟩
  · intro column hfirst
    obtain ⟨last, hlast, hok⟩ := found column hfirst
    refine ⟨last, hlast, hok, ?_⟩
    rw [hok]
    cases hpath : isPath column.key with
    | true => simp
    | false => simp

/-- A definition in which the first text column shares its key with a later column. -/
def sharedKeyConfig (target : String) : SourceConfig where
  endpoint := "/pages"
  documentField := "config"
  whitelist := [⟨"title", .string⟩, ⟨"views", .number⟩, ⟨"config", .json⟩]
  columns := [⟨"id", "Id", .number, "views"⟩, ⟨"name", "Name", .string, "title"⟩,
    ⟨"name", "Heading", .number, target⟩]
  configFields := []

/-- As long as both have the same target, that is what is searched. -/
theorem sharedKeyConfig_default_target :
    ∃ source, (sharedKeyConfig "title").compile "pages" = .ok source ∧
      (¬ ∃ failure, searchTarget source (source.scope 1) none = .error failure) ∧
      IsFirst (·.fieldType = .string) (sharedKeyConfig "title").columns
        ⟨"name", "Name", .string, "title"⟩ ∧
      searchTarget source (source.scope 1) none = .ok (.column "title") := by
  obtain ⟨source, hcompile⟩ : ∃ source, (sharedKeyConfig "title").compile "pages" = .ok source :=
    ⟨_, rfl⟩
  obtain ⟨hfails, hfirst⟩ := SourceConfig.default_target hcompile 1
  have hname : IsFirst (·.fieldType = .string) (sharedKeyConfig "title").columns
      ⟨"name", "Name", .string, "title"⟩ := isFirst_iff_find?.mpr (by decide)
  obtain ⟨last, hlast, -, htarget⟩ := hfirst _ hname
  have hfind : (sharedKeyConfig "title").columns.reverse.find?
      (fun other => decide (other.key = "name")) = some ⟨"name", "Heading", .number, "title"⟩ := by
    decide
  obtain rfl := Option.some.inj (hfind.symm.trans (isLast_iff_find?.mp hlast))
  refine ⟨source, hcompile, fun hfailure => ?_, hname, htarget.mpr ⟨by decide, rfl⟩⟩
  exact hfails.mp hfailure _ hname.mem rfl

/-- The later column wins with a target of its own, and the search is in numbers though the
first text column holds titles. -/
theorem sharedKeyConfig_default_target_no_text :
    ∃ source, (sharedKeyConfig "views").compile "pages" = .ok source ∧
      IsFirst (·.fieldType = .string) (sharedKeyConfig "views").columns
        ⟨"name", "Name", .string, "title"⟩ ∧
      searchTarget source (source.scope defaultMaxDepth) none = .ok (.column "views") ∧
      searchTarget source (source.scope defaultMaxDepth) none ≠ .ok (.column "title") := by
  refine ⟨_, rfl, isFirst_iff_find?.mpr (by decide), rfl, ?_⟩
  exact fun h => absurd (Except.ok.inj h) (by decide)

end RowFilter
