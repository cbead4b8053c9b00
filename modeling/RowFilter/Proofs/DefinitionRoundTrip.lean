import Mathlib.Data.List.TakeWhile
import RowFilter.Proofs.Keyed
import RowFilter.Settings.Encode
import RowFilter.Settings.File
import RowFilter.Settings.Inline

/-!
# Source definitions written and read back

The definition of a source is written as JSON, and JSON is read in two ways: at its word, and
generously where it is the content of a file. Both find in a text, a list or a table what was
written there (`Reading.Faithful`), so what is written is read back (`ReadsBack`) is proved once
for both, from the parts of a definition up to the settings:

> `setMembers_eq_ok`: what every member that is set keeps true is true of a whole table;
> `readsBack_list`, `readsBack_choice`, `readsBack_options`: lists, names of choices, and
> choices that may be absent;
> `readsBack_sourceConfig`: the definition of a source;
> `settings_eq_ok`: settings, with their two members in any order and others ignored;
> `assemble_table`: a file whose keys are names, and not paths, holds what it says.
-/

namespace RowFilter

namespace Settings

variable {ν σ τ : Type}

/-! ## Records -/

namespace Record

variable {record : Record ν σ}

/-- Sets the field that one member names, if there is one. -/
def setMember (record : Record ν σ) (key : String) (value : ν) (state : σ) : Except Fault σ :=
  match record.fields.find? (·.name = key) with
  | none => .ok state
  | some field => field.set value state

theorem setMember_of_find? {key : String} {required : Bool} {decode : ν → Except Fault τ}
    {put : τ → σ → σ} {value : ν} {thing : τ}
    (hfield : record.fields.find? (·.name = key) = some (.of key required decode put))
    (hread : decode value = .ok thing) (state : σ) :
    record.setMember key value state = .ok (put thing state) := by
  rw [setMember, hfield]
  show (decode value).map (put · state) = .ok (put thing state)
  rw [hread]
  rfl

/-- A table is set member by member. -/
theorem setMembers_cons {key : String} {value : ν} {rest : List (String × ν)} {state next : σ}
    {last : Except Fault σ} (hfirst : record.setMember key value state = .ok next)
    (hrest : record.setMembers rest next = last) :
    record.setMembers ((key, value) :: rest) state = last := by
  rw [setMember] at hfirst
  rw [setMembers]
  cases hfield : record.fields.find? (·.name = key) with
  | none =>
    rw [hfield] at hfirst
    obtain rfl := Except.ok.inj hfirst
    exact hrest
  | some field =>
    rw [hfield] at hfirst
    dsimp only at hfirst ⊢
    rw [hfirst]
    exact hrest

/-- A table whose first member is a field of the record sets that field first. -/
theorem setMembers_field {key : String} {required : Bool} {decode : ν → Except Fault τ}
    {put : τ → σ → σ} {value : ν} {thing : τ} {rest : List (String × ν)} {state : σ}
    {last : Except Fault σ}
    (hfield : record.fields.find? (·.name = key) = some (.of key required decode put))
    (hread : decode value = .ok thing) (hrest : record.setMembers rest (put thing state) = last) :
    record.setMembers ((key, value) :: rest) state = last :=
  setMembers_cons (setMember_of_find? hfield hread state) hrest

/-- A table is set to a record if every member keeps true what is known of the record and the
keys that were set so far, and no other record has all of the keys. -/
theorem setMembers_eq_ok (Inv : List String → σ → Prop) {goal : σ} :
    ∀ {members : List (String × ν)} (seen : List String) {state : σ},
      (∀ {seen key value state}, (key, value) ∈ members → Inv seen state →
        ∃ next, record.setMember key value state = .ok next ∧ Inv (seen ++ [key]) next) →
      Inv seen state →
      (∀ {last}, Inv (seen ++ members.map Prod.fst) last → last = goal) →
      record.setMembers members state = .ok goal
  | [], seen, state, _, hstart, hgoal => by
    rw [List.map_nil, List.append_nil] at hgoal
    rw [hgoal hstart]
    rfl
  | (key, value) :: rest, seen, state, hstep, hstart, hgoal => by
    obtain ⟨next, hnext, hinv⟩ := hstep (List.mem_cons_self ..) hstart
    refine setMembers_cons hnext ?_
    refine setMembers_eq_ok Inv (seen ++ [key])
      (fun hmem => hstep (List.mem_cons_of_mem _ hmem)) hinv ?_
    intro last hlast
    rw [List.append_assoc, List.singleton_append] at hlast
    exact hgoal hlast

end Record

namespace Reading

variable {reading : Reading ν}

/-- A table without a fault that has all required fields is read as the record it makes. -/
theorem record_eq_ok {shape : Record ν σ} {value : ν} {members : List (String × ν)} {state : σ}
    (htable : reading.table? value = some members)
    (hset : shape.setMembers members shape.blank = .ok state)
    (hall : ∀ field ∈ shape.fields, field.required = true → field.name ∈ members.map Prod.fst) :
    reading.record shape value = .ok state := by
  have hmissing : shape.fields.find? (fun field =>
      field.required && !members.any (·.1 = field.name)) = none := by
    refine List.find?_eq_none.mpr ?_
    intro field hfield hmissing
    obtain ⟨hrequired, hany⟩ := Bool.and_eq_true_iff.mp hmissing
    obtain ⟨member, hmember, hname⟩ := List.mem_map.mp (hall field hfield hrequired)
    rw [List.any_eq_true.mpr ⟨member, hmember, decide_eq_true hname⟩] at hany
    exact absurd hany (by simp)
  rw [record, htable]
  dsimp only
  rw [hset]
  dsimp only
  rw [hmissing]

/-! ## Parts of a definition -/

theorem get?_columnTypes (type : ColumnType) : Keyed.get? type.name columnTypes = some type := by
  cases type <;> rfl

theorem get?_fieldTypes (type : FieldType) : Keyed.get? type.name fieldTypes = some type := by
  cases type <;> rfl

theorem get?_editors (editor : Editor) : Keyed.get? editor.name editors = some editor := by
  cases editor <;> rfl

/-- True of a reading that finds in a JSON value, in the way it holds one, what it is. -/
structure Faithful (reading : Reading ν) (embed : Json → ν) : Prop where
  found_null : reading.found (embed .null) = .null
  found_string (text : String) : reading.found (embed (.string text)) = .text text
  found_array (items : List Json) : reading.found (embed (.array items)) = .list
  table?_string (text : String) : reading.table? (embed (.string text)) = none
  table?_object (members : List (String × Json)) :
    reading.table? (embed (.object members))
      = some (members.map fun member => (member.1, embed member.2))
  list?_array (items : List Json) :
    reading.list? (embed (.array items)) = some (items.map embed)
  text_string (text : String) : reading.text (embed (.string text)) = .ok text

/-- True if what was written is read back. -/
def ReadsBack (embed : Json → ν) (read : ν → Except Fault τ) (write : τ → Json) : Prop :=
  ∀ thing, read (embed (write thing)) = .ok thing

namespace Faithful

variable {embed : Json → ν} (h : reading.Faithful embed)
include h

theorem readsBack_text : ReadsBack embed reading.text .string := h.text_string

/-- The name of a choice, if no two choices share it. -/
theorem readsBack_choice {choices : List (String × τ)} {name : τ → String}
    (hname : ∀ chosen, Keyed.get? (name chosen) choices = some chosen) :
    ReadsBack embed (reading.choice choices) fun chosen => .string (name chosen) := by
  intro chosen
  rw [choice, h.table?_string]
  dsimp only
  rw [h.found_string]
  dsimp only
  rw [hname]

theorem readsBack_list {item : ν → Except Fault τ} {write : τ → Json}
    (hitem : ReadsBack embed item write) :
    ReadsBack embed (reading.list item) fun things => .array (things.map write) := by
  intro things
  have hread : (item ∘ embed) ∘ write = fun thing => pure thing := funext hitem
  rw [list, h.list?_array]
  show ((things.map write).map embed).mapM item = .ok things
  rw [List.mapM_map, List.mapM_map, hread, List.mapM_pure, List.map_id']
  rfl

theorem readsBack_table {entry : ν → Except Fault τ} {write : τ → Json}
    (hentry : ReadsBack embed entry write) :
    ReadsBack embed (reading.table entry) fun pairs =>
      .object (pairs.map fun pair => (pair.1, write pair.2)) := by
  intro pairs
  rw [table, h.table?_object]
  dsimp only
  rw [List.mapM_map, List.mapM_map]
  have hread : ((fun (member : String × ν) => (entry member.2).map (member.1, ·))
        ∘ fun member : String × Json => (member.1, embed member.2))
      ∘ (fun pair : String × τ => (pair.1, write pair.2)) = fun pair => pure pair := by
    funext pair
    show (entry (embed (write pair.2))).map (pair.1, ·) = .ok pair
    rw [hentry]
    rfl
  rw [hread, List.mapM_pure, List.map_id']
  rfl

/-- No choices are written as `null`, and so are not mistaken for an empty list of them. -/
theorem readsBack_options :
    ReadsBack embed (reading.optional (reading.list reading.text)) choicesToJson := by
  intro options
  rw [optional]
  cases options with
  | none => rw [choicesToJson, if_pos h.found_null]
  | some choices =>
    have hlist : reading.found (embed (.array (choices.map .string))) ≠ .null := by
      rw [h.found_array]
      exact Found.noConfusion
    rw [choicesToJson, if_neg hlist, h.readsBack_list h.readsBack_text choices]
    rfl

/-- An object of all the fields of a record. -/
theorem record_eq_ok {shape : Record ν σ} {members : List (String × Json)} {state : σ}
    (hset : shape.setMembers (members.map fun member => (member.1, embed member.2)) shape.blank
      = .ok state)
    (hkeys : members.map Prod.fst = shape.fields.map Field.name) :
    reading.record shape (embed (.object members)) = .ok state := by
  refine Reading.record_eq_ok (h.table?_object members) hset ?_
  intro field hfield _
  rw [Keyed.keys_map, hkeys]
  exact List.mem_map_of_mem hfield

/-! ## Definitions -/

theorem readsBack_whitelistEntry :
    ReadsBack embed reading.whitelistEntry WhitelistEntry.toJson := by
  intro entry
  refine h.record_eq_ok ?_ rfl
  refine Record.setMembers_field rfl (h.text_string _) ?_
  refine Record.setMembers_field rfl (h.readsBack_choice get?_columnTypes _) ?_
  rfl

theorem readsBack_column : ReadsBack embed reading.column Column.toJson := by
  intro column
  refine h.record_eq_ok ?_ rfl
  refine Record.setMembers_field rfl (h.text_string _) ?_
  refine Record.setMembers_field rfl (h.text_string _) ?_
  refine Record.setMembers_field rfl (h.readsBack_choice get?_fieldTypes _) ?_
  refine Record.setMembers_field rfl (h.text_string _) ?_
  rfl

theorem readsBack_configField : ReadsBack embed reading.configField ConfigField.toJson := by
  intro field
  refine h.record_eq_ok ?_ rfl
  refine Record.setMembers_field rfl (h.text_string _) ?_
  refine Record.setMembers_field rfl (h.readsBack_choice get?_editors _) ?_
  refine Record.setMembers_field rfl (h.readsBack_options _) ?_
  rfl

/-- The definition of a source is read back as it was written. -/
theorem readsBack_sourceConfig : ReadsBack embed reading.sourceConfig SourceConfig.toJson := by
  intro config
  have hwhitelist := h.readsBack_list h.readsBack_whitelistEntry config.whitelist
  have hcolumns := h.readsBack_list h.readsBack_column config.columns
  have hfields := h.readsBack_list h.readsBack_configField config.configFields
  refine h.record_eq_ok ?_ rfl
  refine Record.setMembers_field rfl (h.text_string _) ?_
  refine Record.setMembers_field rfl (h.text_string _) ?_
  refine Record.setMembers_field rfl hwhitelist ?_
  refine Record.setMembers_field rfl hcolumns ?_
  refine Record.setMembers_field rfl hfields ?_
  rfl

end Faithful

end Reading

/-! ## Settings -/

/-- True of settings that have the parts of others whose keys were seen. -/
structure AgreesOn (goal : Settings) (seen : List String) (state : Settings) : Prop where
  maxDepth : "max_depth" ∈ seen → state.maxDepth = goal.maxDepth
  sources : "sources" ∈ seen → state.sources = goal.sources

namespace AgreesOn

variable {goal state : Settings} {seen : List String}

theorem set_maxDepth (h : AgreesOn goal seen state) :
    AgreesOn goal (seen ++ ["max_depth"]) { state with maxDepth := goal.maxDepth } where
  maxDepth _ := rfl
  sources hseen := h.sources (by simpa using hseen)

theorem set_sources (h : AgreesOn goal seen state) :
    AgreesOn goal (seen ++ ["sources"]) { state with sources := goal.sources } where
  maxDepth hseen := h.maxDepth (by simpa using hseen)
  sources _ := rfl

theorem ignore {key : String} (h : AgreesOn goal seen state) (hdepth : key ≠ "max_depth")
    (hsources : key ≠ "sources") : AgreesOn goal (seen ++ [key]) state where
  maxDepth hseen := h.maxDepth (by simpa [hdepth.symm] using hseen)
  sources hseen := h.sources (by simpa [hsources.symm] using hseen)

/-- With both keys seen nothing is left to differ. -/
theorem eq (h : AgreesOn goal seen state) (hdepth : "max_depth" ∈ seen)
    (hsources : "sources" ∈ seen) : state = goal := by
  cases state
  cases goal
  rw [Settings.mk.injEq]
  exact ⟨h.maxDepth hdepth, h.sources hsources⟩

end AgreesOn

/-- A table that has a depth bound and sources among its members is read as the settings with
these, whatever else it has. -/
theorem Reading.settings_eq_ok {reading : Reading ν} {value depthValue sourcesValue : ν}
    {members : List (String × ν)} {maxDepth : Nat} {sources : List (String × SourceConfig)}
    (htable : reading.table? value = some members) (hkeys : (members.map Prod.fst).Nodup)
    (hdepth : Keyed.get? "max_depth" members = some depthValue)
    (hcount : reading.count depthValue = .ok maxDepth)
    (hsources : Keyed.get? "sources" members = some sourcesValue)
    (hread : reading.table reading.sourceConfig sourcesValue = .ok sources) :
    reading.settings value = .ok ⟨maxDepth, sources⟩ := by
  have hmemDepth := (Keyed.mem_iff_get? hkeys).mpr hdepth
  have hmemSources := (Keyed.mem_iff_get? hkeys).mpr hsources
  refine record_eq_ok htable ?_ ?_
  · refine Record.setMembers_eq_ok (AgreesOn ⟨maxDepth, sources⟩) [] ?_ ⟨nofun, nofun⟩ ?_
    · intro seen key value state hmem hagrees
      have hvalue := (Keyed.mem_iff_get? hkeys).mp hmem
      by_cases hkey : key = "max_depth"
      · subst hkey
        obtain rfl := Option.some.inj (hdepth.symm.trans hvalue)
        exact ⟨_, Record.setMember_of_find? rfl hcount state, hagrees.set_maxDepth⟩
      · by_cases hkey' : key = "sources"
        · subst hkey'
          obtain rfl := Option.some.inj (hsources.symm.trans hvalue)
          exact ⟨_, Record.setMember_of_find? rfl hread state, hagrees.set_sources⟩
        · refine ⟨state, ?_, hagrees.ignore hkey hkey'⟩
          simp [Record.setMember, Field.of, Ne.symm hkey, Ne.symm hkey']
    · intro last hagrees
      exact hagrees.eq (List.mem_map_of_mem hmemDepth) (List.mem_map_of_mem hmemSources)
  · intro field hfield hrequired
    rcases List.mem_cons.mp hfield with rfl | hfield
    · exact absurd hrequired Bool.false_ne_true
    · obtain rfl := List.mem_singleton.mp hfield
      exact List.mem_map_of_mem hmemSources

/-! ## JSON at its word -/

theorem faithful_inline : inline.Faithful id where
  found_null := rfl
  found_string _ := rfl
  found_array _ := rfl
  table?_string _ := rfl
  table?_object members := congrArg some (List.map_id' members).symm
  list?_array items := congrArg some (List.map_id items).symm
  text_string _ := rfl

/-! ## The content of a file -/

/-- A key of letters and digits is a name. -/
theorem Step.ofKey_of_name {key : String} (hne : key ≠ "")
    (hall : key.toList.all isNameChar = true) : ofKey key = [.key key] := by
  have hall := List.all_eq_true.mp hall
  have htake : key.toList.takeWhile isNameChar = key.toList :=
    List.takeWhile_eq_self_iff.mpr hall
  have hdrop : key.toList.dropWhile isNameChar = [] := List.dropWhile_eq_nil_iff.mpr hall
  have hlist : key.toList.isEmpty = false := by
    simpa using hne
  simp only [ofKey, htake, hdrop, more?, hlist, String.ofList_toList, Bool.false_eq_true,
    if_false]

namespace FileValue

theorem ofItems_eq_map : ∀ items : List Json, ofItems items = items.map ofJson
  | [] => rfl
  | item :: rest => by rw [ofItems, ofItems_eq_map rest, List.map_cons]

theorem ofMembers_eq_map : ∀ members : List (String × Json),
    ofMembers members = members.map fun member => (member.1, ofJson member.2)
  | [] => rfl
  | (key, value) :: rest => by rw [ofMembers, ofMembers_eq_map rest, List.map_cons]

theorem faithful_reading : reading.Faithful ofJson where
  found_null := rfl
  found_string _ := rfl
  found_array _ := rfl
  table?_string _ := rfl
  table?_object members := congrArg some (ofMembers_eq_map members)
  list?_array items := congrArg some (ofItems_eq_map items)
  text_string _ := rfl

/-- New members are added to a table behind those that it has. -/
theorem mergeMembers_eq_append : ∀ {incoming base : List (String × FileValue)},
    ((base ++ incoming).map Prod.fst).Nodup →
    (∀ member ∈ incoming, merge .null member.2 = member.2) →
    mergeMembers base incoming = base ++ incoming
  | [], base, _, _ => by rw [mergeMembers, List.append_nil]
  | (key, value) :: rest, base, hkeys, hself => by
    have hnew : key ∉ base.map Prod.fst := by
      rw [List.map_append, List.nodup_append] at hkeys
      intro hkey
      exact hkeys.2.2 key hkey key (List.mem_cons_self ..) rfl
    have hvalue : merge .null value = value := hself _ (List.mem_cons_self ..)
    rw [mergeMembers, Keyed.get?_eq_none hnew, Option.getD_none, hvalue,
      Keyed.put_of_notMem value hnew]
    rw [List.append_cons] at hkeys
    rw [mergeMembers_eq_append hkeys fun member hmem =>
      hself member (List.mem_cons_of_mem _ hmem), ← List.append_cons]

/-- A table of distinct keys that is set where nothing is stays as it is. -/
theorem merge_null_table {members : List (String × FileValue)}
    (hkeys : (members.map Prod.fst).Nodup)
    (hself : ∀ member ∈ members, merge .null member.2 = member.2) :
    merge .null (.table members) = .table members := by
  have happend : mergeMembers [] members = [] ++ members := mergeMembers_eq_append hkeys hself
  rw [merge]
  show FileValue.table (mergeMembers [] members) = .table members
  rw [happend, List.nil_append]

theorem merge_null_sourceConfig (config : SourceConfig) :
    merge .null (ofJson config.toJson) = ofJson config.toJson := by
  rfl

/-- Keys that are names set their members, each where nothing is. -/
theorem assemble_table {members : List (String × FileValue)}
    (hkeys : (members.map Prod.fst).Nodup)
    (hnames : ∀ member ∈ members, Step.ofKey member.1 = [.key member.1]) :
    assemble (.table members)
      = .table (members.map fun member => (member.1, merge .null member.2)) := by
  induction members using List.reverseRecOn with
  | nil => rfl
  | append_singleton members member ih =>
    obtain ⟨key, value⟩ := member
    have hname : Step.ofKey key = [.key key] := hnames (key, value) (by simp)
    rw [List.map_append, List.nodup_append] at hkeys
    obtain ⟨hmembers, -, hdisjoint⟩ := hkeys
    have hnew : key ∉ members.map Prod.fst := fun hk =>
      hdisjoint key hk key (List.mem_singleton_self key) rfl
    have hfront := ih hmembers fun member hmem => hnames member (List.mem_append_left _ hmem)
    rw [← Keyed.keys_map (merge .null)] at hnew
    rw [assemble] at hfront
    rw [assemble, List.foldl_append, hfront]
    show setAt value (Step.ofKey key) (.table (members.map fun m => (m.1, merge .null m.2))) = _
    rw [hname, setAt]
    show FileValue.table (Keyed.put key (merge _ value) _) = _
    rw [FileValue.members, Keyed.get?_eq_none hnew, Keyed.put_of_notMem _ hnew, List.map_append]
    rfl

end FileValue

/-- The settings of a file that has a depth bound and sources among its members. -/
theorem ofContent_table {members : List (String × FileValue)} {maxDepth : Nat}
    {sourcesValue : FileValue} {sources : List (String × SourceConfig)}
    (hkeys : (members.map Prod.fst).Nodup)
    (hplain : ∀ member ∈ members, Step.ofKey member.1 = [.key member.1])
    (hdepth : Keyed.get? "max_depth" members = some (.integer maxDepth))
    (hsources : Keyed.get? "sources" members = some sourcesValue)
    (hself : FileValue.merge .null sourcesValue = sourcesValue)
    (hread : FileValue.reading.table FileValue.reading.sourceConfig sourcesValue = .ok sources)
    (name : String) : ofContent name (some (.table members)) = .ok ⟨maxDepth, sources⟩ := by
  have hsettings : FileValue.reading.settings (FileValue.assemble (.table members))
      = .ok ⟨maxDepth, sources⟩ := by
    have hcount : FileValue.reading.count (.integer maxDepth) = .ok maxDepth := rfl
    rw [FileValue.assemble_table hkeys hplain]
    refine Reading.settings_eq_ok rfl ?_ ?_ hcount ?_ hread
    · rwa [Keyed.keys_map]
    · rw [Keyed.get?_map, hdepth]
      rfl
    · rw [Keyed.get?_map, hsources, Option.map_some, hself]
  rw [ofContent, hsettings]

/-! ## Settings with definitions that were written -/

/-- Definitions of sources as an object, each put there under its name. -/
def sourcesToJson (sources : List (String × SourceConfig)) : Json :=
  .object (Keyed.ofPairs (sources.map fun source => (source.1, source.2.toJson)))

section

variable {sources : List (String × SourceConfig)} (hnames : (sources.map Prod.fst).Nodup)
include hnames

/-- Names that are distinct keep their sources. -/
theorem sourcesToJson_eq :
    sourcesToJson sources = .object (sources.map fun source => (source.1, source.2.toJson)) := by
  rw [← Keyed.keys_map SourceConfig.toJson] at hnames
  rw [sourcesToJson, Keyed.ofPairs_of_nodup hnames]

theorem Reading.Faithful.table_sourcesToJson {reading : Reading ν} {embed : Json → ν}
    (h : reading.Faithful embed) :
    reading.table reading.sourceConfig (embed (sourcesToJson sources)) = .ok sources := by
  rw [sourcesToJson_eq hnames]
  exact h.readsBack_table h.readsBack_sourceConfig sources

theorem FileValue.merge_null_sourcesToJson :
    merge .null (ofJson (sourcesToJson sources)) = ofJson (sourcesToJson sources) := by
  rw [sourcesToJson_eq hnames, ofJson, ofMembers_eq_map]
  refine merge_null_table ?_ ?_
  · rwa [Keyed.keys_map, Keyed.keys_map]
  · intro member hmem
    rw [List.map_map] at hmem
    obtain ⟨source, -, rfl⟩ := List.mem_map.mp hmem
    exact merge_null_sourceConfig source.2

variable {members : List (String × Json)} (hkeys : (members.map Prod.fst).Nodup)
  {maxDepth : Nat}
  {inRange : -0x8000000000000000 ≤ (maxDepth : Int) ∧ (maxDepth : Int) < 0x10000000000000000}
  (hdepth : Keyed.get? "max_depth" members = some (.number (.integer maxDepth inRange)))
  (hsources : Keyed.get? "sources" members = some (sourcesToJson sources))
include hkeys hdepth hsources

theorem settings_inline : inline.settings (.object members) = .ok ⟨maxDepth, sources⟩ :=
  Reading.settings_eq_ok rfl hkeys hdepth rfl hsources
    (faithful_inline.table_sourcesToJson hnames)

theorem ofContent_object (hplain : ∀ member ∈ members, Step.ofKey member.1 = [.key member.1])
    (name : String) :
    ofContent name (some (.ofJson (.object members))) = .ok ⟨maxDepth, sources⟩ := by
  rw [FileValue.ofJson, FileValue.ofMembers_eq_map]
  refine ofContent_table ?_ ?_ ?_ ?_ (FileValue.merge_null_sourcesToJson hnames)
    (FileValue.faithful_reading.table_sourcesToJson hnames) name
  · rwa [Keyed.keys_map]
  · intro member hmem
    obtain ⟨source, hsource, rfl⟩ := List.mem_map.mp hmem
    exact hplain source hsource
  · rw [Keyed.get?_map, hdepth]
    rfl
  · rw [Keyed.get?_map, hsources]
    rfl

end

/-- **What is written of a source is what is read.** The JSON of every definition is read back
as that definition, both at its word and as the content of a file. So are settings with any
depth bound and any sources of distinct names, in an object with whatever else among its
members, and in a file too, if its keys are names and not paths. -/
theorem definitions_read_back :
    (∀ config : SourceConfig,
      inline.sourceConfig config.toJson = .ok config ∧
      FileValue.reading.sourceConfig (.ofJson config.toJson) = .ok config) ∧
    ∀ (sources : List (String × SourceConfig)) (maxDepth : Nat)
      (inRange : -0x8000000000000000 ≤ (maxDepth : Int) ∧ (maxDepth : Int) < 0x10000000000000000)
      (members : List (String × Json)),
      (sources.map Prod.fst).Nodup → (members.map Prod.fst).Nodup →
      Keyed.get? "max_depth" members = some (.number (.integer maxDepth inRange)) →
      Keyed.get? "sources" members = some (sourcesToJson sources) →
      inline.settings (.object members) = .ok ⟨maxDepth, sources⟩ ∧
      ((∀ member ∈ members, Step.ofKey member.1 = [.key member.1]) → ∀ name,
        ofContent name (some (.ofJson (.object members))) = .ok ⟨maxDepth, sources⟩) := by
  constructor
  · intro config
    exact ⟨faithful_inline.readsBack_sourceConfig config,
      FileValue.faithful_reading.readsBack_sourceConfig config⟩
  · intro sources maxDepth inRange members hnames hkeys hdepth hsources
    exact ⟨settings_inline hnames hkeys hdepth hsources,
      ofContent_object hnames hkeys hdepth hsources⟩

/-- A source without anything, and one whose fields have no choices, none and two. -/
def unevenSources : List (String × SourceConfig) :=
  [("", ⟨"", "", [], [], []⟩),
    ("maps.all", ⟨"/api/maps", "config", [⟨"id", .number⟩, ⟨"config", .json⟩],
      [⟨"id", "Id", .number, "id"⟩],
      [⟨"/colors", .colorEditor, none⟩, ⟨"/unit", .dropdown, some []⟩,
        ⟨"/tab", .dropdown, some ["map", "chart"]⟩]⟩)]

/-- A settings object with these sources, the greatest depth bound and a member of no use. -/
def unevenMembers : List (String × Json) :=
  [("note", .null), ("sources", sourcesToJson unevenSources),
    ("max_depth", .number (.integer FileValue.greatestCount (by decide)))]

/-- These settings are read back, at their word and from a file. -/
theorem unevenSources_read_back :
    (unevenSources.map Prod.fst).Nodup ∧ (unevenMembers.map Prod.fst).Nodup ∧
    (∀ member ∈ unevenMembers, Step.ofKey member.1 = [.key member.1]) ∧
    inline.settings (.object unevenMembers) = .ok ⟨FileValue.greatestCount, unevenSources⟩ ∧
    ofContent "settings.json" (some (.ofJson (.object unevenMembers)))
      = .ok ⟨FileValue.greatestCount, unevenSources⟩ := by
  have hnames : (unevenSources.map Prod.fst).Nodup := by decide
  have hkeys : (unevenMembers.map Prod.fst).Nodup := by decide
  have hplain : ∀ member ∈ unevenMembers, Step.ofKey member.1 = [.key member.1] := by
    have hletters : ∀ key ∈ unevenMembers.map Prod.fst,
        key ≠ "" ∧ key.toList.all Step.isNameChar = true := by decide
    intro member hmem
    obtain ⟨hne, hall⟩ := hletters member.1 (List.mem_map_of_mem hmem)
    exact Step.ofKey_of_name hne hall
  obtain ⟨-, hsettings⟩ := definitions_read_back
  obtain ⟨hinline, hfile⟩ := hsettings unevenSources FileValue.greatestCount (by decide)
    unevenMembers hnames hkeys rfl rfl
  exact ⟨hnames, hkeys, hplain, hinline, hfile hplain "settings.json"⟩

end Settings

end RowFilter
