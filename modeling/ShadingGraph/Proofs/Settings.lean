import ShadingGraph.Proofs.Loading
import ShadingGraph.Proofs.Ron.Construct

/-!
# Settings documents read back

A document gives values to some fields of the settings, in any order and in any layout. Loading it
gives the settings with these values, and with the standard value in every field that the document
leaves out. What is saved is the document of all fields, so that loading inverts saving; a document
of a newer version is refused.

## Main definitions

- `SettingField`, `Setting` — the fields of the settings, and a field with its value
- `Settings.Document` — the documents of some fields
- `Settings.Combines` — settings with the authored values and the standard ones

## Main results

- `Settings.Records.concat` — what one field of a document adds
- `Settings.parse_document` — what is read from a document
- `Settings.ofRon_document` — loading a document, a written text and a saved file
-/

namespace ShadingGraph

/-! ## Fields -/

/-- A field of the settings. -/
inductive SettingField where
  | version
  | sourceTypes
  | filters
  | shaderRoots
  | logFilter
  | watchDebounce
deriving DecidableEq

namespace SettingField

/-- The values of a field. -/
abbrev Value : SettingField → Type
  | .version => UInt32
  | .sourceTypes | .filters | .shaderRoots => List String
  | .logFilter => String
  | .watchDebounce => UInt64

/-- The name of a field in a document. -/
def name : SettingField → String
  | .version => "version"
  | .sourceTypes => "source_types"
  | .filters => "filters"
  | .shaderRoots => "shader_roots"
  | .logFilter => "log_filter"
  | .watchDebounce => "watch_debounce_ms"

/-- The texts of a value in a document. -/
def valueLayout : (f : SettingField) → Ron.Layout f.Value
  | .version => fun n => Ron.NaturalLayout n.toNat
  | .sourceTypes | .filters | .shaderRoots => Ron.Enclosed '[' ']' Ron.StringLayout
  | .logFilter => Ron.StringLayout
  | .watchDebounce => fun n => Ron.NaturalLayout n.toNat

/-- The reader of the values of a field. -/
def read : (f : SettingField) → Ron.Reader f.Value
  | .version => Ron.mapReader UInt32.ofNat (Settings.readNatural 32)
  | .sourceTypes | .filters | .shaderRoots => Settings.readStrings
  | .logFilter => Ron.anywhere Ron.readString
  | .watchDebounce => Ron.mapReader UInt64.ofNat (Settings.readNatural 64)

end SettingField

/-- A field and its value. -/
structure Setting where
  field : SettingField
  value : field.Value

/-- The texts of a field and its value in a document. -/
def Setting.layout : Ron.Layout Setting :=
  Ron.Labelled (fun a => a.field.name) fun a => a.field.valueLayout a.value

namespace Settings

/-- The value of a field. -/
def get (s : Settings) : (f : SettingField) → f.Value
  | .version => s.version
  | .sourceTypes => s.sourceTypes
  | .filters => s.filters
  | .shaderRoots => s.shaderRoots
  | .logFilter => s.logFilter
  | .watchDebounce => s.watchDebounce

/-- The fields of the settings with their values, in the order in which they are written. -/
def all (s : Settings) : List Setting :=
  [.version, .sourceTypes, .filters, .shaderRoots, .logFilter, .watchDebounce].map
    fun f => ⟨f, s.get f⟩

/-- The settings, unless their version is newer than the supported one. -/
def admitted (s : Settings) : Except SettingsError Settings :=
  if s.version ≤ supportedVersion then .ok s else .error (.newerVersion s.version)

/-- A text is a document of some fields: the version and others, each once and in any order. -/
structure Document (authored : List Setting) (text : String) : Prop where
  /-- Blanks, comments, trailing commas and the name of the struct are as the author likes. -/
  layout : Ron.DocumentLayout (Ron.StructLayout "Settings" Setting.layout) authored text.toList
  distinct : (authored.map (·.field)).Nodup
  versioned : .version ∈ authored.map (·.field)

/-- Settings have the authored values, and the standard one in every field that is left out. -/
structure Combines (authored : List Setting) (s : Settings) : Prop where
  present : ∀ a ∈ authored, s.get a.field = a.value
  absent : ∀ f ∉ authored.map (·.field), s.get f = standard.get f

theorem ext_get {s s' : Settings} (h : ∀ f, s.get f = s'.get f) : s = s' := by
  obtain ⟨_, _, _, _, _, _⟩ := s
  obtain ⟨_, _, _, _, _, _⟩ := s'
  have hversion := h .version
  have hsourceTypes := h .sourceTypes
  have hfilters := h .filters
  have hshaderRoots := h .shaderRoots
  have hlogFilter := h .logFilter
  have hwatchDebounce := h .watchDebounce
  simp_all [get]

/-! ## Fields that have been read -/

/-- The value of a field, if the field has been read. -/
def Fields.get (st : Fields) : (f : SettingField) → Option f.Value
  | .version => st.version
  | .sourceTypes => st.sourceTypes
  | .filters => st.filters
  | .shaderRoots => st.shaderRoots
  | .logFilter => st.logFilter
  | .watchDebounce => st.watchDebounce

/-- Gives a field a value. -/
def Fields.set (st : Fields) : (f : SettingField) → f.Value → Fields
  | .version, v => { st with version := some v }
  | .sourceTypes, v => { st with sourceTypes := some v }
  | .filters, v => { st with filters := some v }
  | .shaderRoots, v => { st with shaderRoots := some v }
  | .logFilter, v => { st with logFilter := some v }
  | .watchDebounce, v => { st with watchDebounce := some v }

/-- No field has been read. -/
def Fields.empty : Fields := ⟨none, none, none, none, none, none⟩

/-- What a field of a document does to the fields read before it. -/
def update (a : Setting) : Ron.FieldUpdate Fields := fun st =>
  if (st.get a.field).isSome then none else some (st.set a.field a.value)

theorem Fields.get_set_self (st : Fields) (f : SettingField) (v : f.Value) :
    (st.set f v).get f = some v := by
  cases f <;> rfl

theorem Fields.get_set_of_ne (st : Fields) {f f' : SettingField} (h : f' ≠ f) (v : f.Value) :
    (st.set f v).get f' = st.get f' := by
  cases f <;> cases f' <;> first | rfl | exact absurd rfl h

/-- Exactly some fields have been read, with their values. -/
structure Records (authored : List Setting) (st : Fields) : Prop where
  present : ∀ a ∈ authored, st.get a.field = some a.value
  absent : ∀ f ∉ authored.map (·.field), st.get f = none

/-- A field that has not been read is added, and the other ones stay. -/
theorem Records.concat {authored : List Setting} {st : Fields} (h : Records authored st)
    {a : Setting} (ha : a.field ∉ authored.map (·.field)) :
    ∃ st', update a st = some st' ∧ Records (authored ++ [a]) st' := by
  have hnone := h.absent a.field ha
  refine ⟨st.set a.field a.value, by simp [update, hnone], ?_, ?_⟩
  · intro b hb
    rcases List.mem_append.1 hb with hold | hnew
    · have hne : b.field ≠ a.field := fun heq => ha (heq ▸ List.mem_map_of_mem hold)
      rw [Fields.get_set_of_ne st hne, h.present b hold]
    · obtain rfl := List.mem_singleton.1 hnew
      exact Fields.get_set_self st b.field b.value
  · intro f hf
    simp only [List.map_append, List.map_cons, List.map_nil, List.mem_append, List.mem_singleton,
      not_or] at hf
    rw [Fields.get_set_of_ne st hf.2, h.absent f hf.1]

/-- The fields of a document are read one after the other. -/
theorem records_applyUpdates {authored : List Setting} (h : (authored.map (·.field)).Nodup) :
    ∃ st, Ron.applyUpdates .empty (authored.map update) = some st ∧ Records authored st := by
  induction authored using List.reverseRecOn with
  | nil => exact ⟨.empty, rfl, by simp, fun f _ => by cases f <;> rfl⟩
  | append_singleton authored a ih =>
    rw [List.map_append, List.nodup_append] at h
    obtain ⟨hdistinct, -, hfresh⟩ := h
    obtain ⟨st, hst, hrecords⟩ := ih hdistinct
    have ha : a.field ∉ authored.map (·.field) := fun hmem =>
      hfresh a.field hmem a.field (by simp) rfl
    obtain ⟨st', hupdate, hrecords'⟩ := hrecords.concat ha
    refine ⟨st', ?_, hrecords'⟩
    rw [Ron.applyUpdates] at hst ⊢
    rw [List.map_append, List.foldlM_append, hst]
    simpa using hupdate

/-- Every field that has not been read is set to its standard value. -/
theorem get_of_ofFields {st : Fields} (h : (st.get .version).isSome) :
    ∃ s, ofFields st = some s ∧ ∀ f, s.get f = (st.get f).getD (standard.get f) := by
  obtain ⟨version, hversion⟩ := Option.isSome_iff_exists.1 h
  have hread : st.version = some version := hversion
  refine ⟨_, by rw [ofFields, hread, Option.map_some], ?_⟩
  intro f
  cases f with
  | version => simp [get, hversion]
  | _ => rfl

theorem combines_ofFields {authored : List Setting} {st : Fields} (h : Records authored st)
    (hversion : .version ∈ authored.map (·.field)) :
    ∃ s, ofFields st = some s ∧ Combines authored s := by
  obtain ⟨a, ha, hfield⟩ := List.mem_map.1 hversion
  have hread : (st.get .version).isSome := by
    rw [← hfield, h.present a ha]
    rfl
  obtain ⟨s, hs, hget⟩ := get_of_ofFields hread
  refine ⟨s, hs, fun a ha => ?_, fun f hf => ?_⟩
  · rw [hget, h.present a ha, Option.getD_some]
  · rw [hget, h.absent f hf, Option.getD_none]

/-! ## Documents -/

theorem find?_fields (f : SettingField) :
    fields.find? (fun field => field.1 == f.name) =
      some (f.name, Ron.mapReader (fun v => update ⟨f, v⟩) f.read) := by
  cases f <;> rfl

theorem isName_name (f : SettingField) : Ron.isName f.name.toList = true := by
  cases f <;> decide

theorem reads_natural {bits n : Nat} (hn : n < 2 ^ bits) {text : List Char}
    (h : Ron.NaturalLayout n text) : Ron.Reads 0 (readNatural bits) text n := by
  have hrange : (Ron.IntegerType.unsigned bits).least ≤ n ∧
      (n : Int) ≤ (Ron.IntegerType.unsigned bits).greatest := by
    have hgreatest : (Ron.IntegerType.unsigned bits).greatest = ((2 ^ bits : Nat) : Int) - 1 := rfl
    have hleast : (Ron.IntegerType.unsigned bits).least = 0 := rfl
    omega
  exact (Ron.reads_naturalLayout (.unsigned bits) h hrange).map Int.toNat

/-- A text of a value is read as the value. -/
theorem reads_value {f : SettingField} {v : f.Value} {text : List Char} (h : f.valueLayout v text) :
    Ron.Reads 2 f.read text v := by
  cases f with
  | version =>
    have hread := (reads_natural v.toNat_lt h).map UInt32.ofNat
    rw [UInt32.ofNat_toNat] at hread
    exact hread.mono (Nat.zero_le 2)
  | sourceTypes => exact Ron.Reads.strings h
  | filters => exact Ron.Reads.strings h
  | shaderRoots => exact Ron.Reads.strings h
  | logFilter => exact (Ron.reads_stringLayout h).mono (Nat.zero_le 2)
  | watchDebounce =>
    have hread := (reads_natural v.toNat_lt h).map UInt64.ofNat
    rw [UInt64.ofNat_toNat] at hread
    exact hread.mono (Nat.zero_le 2)

/-- A text of a field and its value is read as what the field does. -/
theorem reads_setting {a : Setting} {text : List Char} (h : a.layout text) :
    Ron.Reads 2 (Ron.readField fields Ron.skipValue) text (update a) := by
  refine Ron.Labelled.reads h (isName_name a.field) (find?_fields a.field) fun _ hvalue => ?_
  exact (reads_value hvalue).map fun v => update ⟨a.field, v⟩

theorem structLayout_head?_ne {authored : List Setting} {text : List Char}
    (h : Ron.StructLayout "Settings" Setting.layout authored text) : text.head? ≠ some '#' := by
  obtain ⟨body, ⟨inside, -, rfl⟩, rfl | ⟨g, -, rfl⟩⟩ := h <;> simp

/-- What is read from a document. -/
theorem parse_document {authored : List Setting} {text : String} (h : Document authored text) :
    ∃ s, Ron.parse read text = some s ∧ Combines authored s := by
  obtain ⟨st, hst, hrecords⟩ := records_applyUpdates h.distinct
  obtain ⟨s, hs, hcombines⟩ := combines_ofFields hrecords h.versioned
  refine ⟨s, Ron.Reads.document h.layout fun valueText hvalue => ?_, hcombines⟩
  have hfields : Ron.StructLayout "Settings"
      (fun u text => Ron.Reads 2 (Ron.readField fields Ron.skipValue) text u)
      (authored.map update) valueText := hvalue.map fun _ _ => reads_setting
  have hread := Ron.Reads.structLayout (by decide) hfields hst hs
  exact ⟨hread.mono (by decide), structLayout_head?_ne hvalue⟩

theorem layout_writeField {f : SettingField} {v : f.Value} {write : Nat → List Char} {depth : Nat}
    (h : f.valueLayout v (write depth)) :
    Setting.layout ⟨f, v⟩ (Ron.writeField depth (f.name, write)) :=
  Ron.labelled_writeField h

theorem structLayout_write (s : Settings) (depth : Nat) :
    Ron.StructLayout "Settings" Setting.layout s.all (write depth s) := by
  have hstrings : ∀ names : List String, Ron.Enclosed '[' ']' Ron.StringLayout names
      (Ron.writeList Ron.writeString (depth + 1) names) := fun names =>
    Ron.enclosed_writeEnclosed
      (List.forall₂_same.2 fun name _ => Ron.stringLayout_writeString name (depth + 2))
  apply Ron.structLayout_writeStruct
  refine .cons ?_ (.cons ?_ (.cons ?_ (.cons ?_ (.cons ?_ (.cons ?_ .nil)))))
  · exact layout_writeField (Ron.naturalLayout_writeInteger s.version.toNat (depth + 1))
  · exact layout_writeField (hstrings s.sourceTypes)
  · exact layout_writeField (hstrings s.filters)
  · exact layout_writeField (hstrings s.shaderRoots)
  · exact layout_writeField (Ron.stringLayout_writeString s.logFilter (depth + 1))
  · exact layout_writeField (Ron.naturalLayout_writeInteger s.watchDebounce.toNat (depth + 1))

/-- What is written is a document of all fields. -/
theorem document_toRon (s : Settings) : Document s.all s.toRon where
  layout := ⟨[], [], write 0 s, .nil, .nil, structLayout_write s 0, by simp [toRon]⟩
  distinct :=
    show [SettingField.version, .sourceTypes, .filters, .shaderRoots, .logFilter,
      .watchDebounce].Nodup by decide
  versioned := List.mem_cons_self

theorem mem_all {s : Settings} {f : SettingField} : ⟨f, s.get f⟩ ∈ s.all := by
  cases f <;> simp [all]

theorem eq_of_combines_all {s s' : Settings} (h : Combines s.all s') : s' = s :=
  ext_get fun _ => h.present _ mem_all

/-! ## Loading -/

theorem ofRon_of_parse {text : String} {s : Settings} (h : Ron.parse read text = some s) :
    ofRon text = s.admitted := by
  rw [ofRon, h, admitted]
  by_cases hversion : s.version ≤ supportedVersion
  · simp [hversion, UInt32.not_lt.2 hversion]
  · simp [hversion, UInt32.not_le.1 hversion]

theorem ofRon_toRon (s : Settings) : ofRon s.toRon = s.admitted := by
  obtain ⟨s', hparse, hcombines⟩ := parse_document (document_toRon s)
  rw [ofRon_of_parse hparse, eq_of_combines_all hcombines]

/-- A document gives the settings that combine its values with the standard ones; what is written
or saved gives the settings that were written; and all of this unless the version is too new. -/
theorem ofRon_document :
    (∀ authored text, Document authored text →
        ∃ s, Combines authored s ∧ ofRon text = s.admitted) ∧
      (∀ s : Settings, ofRon s.toRon = s.admitted) ∧
      ∀ (t t' : FileTree) (path : String) (s : Settings),
        (FileTree.access.saveSettings path s).run t = (.ok (), t') →
        (FileTree.access.loadSettings path).run t' = (s.admitted.mapError .document, t') := by
  refine ⟨fun authored text h => ?_, ofRon_toRon, fun t t' path s h => ?_⟩
  · obtain ⟨s, hparse, hcombines⟩ := parse_document h
    exact ⟨s, hcombines, ofRon_of_parse hparse⟩
  · rw [t.run_loadSettings_of_saveSettings h, ofRon_toRon]

/-- Roots and the version, in this order. -/
def sampleAuthored : List Setting := [⟨.shaderRoots, ["look's"]⟩, ⟨.version, 1⟩]

/-- A document with a comment, without the name of the struct and with a comma behind the last
field. -/
def sampleDocument : String := "// roots first\n(shader_roots: [\"look's\"], version:01,)"

theorem document_sampleDocument : Document sampleAuthored sampleDocument where
  layout := by
    have hcomment : Ron.IsGap "// roots first\n".toList :=
      .lineComment " roots first".toList [] (by decide) .nil
    have hspells : Ron.Spells "look's".toList "look's".toList := by
      repeat refine .plain _ _ _ (by decide) (by decide) ?_
      exact .nil
    have hname : Ron.StringLayout "look's" "\"look's\"".toList := ⟨_, hspells, rfl⟩
    have hroots : Setting.layout ⟨.shaderRoots, ["look's"]⟩ "shader_roots: [\"look's\"]".toList :=
      ⟨[], [' '], "[\"look's\"]".toList, .nil, Ron.isGap_space,
        ⟨_, .last _ [] _ [] .nil hname .nil, rfl⟩, rfl⟩
    have hdigits : ∀ c ∈ "01".toList, c.isDigit = true := List.all_eq_true.1 rfl
    have hversion : Setting.layout ⟨.version, 1⟩ "version:01".toList :=
      ⟨[], [], "01".toList, .nil, .nil, ⟨by decide, hdigits, rfl⟩, rfl⟩
    have hfields : Ron.Separated Setting.layout sampleAuthored
        "shader_roots: [\"look's\"], version:01,".toList :=
      .cons _ _ [] _ [] _ .nil hroots .nil
        (.cons _ _ [' '] _ [] _ Ron.isGap_space hversion .nil (.nil [] .nil))
    exact ⟨_, [], _, hcomment, .nil, ⟨_, ⟨_, hfields, rfl⟩, .inl rfl⟩, rfl⟩
  distinct := by decide
  versioned := by decide

/-- The document gives its values and the standard ones, and the standard settings are loaded from
where they are saved. -/
theorem ofRon_sampleDocument :
    Document sampleAuthored sampleDocument ∧
      (∃ s, Combines sampleAuthored s ∧ ofRon sampleDocument = s.admitted) ∧
      ∃ t', (FileTree.access.saveSettings fileName standard).run (.ofWorkingDirectory []) =
          (.ok (), t') ∧
        (FileTree.access.loadSettings fileName).run t' = (.ok standard, t') := by
  obtain ⟨hload, -, hsaved⟩ := ofRon_document
  have hsave : (FileTree.access.saveSettings fileName standard).run (.ofWorkingDirectory []) =
      (.ok (), (FileTree.ofWorkingDirectory []).withFile [fileName.toList] standard.toRon) := rfl
  exact ⟨document_sampleDocument, hload _ _ document_sampleDocument, _, hsave, hsaved _ _ _ _ hsave⟩

end Settings

end ShadingGraph
