import OpenMcc.Framework.TomlReader
import OpenMcc.Properties.ConfigDocument

/-!
# A rendered document, read back and compared

With a reader of the document's language, `Toml.Implements`, the text that `renderInstanceConfig`
writes for an accepted document parses, and each key is read back with its configured value,
`configuredKeys`.  Hence two rendered documents are compared as the configurations they are
rendered from.
-/

namespace OpenMcc

variable {ν : Type} [DecidableEq ν] {numbers : Numbers ν} {readInteger : Text → Option Int}
  {config : StoredConfig}

/-! ## Values read back -/

omit [DecidableEq ν] in
lemma asScalar_texts (values : List Text) :
    (values.map Toml.Value.text).mapM (asScalar : Toml.Value ν → Option (McConfigScalar ν)) =
      some (values.map McConfigScalar.text) := by
  induction values with
  | nil => rfl
  | cons value values ih =>
    rw [List.map_cons, List.mapM_cons, ih]
    rfl

lemma readValue_settingToml (schema : KeySchema) (value : KeyValue) :
    readValue (settingToml numbers schema value) = some (settingValue numbers schema value) := by
  have hmany : ∀ values : List Text, readValue
      (.list (values.map Toml.Value.text) : Toml.Value ν) =
      some (.list (values.map .text)) := by
    intro values
    rw [readValue, asScalar_texts]
    rfl
  cases value with
  | one t => cases schema <;> rfl
  | many values => cases schema <;> exact hmany values

lemma readValue_delay (numbers : Numbers ν) (range : DelaySecondsRange) :
    readValue (delayEntry numbers "Delay" range).2.2 = some (delayValue numbers range) := by
  simp [delayEntry, readValue, readRange, List.lookup, delayValue]

lemma keys_managedValues (numbers : Numbers ν) (config : StoredConfig) :
    (managedValues numbers readInteger config).map Prod.fst =
      forServer (namesPort readInteger config) managedKeys := by
  rw [managedValues, serverValues, namesPort]
  obtain ⟨host, port⟩ := splitServerAddress readInteger config.settings.serverAddress
  cases port with
  | none => rfl
  | some port => rfl

/-- The values that every document has are read back. -/
lemma values_managedDocument (config : StoredConfig) :
    (managedDocument numbers readInteger config).flatMap
        (fun table => table.2.map fun entry => (keyIn table.1 entry.1, readValue entry.2.2)) =
      (managedValues numbers readInteger config).map
        fun entry => (entry.1.toList, some entry.2) := by
  have hkeys : ((managedDocument numbers readInteger config).flatMap
      (fun table => table.2.map fun entry => (keyIn table.1 entry.1, readValue entry.2.2))).map
        Prod.fst = (forServer (namesPort readInteger config) managedKeys).map String.toList := by
    rw [← tableKeys_managedDocument numbers, tableKeys, List.map_flatMap]
    refine List.flatMap_congr fun table _ => ?_
    rw [List.map_map]
    rfl
  have hvalues : ((managedDocument numbers readInteger config).flatMap
      (fun table => table.2.map fun entry => (keyIn table.1 entry.1, readValue entry.2.2))).map
        Prod.snd = (managedValues numbers readInteger config).map fun entry => some entry.2 := by
    have hrelog := readValue_delay numbers config.settings.autoRelogDelaySeconds
    have hafk := readValue_delay numbers config.settings.antiAfkIntervalSeconds
    rw [managedDocument, managedValues, serverEntries, serverValues]
    obtain ⟨host, port⟩ := splitServerAddress readInteger config.settings.serverAddress
    cases port with
    | none =>
      simp only [List.flatMap_cons, List.map_cons, hrelog, hafk]
      rfl
    | some port =>
      simp only [List.flatMap_cons, List.map_cons, hrelog, hafk]
      rfl
  rw [List.zip_of_prod hkeys hvalues, ← keys_managedValues numbers, List.map_map]
  symm
  refine List.zip_of_prod ?_ ?_
  · rw [List.map_map]
    rfl
  · rw [List.map_map]
    rfl

/-- The settings of a part of the shape are read back by their schemas. -/
lemma mem_settingValues {shape : List (String × KeySchema)} (hshape : shape ⊆ operatorShape)
    {settings : KeySettings} (h : ∀ setting ∈ settings, ∃ entry ∈ shape,
      entry.1.toList = setting.1 ∧ entry.2.accepts numbers setting.2 = true)
    {key : Text} {value : McConfigValue ν} :
    (key, value) ∈ settingValues numbers shape settings ↔ ∃ setting ∈ settings,
      setting.1 = key ∧ readValue (operatorEntry numbers setting).2.2 = some value := by
  rw [settingValues, List.mem_filterMap]
  have hread : ∀ setting ∈ settings, ∃ schema, schemaOf shape setting.1 = some schema ∧
      readValue (operatorEntry numbers setting).2.2 =
        some (settingValue numbers schema setting.2) := by
    rintro ⟨key, set⟩ hsetting
    obtain ⟨entry, hentry, hkey, -⟩ := h _ hsetting
    obtain rfl : entry.1.toList = key := hkey
    refine ⟨entry.2, schemaOf_eq_some hshape hentry, ?_⟩
    rw [operatorEntry, schemaOf_eq_some (List.Subset.refl _) (hshape hentry)]
    exact readValue_settingToml entry.2 set
  constructor
  · rintro ⟨setting, hsetting, hvalue⟩
    obtain ⟨schema, hschema, hfound⟩ := hread setting hsetting
    rw [hschema, Option.map_some, Option.some.injEq, Prod.mk.injEq] at hvalue
    exact ⟨setting, hsetting, hvalue.1, hvalue.2 ▸ hfound⟩
  · rintro ⟨setting, hsetting, rfl, hvalue⟩
    obtain ⟨schema, hschema, hfound⟩ := hread setting hsetting
    refine ⟨setting, hsetting, ?_⟩
    rw [hvalue, Option.some.injEq] at hfound
    rw [hschema, hfound, Option.map_some]

/-- The pinned keys are read back as false. -/
lemma mem_pinnedValues (numbers : Numbers ν) {key : Text} {value : McConfigValue ν} :
    (key, value) ∈ pinnedBotConfig.map
        (fun setting => (setting.1, McConfigValue.scalar (.boolean false))) ↔
      ∃ setting ∈ pinnedBotConfig,
        setting.1 = key ∧ readValue (operatorEntry numbers setting).2.2 = some value := by
  have hread : ∀ setting ∈ pinnedBotConfig, readValue (operatorEntry numbers setting).2.2 =
      some (McConfigValue.scalar (.boolean false)) := by
    intro setting hsetting
    obtain ⟨key, hkey, rfl⟩ := List.mem_map.mp hsetting
    have hentry : (key, KeySchema.boolean) ∈ operatorShape :=
      List.mem_append_right _ (List.mem_map_of_mem hkey)
    rw [operatorEntry, schemaOf_eq_some (List.Subset.refl _) hentry]
    have hfalse : readValue (settingToml numbers .boolean (.one "false".toList)) = _ :=
      readValue_settingToml _ _
    exact hfalse
  rw [List.mem_map]
  constructor
  · rintro ⟨setting, hsetting, hvalue⟩
    obtain ⟨rfl, rfl⟩ := Prod.mk.inj hvalue
    exact ⟨setting, hsetting, rfl, hread setting hsetting⟩
  · rintro ⟨setting, hsetting, rfl, hvalue⟩
    rw [hread setting hsetting, Option.some.injEq] at hvalue
    exact ⟨setting, hsetting, by rw [hvalue]⟩

/-- **The keys configured are the entries of the document, with what is read of their values.** -/
lemma AcceptedConfig.mem_configuredKeys (h : AcceptedConfig numbers config) {key : Text}
    {value : McConfigValue ν} :
    (key, value) ∈ configuredKeys numbers readInteger config ↔
      ∃ table ∈ configDocument numbers readInteger config, ∃ entry ∈ table.2,
        keyIn table.1 entry.1 = key ∧ readValue entry.2.2 = some value := by
  have hadvanced : advancedKeyShape ⊆ operatorShape :=
    fun _ hentry => List.mem_append_left _ (List.mem_append_left _ hentry)
  have hbots : storedBotConfigShape ⊆ operatorShape :=
    fun _ hentry => List.mem_append_left _ (List.mem_append_right _ hentry)
  have hmanaged : (key, value) ∈ (managedValues numbers readInteger config).map
      (fun entry => (entry.1.toList, entry.2)) ↔
        ∃ table ∈ managedDocument numbers readInteger config, ∃ entry ∈ table.2,
          keyIn table.1 entry.1 = key ∧ readValue entry.2.2 = some value := by
    have hsome : (key, value) ∈ (managedValues numbers readInteger config).map
        (fun entry => (entry.1.toList, entry.2)) ↔
          (key, some value) ∈ (managedValues numbers readInteger config).map
            (fun entry => (entry.1.toList, some entry.2)) := by
      simp only [List.mem_map, Prod.mk.injEq, Option.some.injEq]
    rw [hsome, ← values_managedDocument, List.mem_flatMap]
    simp only [List.mem_map, Prod.mk.injEq]
  have hoperator : (∃ setting ∈ operatorSettings config,
      setting.1 = key ∧ readValue (operatorEntry numbers setting).2.2 = some value) ↔
        ∃ table ∈ operatorDocument numbers (operatorSettings config), ∃ entry ∈ table.2,
          keyIn table.1 entry.1 = key ∧ readValue entry.2.2 = some value := by
    constructor
    · rintro ⟨setting, hsetting, rfl, hvalue⟩
      obtain ⟨htable, hentry⟩ := mem_operatorDocument.mpr ⟨setting, hsetting, rfl, rfl⟩
      refine ⟨_, htable, _, hentry, ?_, hvalue⟩
      exact (keyIn_operator (h.settings.accepted setting hsetting).mem_keys).1
    · rintro ⟨table, htable, entry, hentry, rfl, hvalue⟩
      obtain ⟨setting, hsetting, rfl, rfl⟩ := mem_operatorDocument.mp ⟨htable, hentry⟩
      refine ⟨setting, hsetting, ?_, hvalue⟩
      exact (keyIn_operator (h.settings.accepted setting hsetting).mem_keys).1.symm
  rw [configuredKeys, List.mem_append, List.mem_append, List.mem_append, hmanaged,
    mem_settingValues hadvanced (accepted_of_partialObject h.advancedKeys).2,
    mem_settingValues hbots (accepted_of_partialObject h.botConfig).2,
    mem_pinnedValues numbers]
  have hsettings : ∀ P : Text × KeyValue → Prop,
      (∃ setting ∈ operatorSettings config, P setting) ↔
        (∃ setting ∈ config.bots.advancedKeys, P setting) ∨
          (∃ setting ∈ config.bots.botConfig, P setting) ∨
          ∃ setting ∈ pinnedBotConfig, P setting := by
    intro P
    simp only [operatorSettings, List.mem_append, or_and_right, exists_or, or_assoc]
  rw [hsettings] at hoperator
  simp only [configDocument, List.mem_append, or_and_right, exists_or, ← hoperator, or_assoc]

/-- Each entry of the document can be read. -/
lemma AcceptedConfig.readable (h : AcceptedConfig numbers config) {table : DocumentTable ν}
    (htable : table ∈ configDocument numbers readInteger config) {entry : DocumentEntry ν}
    (hentry : entry ∈ table.2) : ∃ value, readValue entry.2.2 = some value := by
  rcases List.mem_append.mp htable with htable | htable
  · have hmem : (keyIn table.1 entry.1, readValue entry.2.2) ∈
        (managedDocument numbers readInteger config).flatMap (fun table =>
          table.2.map fun entry => (keyIn table.1 entry.1, readValue entry.2.2)) :=
      List.mem_flatMap.mpr ⟨table, htable, List.mem_map.mpr ⟨entry, hentry, rfl⟩⟩
    rw [values_managedDocument] at hmem
    obtain ⟨found, -, heq⟩ := List.mem_map.mp hmem
    exact ⟨found.2, (Prod.mk.inj heq).2.symm⟩
  · obtain ⟨⟨key, set⟩, hsetting, rfl, -⟩ := mem_operatorDocument.mp ⟨htable, hentry⟩
    obtain ⟨schema, hschema, hkey, -⟩ := h.settings.accepted _ hsetting
    obtain rfl : schema.1.toList = key := hkey
    refine ⟨settingValue numbers schema.2 set, ?_⟩
    rw [operatorEntry, schemaOf_eq_some (List.Subset.refl _) hschema]
    exact readValue_settingToml schema.2 set

/-! ## Reading the rendered text -/

section Reading

variable {parse : Text → Option (Toml.Value ν)}

/-- The text rendered for a document. -/
def renderedText (numbers : Numbers ν) (readInteger : Text → Option Int)
    (config : StoredConfig) : Text :=
  Text.join ['\n'] (((configDocument numbers readInteger config).flatMap documentLines).map
    Prod.fst)

lemma lookup_eq_some_of_unique {α β : Type} [BEq α] [LawfulBEq α] {entries : List (α × β)} {key : α}
    {value : β} (hmem : (key, value) ∈ entries)
    (hunique : ∀ other, (key, other) ∈ entries → other = value) :
    entries.lookup key = some value := by
  cases hlookup : entries.lookup key with
  | none =>
    rw [List.lookup_eq_none_iff] at hlookup
    exact absurd (hlookup _ hmem) (by simp)
  | some other =>
    obtain ⟨before, after, rfl, -⟩ := List.lookup_eq_some_iff.mp hlookup
    rw [hunique other (List.mem_append_right _ List.mem_cons_self)]

lemma mem_keys_iff_lookup {α β : Type} [BEq α] [LawfulBEq α] {entries : List (α × β)} {key : α} :
    key ∈ entries.map Prod.fst ↔ ∃ value, entries.lookup key = some value := by
  constructor
  · intro hkey
    obtain ⟨⟨key, value⟩, hmem, rfl⟩ := List.mem_map.mp hkey
    cases hlookup : entries.lookup key with
    | none =>
      rw [List.lookup_eq_none_iff] at hlookup
      exact absurd (hlookup _ hmem) (by simp)
    | some found => exact ⟨found, rfl⟩
  · rintro ⟨value, hlookup⟩
    obtain ⟨before, after, rfl, -⟩ := List.lookup_eq_some_iff.mp hlookup
    simp

/-- The keys of the document are those configured. -/
lemma AcceptedConfig.mem_tableKeys (h : AcceptedConfig numbers config) {key : Text} :
    key ∈ tableKeys (configDocument numbers readInteger config) ↔
      key ∈ (configuredKeys numbers readInteger config).map Prod.fst := by
  rw [OpenMcc.mem_tableKeys, List.mem_map]
  constructor
  · rintro ⟨table, htable, entry, hentry, rfl⟩
    obtain ⟨value, hvalue⟩ := h.readable htable hentry
    exact ⟨(_, value), h.mem_configuredKeys.mpr ⟨table, htable, entry, hentry, rfl, hvalue⟩, rfl⟩
  · rintro ⟨⟨key, value⟩, hmem, rfl⟩
    obtain ⟨table, htable, entry, hentry, hkey, -⟩ := h.mem_configuredKeys.mp hmem
    exact ⟨table, htable, entry, hentry, hkey⟩

/-- **What is found at a key of a rendered document is its configured value.** -/
lemma AcceptedConfig.read_key (h : AcceptedConfig numbers config)
    (readInteger : Text → Option Int) {key : Text} (hkey : key ∈ allKeys) :
    ((configuredKeys numbers readInteger config).lookup key = none ∧
      (Toml.document (tableStatements (configDocument numbers readInteger config))).descend
        (key.splitOn '.') = none) ∨
    ∃ found value, (configuredKeys numbers readInteger config).lookup key = some value ∧
      (Toml.document (tableStatements (configDocument numbers readInteger config))).descend
        (key.splitOn '.') = some found ∧ readValue found = some value := by
  by_cases hmem : key ∈ tableKeys (configDocument numbers readInteger config)
  · obtain ⟨table, htable, entry, hentry, rfl⟩ := OpenMcc.mem_tableKeys.mp hmem
    obtain ⟨value, hvalue⟩ := h.readable htable hentry
    have hfound := h.written.descend_key htable hentry
    refine Or.inr ⟨entry.2.2, value, lookup_eq_some_of_unique
      (h.mem_configuredKeys.mpr ⟨table, htable, entry, hentry, rfl, hvalue⟩) ?_, hfound, hvalue⟩
    intro other hother
    obtain ⟨table', htable', entry', hentry', hkey', hvalue'⟩ := h.mem_configuredKeys.mp hother
    have hfound' := h.written.descend_key htable' hentry'
    rw [hkey', hfound, Option.some.injEq] at hfound'
    rw [← hfound', hvalue, Option.some.injEq] at hvalue'
    exact hvalue'.symm
  · refine Or.inl ⟨?_, h.written.descend_absent (mem_allKeys.mp hkey) hmem⟩
    rw [List.lookup_eq_none_iff]
    rintro ⟨other, value⟩ hother
    rw [bne_iff_ne]
    rintro rfl
    exact hmem (h.mem_tableKeys.mpr (List.mem_map_of_mem (f := Prod.fst) hother))

omit [DecidableEq ν] in
/-- The rendered text parses to its document. -/
lemma AcceptedConfig.parses (h : AcceptedConfig numbers config)
    (hparse : Toml.Implements numbers.round parse) :
    parse (renderedText numbers readInteger config) =
      some (Toml.document (tableStatements (configDocument numbers readInteger config))) :=
  hparse _ _ (h.written.spells (List.cons_ne_nil _ _)) h.written.valid

/-- **`readMccConfigKeys` reads each key of a rendered document back.** -/
lemma AcceptedConfig.readMccConfigKeys_eq (h : AcceptedConfig numbers config)
    (hparse : Toml.Implements numbers.round parse) {keys : List Text} (hkeys : keys ⊆ allKeys) :
    readMccConfigKeys parse (renderedText numbers readInteger config) keys =
      some ⟨keys.filterMap fun key => ((configuredKeys numbers readInteger config).lookup key).map
        fun value => (key, value), []⟩ := by
  rw [readMccConfigKeys, h.parses hparse, Option.map_some]
  congr 2
  · refine List.filterMap_congr fun key hkey => ?_
    rcases h.read_key readInteger (hkeys hkey) with
      ⟨hnone, habsent⟩ | ⟨found, value, hsome, hfound, hvalue⟩
    · rw [hnone, habsent]
      rfl
    · rw [hsome, hfound, Option.bind_some, hvalue]
  · rw [List.filter_eq_nil_iff]
    intro key hkey
    rcases h.read_key readInteger (hkeys hkey) with
      ⟨-, habsent⟩ | ⟨found, value, -, hfound, hvalue⟩
    · rw [habsent]
      exact Bool.false_ne_true
    · rw [hfound, Option.any_some, hvalue]
      exact Bool.false_ne_true

omit [DecidableEq ν] in
/-- The emptied tables of a rendered document are read as empty. -/
lemma AcceptedConfig.readMccConfigSections_eq (h : AcceptedConfig numbers config)
    (hparse : Toml.Implements numbers.round parse) :
    readMccConfigSections parse (renderedText numbers readInteger config)
      (emptiedConfigSections.map String.toList) =
        some ((emptiedConfigSections.map String.toList).map fun name => (name, 0)) := by
  have hempty : ∀ name ∈ emptiedConfigSections.map String.toList,
      (Toml.document (tableStatements (configDocument numbers readInteger config))).descend
        (name.splitOn '.') = some (.table []) := by
    intro name hname
    refine h.written.descend_emptied hname (List.mem_append_left _ ?_)
    rw [emptiedConfigSections, List.map_cons, List.map_singleton, List.mem_pair] at hname
    rw [managedDocument]
    rcases hname with rfl | rfl <;> simp
  rw [readMccConfigSections, h.parses hparse, Option.map_some]
  refine congrArg some ?_
  generalize emptiedConfigSections.map String.toList = names at hempty
  rw [← List.filterMap_eq_map']
  refine List.filterMap_congr fun name hname => ?_
  rw [hempty name hname]
  rfl

/-! ## Comparing rendered texts -/

omit [DecidableEq ν] in
lemma lookup_filterMap {keys : List Text} (value : Text → Option (McConfigValue ν)) {key : Text}
    (hkey : key ∈ keys) :
    (keys.filterMap fun key => (value key).map fun found => (key, found)).lookup key =
      value key := by
  cases hvalue : value key with
  | none =>
    rw [List.lookup_eq_none_iff]
    intro entry hentry
    obtain ⟨other, -, hother⟩ := List.mem_filterMap.mp hentry
    rw [bne_iff_ne]
    rintro rfl
    obtain ⟨found, hfound, rfl⟩ := Option.map_eq_some_iff.mp hother
    rw [show value other = none from hvalue] at hfound
    cases hfound
  | some found =>
    refine lookup_eq_some_of_unique (List.mem_filterMap.mpr ⟨key, hkey, by rw [hvalue]; rfl⟩) ?_
    intro other hother
    obtain ⟨key', -, heq⟩ := List.mem_filterMap.mp hother
    obtain ⟨found', hfound', hpair⟩ := Option.map_eq_some_iff.mp heq
    obtain ⟨rfl, rfl⟩ := Prod.mk.inj hpair
    rw [hvalue, Option.some.injEq] at hfound'
    exact hfound'.symm

lemma sameConfigValue_iff {want : McConfigValue ν} {found : Option (McConfigValue ν)} :
    sameConfigValue want found = true ↔ found = some want := by
  cases found with
  | none => cases want <;> simp [sameConfigValue]
  | some found =>
    have hflip : some found = some want ↔ want = found := by
      rw [Option.some.injEq, eq_comm]
    rw [hflip]
    cases want <;> cases found <;> simp [sameConfigValue]

/-- **The drifts between the values of two configurations**: there is none exactly when the second
has each value of the first. -/
lemma valueDrifts_eq_nil (clientVariable : Text → Bool)
    (expected actual : Text → Option (McConfigValue ν)) (unreadable unreadable' : List Text) :
    valueDrifts clientVariable
        ⟨allKeys.filterMap fun key => (expected key).map fun value => (key, value), unreadable⟩
        ⟨allKeys.filterMap fun key => (actual key).map fun value => (key, value), unreadable'⟩ =
          [] ↔
      ∀ key ∈ allKeys, ∀ value, expected key = some value → actual key = some value := by
  rw [valueDrifts, List.filterMap_eq_nil_iff]
  refine forall₂_congr fun key hkey => ?_
  dsimp only
  rw [lookup_filterMap expected hkey, lookup_filterMap actual hkey]
  cases hexpected : expected key with
  | none => simp
  | some want =>
    by_cases hsame : sameConfigValue want (actual key) = true
    · have hfound := sameConfigValue_iff.mp hsame
      rw [hfound] at hsame ⊢
      simp [hsame]
    · have hother : actual key ≠ some want := fun heq => hsame (sameConfigValue_iff.mpr heq)
      simp [hsame, hother]

/-- What `compareInstanceConfig` makes of two rendered texts. -/
lemma compareInstanceConfig_rendered (clientVariable : Text → Bool) {other : StoredConfig}
    (h : AcceptedConfig numbers config) (hother : AcceptedConfig numbers other)
    (hparse : Toml.Implements numbers.round parse) :
    compareInstanceConfig parse clientVariable (renderedText numbers readInteger config)
        (renderedText numbers readInteger other) =
      some (valueDrifts clientVariable
        ⟨allKeys.filterMap fun key => ((configuredKeys numbers readInteger config).lookup key).map
          fun value => (key, value), []⟩
        ⟨allKeys.filterMap fun key => ((configuredKeys numbers readInteger other).lookup key).map
          fun value => (key, value), []⟩) := by
  rw [compareInstanceConfig, h.readMccConfigKeys_eq hparse (List.Subset.refl _),
    hother.readMccConfigKeys_eq hparse (List.Subset.refl _),
    hother.readMccConfigSections_eq hparse]
  simp [unreadableDrifts]

end Reading

/-! ## The keys of a rendered document -/

/-- The keys that a rendered document has: the allowed ones, the server's port only where the
address names one, the fixed ones, and those that an operator has set. -/
def RenderedKey (readInteger : Text → Option Int) (config : StoredConfig) (key : Text) : Prop :=
  (key ∈ allowedConfigKeys.map String.toList ∧
    (key = "Main.General.Server.Port".toList → namesPort readInteger config = true)) ∨
  key ∈ fixedConfigKeys.map String.toList ∨
  key ∈ config.bots.advancedKeys.map Prod.fst ∨ key ∈ config.bots.botConfig.map Prod.fst

omit [DecidableEq ν] in
/-- The keys that every document has are the allowed ones and the fixed ones that are not pinned,
the server's port among them only where the address names one. -/
lemma mem_forServer {named : Bool} {key : Text} :
    key ∈ forServer named (managedKeys.map String.toList) ↔
      key ∈ managedKeys.map String.toList ∧
        (key = "Main.General.Server.Port".toList → named = true) := by
  cases named with
  | true => simp [forServer]
  | false =>
    have hnodup : (managedKeys.map String.toList).Nodup :=
      (List.nodup_append.mp documentKeys_nodup).1
    obtain ⟨before, after, hkeys, herase⟩ : ∃ before after : List Text,
        managedKeys.map String.toList = before ++ "Main.General.Server.Port".toList :: after ∧
          (managedKeys.map String.toList).eraseIdx 5 = before ++ after :=
      ⟨(managedKeys.take 5).map String.toList, (managedKeys.drop 6).map String.toList, rfl, rfl⟩
    rw [hkeys, List.nodup_middle, List.nodup_cons] at hnodup
    show key ∈ (managedKeys.map String.toList).eraseIdx 5 ↔ _
    rw [herase, hkeys, List.mem_append, List.mem_append, List.mem_cons]
    constructor
    · intro hmem
      refine ⟨hmem.imp_right Or.inr, ?_⟩
      rintro rfl
      exact absurd (List.mem_append.mpr hmem) hnodup.1
    · rintro ⟨hbefore | heq | hafter, hport⟩
      · exact Or.inl hbefore
      · exact absurd (hport heq) Bool.false_ne_true
      · exact Or.inr hafter

/-- **The keys configured are the allowed ones, the fixed ones and those that are set.** -/
lemma AcceptedConfig.mem_keys_iff (h : AcceptedConfig numbers config) {key : Text} :
    key ∈ (configuredKeys numbers readInteger config).map Prod.fst ↔
      RenderedKey readInteger config key := by
  rw [← h.mem_tableKeys, configDocument, tableKeys_append, List.mem_append,
    tableKeys_managedDocument, ← forServer_map, mem_forServer,
    mem_tableKeys_operatorDocument h.settings, operatorSettings, List.map_append, List.map_append,
    List.mem_append, List.mem_append, pinnedBotConfig_keys, RenderedKey]
  have hknown := names_checked.known key
  have hplaced := names_checked.placed key
  have hpinned := names_checked.pinned_fixed key
  have hport : "Main.General.Server.Port".toList ∉ fixedConfigKeys.map String.toList :=
    names_checked.port_allowed _ rfl
  rw [List.mem_append] at hknown hplaced
  constructor
  · rintro (⟨hmanaged, hnamed⟩ | (hset | hset) | hpin)
    · rcases hknown hmanaged with hallowed | hfixed
      · exact Or.inl ⟨hallowed, hnamed⟩
      · exact Or.inr (Or.inl hfixed)
    · exact Or.inr (Or.inr (Or.inl hset))
    · exact Or.inr (Or.inr (Or.inr hset))
    · exact Or.inr (Or.inl (hpinned hpin))
  · rintro (⟨hallowed, hnamed⟩ | hfixed | hset | hset)
    · rcases List.mem_append.mp (hplaced (Or.inl hallowed)) with hmanaged | hpin
      · exact Or.inl ⟨hmanaged, hnamed⟩
      · exact Or.inr (Or.inr hpin)
    · rcases List.mem_append.mp (hplaced (Or.inr hfixed)) with hmanaged | hpin
      · exact Or.inl ⟨hmanaged, fun heq => absurd (heq ▸ hfixed) hport⟩
      · exact Or.inr (Or.inr hpin)
    · exact Or.inr (Or.inl (Or.inl hset))
    · exact Or.inr (Or.inl (Or.inr hset))

/-- **A rendered document is read back as configured.**  For every document that
`instanceConfigStored` accepts, and every reader of the document's language: the text that
`renderInstanceConfig` writes parses; its keys are the allowed ones, the fixed ones and those an
operator has set; `readMccConfigKeys` reads each of them with its configured value; and it is
compared without a drift to itself, and with one to a text rendered for another document, exactly
when a key of the first has another value in the second, or none. -/
theorem rendered_document_read_back (numbers : Numbers ν) (readInteger : Text → Option Int)
    (parse : Text → Option (Toml.Value ν)) (clientVariable : Text → Bool)
    (hparse : Toml.Implements numbers.round parse) (config : StoredConfig)
    (hconfig : instanceConfigStored numbers config = true) :
    ∃ text statements, renderInstanceConfig readInteger config = some text ∧
      Toml.Spells numbers.round text statements ∧ Toml.Valid statements ∧
      parse text = some (Toml.document statements) ∧
      (∀ path, (∃ value, (path, some value) ∈ Toml.items [] statements) ↔
        ∃ key, RenderedKey readInteger config key ∧ path = key.splitOn '.') ∧
      (∀ key, RenderedKey readInteger config key ↔
        ∃ value, (configuredKeys numbers readInteger config).lookup key = some value) ∧
      (∀ keys ⊆ allKeys, readMccConfigKeys parse text keys =
        some ⟨keys.filterMap fun key => ((configuredKeys numbers readInteger config).lookup key).map
          fun value => (key, value), []⟩) ∧
      compareInstanceConfig parse clientVariable text text = some [] ∧
      ∀ other : StoredConfig, instanceConfigStored numbers other = true →
        ∃ otherText drifts, renderInstanceConfig readInteger other = some otherText ∧
          compareInstanceConfig parse clientVariable text otherText = some drifts ∧
          (drifts ≠ [] ↔ ∃ key value,
            (configuredKeys numbers readInteger config).lookup key = some value ∧
              (configuredKeys numbers readInteger other).lookup key ≠ some value) := by
  have h := acceptedConfig hconfig
  have hlookup : ∀ key, RenderedKey readInteger config key ↔
      ∃ value, (configuredKeys numbers readInteger config).lookup key = some value := by
    intro key
    rw [← h.mem_keys_iff, mem_keys_iff_lookup]
  refine ⟨_, _, renderInstanceConfig_eq h, h.written.spells (List.cons_ne_nil _ _),
    h.written.valid, h.parses hparse, fun path => ?_, hlookup, fun keys hkeys =>
      h.readMccConfigKeys_eq hparse hkeys, ?_, fun other hother => ?_⟩
  · simp only [h.written.assigned, h.mem_tableKeys, h.mem_keys_iff]
  · refine (compareInstanceConfig_rendered clientVariable h h hparse).trans ?_
    rw [(valueDrifts_eq_nil clientVariable _ _ [] []).mpr fun _ _ _ hvalue => hvalue]
  · have h' := acceptedConfig hother
    refine ⟨_, _, renderInstanceConfig_eq h', compareInstanceConfig_rendered clientVariable h h'
      hparse, ?_⟩
    rw [ne_eq, valueDrifts_eq_nil]
    simp only [not_forall, exists_prop]
    constructor
    · rintro ⟨key, -, value, hvalue, hdiffers⟩
      exact ⟨key, value, hvalue, hdiffers⟩
    · rintro ⟨key, value, hvalue, hdiffers⟩
      have hkey : key ∈ tableKeys (configDocument numbers readInteger config) := by
        rw [h.mem_tableKeys, mem_keys_iff_lookup]
        exact ⟨value, hvalue⟩
      exact ⟨key, mem_allKeys.mpr (h.written.isKey key hkey), value, hvalue, hdiffers⟩

/-! ## A document whose texts end lines and close quotes -/

/-- The rational numbers, as those of a language. -/
def rationals : Numbers Rat where
  round := id
  isFinite := fun _ => true
  atMost := fun left right => decide (left ≤ right)
  below := fun left right => decide (left < right)

/-- A reader of whole numbers in digits. -/
def readDigits (t : Text) : Option Int :=
  if Toml.isDigits t then some (Toml.natural t) else none

/-- An account name that would set a password and open a table, if it were written as it stands. -/
def injectingAccount : Text := "x\"\nPassword = \"y\"\n[Main.Advanced]\n\\u0000".toList

def injectingConfig : StoredConfig where
  settings :=
    { accountType := .offline, minecraftAccount := injectingAccount,
      serverAddress := "mc.local:25566".toList, minecraftVersion := "auto".toList,
      autoRelogRetries := 3, autoRelogEnabled := true, autoRelogDelaySeconds := ⟨10, 20⟩,
      antiAfkEnabled := false, antiAfkIntervalSeconds := ⟨60, 60⟩, autoRespawnEnabled := false,
      liveControlEnabled := true, liveControlPort := 33333, worldDataEnabled := false,
      inventoryDataEnabled := true, entityDataEnabled := false }
  bots :=
    { advancedKeys := [("ChatBot.AutoEat.Threshold".toList, .one "6".toList)],
      botConfig := [("ChatBot.Alerts.Matches".toList, .many ["a \"b\" ] ".toList])] }

theorem injecting_document_read_back :
    ∃ text, renderInstanceConfig readDigits injectingConfig = some text ∧
      readMccConfigKeys (fun text => (Toml.readDocument id text).map Toml.document) text
          ["Main.General.Account.Login".toList, "Main.General.Account.Password".toList] =
        some ⟨[("Main.General.Account.Login".toList, .scalar (.text injectingAccount)),
          ("Main.General.Account.Password".toList, .scalar (.text "-".toList))], []⟩ := by
  have hstored : instanceConfigStored rationals injectingConfig = true := by decide +kernel
  obtain ⟨text, -, hrender, -, -, -, -, -, hread, -⟩ :=
    rendered_document_read_back rationals readDigits _ (fun _ => false)
      (Toml.implements_readDocument id) injectingConfig hstored
  refine ⟨text, hrender, ?_⟩
  have hallowed : ∀ key ∈ ["Main.General.Account.Login".toList,
      "Main.General.Account.Password".toList], key ∈ allowedConfigKeys.map String.toList := by
    decide
  refine (hread _ fun key hkey => ?_).trans ?_
  · simp only [allKeys, List.append_assoc]
    exact List.mem_append_left _ (hallowed key hkey)
  · rfl

end OpenMcc
