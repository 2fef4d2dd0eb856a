import OpenMcc.Properties.ConfigRender

/-!
# The document of a configuration

The tables that `renderInstanceConfig` writes for a stored document: those that every document has,
and those of the keys that an operator has set.  They are `Written`, and their lines are the ones
of the rendered text.
-/

namespace OpenMcc

variable {ν : Type}

/-! ## The tables that every document has -/

section Managed

variable (numbers : Numbers ν) (readInteger : Text → Option Int)

def textEntry (name : String) (value : Text) : DocumentEntry ν :=
  (name.toList, tomlString value, .text value)

def booleanEntry (name : String) (value : Bool) : DocumentEntry ν :=
  (name.toList, tomlBool value, .boolean value)

def integerEntry (name : String) (value : Int) : DocumentEntry ν :=
  (name.toList, tomlInt value, .number (numbers.round value))

/-- What `tomlSecondsRange` writes for a delay that is not negative. -/
def delayText (range : DelaySecondsRange) : Text :=
  "\x7b min = ".toList ++ fixedOne range.min ++ ", max = ".toList ++ fixedOne range.max ++
    " \x7d".toList

def delayEntry (name : String) (range : DelaySecondsRange) : DocumentEntry ν :=
  (name.toList, delayText range,
    .table [("min".toList, .number (numbers.round range.min)),
      ("max".toList, .number (numbers.round range.max))])

/-- The host of a server, and its port where the address names one. -/
def serverEntries (address : Text) : List (DocumentEntry ν) :=
  match splitServerAddress readInteger address with
  | (host, none) => [textEntry "Host" host]
  | (host, some port) => [textEntry "Host" host, integerEntry numbers "Port" port]

/-- The tables that every document has. -/
def managedDocument (config : StoredConfig) : List (DocumentTable ν) :=
  let settings := config.settings
  [("Main.General".toList,
      [textEntry "AccountType" (mccLoginTypes settings.accountType),
        textEntry "Method" "mcc".toList]),
    ("Main.General.Account".toList,
      [textEntry "Login" settings.minecraftAccount,
        textEntry "Password" (if settings.accountType = .offline then "-".toList else [])]),
    ("Main.General.Server".toList, serverEntries numbers readInteger settings.serverAddress),
    ("Main.Advanced".toList,
      [booleanEntry "EnableSentry" false, booleanEntry "ExitOnFailure" true,
        booleanEntry "IgnoreInvalidPlayerName" true,
        textEntry "InternalCmdChar" "slash".toList, booleanEntry "ShowGithubStarReminder" false,
        ("BotOwners".toList, "[]".toList, .list []),
        textEntry "MinecraftVersion" settings.minecraftVersion,
        booleanEntry "AutoRespawn" settings.autoRespawnEnabled,
        booleanEntry "TerrainAndMovements" settings.worldDataEnabled,
        booleanEntry "InventoryHandling" settings.inventoryDataEnabled,
        booleanEntry "EntityHandling" settings.entityDataEnabled]),
    ("Main.Advanced.AccountList".toList, []),
    ("Main.Advanced.ServerList".toList, []),
    ("ChatBot.AutoRelog".toList,
      [booleanEntry "Enabled" settings.autoRelogEnabled,
        integerEntry numbers "Retries" settings.autoRelogRetries,
        delayEntry numbers "Delay" settings.autoRelogDelaySeconds]),
    ("ChatBot.AntiAFK".toList,
      [booleanEntry "Enabled" settings.antiAfkEnabled,
        delayEntry numbers "Delay" settings.antiAfkIntervalSeconds]),
    ("ChatBot.McpServer".toList, [booleanEntry "Enabled" settings.liveControlEnabled]),
    ("ChatBot.McpServer.Transport".toList,
      [textEntry "BindHost" "0.0.0.0".toList,
        integerEntry numbers "Port" settings.liveControlPort,
        textEntry "Route" "/mcp".toList, booleanEntry "RequireAuthToken" true,
        textEntry "AuthTokenEnvVar" "MCC_MCP_AUTH_TOKEN".toList]),
    ("ChatBot.McpServer.Capabilities".toList,
      [booleanEntry "SessionStatus" settings.liveControlEnabled,
        booleanEntry "ChatAndCommands" false, booleanEntry "Movement" false,
        booleanEntry "Inventory" (settings.liveControlEnabled && settings.inventoryDataEnabled),
        booleanEntry "EntityWorld" (settings.liveControlEnabled && settings.entityDataEnabled)]),
    ("Console.General".toList, [textEntry "ConsoleMode" "classic".toList]),
    ("Logging".toList, [booleanEntry "LogToFile" false]),
    ("ChatBot.AutoRespond".toList, [booleanEntry "Enabled" false]),
    ("ChatBot.ScriptScheduler".toList, [booleanEntry "Enabled" false]),
    ("ChatBot.DiscordBridge".toList, [booleanEntry "Enabled" false]),
    ("ChatBot.TelegramBridge".toList, [booleanEntry "Enabled" false])]

end Managed

/-! ## The tables of the operator's keys -/

section Operator

variable (numbers : Numbers ν)

/-- The settings that `renderConfigTables` renders. -/
def operatorSettings (config : StoredConfig) : KeySettings :=
  config.bots.advancedKeys ++ config.bots.botConfig ++ pinnedBotConfig

/-- The entry of a setting, by the schema of its key. -/
def operatorEntry (setting : Text × KeyValue) : DocumentEntry ν :=
  (nameOf setting.1, renderConfigValue setting.1 setting.2,
    ((schemaOf operatorShape setting.1).map fun schema =>
      settingToml numbers schema setting.2).getD .other)

/-- The settings in a table, by their lines. -/
def settingsIn (settings : KeySettings) (table : Text) : KeySettings :=
  (settings.filter fun setting => tableOf setting.1 == table).mergeSort fun left right =>
    decide (codeUnits (Toml.assignment (nameOf left.1) (renderConfigValue left.1 left.2)) ≤
      codeUnits (Toml.assignment (nameOf right.1) (renderConfigValue right.1 right.2)))

/-- The tables of settings. -/
def operatorDocument (settings : KeySettings) : List (DocumentTable ν) :=
  (sortTexts (settings.map fun setting => tableOf setting.1).dedup).map fun table =>
    (table, (settingsIn settings table).map (operatorEntry numbers))

end Operator

/-- The tables of a document. -/
def configDocument (numbers : Numbers ν) (readInteger : Text → Option Int)
    (config : StoredConfig) : List (DocumentTable ν) :=
  managedDocument numbers readInteger config ++ operatorDocument numbers (operatorSettings config)

/-! ## The lines of the rendered text -/

section Lines

variable {numbers : Numbers ν} {readInteger : Text → Option Int} {config : StoredConfig}

lemma map_documentLines (table : DocumentTable ν) :
    (documentLines table).map Prod.fst =
      tableHeader table.1 ::
        (table.2.map (fun entry => Toml.assignment entry.1 entry.2.1) ++ [[]]) := by
  rw [documentLines, List.map_cons, List.map_append, List.map_map]
  rfl

lemma renderConfigTables_eq (numbers : Numbers ν) (config : StoredConfig) :
    renderConfigTables config.bots.advancedKeys config.bots.botConfig =
      ((operatorDocument numbers (operatorSettings config)).flatMap documentLines).map
        Prod.fst := by
  rw [renderConfigTables, operatorDocument, List.map_flatMap, List.flatMap_map]
  refine List.flatMap_congr fun table _ => ?_
  have hsorted : sortTexts (tableLines (operatorSettings config) table) =
      (settingsIn (operatorSettings config) table).map fun setting =>
        Toml.assignment (nameOf setting.1) (renderConfigValue setting.1 setting.2) := by
    rw [sortTexts, tableLines, settingsIn]
    symm
    apply List.map_mergeSort
    intros
    rfl
  rw [map_documentLines, List.map_map]
  exact congrArg (fun lines => tableHeader table :: (lines ++ [[]])) hsorted

lemma serverLines_eq (numbers : Numbers ν) (address : Text) :
    serverLines readInteger address =
      (serverEntries numbers readInteger address).map fun entry =>
        Toml.assignment entry.1 entry.2.1 := by
  rw [serverLines, serverEntries]
  obtain ⟨host, port⟩ := splitServerAddress readInteger address
  cases port with
  | none => rfl
  | some port => rfl

/-- **The lines that `renderInstanceConfig` joins are those of the document.** -/
lemma configLines_eq (numbers : Numbers ν) (config : StoredConfig) :
    configLines readInteger config (delayText config.settings.autoRelogDelaySeconds)
        (delayText config.settings.antiAfkIntervalSeconds) =
      ((configDocument numbers readInteger config).flatMap documentLines).map Prod.fst := by
  have howners : "BotOwners = []".toList = Toml.assignment "BotOwners".toList "[]".toList := by
    decide
  rw [configDocument, List.flatMap_append, List.map_append, ← renderConfigTables_eq]
  rw [configLines, howners]
  refine congrArg (· ++ _) ?_
  rw [List.map_flatMap, managedDocument]
  simp only [List.flatMap_cons, List.flatMap_nil, map_documentLines, serverLines_eq numbers,
    List.append_assoc, List.cons_append]
  rfl

end Lines

/-! ## The values configured -/

section Configured

variable (numbers : Numbers ν) (readInteger : Text → Option Int)

/-- The server's address names a port. -/
def namesPort (config : StoredConfig) : Bool :=
  (splitServerAddress readInteger config.settings.serverAddress).2.isSome

/-- A delay between two numbers of seconds, which is one number where they are equal. -/
def delayValue (range : DelaySecondsRange) [DecidableEq ν] : McConfigValue ν :=
  if numbers.round range.min = numbers.round range.max then
    .scalar (.number (numbers.round range.min))
  else .range (numbers.round range.min) (numbers.round range.max)

/-- The host and the port that an address names. -/
def serverValues (address : Text) : List (String × McConfigValue ν) :=
  match splitServerAddress readInteger address with
  | (host, none) => [("Main.General.Server.Host", .scalar (.text host))]
  | (host, some port) =>
    [("Main.General.Server.Host", .scalar (.text host)),
      ("Main.General.Server.Port", .scalar (.number (numbers.round port)))]

variable [DecidableEq ν]

/-- The values of the keys that every document has. -/
def managedValues (config : StoredConfig) : List (String × McConfigValue ν) :=
  let settings := config.settings
  let text (value : Text) : McConfigValue ν := .scalar (.text value)
  let boolean (value : Bool) : McConfigValue ν := .scalar (.boolean value)
  let integer (value : Int) : McConfigValue ν := .scalar (.number (numbers.round value))
  [("Main.General.AccountType", text (mccLoginTypes settings.accountType)),
    ("Main.General.Method", text "mcc".toList),
    ("Main.General.Account.Login", text settings.minecraftAccount),
    ("Main.General.Account.Password",
      text (if settings.accountType = .offline then "-".toList else []))] ++
  serverValues numbers readInteger settings.serverAddress ++
  [("Main.Advanced.EnableSentry", boolean false), ("Main.Advanced.ExitOnFailure", boolean true),
    ("Main.Advanced.IgnoreInvalidPlayerName", boolean true),
    ("Main.Advanced.InternalCmdChar", text "slash".toList),
    ("Main.Advanced.ShowGithubStarReminder", boolean false),
    ("Main.Advanced.BotOwners", .list []),
    ("Main.Advanced.MinecraftVersion", text settings.minecraftVersion),
    ("Main.Advanced.AutoRespawn", boolean settings.autoRespawnEnabled),
    ("Main.Advanced.TerrainAndMovements", boolean settings.worldDataEnabled),
    ("Main.Advanced.InventoryHandling", boolean settings.inventoryDataEnabled),
    ("Main.Advanced.EntityHandling", boolean settings.entityDataEnabled),
    ("ChatBot.AutoRelog.Enabled", boolean settings.autoRelogEnabled),
    ("ChatBot.AutoRelog.Retries", integer settings.autoRelogRetries),
    ("ChatBot.AutoRelog.Delay", delayValue numbers settings.autoRelogDelaySeconds),
    ("ChatBot.AntiAFK.Enabled", boolean settings.antiAfkEnabled),
    ("ChatBot.AntiAFK.Delay", delayValue numbers settings.antiAfkIntervalSeconds),
    ("ChatBot.McpServer.Enabled", boolean settings.liveControlEnabled),
    ("ChatBot.McpServer.Transport.BindHost", text "0.0.0.0".toList),
    ("ChatBot.McpServer.Transport.Port", integer settings.liveControlPort),
    ("ChatBot.McpServer.Transport.Route", text "/mcp".toList),
    ("ChatBot.McpServer.Transport.RequireAuthToken", boolean true),
    ("ChatBot.McpServer.Transport.AuthTokenEnvVar", text "MCC_MCP_AUTH_TOKEN".toList),
    ("ChatBot.McpServer.Capabilities.SessionStatus", boolean settings.liveControlEnabled),
    ("ChatBot.McpServer.Capabilities.ChatAndCommands", boolean false),
    ("ChatBot.McpServer.Capabilities.Movement", boolean false),
    ("ChatBot.McpServer.Capabilities.Inventory",
      boolean (settings.liveControlEnabled && settings.inventoryDataEnabled)),
    ("ChatBot.McpServer.Capabilities.EntityWorld",
      boolean (settings.liveControlEnabled && settings.entityDataEnabled)),
    ("Console.General.ConsoleMode", text "classic".toList), ("Logging.LogToFile", boolean false),
    ("ChatBot.AutoRespond.Enabled", boolean false),
    ("ChatBot.ScriptScheduler.Enabled", boolean false),
    ("ChatBot.DiscordBridge.Enabled", boolean false),
    ("ChatBot.TelegramBridge.Enabled", boolean false)]

end Configured

section Settings

variable (numbers : Numbers ν)

/-- What the text of a setting stands for, by the schema of its key. -/
def settingValue : KeySchema → KeyValue → McConfigValue ν
  | .boolean, .one t => .scalar (.boolean (t == "true".toList))
  | .decimal _, .one t => .scalar (.number (numbers.round (Toml.fraction t)))
  | .integerWithin _ _, .one t => .scalar (.number (numbers.round (Toml.integer t)))
  | _, .one t => .scalar (.text t)
  | _, .many values => .list (values.map .text)

/-- The values of the keys that are set. -/
def settingValues (shape : List (String × KeySchema)) (settings : KeySettings) :
    List (Text × McConfigValue ν) :=
  settings.filterMap fun setting =>
    (schemaOf shape setting.1).map fun schema => (setting.1, settingValue numbers schema setting.2)

end Settings

/-- **The keys of a configuration with their values**: those that every document has, those an
operator has set, and those that are pinned. -/
def configuredKeys [DecidableEq ν] (numbers : Numbers ν) (readInteger : Text → Option Int)
    (config : StoredConfig) : List (Text × McConfigValue ν) :=
  (managedValues numbers readInteger config).map (fun entry => (entry.1.toList, entry.2)) ++
    settingValues numbers advancedKeyShape config.bots.advancedKeys ++
    settingValues numbers storedBotConfigShape config.bots.botConfig ++
    pinnedBotConfig.map fun setting => (setting.1, .scalar (.boolean false))

/-! ## The keys that every document has -/

section Managed

variable {numbers : Numbers ν} {readInteger : Text → Option Int}

/-- The places of a list with the server's port, without it where the address names none. -/
def forServer {α : Type} (named : Bool) (places : List α) : List α :=
  if named then places else places.eraseIdx 5

lemma mem_of_mem_forServer {α : Type} {named : Bool} {places : List α} {place : α}
    (h : place ∈ forServer named places) : place ∈ places := by
  cases named with
  | true => exact h
  | false => exact List.mem_of_mem_eraseIdx h

lemma forServer_map {α β : Type} (f : α → β) (named : Bool) (places : List α) :
    forServer named (places.map f) = (forServer named places).map f := by
  cases named with
  | true => rfl
  | false => exact List.eraseIdx_map f places 5

/-- The names in the tables that every document has. -/
lemma names_managedDocument (config : StoredConfig) :
    (managedDocument numbers readInteger config).flatMap
        (fun table => table.2.map fun entry => (table.1, entry.1)) =
      forServer (namesPort readInteger config)
        (managedNames.map fun name => (name.1.toList, name.2.toList)) := by
  rw [namesPort, managedDocument, serverEntries]
  obtain ⟨host, port⟩ := splitServerAddress readInteger config.settings.serverAddress
  cases port with
  | none => rfl
  | some port => rfl

lemma tableKeys_managedDocument (numbers : Numbers ν) (config : StoredConfig) :
    tableKeys (managedDocument numbers readInteger config) =
      (forServer (namesPort readInteger config) managedKeys).map String.toList := by
  have hkeys : tableKeys (managedDocument numbers readInteger config) =
      ((managedDocument numbers readInteger config).flatMap
        (fun table => table.2.map fun entry => (table.1, entry.1))).map
          fun name => keyIn name.1 name.2 := by
    rw [tableKeys, List.map_flatMap]
    refine List.flatMap_congr fun table _ => ?_
    rw [List.map_map]
    rfl
  rw [hkeys, names_managedDocument, ← forServer_map, ← forServer_map, names_checked.keys_eq]

lemma undotted_managedDocument {config : StoredConfig} {table : DocumentTable ν}
    (htable : table ∈ managedDocument numbers readInteger config) {entry : DocumentEntry ν}
    (hentry : entry ∈ table.2) : '.' ∉ entry.1 := by
  have hmem : (table.1, entry.1) ∈ (managedDocument numbers readInteger config).flatMap
      (fun table => table.2.map fun entry => (table.1, entry.1)) :=
    List.mem_flatMap.mpr ⟨table, htable, List.mem_map.mpr ⟨entry, hentry, rfl⟩⟩
  rw [names_managedDocument] at hmem
  have hplain := names_checked.undotted _ (mem_of_mem_forServer hmem)
  intro hdot
  exact absurd (List.contains_iff_mem.mpr hdot) (by simpa using hplain)

/-! ## Accepted documents -/

/-- What an accepted document's settings have. -/
structure AcceptedConfig (numbers : Numbers ν) (config : StoredConfig) : Prop where
  retries : config.settings.autoRelogRetries.natAbs ≤ 1000
  port : config.settings.liveControlPort.natAbs ≤ 65535
  relogDelay : 0 ≤ config.settings.autoRelogDelaySeconds.min ∧
    0 ≤ config.settings.autoRelogDelaySeconds.max
  antiAfkDelay : 0 ≤ config.settings.antiAfkIntervalSeconds.min ∧
    0 ≤ config.settings.antiAfkIntervalSeconds.max
  advancedKeys : partialObject numbers advancedKeyShape config.bots.advancedKeys = true
  botConfig : partialObject numbers storedBotConfigShape config.bots.botConfig = true

lemma delay_nonneg {range : DelaySecondsRange} (h : delaySecondsRange range = true) :
    0 ≤ range.min ∧ 0 ≤ range.max := by
  simp only [delaySecondsRange, Bool.and_eq_true, decide_eq_true_eq] at h
  omega

lemma acceptedConfig {config : StoredConfig} (h : instanceConfigStored numbers config = true) :
    AcceptedConfig numbers config := by
  simp only [instanceConfigStored, Bool.and_eq_true, decide_eq_true_eq] at h
  obtain ⟨⟨⟨⟨⟨⟨⟨⟨-, hretries⟩, hretries'⟩, hrelog⟩, hafk⟩, hport⟩, hport'⟩, hkeys⟩, hbots⟩ := h
  exact ⟨by omega, by omega, delay_nonneg hrelog, delay_nonneg hafk, hkeys, hbots⟩

/-- The rendered document of accepted settings is written. -/
lemma renderInstanceConfig_eq {config : StoredConfig} (h : AcceptedConfig numbers config) :
    renderInstanceConfig readInteger config = some (Text.join ['\n']
      (((configDocument numbers readInteger config).flatMap documentLines).map Prod.fst)) := by
  have hdelay : ∀ range : DelaySecondsRange, 0 ≤ range.min ∧ 0 ≤ range.max →
      tomlSecondsRange range = some (delayText range) := by
    intro range hrange
    rw [tomlSecondsRange, if_neg (by omega)]
    rfl
  rw [renderInstanceConfig, hdelay _ h.relogDelay, hdelay _ h.antiAfkDelay, ← configLines_eq]
  rfl

/-! ## The values that every document has -/

lemma spells_integerEntry (name : String) {value : Int} (h : value.natAbs ≤ Toml.maxInteger) :
    Toml.SpellsValue numbers.round (integerEntry numbers name value).2.1
      (integerEntry numbers name value).2.2 := by
  obtain ⟨hshape, hvalue⟩ := integer_tomlInt value
  have hspells : Toml.SpellsValue numbers.round (tomlInt value)
      (.number (numbers.round (Toml.integer (tomlInt value)))) :=
    .integer hshape (by rwa [hvalue])
  rwa [hvalue] at hspells

lemma spells_delayEntry (name : String) {range : DelaySecondsRange}
    (h : 0 ≤ range.min ∧ 0 ≤ range.max) :
    Toml.SpellsValue numbers.round (delayEntry numbers name range).2.1
      (delayEntry numbers name range).2.2 := by
  have hnumber : ∀ {n : Int}, 0 ≤ n →
      Toml.SpellsValue numbers.round (fixedOne n) (.number (numbers.round n)) := by
    intro n hn
    obtain ⟨hshape, hvalue⟩ := fraction_fixedOne hn
    have hspells : Toml.SpellsValue numbers.round (fixedOne n)
        (.number (numbers.round (Toml.fraction (fixedOne n)))) := .fraction hshape
    rwa [hvalue] at hspells
  obtain ⟨entries, hentries⟩ : ∃ entries : List (Text × Text × Toml.Value ν),
      entries = [("min".toList, fixedOne range.min, .number (numbers.round range.min)),
        ("max".toList, fixedOne range.max, .number (numbers.round range.max))] := ⟨_, rfl⟩
  have hinline : Toml.SpellsValue numbers.round
      ("\x7b ".toList ++ Text.join ", ".toList (entries.map fun entry =>
        Toml.assignment entry.1 entry.2.1) ++ " \x7d".toList)
      (.table (entries.map fun entry => (entry.1, entry.2.2))) := by
    refine .inline (by simp [hentries]) ?_ ?_ ?_
    · rw [hentries]
      show ["min".toList, "max".toList].Nodup
      decide
    · rw [hentries]
      intro entry hentry
      rcases List.mem_cons.mp hentry with rfl | hentry
      · show Toml.isBareKey "min".toList = true
        decide
      · rw [List.mem_singleton.mp hentry]
        show Toml.isBareKey "max".toList = true
        decide
    · rw [hentries]
      intro entry hentry
      rcases List.mem_cons.mp hentry with rfl | hentry
      · exact hnumber h.1
      · rw [List.mem_singleton.mp hentry]
        exact hnumber h.2
  rw [hentries] at hinline
  have hwritten : delayText range = "\x7b ".toList ++ Text.join ", ".toList
      [Toml.assignment "min".toList (fixedOne range.min),
        Toml.assignment "max".toList (fixedOne range.max)] ++ " \x7d".toList := by
    have hmin : "\x7b min = ".toList = "\x7b ".toList ++ ("min".toList ++ " = ".toList) := by decide
    have hmax : ", max = ".toList = ", ".toList ++ ("max".toList ++ " = ".toList) := by decide
    have hone : ∀ piece : Text, Text.join ", ".toList [piece] = piece :=
      fun piece => List.intercalate_singleton
    unfold delayText
    rw [hmin, hmax, Text.join_cons_cons, hone]
    simp only [Toml.assignment, List.append_assoc]
  rw [delayEntry, hwritten]
  exact hinline

lemma splitServerAddress_port {address : Text} {port : Int}
    (h : (splitServerAddress readInteger address).2 = some port) : port.natAbs ≤ 65535 := by
  rw [splitServerAddress] at h
  split at h
  · cases h
  · split at h
    · cases h
    · split at h
      · cases h
      · rename_i hbounds
        simp only [Option.some.injEq] at h
        simp only [Bool.or_eq_true, decide_eq_true_eq, not_or] at hbounds
        omega

lemma spells_managedDocument {config : StoredConfig} (h : AcceptedConfig numbers config) :
    ∀ table ∈ managedDocument numbers readInteger config, ∀ entry ∈ table.2,
      Toml.SpellsValue numbers.round entry.2.1 entry.2.2 := by
  have htext : ∀ (name : String) (value : Text), Toml.SpellsValue numbers.round
      (textEntry name value : DocumentEntry ν).2.1 (textEntry name value).2.2 :=
    fun _ value => spells_tomlString value
  have hboolean : ∀ (name : String) (value : Bool), Toml.SpellsValue numbers.round
      (booleanEntry name value : DocumentEntry ν).2.1 (booleanEntry name value).2.2 :=
    fun _ value => .boolean value
  have hmax : 65535 ≤ Toml.maxInteger := by decide
  have hserver : ∀ entry ∈ serverEntries numbers readInteger config.settings.serverAddress,
      Toml.SpellsValue numbers.round entry.2.1 entry.2.2 := by
    have hport : ∀ {port}, (splitServerAddress readInteger config.settings.serverAddress).2 =
        some port → port.natAbs ≤ Toml.maxInteger :=
      fun hport => (splitServerAddress_port hport).trans hmax
    rw [serverEntries]
    generalize splitServerAddress readInteger config.settings.serverAddress = address at hport
    obtain ⟨host, port⟩ := address
    cases port with
    | none =>
      rw [List.forall_mem_singleton]
      exact htext "Host" host
    | some port =>
      rw [List.forall_mem_cons, List.forall_mem_singleton]
      exact ⟨htext "Host" host, spells_integerEntry "Port" (hport rfl)⟩
  have hretries : Toml.SpellsValue numbers.round
      (integerEntry numbers "Retries" config.settings.autoRelogRetries).2.1 _ :=
    spells_integerEntry "Retries" (h.retries.trans (by decide))
  have hlive : Toml.SpellsValue numbers.round
      (integerEntry numbers "Port" config.settings.liveControlPort).2.1 _ :=
    spells_integerEntry "Port" (h.port.trans hmax)
  have hrelog : Toml.SpellsValue numbers.round
      (delayEntry numbers "Delay" config.settings.autoRelogDelaySeconds).2.1 _ :=
    spells_delayEntry "Delay" h.relogDelay
  have hafk : Toml.SpellsValue numbers.round
      (delayEntry numbers "Delay" config.settings.antiAfkIntervalSeconds).2.1 _ :=
    spells_delayEntry "Delay" h.antiAfkDelay
  have howners : Toml.SpellsValue numbers.round "[]".toList (.list []) := .nil
  simp only [managedDocument, List.forall_mem_cons]
  simp only [htext, hboolean, hretries, hlive, hrelog, hafk, howners, true_and]
  simpa using hserver

end Managed

/-! ## The keys that an operator has set -/

section Operator

variable {numbers : Numbers ν} {settings : KeySettings}

/-- The setting is of a known key, whose schema accepts it. -/
def SettingAccepted (numbers : Numbers ν) (setting : Text × KeyValue) : Prop :=
  ∃ entry ∈ operatorShape, entry.1.toList = setting.1 ∧ entry.2.accepts numbers setting.2 = true

/-- Settings of known keys, each key at most once. -/
structure SettingsAccepted (numbers : Numbers ν) (settings : KeySettings) : Prop where
  nodup : (settings.map Prod.fst).Nodup
  accepted : ∀ setting ∈ settings, SettingAccepted numbers setting

lemma SettingAccepted.mem_keys {setting : Text × KeyValue} (h : SettingAccepted numbers setting) :
    setting.1 ∈ shapeKeys operatorShape := by
  obtain ⟨entry, hentry, hkey, -⟩ := h
  exact hkey ▸ List.mem_map_of_mem hentry

lemma mem_settingsIn {table : Text} {setting : Text × KeyValue} :
    setting ∈ settingsIn settings table ↔ setting ∈ settings ∧ tableOf setting.1 = table := by
  rw [settingsIn, (List.mergeSort_perm _ _).mem_iff, List.mem_filter, beq_iff_eq]

/-- The entries of the operator's tables are those of the settings. -/
lemma mem_operatorDocument {table : DocumentTable ν} {entry : DocumentEntry ν} :
    (table ∈ operatorDocument numbers settings ∧ entry ∈ table.2) ↔
      ∃ setting ∈ settings, entry = operatorEntry numbers setting ∧
        table = (tableOf setting.1, (settingsIn settings (tableOf setting.1)).map
          (operatorEntry numbers)) := by
  rw [operatorDocument, List.mem_map]
  constructor
  · rintro ⟨⟨name, -, rfl⟩, hentry⟩
    obtain ⟨setting, hsetting, rfl⟩ := List.mem_map.mp hentry
    obtain ⟨hmem, rfl⟩ := mem_settingsIn.mp hsetting
    exact ⟨setting, hmem, rfl, rfl⟩
  · rintro ⟨setting, hmem, rfl, rfl⟩
    refine ⟨⟨tableOf setting.1, ?_, rfl⟩, ?_⟩
    · rw [mem_sortTexts, List.mem_dedup]
      exact List.mem_map_of_mem hmem
    · exact List.mem_map_of_mem (mem_settingsIn.mpr ⟨hmem, rfl⟩)

lemma tables_operatorDocument :
    (operatorDocument numbers settings).map Prod.fst =
      sortTexts (settings.map fun setting => tableOf setting.1).dedup := by
  rw [operatorDocument, List.map_map]
  exact List.map_id _

lemma operatorTables_nodup : ((operatorDocument numbers settings).map Prod.fst).Nodup := by
  rw [tables_operatorDocument, sortTexts, (List.mergeSort_perm _ _).nodup_iff]
  exact List.nodup_dedup _

lemma tableKeys_operatorDocument (h : SettingsAccepted numbers settings) :
    tableKeys (operatorDocument numbers settings) =
      (sortTexts (settings.map fun setting => tableOf setting.1).dedup).flatMap fun table =>
        (settingsIn settings table).map Prod.fst := by
  rw [tableKeys, operatorDocument, List.flatMap_map]
  refine List.flatMap_congr fun table _ => ?_
  rw [List.map_map]
  refine List.map_congr_left fun setting hsetting => ?_
  obtain ⟨hmem, rfl⟩ := mem_settingsIn.mp hsetting
  exact (keyIn_operator (h.accepted setting hmem).mem_keys).1

lemma mem_tableKeys_operatorDocument (h : SettingsAccepted numbers settings) {key : Text} :
    key ∈ tableKeys (operatorDocument numbers settings) ↔ key ∈ settings.map Prod.fst := by
  rw [tableKeys_operatorDocument h, List.mem_flatMap]
  constructor
  · rintro ⟨table, -, hkey⟩
    obtain ⟨setting, hsetting, rfl⟩ := List.mem_map.mp hkey
    exact List.mem_map_of_mem (mem_settingsIn.mp hsetting).1
  · intro hkey
    obtain ⟨setting, hmem, rfl⟩ := List.mem_map.mp hkey
    refine ⟨tableOf setting.1, ?_, List.mem_map_of_mem (mem_settingsIn.mpr ⟨hmem, rfl⟩)⟩
    rw [mem_sortTexts, List.mem_dedup]
    exact List.mem_map_of_mem hmem

lemma operatorKeys_nodup_of_accepted (h : SettingsAccepted numbers settings) :
    (tableKeys (operatorDocument numbers settings)).Nodup := by
  rw [tableKeys_operatorDocument h, List.nodup_flatMap]
  constructor
  · intro table _
    have hperm : ((settingsIn settings table).map Prod.fst).Perm
        ((settings.filter fun setting => tableOf setting.1 == table).map Prod.fst) :=
      (List.mergeSort_perm _ _).map _
    rw [hperm.nodup_iff]
    exact h.nodup.sublist (List.filter_sublist.map _)
  · have hnodup : ((operatorDocument numbers settings).map Prod.fst).Nodup :=
      operatorTables_nodup
    rw [tables_operatorDocument] at hnodup
    refine hnodup.imp fun {first second} hne => ?_
    intro key hfirst hsecond
    obtain ⟨setting, hsetting, rfl⟩ := List.mem_map.mp hfirst
    obtain ⟨other, hother, hkey⟩ := List.mem_map.mp hsecond
    have htable := (mem_settingsIn.mp hsetting).2
    rw [← hkey, (mem_settingsIn.mp hother).2] at htable
    exact hne htable.symm

/-- **The tables of accepted settings are written.** -/
lemma SettingsAccepted.written (h : SettingsAccepted numbers settings) :
    Written numbers.round (operatorDocument numbers settings) where
  tables_nodup := operatorTables_nodup
  keys_nodup := operatorKeys_nodup_of_accepted h
  isTable table htable := by
    have hname := List.mem_map_of_mem (f := Prod.fst) htable
    rw [tables_operatorDocument, mem_sortTexts, List.mem_dedup] at hname
    obtain ⟨setting, hmem, hname⟩ := List.mem_map.mp hname
    exact Or.inr ⟨setting.1, (h.accepted setting hmem).mem_keys, hname⟩
  isKey key hkey := by
    obtain ⟨setting, hmem, rfl⟩ := List.mem_map.mp ((mem_tableKeys_operatorDocument h).mp hkey)
    exact List.mem_append_right _ (h.accepted setting hmem).mem_keys
  undotted table htable entry hentry := by
    obtain ⟨setting, hmem, rfl, -⟩ := mem_operatorDocument.mp ⟨htable, hentry⟩
    exact (keyIn_operator (h.accepted setting hmem).mem_keys).2
  spelled table htable entry hentry := by
    obtain ⟨⟨key, value⟩, hmem, rfl, -⟩ := mem_operatorDocument.mp ⟨htable, hentry⟩
    obtain ⟨schema, hschema, hkey, haccepts⟩ := h.accepted _ hmem
    obtain rfl : schema.1.toList = key := hkey
    rw [operatorEntry, schemaOf_eq_some (List.Subset.refl _) hschema]
    exact spells_renderConfigValue hschema haccepts

end Operator

/-! ## The whole document -/

section Document

variable {numbers : Numbers ν} {readInteger : Text → Option Int} {config : StoredConfig}

lemma mem_of_schemaOf {shape : List (String × KeySchema)} {key : Text} {schema : KeySchema}
    (h : schemaOf shape key = some schema) : ∃ entry ∈ shape, entry.1.toList = key ∧
      entry.2 = schema := by
  obtain ⟨entry, hfound, hschema⟩ := Option.map_eq_some_iff.mp h
  have hkey := List.find?_some hfound
  exact ⟨entry, List.mem_of_find?_eq_some hfound, beq_iff_eq.mp hkey, hschema⟩

lemma accepted_of_partialObject {shape : List (String × KeySchema)} {settings : KeySettings}
    (h : partialObject numbers shape settings = true) :
    (settings.map Prod.fst).Nodup ∧ ∀ setting ∈ settings, ∃ entry ∈ shape,
      entry.1.toList = setting.1 ∧ entry.2.accepts numbers setting.2 = true := by
  rw [partialObject, Bool.and_eq_true, decide_eq_true_eq, List.all_eq_true] at h
  refine ⟨h.1, fun setting hsetting => ?_⟩
  obtain ⟨schema, hschema, haccepts⟩ := (Option.any_eq_true _ _).mp (h.2 setting hsetting)
  obtain ⟨entry, hentry, hkey, rfl⟩ := mem_of_schemaOf hschema
  exact ⟨entry, hentry, hkey, haccepts⟩

lemma shapeKeys_operatorShape : shapeKeys operatorShape =
    shapeKeys advancedKeyShape ++ shapeKeys storedBotConfigShape ++ shapeKeys pinnedShape := by
  rw [shapeKeys, operatorShape, List.map_append, List.map_append]
  rfl

lemma pinnedBotConfig_keys : pinnedBotConfig.map Prod.fst = shapeKeys pinnedShape := by
  rw [pinnedBotConfig, pinnedShape, shapeKeys, List.map_map, List.map_map]
  rfl

lemma pinned_accepted : ∀ setting ∈ pinnedBotConfig, ∃ entry ∈ pinnedShape,
    entry.1.toList = setting.1 ∧ entry.2.accepts numbers setting.2 = true := by
  intro setting hsetting
  obtain ⟨key, hkey, rfl⟩ := List.mem_map.mp hsetting
  exact ⟨(key, .boolean), List.mem_map_of_mem hkey, rfl, rfl⟩

/-- **The settings of an accepted document are accepted.** -/
lemma AcceptedConfig.settings (h : AcceptedConfig numbers config) :
    SettingsAccepted numbers (operatorSettings config) := by
  obtain ⟨hkeys, hadvanced⟩ := accepted_of_partialObject h.advancedKeys
  obtain ⟨hbots, hbot⟩ := accepted_of_partialObject h.botConfig
  have hmem : ∀ {shape : List (String × KeySchema)} {settings : KeySettings},
      (∀ setting ∈ settings, ∃ entry ∈ shape, entry.1.toList = setting.1 ∧
        entry.2.accepts numbers setting.2 = true) →
      ∀ key ∈ settings.map Prod.fst, key ∈ shapeKeys shape := by
    intro shape settings haccepted key hkey
    obtain ⟨setting, hsetting, rfl⟩ := List.mem_map.mp hkey
    obtain ⟨entry, hentry, heq, -⟩ := haccepted setting hsetting
    exact heq ▸ List.mem_map_of_mem hentry
  have hnodup := operatorKeys_nodup
  rw [shapeKeys_operatorShape, List.nodup_append, List.nodup_append] at hnodup
  obtain ⟨⟨-, -, hapart⟩, hpinned, hapart'⟩ := hnodup
  constructor
  · rw [operatorSettings, List.map_append, List.map_append, List.nodup_append, List.nodup_append,
      pinnedBotConfig_keys]
    refine ⟨⟨hkeys, hbots, ?_⟩, hpinned, ?_⟩
    · intro key hkey other hother
      exact hapart key (hmem hadvanced key hkey) other (hmem hbot other hother)
    · intro key hkey other hother
      refine hapart' key ?_ other hother
      rcases List.mem_append.mp hkey with hkey | hkey
      · exact List.mem_append_left _ (hmem hadvanced key hkey)
      · exact List.mem_append_right _ (hmem hbot key hkey)
  · intro setting hsetting
    rcases List.mem_append.mp hsetting with hset | hset
    · rcases List.mem_append.mp hset with hset | hset
      · obtain ⟨entry, hentry, hrest⟩ := hadvanced setting hset
        exact ⟨entry, List.mem_append_left _ (List.mem_append_left _ hentry), hrest⟩
      · obtain ⟨entry, hentry, hrest⟩ := hbot setting hset
        exact ⟨entry, List.mem_append_left _ (List.mem_append_right _ hentry), hrest⟩
    · obtain ⟨entry, hentry, hrest⟩ := pinned_accepted setting hset
      exact ⟨entry, List.mem_append_right _ hentry, hrest⟩

/-- **The tables that every document has are written.** -/
lemma AcceptedConfig.written_managed (h : AcceptedConfig numbers config) :
    Written numbers.round (managedDocument numbers readInteger config) where
  tables_nodup := names_checked.tables_nodup.of_map
  keys_nodup := by
    have hnodup : (managedKeys.map String.toList).Nodup :=
      (List.nodup_append.mp documentKeys_nodup).1
    rw [tableKeys_managedDocument, ← forServer_map, forServer]
    split
    · exact hnodup
    · exact hnodup.sublist (List.eraseIdx_sublist _ _)
  isTable table htable := Or.inl (List.mem_map_of_mem (f := Prod.fst) htable)
  isKey key hkey := by
    rw [tableKeys_managedDocument, ← forServer_map] at hkey
    exact List.mem_append_left _ (mem_of_mem_forServer hkey)
  undotted _ htable _ hentry := undotted_managedDocument htable hentry
  spelled := spells_managedDocument h

lemma tableKeys_append (first second : List (DocumentTable ν)) :
    tableKeys (first ++ second) = tableKeys first ++ tableKeys second := by
  rw [tableKeys, List.flatMap_append]
  rfl

/-- **The rendered document is written.** -/
lemma AcceptedConfig.written (h : AcceptedConfig numbers config) :
    Written numbers.round (configDocument numbers readInteger config) := by
  have hmanaged : Written numbers.round (managedDocument numbers readInteger config) :=
    h.written_managed
  have hoperator := h.settings.written
  rw [configDocument]
  constructor
  · rw [List.map_append, List.nodup_append]
    refine ⟨hmanaged.tables_nodup, hoperator.tables_nodup, ?_⟩
    rintro table htable other hother rfl
    rw [tables_operatorDocument, mem_sortTexts, List.mem_dedup] at hother
    obtain ⟨setting, hmem, rfl⟩ := List.mem_map.mp hother
    refine names_checked.tables_apart _ htable _ (List.mem_dedup.mpr ?_) rfl
    exact List.mem_map_of_mem (List.mem_map_of_mem (h.settings.accepted setting hmem).mem_keys)
  · rw [tableKeys_append, List.nodup_append]
    refine ⟨hmanaged.keys_nodup, hoperator.keys_nodup, ?_⟩
    intro key hkey other hother
    rw [tableKeys_managedDocument, ← forServer_map] at hkey
    obtain ⟨setting, hmem, rfl⟩ :=
      List.mem_map.mp ((mem_tableKeys_operatorDocument h.settings).mp hother)
    exact (List.nodup_append.mp documentKeys_nodup).2.2 key (mem_of_mem_forServer hkey) _
      (h.settings.accepted setting hmem).mem_keys
  · intro table htable
    exact (List.mem_append.mp htable).elim (hmanaged.isTable table) (hoperator.isTable table)
  · intro key hkey
    rw [tableKeys_append] at hkey
    exact (List.mem_append.mp hkey).elim (hmanaged.isKey key) (hoperator.isKey key)
  · intro table htable
    exact (List.mem_append.mp htable).elim (hmanaged.undotted table) (hoperator.undotted table)
  · intro table htable
    exact (List.mem_append.mp htable).elim (hmanaged.spelled table) (hoperator.spelled table)

end Document

end OpenMcc
