import OpenMcc.Construction.McConfigKeys

/-!
# The client's document: rendered, read back and compared

`renderInstanceConfig` (`config.ts`) writes a stored document in the language of the client's own
configuration, `readMccConfigKeys` (`mcc-config.ts`) reads keys of such a text, and
`compareInstanceConfig` (`config-drift.ts`) tells what a text found at the host has otherwise than
the one expected.

Reading the language itself is a package's part, `parse`.  `readInteger` is the language's reading
of a text as a number, where that number is whole.
-/

namespace OpenMcc

/-! ## Rendering (`config.ts`) -/

/-- `MCC_LOGIN_TYPES`. -/
def mccLoginTypes : AccountType → Text
  | .microsoft | .offline => "microsoft".toList

/-- `ALLOWED_CONFIG_KEYS`. -/
def allowedConfigKeys : List String :=
  ["Main.General.AccountType", "Main.General.Account.Login", "Main.General.Account.Password",
    "Main.General.Server.Host", "Main.General.Server.Port", "Main.Advanced.MinecraftVersion",
    "Main.Advanced.AutoRespawn", "ChatBot.McpServer.Enabled", "ChatBot.McpServer.Transport.Port",
    "Main.Advanced.TerrainAndMovements", "Main.Advanced.InventoryHandling",
    "Main.Advanced.EntityHandling", "ChatBot.McpServer.Capabilities.SessionStatus",
    "ChatBot.McpServer.Capabilities.Inventory", "ChatBot.McpServer.Capabilities.EntityWorld",
    "ChatBot.AutoRelog.Enabled", "ChatBot.AutoRelog.Retries", "ChatBot.AutoRelog.Delay",
    "ChatBot.AntiAFK.Enabled", "ChatBot.AntiAFK.Delay"]

/-- `FIXED_CONFIG_KEYS`. -/
def fixedConfigKeys : List String :=
  ["Main.Advanced.EnableSentry", "Main.Advanced.ShowGithubStarReminder",
    "Console.General.ConsoleMode", "Logging.LogToFile", "Main.Advanced.ExitOnFailure",
    "Main.Advanced.IgnoreInvalidPlayerName", "Main.Advanced.InternalCmdChar",
    "Main.General.Method", "ChatBot.McpServer.Transport.BindHost",
    "ChatBot.McpServer.Transport.Route", "ChatBot.McpServer.Transport.RequireAuthToken",
    "ChatBot.McpServer.Transport.AuthTokenEnvVar",
    "ChatBot.McpServer.Capabilities.ChatAndCommands", "ChatBot.McpServer.Capabilities.Movement",
    "Main.Advanced.BotOwners", "ChatBot.Map.Send_Rendered_To_Discord",
    "ChatBot.Map.Send_Rendered_To_Telegram", "ChatBot.ChatLog.Enabled",
    "ChatBot.Alerts.Log_To_File", "ChatBot.Map.Save_To_File", "ChatBot.AutoRespond.Enabled",
    "ChatBot.ScriptScheduler.Enabled", "ChatBot.DiscordBridge.Enabled",
    "ChatBot.TelegramBridge.Enabled"]

/-- `EMPTIED_CONFIG_SECTIONS`. -/
def emptiedConfigSections : List String :=
  ["Main.Advanced.AccountList", "Main.Advanced.ServerList"]

/-- `TOML_ESCAPES`. -/
def tomlEscapes : List (Char × Text) :=
  [('\\', "\\\\".toList), ('"', "\\\"".toList), ('\n', "\\n".toList), ('\r', "\\r".toList),
    ('\t', "\\t".toList), (Char.ofNat 8, "\\b".toList), (Char.ofNat 12, "\\f".toList)]

/-- `toString(16).padStart(4, "0")`. -/
def paddedHex (n : Nat) : Text :=
  let digits := Nat.toDigits 16 n
  List.replicate (4 - digits.length) '0' ++ digits

/-- One character of `tomlString`. -/
def tomlCharacter (c : Char) : Text :=
  match tomlEscapes.lookup c with
  | some escaped => escaped
  | none => if c.toNat < 0x20 || c.toNat == 0x7f then "\\u".toList ++ paddedHex c.toNat else [c]

/-- `tomlString`. -/
def tomlString (value : Text) : Text := '"' :: (value.flatMap tomlCharacter ++ ['"'])

/-- `String` of a whole number: what `tomlInt` writes. -/
def tomlInt (value : Int) : Text :=
  if value < 0 then '-' :: Nat.toDigits 10 value.natAbs else Nat.toDigits 10 value.natAbs

/-- `tomlBool`. -/
def tomlBool (value : Bool) : Text := if value then "true".toList else "false".toList

/-- `splitServerAddress`. -/
def splitServerAddress (readInteger : Text → Option Int) (value : Text) : Text × Option Int :=
  -- what follows the last colon, and what stands before it
  let last := (value.reverse.takeWhile (· != ':')).reverse
  let host := (value.reverse.dropWhile (· != ':')).tail.reverse
  if !value.contains ':' || host.isEmpty || value.contains ']' then (value, none)
  else match readInteger last with
    | none => (value, none)
    | some port => if port < 1 || 65535 < port then (value, none) else (host, some port)

/-- `serverLines`. -/
def serverLines (readInteger : Text → Option Int) (address : Text) : List Text :=
  match splitServerAddress readInteger address with
  | (host, none) => [Toml.assignment "Host".toList (tomlString host)]
  | (host, some port) =>
    [Toml.assignment "Host".toList (tomlString host), Toml.assignment "Port".toList (tomlInt port)]

/-- `toFixed(1)` of a whole number. -/
def fixedOne (value : Int) : Text := tomlInt value ++ ".0".toList

/-- `tomlSecondsRange`, which throws for a negative delay. -/
def tomlSecondsRange (range : DelaySecondsRange) : Option Text :=
  if range.min < 0 then none
  else some ("\x7b min = ".toList ++ fixedOne range.min ++ ", max = ".toList ++
    fixedOne range.max ++ " \x7d".toList)

/-- `PINNED_BOT_CONFIG`. -/
def pinnedBotConfig : KeySettings :=
  ["ChatBot.Map.Send_Rendered_To_Discord", "ChatBot.Map.Send_Rendered_To_Telegram",
    "ChatBot.ChatLog.Enabled", "ChatBot.Alerts.Log_To_File",
    "ChatBot.Map.Save_To_File"].map fun key => (key.toList, .one "false".toList)

/-- `renderConfigValue`. -/
def renderConfigValue (key : Text) (value : KeyValue) : Text :=
  if listConfigNames.contains key then
    let entries := match value with
      | .one single => [single]
      | .many values => values
    if entries.isEmpty then "[]".toList
    else "[ ".toList ++ Text.join ", ".toList (entries.map tomlString) ++ " ]".toList
  else
    let single := match value with
      | .one single => single
      | .many values => values.head?.getD []
    if quotedConfigNames.contains key then tomlString single else single

/-- The key without its last part, and its last part. -/
def tableOf (key : Text) : Text := (key.reverse.dropWhile (· != '.')).tail.reverse

def nameOf (key : Text) : Text := (key.reverse.takeWhile (· != '.')).reverse

/-- The header of a table. -/
def tableHeader (table : Text) : Text := '[' :: (table ++ [']'])

/-- The assignments that `renderConfigTables` puts into a table. -/
def tableLines (entries : KeySettings) (table : Text) : List Text :=
  (entries.filter fun entry => tableOf entry.1 == table).map fun entry =>
    Toml.assignment (nameOf entry.1) (renderConfigValue entry.1 entry.2)

/-- `renderConfigTables`. -/
def renderConfigTables (advancedKeys botConfig : KeySettings) : List Text :=
  let entries := advancedKeys ++ botConfig ++ pinnedBotConfig
  (sortTexts (entries.map fun entry => tableOf entry.1).dedup).flatMap fun table =>
    tableHeader table :: (sortTexts (tableLines entries table) ++ [[]])

/-- The line of an assignment. -/
def line (key : String) (value : Text) : Text := Toml.assignment key.toList value

/-- The header of a table of `renderInstanceConfig`. -/
def header (table : String) : Text := tableHeader table.toList

/-- The lines of `renderInstanceConfig`. -/
def configLines (readInteger : Text → Option Int) (config : StoredConfig)
    (autoRelogDelay antiAfkDelay : Text) : List Text :=
  let settings := config.settings
  [header "Main.General",
    line "AccountType" (tomlString (mccLoginTypes settings.accountType)),
    line "Method" (tomlString "mcc".toList),
    [],
    header "Main.General.Account",
    line "Login" (tomlString settings.minecraftAccount),
    line "Password" (tomlString (if settings.accountType = .offline then "-".toList else [])),
    [],
    header "Main.General.Server"] ++
  serverLines readInteger settings.serverAddress ++
  [[],
    header "Main.Advanced",
    line "EnableSentry" (tomlBool false),
    line "ExitOnFailure" (tomlBool true),
    line "IgnoreInvalidPlayerName" (tomlBool true),
    line "InternalCmdChar" (tomlString "slash".toList),
    line "ShowGithubStarReminder" (tomlBool false),
    "BotOwners = []".toList,
    line "MinecraftVersion" (tomlString settings.minecraftVersion),
    line "AutoRespawn" (tomlBool settings.autoRespawnEnabled),
    line "TerrainAndMovements" (tomlBool settings.worldDataEnabled),
    line "InventoryHandling" (tomlBool settings.inventoryDataEnabled),
    line "EntityHandling" (tomlBool settings.entityDataEnabled),
    [],
    header "Main.Advanced.AccountList",
    [],
    header "Main.Advanced.ServerList",
    [],
    header "ChatBot.AutoRelog",
    line "Enabled" (tomlBool settings.autoRelogEnabled),
    line "Retries" (tomlInt settings.autoRelogRetries),
    line "Delay" autoRelogDelay,
    [],
    header "ChatBot.AntiAFK",
    line "Enabled" (tomlBool settings.antiAfkEnabled),
    line "Delay" antiAfkDelay,
    [],
    header "ChatBot.McpServer",
    line "Enabled" (tomlBool settings.liveControlEnabled),
    [],
    header "ChatBot.McpServer.Transport",
    line "BindHost" (tomlString "0.0.0.0".toList),
    line "Port" (tomlInt settings.liveControlPort),
    line "Route" (tomlString "/mcp".toList),
    line "RequireAuthToken" (tomlBool true),
    line "AuthTokenEnvVar" (tomlString "MCC_MCP_AUTH_TOKEN".toList),
    [],
    header "ChatBot.McpServer.Capabilities",
    line "SessionStatus" (tomlBool settings.liveControlEnabled),
    line "ChatAndCommands" (tomlBool false),
    line "Movement" (tomlBool false),
    line "Inventory" (tomlBool (settings.liveControlEnabled && settings.inventoryDataEnabled)),
    line "EntityWorld" (tomlBool (settings.liveControlEnabled && settings.entityDataEnabled)),
    [],
    header "Console.General",
    line "ConsoleMode" (tomlString "classic".toList),
    [],
    header "Logging",
    line "LogToFile" (tomlBool false),
    [],
    header "ChatBot.AutoRespond",
    line "Enabled" (tomlBool false),
    [],
    header "ChatBot.ScriptScheduler",
    line "Enabled" (tomlBool false),
    [],
    header "ChatBot.DiscordBridge",
    line "Enabled" (tomlBool false),
    [],
    header "ChatBot.TelegramBridge",
    line "Enabled" (tomlBool false),
    []] ++
  renderConfigTables config.bots.advancedKeys config.bots.botConfig

/-- `renderInstanceConfig`, which throws where `tomlSecondsRange` does. -/
def renderInstanceConfig (readInteger : Text → Option Int) (config : StoredConfig) :
    Option Text := do
  let autoRelogDelay ← tomlSecondsRange config.settings.autoRelogDelaySeconds
  let antiAfkDelay ← tomlSecondsRange config.settings.antiAfkIntervalSeconds
  some (Text.join ['\n'] (configLines readInteger config autoRelogDelay antiAfkDelay))

/-! ## Reading keys (`mcc-config.ts`) -/

/-- `McConfigScalar`. -/
inductive McConfigScalar (ν : Type)
  | text (t : Text)
  | number (n : ν)
  | boolean (b : Bool)
  deriving DecidableEq, Repr

/-- `McConfigValue`. -/
inductive McConfigValue (ν : Type)
  | scalar (value : McConfigScalar ν)
  | range (min max : ν)
  | list (values : List (McConfigScalar ν))
  deriving DecidableEq, Repr

variable {ν : Type}

/-- `isScalar`. -/
def asScalar : Toml.Value ν → Option (McConfigScalar ν)
  | .text t => some (.text t)
  | .number n => some (.number n)
  | .boolean b => some (.boolean b)
  | _ => none

variable [DecidableEq ν]

/-- `readRange`. -/
def readRange (entries : List (Text × Toml.Value ν)) : Option (McConfigValue ν) :=
  if entries.length ≠ 2 then none
  else match entries.lookup "min".toList, entries.lookup "max".toList with
    | some (.number min), some (.number max) =>
      some (if min = max then .scalar (.number min) else .range min max)
    | _, _ => none

/-- What `readMccConfigKeys` makes of a value it finds, and `none` where it is unreadable. -/
def readValue (found : Toml.Value ν) : Option (McConfigValue ν) :=
  match found with
  | .list entries => (entries.mapM asScalar).map .list
  | .table entries => readRange entries
  | found => (asScalar found).map .scalar

/-- `McConfigReading`. -/
structure McConfigReading (ν : Type) where
  values : List (Text × McConfigValue ν)
  unreadable : List Text

/-- `readMccConfigKeys`, and `none` where the text does not parse. -/
def readMccConfigKeys (parse : Text → Option (Toml.Value ν)) (text : Text) (keys : List Text) :
    Option (McConfigReading ν) :=
  (parse text).map fun document =>
    { values := keys.filterMap fun key =>
        ((document.descend (key.splitOn '.')).bind readValue).map fun value => (key, value)
      unreadable := keys.filter fun key =>
        (document.descend (key.splitOn '.')).any fun found => (readValue found).isNone }

/-- `readMccConfigSections`. -/
def readMccConfigSections (parse : Text → Option (Toml.Value ν)) (text : Text)
    (sections : List Text) : Option (List (Text × Nat)) :=
  (parse text).map fun document => sections.filterMap fun key =>
    match document.descend (key.splitOn '.') with
    | some (.table entries) => some (key, entries.length)
    | _ => none

/-! ## Comparing (`config-drift.ts`) -/

/-- The kinds of a drift at a key. -/
inductive DriftKind
  | managed | fixed | operator
  deriving DecidableEq, Repr

/-- `ConfigDrift`. -/
inductive ConfigDrift (ν : Type)
  | value (kind : DriftKind) (key : Text) (expected : McConfigValue ν)
      (actual : Option (McConfigValue ν))
  | emptied (key : Text) (entries : Nat)
  | unreadable (key : Text)
  deriving DecidableEq, Repr

/-- The key of a drift that is about one. -/
def ConfigDrift.key? : ConfigDrift ν → Option Text
  | .value _ key _ _ => some key
  | .emptied _ _ => none
  | .unreadable key => some key

/-- `ALL_KEYS`. -/
def allKeys : List Text :=
  allowedConfigKeys.map String.toList ++ fixedConfigKeys.map String.toList ++ advancedKeyNames ++
    botConfigNames

/-- `isOperatorKey`. -/
def isOperatorKey (key : Text) : Bool := (advancedKeyNames ++ botConfigNames).contains key

/-- `sameConfigValue`. -/
def sameConfigValue (want : McConfigValue ν) (actual? : Option (McConfigValue ν)) : Bool :=
  match want, actual? with
  | .list wants, some (.list haves) => wants == haves
  | .scalar want, some (.scalar found) => want == found
  | .range min max, some (.range min' max') => min == min' && max == max'
  | _, _ => false

/-- `unsafeExpansion`, over the test for a variable of the client's. -/
def unsafeExpansion (clientVariable : Text → Bool) (key : Text)
    (actual? : Option (McConfigValue ν)) : Bool :=
  key == "ChatBot.PlayerListLogger.File".toList &&
    match actual? with
    | some (.scalar (.text t)) => clientVariable t
    | _ => false

/-- The kind of a drift at a key. -/
def driftKind (clientVariable : Text → Bool) (key : Text) (actual? : Option (McConfigValue ν)) :
    DriftKind :=
  if unsafeExpansion clientVariable key actual? then .fixed
  else if isOperatorKey key then .operator
  else if (fixedConfigKeys.map String.toList).contains key then .fixed
  else .managed

/-- The drifts at the keys of `ALL_KEYS`. -/
def valueDrifts (clientVariable : Text → Bool) (expected actual : McConfigReading ν) :
    List (ConfigDrift ν) :=
  allKeys.filterMap fun key =>
    match expected.values.lookup key with
    | none => none
    | some want =>
      let actual? := actual.values.lookup key
      if sameConfigValue want actual? then none
      else some (.value (driftKind clientVariable key actual?) key want actual?)

/-- The loop over the unreadable keys, which adds to the drifts so far. -/
def unreadableDrifts (drift : List (ConfigDrift ν)) : List Text → List (ConfigDrift ν)
  | [] => drift
  | key :: rest =>
    if !allKeys.contains key || drift.any (fun entry => entry.key? == some key) then
      unreadableDrifts drift rest
    else unreadableDrifts (drift ++ [.unreadable key]) rest

/-- `compareInstanceConfig`, and `none` where a text does not parse. -/
def compareInstanceConfig (parse : Text → Option (Toml.Value ν)) (clientVariable : Text → Bool)
    (expectedDocument actualDocument : Text) : Option (List (ConfigDrift ν)) := do
  let expected ← readMccConfigKeys parse expectedDocument allKeys
  let actual ← readMccConfigKeys parse actualDocument allKeys
  let sections ← readMccConfigSections parse actualDocument
    (emptiedConfigSections.map String.toList)
  let drift := unreadableDrifts (valueDrifts clientVariable expected actual) actual.unreadable
  some (drift ++ sections.filterMap fun found =>
    if 0 < found.2 then some (.emptied found.1 found.2) else none)

end OpenMcc
