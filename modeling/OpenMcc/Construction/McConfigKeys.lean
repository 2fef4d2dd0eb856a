import OpenMcc.Construction.InstanceConfig
import OpenMcc.Framework.Toml

/-!
# The operator's keys of the client's configuration (`mcc-config-keys.ts`)

Each key an operator may set has a schema: a choice, a boolean, a number within bounds, a file name
or a list of words.  Values are texts, and are rendered into the client's document as they stand
where they are numbers or booleans.

The numbers of the language are a parameter, `Numbers`: a decimal is rounded to one of them, and
they are compared.  Nothing is assumed of either.
-/

namespace OpenMcc

/-- The numbers of the language. -/
structure Numbers (ν : Type) where
  /-- The number nearest to a decimal. -/
  round : Rat → ν
  isFinite : ν → Bool
  atMost : ν → ν → Bool
  below : ν → ν → Bool

/-- The order in which `sort` puts texts: that of their code units. -/
def codeUnits (t : Text) : List Nat :=
  t.flatMap fun c =>
    if c.toNat < 0x10000 then [c.toNat]
    else [0xd800 + (c.toNat - 0x10000) / 0x400, 0xdc00 + (c.toNat - 0x10000) % 0x400]

def sortTexts (texts : List Text) : List Text :=
  texts.mergeSort fun left right => decide (codeUnits left ≤ codeUnits right)

/-! ## Schemas -/

/-- What a schema asks of a decimal. -/
inductive DecimalRule
  | any
  | atLeast (min : Rat)
  | atMost (max : Rat)
  | within (min max : Rat)
  | negativeOr (min : Rat)
  deriving DecidableEq, Repr

/-- The schema of a key. -/
inductive KeySchema
  | choice (options : List String)
  | boolean
  | decimal (rule : DecimalRule)
  | integerWithin (min max : Int)
  /-- `fileNameSchema`. -/
  | fileName
  /-- `expandedFileNameSchema`. -/
  | expandedFileName
  /-- `alertWordsSchema`. -/
  | alertWords
  deriving DecidableEq, Repr

/-- What an operator sets a key to. -/
inductive KeyValue
  | one (value : Text)
  | many (values : List Text)
  deriving DecidableEq, Repr

/-- `isPlainText`. -/
def isPlainText (value : Text) : Bool :=
  value.all fun c => 0x20 ≤ c.toNat && c.toNat != 0x7f

/-- `utf8Bytes`. -/
def utf8Bytes (value : Text) : Nat :=
  (value.map fun c =>
    if c.toNat < 0x80 then 1 else if c.toNat < 0x800 then 2 else if c.toNat < 0x10000 then 3
    else 4).sum

/-- `FLOAT_SHAPE`, which is a decimal fraction of the document's language. -/
def floatShape (value : Text) : Bool := Toml.isFraction value

/-- `INTEGER_SHAPE`. -/
def integerShape (value : Text) : Bool :=
  value == ['0'] ||
    let digits := (Toml.unsigned value).2
    digits.all Text.isDigit && 1 ≤ digits.length && digits.length ≤ 10 && digits.head? != some '0'

/-- `accepts` of a `floatWhere`. -/
def DecimalRule.accepts {ν : Type} (numbers : Numbers ν) (value : ν) : DecimalRule → Bool
  | .any => true
  | .atLeast min => numbers.atMost (numbers.round min) value
  | .atMost max => numbers.atMost value (numbers.round max)
  | .within min max =>
    numbers.atMost (numbers.round min) value && numbers.atMost value (numbers.round max)
  | .negativeOr min =>
    numbers.below value (numbers.round 0) || numbers.atMost (numbers.round min) value

namespace KeySchema

variable {ν : Type} (numbers : Numbers ν)

/-- The schema accepts the text. -/
def acceptsOne (value : Text) : KeySchema → Bool
  | .choice options => options.any fun option => value == option.toList
  | .boolean => value == "true".toList || value == "false".toList
  | .decimal rule =>
    floatShape value && numbers.isFinite (numbers.round (Toml.fraction value)) &&
      rule.accepts numbers (numbers.round (Toml.fraction value))
  | .integerWithin min max =>
    integerShape value && numbers.atMost (numbers.round min) (numbers.round (Toml.integer value)) &&
      numbers.atMost (numbers.round (Toml.integer value)) (numbers.round max)
  | .fileName =>
    !value.isEmpty && value.all (fun c => c != '/' && c != '\\' && c != '%') &&
      value != ".".toList && value != "..".toList && isPlainText value && utf8Bytes value ≤ 255
  | .expandedFileName =>
    !value.isEmpty && value.all (fun c => c != '/' && c != '\\') &&
      value != ".".toList && value != "..".toList && isPlainText value
  | .alertWords => false

/-- The schema accepts the value. -/
def accepts (schema : KeySchema) : KeyValue → Bool
  | .one value => schema.acceptsOne numbers value
  | .many values =>
    schema == .alertWords && values.all fun value => !value.isEmpty && isPlainText value

end KeySchema

/-! ## The keys -/

/-- `ADVANCED_ENUM_SHAPE`. -/
def advancedEnumShape : List (String × KeySchema) :=
  [("ChatBot.AutoAttack.Mode", .choice ["single", "multi"]),
    ("ChatBot.AutoAttack.Priority", .choice ["distance", "health"]),
    ("ChatBot.AutoAttack.Interaction", .choice ["Interact", "Attack", "InteractAt"]),
    ("ChatBot.AutoAttack.List_Mode", .choice ["blacklist", "whitelist"]),
    ("ChatBot.AutoCraft.OnFailure", .choice ["abort", "wait"]),
    ("ChatBot.AutoDig.Mode", .choice ["lookat", "fixedpos", "both"]),
    ("ChatBot.AutoDig.Location_Order", .choice ["distance", "index"]),
    ("ChatBot.AutoDig.List_Type", .choice ["blacklist", "whitelist"]),
    ("ChatBot.AutoDrop.Mode", .choice ["include", "exclude", "everything"])]

/-- `ADVANCED_BOOLEAN_SHAPE`. -/
def advancedBooleanShape : List (String × KeySchema) :=
  ["ChatBot.AutoAttack.Enabled", "ChatBot.AutoAttack.Cooldown_Time.Custom",
    "ChatBot.AutoAttack.Cooldown_Time.RandomMode", "ChatBot.AutoAttack.Attack_Hostile",
    "ChatBot.AutoAttack.Attack_Passive", "ChatBot.AutoCraft.Enabled", "ChatBot.AutoDig.Enabled",
    "ChatBot.AutoDig.Auto_Tool_Switch", "ChatBot.AutoDig.Apply_Efficiency_Enchantments",
    "ChatBot.AutoDig.Apply_Haste_Effects", "ChatBot.AutoDig.Drop_Low_Durability_Tools",
    "ChatBot.AutoDig.Log_Block_Dig", "ChatBot.AutoDrop.Enabled", "ChatBot.AutoEat.Enabled",
    "ChatBot.AutoFishing.Enabled", "ChatBot.AutoFishing.Antidespawn",
    "ChatBot.AutoFishing.Mainhand", "ChatBot.AutoFishing.Auto_Start",
    "ChatBot.AutoFishing.Auto_Rod_Switch", "ChatBot.AutoFishing.Enable_Velocity_Detection",
    "ChatBot.AutoFishing.Enable_Sound_Detection", "ChatBot.AutoFishing.Log_Fish_Bobber",
    "ChatBot.AutoFishing.Enable_Move", "ChatBot.Farmer.Enabled", "ChatBot.ItemsCollector.Enabled",
    "ChatBot.ItemsCollector.Collect_All_Item_Types",
    "ChatBot.ItemsCollector.Always_Return_To_Start",
    "ChatBot.ItemsCollector.Prioritize_Clusters"].map fun key => (key, .boolean)

/-- `INT32.max`. -/
def int32Max : Int := 2147483647

/-- `ADVANCED_NUMBER_SHAPE`. -/
def advancedNumberShape : List (String × KeySchema) :=
  [("ChatBot.AutoAttack.Cooldown_Time.Min", .decimal .any),
    ("ChatBot.AutoAttack.Cooldown_Time.Max", .decimal .any),
    ("ChatBot.AutoAttack.Attack_Range", .decimal (.within 1 4)),
    ("ChatBot.AutoCraft.CraftingTable.X", .decimal .any),
    ("ChatBot.AutoCraft.CraftingTable.Y", .decimal .any),
    ("ChatBot.AutoCraft.CraftingTable.Z", .decimal .any),
    ("ChatBot.AutoDig.Durability_Limit", .integerWithin 0 int32Max),
    ("ChatBot.AutoDig.Auto_Start_Delay", .decimal (.negativeOr (1 / 10))),
    ("ChatBot.AutoDig.Dig_Timeout", .decimal (.negativeOr (1 / 10))),
    ("ChatBot.AutoEat.Threshold", .integerWithin 0 20),
    ("ChatBot.AutoFishing.Cast_Delay", .decimal (.atLeast 0)),
    ("ChatBot.AutoFishing.Fishing_Delay", .decimal (.atLeast 0)),
    ("ChatBot.AutoFishing.Fishing_Timeout", .decimal (.atLeast 0)),
    ("ChatBot.AutoFishing.Durability_Limit", .decimal (.within 0 64)),
    ("ChatBot.AutoFishing.Stationary_Threshold", .decimal (.atLeast 0)),
    ("ChatBot.AutoFishing.Hook_Threshold", .decimal (.atLeast 0)),
    ("ChatBot.AutoFishing.Velocity_Hook_Threshold", .decimal (.atMost 0)),
    ("ChatBot.AutoFishing.Sound_Distance", .decimal (.atLeast 0)),
    ("ChatBot.AutoFishing.Detection_Warmup", .decimal (.atLeast 0)),
    ("ChatBot.Farmer.Delay_Between_Tasks", .decimal (.atLeast 1)),
    ("ChatBot.ItemsCollector.Delay_Between_Tasks", .integerWithin 100 int32Max),
    ("ChatBot.ItemsCollector.Collection_Radius", .decimal .any)]

/-- `ADVANCED_KEY_SHAPE`. -/
def advancedKeyShape : List (String × KeySchema) :=
  advancedEnumShape ++ advancedBooleanShape ++ advancedNumberShape

/-- The schemas `storedBotConfigSchema` has for `BOT_CONFIG_PATH_SHAPE`. -/
def storedPathShape : List (String × KeySchema) :=
  [("ChatBot.Mailer.DatabaseFile", .fileName), ("ChatBot.Mailer.IgnoreListFile", .fileName),
    ("ChatBot.PlayerListLogger.File", .expandedFileName)]

/-- `BOT_CONFIG_LIST_SHAPE`. -/
def botConfigListShape : List (String × KeySchema) :=
  [("ChatBot.Alerts.Matches", .alertWords), ("ChatBot.Alerts.Excludes", .alertWords)]

/-- `BOT_CONFIG_BOOLEAN_SHAPE`. -/
def botConfigBooleanShape : List (String × KeySchema) :=
  ["ChatBot.Alerts.Enabled", "ChatBot.Alerts.Beep_Enabled", "ChatBot.Alerts.Trigger_By_Words",
    "ChatBot.Alerts.Trigger_By_Rain", "ChatBot.Alerts.Trigger_By_Thunderstorm",
    "ChatBot.Map.Enabled", "ChatBot.Map.Render_In_Console", "ChatBot.Map.Auto_Render_On_Update",
    "ChatBot.Map.Delete_All_On_Unload", "ChatBot.Map.Notify_On_First_Update",
    "ChatBot.Mailer.Enabled", "ChatBot.Mailer.PublicInteractions",
    "ChatBot.PlayerListLogger.Enabled", "ChatBot.FollowPlayer.Enabled",
    "ChatBot.RemoteControl.Enabled", "ChatBot.RemoteControl.AutoTpaccept",
    "ChatBot.RemoteControl.AutoTpaccept_Everyone",
    "ChatBot.ReplayCapture.Enabled"].map fun key => (key, .boolean)

/-- `BOT_CONFIG_INTEGER_SHAPE`. -/
def botConfigIntegerShape : List (String × KeySchema) :=
  ["ChatBot.Mailer.MaxMailsPerPlayer", "ChatBot.Mailer.MaxDatabaseSize",
    "ChatBot.Mailer.MailRetentionDays"].map fun key => (key, .integerWithin 1 int32Max)

/-- `BOT_CONFIG_FLOAT_SHAPE`. -/
def botConfigFloatShape : List (String × KeySchema) :=
  [("ChatBot.PlayerListLogger.Delay", .decimal (.atLeast 1)),
    ("ChatBot.FollowPlayer.Update_Limit", .decimal (.atLeast 0)),
    ("ChatBot.FollowPlayer.Stop_At_Distance", .decimal (.atLeast 0)),
    ("ChatBot.ReplayCapture.Backup_Interval", .decimal (.atLeast (-1)))]

/-- The shape of `storedBotConfigSchema`, whose keys are those of `BOT_CONFIG_SHAPE`. -/
def storedBotConfigShape : List (String × KeySchema) :=
  storedPathShape ++ botConfigListShape ++ botConfigBooleanShape ++ botConfigIntegerShape ++
    botConfigFloatShape

/-- The keys of a shape. -/
def shapeKeys (shape : List (String × KeySchema)) : List Text :=
  shape.map fun entry => entry.1.toList

/-- The schema a shape has for a key. -/
def schemaOf (shape : List (String × KeySchema)) (key : Text) : Option KeySchema :=
  (shape.find? fun entry => entry.1.toList == key).map Prod.snd

/-- `ADVANCED_KEY_NAMES`; `localeCompare` puts these names in the order of their code units. -/
def advancedKeyNames : List Text := sortTexts (shapeKeys advancedKeyShape)

/-- `BOT_CONFIG_NAMES`. -/
def botConfigNames : List Text := shapeKeys storedBotConfigShape

/-- `QUOTED_CONFIG_NAMES`. -/
def quotedConfigNames : List Text := shapeKeys advancedEnumShape ++ shapeKeys storedPathShape

/-- `LIST_CONFIG_NAMES`. -/
def listConfigNames : List Text := shapeKeys botConfigListShape

/-! ## Stored documents -/

/-- The keys set, each at most once, with what they are set to. -/
abbrev KeySettings := List (Text × KeyValue)

/-- A partial, strict object of a shape. -/
def partialObject {ν : Type} (numbers : Numbers ν) (shape : List (String × KeySchema))
    (settings : KeySettings) : Bool :=
  decide (settings.map Prod.fst).Nodup && settings.all fun setting =>
    (schemaOf shape setting.1).any fun schema => schema.accepts numbers setting.2

/-- A stored document. -/
abbrev StoredConfig := InstanceConfig KeySettings KeySettings

/-- `instanceConfigStored` accepts the document. -/
def instanceConfigStored {ν : Type} (numbers : Numbers ν) (config : StoredConfig) : Bool :=
  let settings := config.settings
  1 ≤ settings.minecraftAccount.utf16Length && settings.minecraftAccount.utf16Length ≤ 255 &&
    1 ≤ settings.serverAddress.utf16Length && settings.serverAddress.utf16Length ≤ 253 &&
    minecraftVersionSchema settings.minecraftVersion &&
    0 ≤ settings.autoRelogRetries && settings.autoRelogRetries ≤ 1000 &&
    delaySecondsRange settings.autoRelogDelaySeconds &&
    delaySecondsRange settings.antiAfkIntervalSeconds &&
    1024 ≤ settings.liveControlPort && settings.liveControlPort ≤ 65535 &&
    partialObject numbers advancedKeyShape config.bots.advancedKeys &&
    partialObject numbers storedBotConfigShape config.bots.botConfig

end OpenMcc
