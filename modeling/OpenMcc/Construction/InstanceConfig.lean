import OpenMcc.Framework.Text
import Mathlib.Data.Int.Basic

/-!
# A bot's settings and the saves that change them (`instance.ts`, `saveConfig`)

The stored document of a bot has a part that `updateSettings` replaces and a part that
`updateBotConfig` replaces.  A save composes its part onto the document as it is stored, checks
the whole and puts in the port of the bot's row (`settle`).

The two tables of keys the client itself knows are the types `Keys` and `Bots`.  Their schemas
and the reading and writing of a document as text are a parameter, `ConfigSchemas`, over which
nothing is assumed.
-/

namespace OpenMcc

/-- `AccountType`. -/
inductive AccountType
  | microsoft | offline
  deriving DecidableEq, Repr

/-- `MINECRAFT_VERSIONS`. -/
def minecraftVersions : List String :=
  ["1.0", "1.0.0", "1.0.1", "1.1", "1.1.0", "1.2", "1.2.0", "1.2.1", "1.2.2", "1.2.3", "1.2.4",
    "1.2.5", "1.3", "1.3.0", "1.3.1", "1.3.2", "1.4", "1.4.0", "1.4.1", "1.4.2", "1.4.3",
    "1.4.4", "1.4.5", "1.4.6", "1.4.7", "1.5", "1.5.0", "1.5.1", "1.5.2", "1.6", "1.6.0",
    "1.6.1", "1.6.2", "1.6.3", "1.6.4", "1.7", "1.7.0", "1.7.1", "1.7.2", "1.7.3", "1.7.4",
    "1.7.5", "1.7.6", "1.7.7", "1.7.8", "1.7.9", "1.7.10", "1.8", "1.8.0", "1.8.1", "1.8.2",
    "1.8.3", "1.8.4", "1.8.5", "1.8.6", "1.8.7", "1.8.8", "1.8.9", "1.9", "1.9.0", "1.9.1",
    "1.9.2", "1.9.3", "1.9.4", "1.10", "1.10.0", "1.10.1", "1.10.2", "1.11", "1.11.0", "1.11.1",
    "1.11.2", "1.12", "1.12.0", "1.12.1", "1.12.2", "1.13", "1.13.0", "1.13.1", "1.13.2", "1.14",
    "1.14.0", "1.14.1", "1.14.2", "1.14.3", "1.14.4", "1.15", "1.15.0", "1.15.1", "1.15.2",
    "1.16", "1.16.0", "1.16.1", "1.16.2", "1.16.3", "1.16.4", "1.16.5", "1.17", "1.17.0",
    "1.17.1", "1.18", "1.18.0", "1.18.1", "1.18.2", "1.19", "1.19.0", "1.19.1", "1.19.2",
    "1.19.3", "1.19.4", "1.20", "1.20.1", "1.20.2", "1.20.3", "1.20.4", "1.20.5", "1.20.6",
    "1.21", "1.21.1", "1.21.2", "1.21.3", "1.21.4", "1.21.5", "1.21.6", "1.21.7", "1.21.8",
    "1.21.9", "1.21.10", "1.21.11", "26.1", "26.2"]

/-- `minecraftVersionSchema`. -/
def minecraftVersionSchema (version : Text) : Bool :=
  version == "auto".toList || minecraftVersions.any fun known => version == known.toList

/-- `DelaySecondsRange`. -/
structure DelaySecondsRange where
  min : Int
  max : Int
  deriving DecidableEq, Repr

/-- `delaySecondsRange`: both bounds between one second and an hour, in order. -/
def delaySecondsRange (value : DelaySecondsRange) : Bool :=
  1 ≤ value.min && value.min ≤ 3600 && 1 ≤ value.max && value.max ≤ 3600 &&
    value.min ≤ value.max

/-- `withoutPathParts`. -/
def withoutPathParts (value : Text) : Bool :=
  !value.contains '/' && !value.contains '\\' && !Text.includes value "..".toList &&
    value.all fun c => 0x20 ≤ c.toNat

/-- The part of a document that `updateSettings` replaces: `InstanceSettingsInput`. -/
structure InstanceSettings where
  accountType : AccountType
  minecraftAccount : Text
  serverAddress : Text
  minecraftVersion : Text
  autoRelogRetries : Int
  autoRelogEnabled : Bool
  autoRelogDelaySeconds : DelaySecondsRange
  antiAfkEnabled : Bool
  antiAfkIntervalSeconds : DelaySecondsRange
  autoRespawnEnabled : Bool
  liveControlEnabled : Bool
  liveControlPort : Int
  worldDataEnabled : Bool
  inventoryDataEnabled : Bool
  entityDataEnabled : Bool
  deriving DecidableEq, Repr

/-- The part that `updateBotConfig` replaces: `InstanceBotsInput`. -/
structure InstanceBots (Keys Bots : Type) where
  advancedKeys : Keys
  botConfig : Bots
  deriving DecidableEq, Repr

/-- A whole document: `InstanceConfigInput` and `InstanceConfigStored`. -/
structure InstanceConfig (Keys Bots : Type) where
  settings : InstanceSettings
  bots : InstanceBots Keys Bots
  deriving DecidableEq, Repr

/-- The schemas of the client's own keys, and a document's text. -/
structure ConfigSchemas (Keys Bots Doc : Type) where
  advancedKeysSchema : Keys → Bool
  botConfigSchema : Bots → Bool
  /-- `instanceConfigStored.safeParse`. -/
  instanceConfigStored : Doc → Option (InstanceConfig Keys Bots)
  /-- `JSON.stringify`. -/
  stringify : InstanceConfig Keys Bots → Doc

/-- The errors a save ends with. -/
inductive SaveError
  | instanceNotFound
  | instanceBusy
  /-- `InternalError`: a row without saved settings, or a store that does not answer. -/
  | internal
  | instanceConcurrentlyModified (version expectedVersion : Nat)
  | instanceConfigUnusable
  | instanceBotConfigUnusable
  /-- The composed document does not parse. -/
  | invalid
  /-- The host refused the write, or was not reached. -/
  | hostRefused
  /-- The outcome of the write at the host is not known. -/
  | hostUnknown
  deriving DecidableEq, Repr

/-- What a client asks a save for: `updateSettings` or `updateBotConfig`. -/
inductive ConfigChange (Keys Bots : Type)
  | settings (given : InstanceSettings)
  | bots (given : InstanceBots Keys Bots)
  deriving DecidableEq, Repr

section Compose

variable {Keys Bots Doc : Type} (schemas : ConfigSchemas Keys Bots Doc)

/-- `instanceBotsInput` accepts the part. -/
def instanceBotsInput (bots : InstanceBots Keys Bots) : Bool :=
  schemas.botConfigSchema bots.botConfig && schemas.advancedKeysSchema bots.advancedKeys

/-- `instanceConfigInput` accepts the document. -/
def instanceConfigInput (config : InstanceConfig Keys Bots) : Bool :=
  let settings := config.settings
  1 ≤ settings.minecraftAccount.utf16Length && settings.minecraftAccount.utf16Length ≤ 255 &&
    withoutPathParts settings.minecraftAccount &&
    1 ≤ settings.serverAddress.utf16Length && settings.serverAddress.utf16Length ≤ 253 &&
    withoutPathParts settings.serverAddress &&
    minecraftVersionSchema settings.minecraftVersion &&
    0 ≤ settings.autoRelogRetries && settings.autoRelogRetries ≤ 1000 &&
    delaySecondsRange settings.autoRelogDelaySeconds &&
    delaySecondsRange settings.antiAfkIntervalSeconds &&
    1024 ≤ settings.liveControlPort && settings.liveControlPort ≤ 65535 &&
    instanceBotsInput schemas config.bots

/-- `usableBots`. -/
def usableBots (stored : InstanceBots Keys Bots) : Except SaveError (InstanceBots Keys Bots) :=
  if instanceBotsInput schemas stored then .ok stored else .error .instanceBotConfigUnusable

/-- The `compose` that `updateSettings` and `updateBotConfig` hand to `saveConfig`. -/
def ConfigChange.compose (change : ConfigChange Keys Bots) (stored : InstanceConfig Keys Bots) :
    Except SaveError (InstanceConfig Keys Bots) :=
  match change with
  | .settings given => (usableBots schemas stored.bots).map fun bots => ⟨given, bots⟩
  | .bots given => .ok { stored with bots := given }

/-- `storedDocument`. -/
def storedDocument (document : Doc) : Except SaveError (InstanceConfig Keys Bots) :=
  match schemas.instanceConfigStored document with
  | none => .error .instanceConfigUnusable
  | some stored => .ok stored

/-- The document `saveConfig` settles on, from the stored one: composed, checked, and with the
port of the bot's row. -/
def settle (change : ConfigChange Keys Bots) (document : Doc) (liveControlPort : Int) :
    Except SaveError (InstanceConfig Keys Bots) := do
  let stored ← storedDocument schemas document
  let checked ← change.compose schemas stored
  if instanceConfigInput schemas checked then
    return { checked with
      settings := { checked.settings with liveControlPort := liveControlPort } }
  else throw .invalid

end Compose

end OpenMcc
