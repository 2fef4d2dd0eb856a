import OpenMcc.Construction.Journal
import OpenMcc.Construction.Reconcile
import OpenMcc.Construction.SleepWindow

/-!
# What a reconciliation reads of a host (`reconcile.ts`, `reconcileHost`)

`reconcileHostOverTransport` compares the units and containers of a host with those the manager
expects, and asks for the state of each bot's unit.  Of a bot that should run and is active it reads
the tail of the journal, which says three things: whether the client is stuck, whether it has
joined a server, and the name of the player it is signed in as.

The host is given by what it answers to each command.  The comparison of the configuration files
has a module of its own and is left out here.
-/

namespace OpenMcc

/-- The columns of `instance` that a reconciliation of the host reads. -/
structure ListedInstance where
  id : Text
  status : InstanceStatus
  minecraftUsername : Option Text
  deriving DecidableEq, Repr

/-! ## Containers -/

/-- `CONTAINER_PREFIX`. -/
def containerPrefix : Text := "open-mcc-".toList

/-- What the container of a sign-in has before the id. -/
def authPrefix : Text := "auth-".toList

/-- `MANAGED_CONTAINER_PATTERN`, with the id that it captures: `auth-` is passed over where an id
follows it. -/
def managedContainerPattern (name : Text) : Option Text :=
  if containerPrefix.isPrefixOf name then
    let rest := name.drop containerPrefix.length
    if authPrefix.isPrefixOf rest && instanceIdPattern (rest.drop authPrefix.length) then
      some (rest.drop authPrefix.length)
    else if instanceIdPattern rest then some rest
    else none
  else none

/-- `leftoverContainers`. -/
def leftoverContainers (names : List Text) (instances : List ListedInstance) : List Text :=
  let known := instances.map ListedInstance.id
  names.filter fun name =>
    match managedContainerPattern name with
    | none => false
    | some id => !known.contains id && !known.contains (name.drop containerPrefix.length)

/-- An id that itself starts with `auth-` is known under either name. -/
example : leftoverContainers
    (["open-mcc-auth-b", "open-mcc-auth-auth-b", "open-mcc-c"].map String.toList)
    [⟨"auth-b".toList, .running, none⟩] = ["open-mcc-c".toList] := by decide

/-! ## Units -/

/-- `UnitDrift`. -/
inductive UnitDrift
  | missing (unit : Text)
  | differs (unit : Text)
  | unexpected (unit : Text)
  deriving DecidableEq, Repr

/-- What `readHostFacts` reads. -/
structure HostFacts where
  units : List Text
  podmanMajor : Nat
  containers : List Text
  imageExists : Bool
  deriving DecidableEq, Repr

/-- `requiredStackFor`. -/
def requiredStackFor (major : Nat) : Text :=
  if 5 ≤ major then "pasta".toList else "slirp4netns".toList

/-- `RUNTIME_IMAGE_REPOSITORY`. -/
def runtimeImageRepository : Text := "mcr.microsoft.com/dotnet/runtime-deps".toList

/-- The units that `reconcileHostOverTransport` finds fault with; `readFile` is what the host has
under the name of a unit. -/
def unitDriftOf (facts : HostFacts) (readFile : Text → Option Text) (expected : List (Text × Text))
    (instances : List ListedInstance) : List UnitDrift :=
  (expected.filterMap fun unit =>
    match readFile unit.1 with
    | none => some (.missing unit.1)
    | some actual => if actual = unit.2 then none else some (.differs unit.1)) ++
  ((facts.units.filter fun name => !(expected.map Prod.fst).contains name).map .unexpected) ++
  ((leftoverContainers facts.containers instances).map .unexpected) ++
  (if facts.imageExists then [] else [.missing runtimeImageRepository])

/-! ## The journal of a bot -/

/-- `STUCK_MARKERS`. -/
def stuckMarkers : List Text :=
  ["Failed to parse the settings file", "Not connected to any server",
    "press Enter to exit Minecraft Console Client"].map String.toList

/-- `SERVER_INFO_MARKER`. -/
def serverInfoMarker : Text := "Server version:".toList

/-- `looksStuck`. -/
def looksStuck (journal : Text) : Bool :=
  let own := clientEmittedLines journal
  (stuckMarkers.any fun marker => Text.includes own marker) ||
    (Text.includes own serverInfoMarker && !Text.includes own joinedMarker)

/-- What stands before the name in `PLAYER_NAME_PATTERN`. -/
def sessionMarker : Text := "Cached session is still valid for ".toList

/-- A character of a player's name. -/
def isNameChar (c : Char) : Bool := c.isAlphanum || c == '_'

/-- `PLAYER_NAME_PATTERN`, at the start of the text.  The full stop after the name is none of its
characters, so a run of them is matched whole or not at all. -/
def playerNameAt (t : Text) : Option Text :=
  if sessionMarker.isPrefixOf t then
    let rest := t.drop sessionMarker.length
    let name := rest.takeWhile isNameChar
    if 3 ≤ name.length ∧ name.length ≤ 16 ∧ (rest.drop name.length).head? = some '.' then some name
    else none
  else none

/-- `playerNameFrom`: the first match in the text. -/
def playerNameFrom : Text → Option Text
  | [] => none
  | c :: rest => playerNameAt (c :: rest) <|> playerNameFrom rest

/-! ## The state of each bot -/

/-- `parseObservedState`. -/
def parseObservedState (output : Text) : ObservedState :=
  let value := Text.trim output
  if value = "active".toList then .active
  else if value = "inactive".toList then .inactive
  else if value = "failed".toList then .failed
  else if value = "activating".toList then .activating
  else .unknown

/-- What the host prints for each bot: the state of its unit, the tail of its journal and how its
unit exited, as `readUnitExitCode` reads it. -/
structure HostAnswers where
  isActive : Text → Text
  journalTail : Text → Text
  unitExitCode : Text → Option Int

/-- `StateDrift`. -/
structure StateDrift where
  instanceId : Text
  desired : InstanceStatus
  observed : ObservedState
  deriving DecidableEq, Repr

/-- What the loop over the bots has gathered. -/
structure BotReadings where
  stateDrift : List StateDrift
  joined : List Text
  seenPlayers : Text → Option Text
  failures : List (Text × Option Int)

namespace HostAnswers

variable (host : HostAnswers)

/-- The journal of the bot is read. -/
def readsJournal (bot : ListedInstance) : Bool :=
  parseObservedState (host.isActive bot.id) == .active && bot.status == .running

/-- `observed`, once the journal was read. -/
def observedState (bot : ListedInstance) : ObservedState :=
  if host.readsJournal bot && looksStuck (host.journalTail bot.id) then .stuck
  else parseObservedState (host.isActive bot.id)

/-- The player whose name the journal shows, where it is read. -/
def playerSeen (bot : ListedInstance) : Option Text :=
  if host.readsJournal bot then playerNameFrom (host.journalTail bot.id) else none

/-- The body of the loop over the bots. -/
def readBot (readings : BotReadings) (bot : ListedInstance) : BotReadings :=
  let observed := host.observedState bot
  { joined :=
      if host.readsJournal bot && Text.includes (host.journalTail bot.id) joinedMarker then
        readings.joined ++ [bot.id]
      else readings.joined
    seenPlayers :=
      if (host.playerSeen bot).isSome then
        Function.update readings.seenPlayers bot.id (host.playerSeen bot)
      else readings.seenPlayers
    stateDrift :=
      if desiredStateIsSatisfied bot.status observed then readings.stateDrift
      else readings.stateDrift ++ [⟨bot.id, bot.status, observed⟩]
    failures :=
      if unitFailed bot.status observed then
        readings.failures ++ [(bot.id, host.unitExitCode bot.id)]
      else readings.failures }

/-- The loop of `reconcileHostOverTransport` over the bots. -/
def readBots (instances : List ListedInstance) : BotReadings :=
  instances.foldl host.readBot ⟨[], [], fun _ => none, []⟩

end HostAnswers

/-- What a reconciliation has read of a host. -/
structure HostReading where
  /-- `runtimeDrift`, which is about the network stack alone. -/
  networkStackDrift : Bool
  unitDrift : List UnitDrift
  readings : BotReadings

/-- `reconcileHostOverTransport`, for a host whose facts could be read. -/
def reconcileHostOverTransport (host : HostAnswers) (facts : HostFacts)
    (readFile : Text → Option Text) (networkStack : Text) (expected : List (Text × Text))
    (instances : List ListedInstance) : HostReading where
  networkStackDrift := requiredStackFor facts.podmanMajor != networkStack
  unitDrift := unitDriftOf facts readFile expected instances
  readings := host.readBots instances

/-- `reconcileHost`, the names it stores: those seen that are not the bot's already. -/
def seenUsernames (instances : List ListedInstance) (readings : BotReadings) :
    List (Text × Text) :=
  instances.filterMap fun bot => (readings.seenPlayers bot.id).bind fun player =>
    if bot.minecraftUsername = some player then none else some (bot.id, player)

end OpenMcc
