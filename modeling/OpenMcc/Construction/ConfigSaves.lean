import OpenMcc.Construction.InstanceConfig
import OpenMcc.Construction.InstanceRepository
import OpenMcc.Framework.Transition

/-!
# Saves of a bot's settings (`instance.controller.ts`)

`saveConfig` claims the bot and reads the latest version in one transaction, writes the host, and
stores the new version in a second transaction that asks for its own claim.  Between the two any
other operation may run, take the claim over once its lease is over, or remove the bot.

The system follows one bot.  A call is named by its random claim id, which no other call has.  A
transaction either commits or leaves the store as it was; the store may also not answer, which
ends a call as an error does.  The starts, stops and sign-ins of the bot take part with their
statements on its row.
-/

namespace OpenMcc

/-- A row of `instanceConfig`. -/
structure InstanceConfigRow (Doc : Type) where
  version : Nat
  document : Doc
  deriving DecidableEq, Repr

/-- `latestConfig`: the row of the greatest version. -/
def latestConfig {Doc : Type} : List (InstanceConfigRow Doc) → Option (InstanceConfigRow Doc)
  | [] => none
  | row :: rows =>
    match latestConfig rows with
    | none => some row
    | some other => if other.version < row.version then some row else some other

/-- The row `insertConfigVersion` adds. -/
def nextConfig {Doc : Type} (configs : List (InstanceConfigRow Doc)) (document : Doc) :
    InstanceConfigRow Doc :=
  ⟨((latestConfig configs).map InstanceConfigRow.version).getD 0 + 1, document⟩

/-- How far a save has got. -/
inductive SaveStage (Keys Bots : Type)
  | begun
  /-- It holds the claim and has settled on a document. -/
  | claimed (settled : InstanceConfig Keys Bots)
  /-- The host has the document. -/
  | written (settled : InstanceConfig Keys Bots)
  /-- It has failed and has yet to give its claim back. -/
  | releasing (error : SaveError)
  | accepted (version : Nat)
  | rejected (error : SaveError)
  deriving DecidableEq, Repr

/-- One call of `saveConfig`. -/
structure SaveCall (Keys Bots : Type) where
  change : ConfigChange Keys Bots
  expectedVersion : Nat
  stage : SaveStage Keys Bots
  deriving DecidableEq, Repr

/-- The operation a claim id belongs to: a save, or a creation, start, stop or removal. -/
inductive ClaimCall (Keys Bots : Type)
  | save (call : SaveCall Keys Bots)
  | other
  deriving DecidableEq, Repr

/-- What the host answers to the write of the document. -/
inductive HostAnswer
  | written
  /-- The host refused it, or was not reached. -/
  | refused
  /-- The command may still be running. -/
  | unknown
  deriving DecidableEq, Repr

/-- The rows of one bot, and the calls over it by claim id. -/
structure ConfigStore (Keys Bots Doc : Type) where
  /-- The bot was created; its id is not given out again. -/
  created : Bool
  row : Option InstanceRow
  configs : List (InstanceConfigRow Doc)
  calls : Nat → Option (ClaimCall Keys Bots)

/-- What can happen next to one bot. -/
inductive SaveEvent (Keys Bots : Type)
  | creates (claimId : Nat) (row : InstanceRow) (config : InstanceConfig Keys Bots)
      (databaseNow : Int)
  | saves (claimId : Nat) (change : ConfigChange Keys Bots) (expectedVersion : Nat)
  | claims (claimId : Nat) (databaseNow : Int) (storeAnswers : Bool)
  | writes (claimId : Nat) (answer : HostAnswer)
  | finalizes (claimId : Nat) (storeAnswers : Bool)
  | releases (claimId : Nat) (storeAnswers : Bool)
  | otherClaims (claimId : Nat) (managerNow databaseNow : Int)
  | otherWritesToken (claimId : Nat) (sealedToken : Text) (databaseNow : Int)
  | otherFinalizes (claimId : Nat) (status : Option InstanceStatus)
      (lastExitCode : Option (Option Int))
  | otherReleases (claimId : Nat)
  | removes (claimId : Nat)
  | authClaims (attemptId : Nat) (managerNow databaseNow : Int)
  | authReleases (attemptId : Nat)

namespace ConfigStore

variable {Keys Bots Doc : Type} (schemas : ConfigSchemas Keys Bots Doc)

/-- The save moves on to a stage. -/
def moveTo (s : ConfigStore Keys Bots Doc) (claimId : Nat) (call : SaveCall Keys Bots)
    (stage : SaveStage Keys Bots) : ConfigStore Keys Bots Doc :=
  { s with calls := Function.update s.calls claimId (some (.save { call with stage := stage })) }

lemma moveTo_calls_self (s : ConfigStore Keys Bots Doc) (claimId : Nat)
    (call : SaveCall Keys Bots) (stage : SaveStage Keys Bots) :
    (s.moveTo claimId call stage).calls claimId = some (.save { call with stage := stage }) :=
  Function.update_self _ _ _

/-- The transaction of `create`. -/
def creates (s : ConfigStore Keys Bots Doc) (claimId : Nat) (row : InstanceRow)
    (config : InstanceConfig Keys Bots) (databaseNow : Int) :
    Option (ConfigStore Keys Bots Doc) :=
  if s.created ∨ s.row.isSome ∨ (s.calls claimId).isSome then none
  else some {
    created := true
    row := some { row with configClaimId := some claimId, configClaimedAt := some databaseNow }
    configs := nextConfig s.configs (schemas.stringify config) :: s.configs
    calls := Function.update s.calls claimId (some .other) }

/-- `saveConfig` is called over a bot that is there. -/
def saves (s : ConfigStore Keys Bots Doc) (claimId : Nat) (change : ConfigChange Keys Bots)
    (expectedVersion : Nat) : Option (ConfigStore Keys Bots Doc) :=
  if s.row.isNone ∨ (s.calls claimId).isSome then none
  else some { s with
    calls := Function.update s.calls claimId (some (.save ⟨change, expectedVersion, .begun⟩)) }

/-- `takeConfigClaim`. -/
def takeConfigClaim (s : ConfigStore Keys Bots Doc) (claimId expectedVersion : Nat)
    (databaseNow : Int) : Except SaveError (InstanceRow × InstanceConfigRow Doc) :=
  match s.row with
  | none => .error .instanceNotFound
  | some row =>
    match row.claimForConfig claimId databaseNow with
    | none => .error .instanceBusy
    | some claimed =>
      match latestConfig s.configs with
      | none => .error .internal
      | some config =>
        if config.version ≠ expectedVersion then
          .error (.instanceConcurrentlyModified config.version expectedVersion)
        else .ok (claimed, config)

/-- The first transaction of `saveConfig`: it is rolled back if any part of it throws. -/
def claims (s : ConfigStore Keys Bots Doc) (claimId : Nat) (databaseNow : Int)
    (storeAnswers : Bool) : Option (ConfigStore Keys Bots Doc) :=
  match s.calls claimId with
  | some (.save ⟨change, expectedVersion, .begun⟩) =>
    let call : SaveCall Keys Bots := ⟨change, expectedVersion, .begun⟩
    if !storeAnswers then some (s.moveTo claimId call (.releasing .internal))
    else match s.takeConfigClaim claimId expectedVersion databaseNow with
      | .error e => some (s.moveTo claimId call (.releasing e))
      | .ok (claimed, config) =>
        match settle schemas change config.document claimed.liveControlPort with
        | .error e => some (s.moveTo claimId call (.releasing e))
        | .ok settled =>
          some { s.moveTo claimId call (.claimed settled) with row := some claimed }
  | _ => none

/-- The write at the host. -/
def writes (s : ConfigStore Keys Bots Doc) (claimId : Nat) (answer : HostAnswer) :
    Option (ConfigStore Keys Bots Doc) :=
  match s.calls claimId with
  | some (.save ⟨change, expectedVersion, .claimed settled⟩) =>
    let call : SaveCall Keys Bots := ⟨change, expectedVersion, .claimed settled⟩
    match answer with
    | .written => some (s.moveTo claimId call (.written settled))
    | .refused => some (s.moveTo claimId call (.releasing .hostRefused))
    | .unknown => some (s.moveTo claimId call (.rejected .hostUnknown))
  | _ => none

/-- The second transaction of `saveConfig`. -/
def finalizes (s : ConfigStore Keys Bots Doc) (claimId : Nat) (storeAnswers : Bool) :
    Option (ConfigStore Keys Bots Doc) :=
  match s.calls claimId with
  | some (.save ⟨change, expectedVersion, .written settled⟩) =>
    let call : SaveCall Keys Bots := ⟨change, expectedVersion, .written settled⟩
    if !storeAnswers then some (s.moveTo claimId call (.releasing .internal))
    else match s.row.bind fun row => row.finalizeConfigClaim claimId none none with
      | none => some (s.moveTo claimId call (.releasing .instanceBusy))
      | some finalized =>
        let saved := nextConfig s.configs (schemas.stringify settled)
        some { s.moveTo claimId call (.accepted saved.version) with
          row := some finalized
          configs := saved :: s.configs }
  | _ => none

/-- A failed save gives its claim back; whether the store answers makes no difference to it. -/
def releases (s : ConfigStore Keys Bots Doc) (claimId : Nat) (storeAnswers : Bool) :
    Option (ConfigStore Keys Bots Doc) :=
  match s.calls claimId with
  | some (.save ⟨change, expectedVersion, .releasing e⟩) =>
    let call : SaveCall Keys Bots := ⟨change, expectedVersion, .releasing e⟩
    if !storeAnswers then some (s.moveTo claimId call (.rejected e))
    else some { s.moveTo claimId call (.rejected e) with
      row := s.row.map fun row => row.orUnchanged fun row => row.releaseConfigClaim claimId }
  | _ => none

/-- `takeLifecycleClaim`, of another operation. -/
def otherClaims (s : ConfigStore Keys Bots Doc) (claimId : Nat) (managerNow databaseNow : Int) :
    Option (ConfigStore Keys Bots Doc) :=
  if (s.calls claimId).isSome then none
  else match s.row.bind fun row => row.claimForLifecycle claimId managerNow databaseNow with
    | none => some s
    | some claimed => some { s with
        row := some claimed
        calls := Function.update s.calls claimId (some .other) }

/-- A statement of another operation under its own claim. -/
def otherStatement (s : ConfigStore Keys Bots Doc) (claimId : Nat)
    (statement : InstanceRow → Option InstanceRow) : Option (ConfigStore Keys Bots Doc) :=
  match s.calls claimId with
  | some .other => some { s with row := s.row.map fun row => row.orUnchanged statement }
  | _ => none

/-- `deleteUnderClaim`, with which the stored versions go. -/
def removes (s : ConfigStore Keys Bots Doc) (claimId : Nat) :
    Option (ConfigStore Keys Bots Doc) :=
  match s.calls claimId, s.row with
  | some .other, some row =>
    if row.configClaimId = some claimId then some { s with row := none, configs := [] }
    else some s
  | _, _ => none

/-- A statement of a sign-in. -/
def authStatement (s : ConfigStore Keys Bots Doc)
    (statement : InstanceRow → Option InstanceRow) : Option (ConfigStore Keys Bots Doc) :=
  some { s with row := s.row.map fun row => row.orUnchanged statement }

end ConfigStore

/-- Any number of clients over one bot, from before its creation on. -/
def configSaves {Keys Bots Doc : Type} (schemas : ConfigSchemas Keys Bots Doc) :
    TransitionSystem (ConfigStore Keys Bots Doc) (SaveEvent Keys Bots) where
  init s := s.created = false ∧ s.row = none ∧ s.configs = [] ∧ ∀ claimId, s.calls claimId = none
  step s
    | .creates claimId row config databaseNow => s.creates schemas claimId row config databaseNow
    | .saves claimId change expectedVersion => s.saves claimId change expectedVersion
    | .claims claimId databaseNow storeAnswers => s.claims schemas claimId databaseNow storeAnswers
    | .writes claimId answer => s.writes claimId answer
    | .finalizes claimId storeAnswers => s.finalizes schemas claimId storeAnswers
    | .releases claimId storeAnswers => s.releases claimId storeAnswers
    | .otherClaims claimId managerNow databaseNow => s.otherClaims claimId managerNow databaseNow
    | .otherWritesToken claimId sealedToken databaseNow =>
      s.otherStatement claimId fun row => row.writeTokenUnderClaim claimId sealedToken databaseNow
    | .otherFinalizes claimId status lastExitCode =>
      s.otherStatement claimId fun row => row.finalizeConfigClaim claimId status lastExitCode
    | .otherReleases claimId =>
      s.otherStatement claimId fun row => row.releaseConfigClaim claimId
    | .removes claimId => s.removes claimId
    | .authClaims attemptId managerNow databaseNow =>
      s.authStatement fun row => row.claimForAuth attemptId managerNow databaseNow
    | .authReleases attemptId => s.authStatement fun row => row.releaseAuthClaim attemptId

end OpenMcc
