import Mathlib.Logic.Function.Basic
import OpenMcc.Construction.ReadConnections
import OpenMcc.Framework.JsonText
import OpenMcc.Framework.Transition

/-!
# Whether a bot runs, asked once for many (`instance.controller.ts`)

A live read or write is let through only for a bot whose unit is active.  `requireRunning` asks the
host at most once at a time for a bot and the identity its host is connected by, and goes by an
answer that is less than `ACTIVE_RESULT_MAX_AGE_MS` old without asking.  Stopping a bot forgets what
is known of it, a check in flight included.

A check is numbered by the call that began it.  Its answer lands in one step (`then`) and it is
given up in a later one (`finally`); calls that wait for it go on after that.  What `deps.now()`
answers is arbitrary each time.
-/

namespace OpenMcc

/-- `ACTIVE_RESULT_MAX_AGE_MS`. -/
def activeResultMaxAgeMs : Int := 5000

/-- `JSON.stringify` of the identity's fields. -/
def stringifyIdentity (identity : ConnectionIdentity) : Text :=
  '[' :: Json.quote identity.hostname ++ ',' :: (Nat.toDigits 10 identity.port ++
    ',' :: (Json.quote identity.username ++ ',' :: (Json.quote identity.sshKeyId ++
      ',' :: (Json.quote identity.hostKeyFingerprint ++ [']']))))

/-- `activeKey`. -/
def activeKey (instanceId : Text) (identity : ConnectionIdentity) : Text :=
  instanceId ++ '\n' :: stringifyIdentity identity

/-- How far a check has got: its answer, and `none` where the host did not give one. -/
inductive CheckStage
  | running
  | landed (active : Option Bool)
  | settled (active : Option Bool)
  deriving DecidableEq, Repr

/-- A check of the unit of a bot, over a connection of this identity. -/
structure ActiveCheck where
  instanceId : Text
  identity : ConnectionIdentity
  stage : CheckStage
  deriving DecidableEq, Repr

/-- How far a call of `requireRunning` has got. -/
inductive ActiveCall
  | awaits (check : Nat)
  /-- The bot is let through as running. -/
  | passed
  | refused
  deriving DecidableEq, Repr

/-- The two maps, every check that was begun and the calls. -/
structure ActiveState where
  activeReadAt : Text → Option Int
  activeChecks : Text → Option Nat
  checks : Nat → Option ActiveCheck
  calls : Nat → Option ActiveCall

/-- What can happen next. -/
inductive ActiveEvent
  | requires (call : Nat) (instanceId : Text) (identity : ConnectionIdentity) (now : Int)
  | lands (check : Nat) (active : Option Bool) (now : Int)
  | settles (check : Nat)
  | returns (call : Nat)
  | forgets (instanceId : Text)
  deriving DecidableEq, Repr

namespace ActiveState

variable (s : ActiveState)

/-- What is known of the key is fresh enough to go by. -/
def fresh (key : Text) (now : Int) : Bool :=
  (s.activeReadAt key).any fun readAt => now - readAt < activeResultMaxAgeMs

/-- `requireRunning` up to its `await`. -/
def requires (call : Nat) (instanceId : Text) (identity : ConnectionIdentity) (now : Int) :
    Option ActiveState :=
  let key := activeKey instanceId identity
  if (s.calls call).isSome ∨ (s.checks call).isSome then none
  else if s.fresh key now then
    some { s with calls := Function.update s.calls call (some .passed) }
  else match s.activeChecks key with
    | some check => some { s with
        activeReadAt := Function.update s.activeReadAt key none
        calls := Function.update s.calls call (some (.awaits check)) }
    | none => some {
        activeReadAt := Function.update s.activeReadAt key none
        activeChecks := Function.update s.activeChecks key (some call)
        checks := Function.update s.checks call (some ⟨instanceId, identity, .running⟩)
        calls := Function.update s.calls call (some (.awaits call)) }

/-- The `then` of a check, which an answer of the host calls. -/
def lands (check : Nat) (active : Option Bool) (now : Int) : Option ActiveState :=
  match s.checks check with
  | some ⟨instanceId, identity, .running⟩ =>
    let key := activeKey instanceId identity
    some { s with
      activeReadAt :=
        if active = some true ∧ s.activeChecks key = some check then
          Function.update s.activeReadAt key (some now)
        else s.activeReadAt
      checks := Function.update s.checks check (some ⟨instanceId, identity, .landed active⟩) }
  | _ => none

/-- The `finally` of a check. -/
def settles (check : Nat) : Option ActiveState :=
  match s.checks check with
  | some ⟨instanceId, identity, .landed active⟩ =>
    let key := activeKey instanceId identity
    some { s with
      activeChecks :=
        if s.activeChecks key = some check then Function.update s.activeChecks key none
        else s.activeChecks
      checks := Function.update s.checks check (some ⟨instanceId, identity, .settled active⟩) }
  | _ => none

/-- A call goes on after its `await`. -/
def returns (call : Nat) : Option ActiveState :=
  match s.calls call with
  | some (.awaits check) =>
    match s.checks check with
    | some ⟨_, _, .settled active⟩ => some { s with
        calls := Function.update s.calls call
          (some (if active = some true then .passed else .refused)) }
    | _ => none
  | _ => none

/-- `forgetActive`. -/
def forgetActive (instanceId : Text) : ActiveState :=
  { s with
    activeReadAt := fun key =>
      if (instanceId ++ ['\n']).isPrefixOf key then none else s.activeReadAt key
    activeChecks := fun key =>
      if (instanceId ++ ['\n']).isPrefixOf key then none else s.activeChecks key }

end ActiveState

/-- Any number of calls, checks and stops, in any order. -/
def activeChecking : TransitionSystem ActiveState ActiveEvent where
  init s := (∀ key, s.activeReadAt key = none) ∧ (∀ key, s.activeChecks key = none) ∧
    (∀ check, s.checks check = none) ∧ ∀ call, s.calls call = none
  step s
    | .requires call instanceId identity now => s.requires call instanceId identity now
    | .lands check active now => s.lands check active now
    | .settles check => s.settles check
    | .returns call => s.returns call
    | .forgets instanceId => some (s.forgetActive instanceId)

/-! ## What a run shows -/

/-- What a run shows of its checks. -/
inductive ActiveNote
  | began (check : Nat) (instanceId : Text) (identity : ConnectionIdentity)
  | landed (check : Nat) (active : Option Bool) (now : Int)
  | forgot (instanceId : Text)
  deriving DecidableEq, Repr

/-- What an event shows. -/
def ActiveState.shown (s : ActiveState) : ActiveEvent → List ActiveNote
  | .requires call instanceId identity now =>
    if s.fresh (activeKey instanceId identity) now ∨
      (s.activeChecks (activeKey instanceId identity)).isSome then []
    else [.began call instanceId identity]
  | .lands check active now => [.landed check active now]
  | .forgets instanceId => [.forgot instanceId]
  | _ => []

/-- The check of the bot and identity was begun after every stop of the bot. -/
def BegunSince (notes : List ActiveNote) (check : Nat) (instanceId : Text)
    (identity : ConnectionIdentity) : Prop :=
  ∃ before after, notes = before ++ .began check instanceId identity :: after ∧
    .forgot instanceId ∉ after

end OpenMcc
