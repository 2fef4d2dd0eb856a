import OpenMcc.Framework.Transition
import OpenMcc.Framework.Utf8

/-!
# Files written on a host (`unit.ts`)

A command that writes a file of an instance gets the new text through its channel, which may be cut
at any place.  It puts what it gets into a file of its own, counts the bytes and only then moves the
file into place.  With a port for the live control the environment is put in place together with
the environment of the unit, which goes first.

Any number of commands may be at work at once, and each of them may end at any time, as it does
under `withDeadline`.  The file that `mktemp` makes belongs to its command alone, so what is in it
is part of where the command stands.
-/

namespace OpenMcc

namespace HostWrites

/-- The text of a file. -/
abbrev Bytes := List UInt8

/-- The files of an instance that are written so. -/
inductive Target
  | config | env | unitEnv
  deriving DecidableEq, Repr

/-- What a command writes: `configWriteCommand`, or `envWriteCommand` with the environment of the
unit when there is a port. -/
inductive Write
  | config (document : Bytes)
  | env (environment : Bytes) (unitEnv : Option Bytes)
  deriving DecidableEq, Repr

/-- `configWriteCommand`, and `none` where it throws. -/
def configWriteCommand (document : Text) : Option Write :=
  if (Utf8.encode document).length = 0 then none else some (.config (Utf8.encode document))

/-- `renderUnitEnv`, and `none` where it throws. -/
def renderUnitEnv (port : Nat) : Option Text :=
  if port = 0 ∨ 65535 < port then none
  else some ("OPEN_MCC_PORT=".toList ++ Nat.toDigits 10 port ++ ['\n'])

/-- `envWriteCommand`, and `none` where it throws. -/
def envWriteCommand (environment : Text) : Option Nat → Option Write
  | none => some (.env (Utf8.encode environment) none)
  | some port =>
    (renderUnitEnv port).map fun t => .env (Utf8.encode environment) (some (Utf8.encode t))

namespace Write

/-- The text that comes through the channel. -/
def document : Write → Bytes
  | config document => document
  | env environment _ => environment

/-- The file that it is for. -/
def target : Write → Target
  | config _ => .config
  | env _ _ => .env

/-- The text of the file that goes first. -/
def beside : Write → Option Bytes
  | config _ => none
  | env _ unitEnv => unitEnv

/-- What the write wants to be in a file. -/
def wanted (w : Write) (file : Target) : Option Bytes :=
  if file = w.target then some w.document
  else if file = .unitEnv then w.beside
  else none

end Write

/-- Where a command stands, with what its own file holds. -/
inductive Phase
  /-- `t=$(mktemp …)`. -/
  | makes
  /-- `u=$(mktemp …)`. -/
  | makesBeside
  /-- `cat > "$t"`. -/
  | receives (got : Bytes)
  /-- `[ "$(wc -c < "$t")" -eq … ]`. -/
  | counts (got : Bytes)
  /-- `printf '%s' … > "$u"`. -/
  | writesBeside (got : Bytes)
  /-- `mv -f -- "$u" …`. -/
  | movesBeside (got beside : Bytes)
  /-- `mv -f -- "$t" …`. -/
  | moves (got : Bytes)
  /-- `printf written`. -/
  | reports
  /-- `rm -f -- "$t" "$u"`. -/
  | removes
  /-- `exit`. -/
  | ended (code : Nat)
  | killed
  deriving DecidableEq, Repr

/-- A file put in place. -/
structure Move where
  command : Nat
  file : Target
  bytes : Bytes
  deriving DecidableEq, Repr

/-- A host: the files in place and the commands.  `moved` keeps the files that were put in place,
the first of them first, and no step reads it. -/
structure State where
  files : Target → Option Bytes
  commands : List (Write × Phase) := []
  moved : List Move := []

/-- What happens. -/
inductive Event
  /-- A command begins. -/
  | begins (w : Write)
  /-- The next bytes of the channel come. -/
  | comes (command count : Nat)
  /-- The step a command is at ends. -/
  | goes (command : Nat) (succeeds : Bool)
  /-- A command is killed. -/
  | kill (command : Nat)

/-- Where a command goes on after a step, and the file it has put in place. -/
def goOn (w : Write) (succeeds : Bool) : Phase → Option (Phase × Option (Target × Bytes))
  | .makes =>
    some (if !succeeds then .ended 1 else if w.beside.isSome then .makesBeside else .receives [],
      none)
  | .makesBeside => some (if succeeds then .receives [] else .removes, none)
  | .receives got => some (if succeeds then .counts got else .removes, none)
  | .counts got =>
    some (if succeeds && got.length == w.document.length then
      if w.beside.isSome then .writesBeside got else .moves got
    else .removes, none)
  | .writesBeside got =>
    some (if succeeds then .movesBeside got (w.beside.getD []) else .removes, none)
  | .movesBeside got beside =>
    some (if succeeds then (.moves got, some (.unitEnv, beside)) else (.removes, none))
  | .moves got =>
    some (if succeeds then
      ((match w with
        | .config _ => .ended 0
        | .env _ _ => .reports), some (w.target, got))
    else (.removes, none))
  | .reports => some (if succeeds then .ended 0 else .ended 1, none)
  | .removes => some (.ended 1, none)
  | .ended _ => none
  | .killed => none

namespace State

variable (s : State)

/-- A command stands somewhere else. -/
def stand (command : Nat) (w : Write) (phase : Phase) : State :=
  { s with commands := s.commands.set command (w, phase) }

/-- A command has put a file in place. -/
def put (command : Nat) : Option (Target × Bytes) → State
  | none => s
  | some (file, bytes) =>
    { s with
      files := Function.update s.files file (some bytes)
      moved := s.moved ++ [⟨command, file, bytes⟩] }

/-- One step. -/
def step : Event → Option State
  | .begins w => some { s with commands := s.commands ++ [(w, .makes)] }
  | .comes command count =>
    match s.commands[command]? with
    | some (w, .receives got) =>
      some (s.stand command w (.receives (got ++ (w.document.drop got.length).take count)))
    | _ => none
  | .goes command succeeds =>
    match s.commands[command]? with
    | some (w, phase) =>
      (goOn w succeeds phase).map fun next => (s.stand command w next.1).put command next.2
    | none => none
  | .kill command =>
    match s.commands[command]? with
    | some (_, .ended _) => none
    | some (w, _) => some (s.stand command w .killed)
    | none => none

end State

/-- A host that starts with some files. -/
def system (files : Target → Option Bytes) : TransitionSystem State Event where
  init s := s = { files := files }
  step := State.step

/-- The text of a file after what was put in place. -/
def latest (files : Target → Option Bytes) (moved : List Move) (file : Target) : Option Bytes :=
  match (moved.filter fun m => m.file = file).getLast? with
  | some m => some m.bytes
  | none => files file

end HostWrites

end OpenMcc
