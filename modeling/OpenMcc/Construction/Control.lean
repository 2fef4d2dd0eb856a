import OpenMcc.Construction.CommandCredentials

/-!
# The line written to a client's control pipe (`control.ts`)

`sendableLine` turns what an operator, a scheduled command or a task step asks for into the line
the client reads, or refuses it.  A leading `!` asks for a command of the client itself, which has
to be one of `internalCommands`; a leading `/` is doubled, which the client passes on to the
server; any other text goes out as it stands.

The client is not part of the repository.  What the code relies on is its reading of a line: it
skips white space and then looks for its own command character `/`.
-/

namespace OpenMcc

/-! ## The contract's check of a command text (`instance.ts`) -/

/-- `INSTANCE_COMMAND_MAX_BYTES`. -/
def instanceCommandMaxBytes : Nat := 256

/-- The issue `instanceCommandText` raises over the characters of a text, if any. -/
def instanceCommandIssue (value : Text) : Option Text :=
  if value.any fun c => c == '\n' || c == '\r' then
    some "A command is one line. Remove the line breaks.".toList
  else if value.all fun c => 0x20 ≤ c.toNat && c.toNat != 0x7f then none
  else some "Remove tabs and other invisible characters from the command.".toList

/-- `instanceCommandText` accepts the text. -/
def instanceCommandText (value : Text) : Bool :=
  1 ≤ value.utf16Length && value.utf16Length ≤ instanceCommandMaxBytes &&
    (instanceCommandIssue value).isNone

/-! ## From a command to a line -/

/-- `INTERNAL_COMMANDS`. -/
def internalCommands : List Text :=
  ["achievement".toList, "animation".toList, "bed".toList, "blockinfo".toList,
    "changeslot".toList, "chunk".toList, "dialog".toList, "dig".toList, "dropitem".toList,
    "effects".toList, "enchant".toList, "entity".toList, "exit".toList, "follow".toList,
    "health".toList, "help".toList, "inventory".toList, "list".toList, "look".toList,
    "minimap".toList, "move".toList, "nameitem".toList, "recipebook".toList, "reco".toList,
    "respawn".toList, "sneak".toList, "tab".toList, "teams".toList, "tps".toList,
    "useblock".toList, "useitem".toList]

/-- `ARGUMENT_FREE_COMMANDS`. -/
def argumentFreeCommands : List Text := ["reco".toList]

/-- `INTERNAL_COMMAND_PREFIX`. -/
def internalCommandPrefix : Char := '!'

/-- The errors that refuse a command, with their messages. -/
inductive ControlError
  /-- `InternalError`. -/
  | internal (message : Text)
  | doubleSlashCredential (message : Text)
  | disallowedInternalCommand (message : Text)
  deriving DecidableEq, Repr

/-- `hasControlCharacter`. -/
def hasControlCharacter (value : Text) : Bool :=
  value.any fun c => c.toNat < 0x20 || c.toNat == 0x7f

/-- `refuseDoubleSlashCredential`. -/
def refuseDoubleSlashCredential (command : Text) : Except ControlError Unit :=
  if !"//".toList.isPrefixOf command ||
      CommandCredentials.maskCommandCredentials command == command then .ok ()
  else .error (.doubleSlashCredential
    "A credential command written with two slashes never reaches the server".toList)

/-- `controlLine`, over the lower-casing of the language's strings. -/
def controlLine (toLowerCase : Text → Text) (input : Text) : Except ControlError Text :=
  match input with
  | [] => .ok []
  | first :: rest =>
    if first ≠ internalCommandPrefix then
      if first = '/' then .ok ('/' :: input) else .ok input
    else
      let words := Text.splitSpaces (Text.trim rest)
      let name := toLowerCase (words.headD [])
      if name ∉ internalCommands then
        .error (.disallowedInternalCommand
          ("The client command '".toList ++ name ++
            "' is not one this manager will run".toList))
      else
        let args := words.tail
        if args ≠ [] ∧ name ∈ argumentFreeCommands then
          .error (.disallowedInternalCommand
            ("The client command '".toList ++ name ++
              "' does not take an argument here".toList))
        else .ok ('/' :: Text.join " ".toList (name :: args))

/-- `sendableLine`. -/
def sendableLine (toLowerCase : Text → Text) (command : Text) : Except ControlError Text :=
  if hasControlCharacter command then
    .error (.internal "Instance commands must not contain a control character".toList)
  else do
    refuseDoubleSlashCredential command
    controlLine toLowerCase command

/-! ## How the client reads the line -/

/-- The client's notion of white space.  A blank is white space to it, and no other printable
character of the first 128 is. -/
structure ControlClient where
  isSpace : Char → Bool
  space : isSpace ' ' = true
  printable : ∀ c : Char, 0x21 ≤ c.toNat → c.toNat ≤ 0x7e → isSpace c = false

/-- The first word of a text, which white space ends. -/
def ControlClient.firstWord (client : ControlClient) (t : Text) : Text :=
  t.takeWhile fun c => !client.isSpace c

/-- The command of its own the client reads in a line: after leading white space one slash, and
not a second one. -/
def ControlClient.internalCommand (client : ControlClient) (line : Text) : Option Text :=
  match line.dropWhile client.isSpace with
  | '/' :: rest => if rest.head? = some '/' then none else some (client.firstWord rest)
  | _ => none

/-- The line is one line, and a command of the client itself only if that is an allowed one. -/
def SafeLine (client : ControlClient) (line : Text) : Prop :=
  '\n' ∉ line ∧ '\r' ∉ line ∧
    ∀ name, client.internalCommand line = some name → name ∈ internalCommands

end OpenMcc
