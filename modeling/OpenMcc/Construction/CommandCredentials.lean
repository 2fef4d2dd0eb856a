import OpenMcc.Framework.Regex

/-!
# Masking a credential in a command (`command-credentials.ts`)

The two `COMMAND_PATTERNS` and the replacement of every match of the one and then of the other.
-/

namespace OpenMcc

namespace CommandCredentials

open Regex

/-- `[ \t]`. -/
def blank : Regex := char fun c => c == ' ' || c == '\t'

/-- `[ \t]*[/!]{0,2}`: what a line may have before the name of its command. -/
def lead : Regex :=
  let mark := char fun c => c == '/' || c == '!'
  seq (star blank) (opt (seq mark (opt mark)))

/-- `[ \t]+\S[^\r\n]*`: an argument, and the rest of its line. -/
def argument : Regex :=
  chain [plus blank, nonSpace, star (char fun c => c != '\r' && c != '\n')]

/-- A credential command at the start of a line, its name in group 1, and its arguments. -/
def credentialPattern (name : Regex) : Regex :=
  chain [lineStart, group 1 (seq lead name), argument]

/-- The subcommands of `authme` that take a password. -/
def authmeNames : List Text :=
  ["register".toList, "reg".toList, "r".toList, "password".toList, "changepassword".toList,
    "changepass".toList, "cp".toList]

/-- The commands that take a password. -/
def commandNames : List Text :=
  ["changepassword".toList, "changepass".toList, "unregister".toList, "register".toList,
    "login".toList, "unreg".toList, "reg".toList, "log".toList, "cp".toList, "l".toList]

/-- `COMMAND_PATTERNS`. -/
def commandPatterns : List Regex :=
  [credentialPattern (alt
      (chain [literal "authme".toList, plus blank, oneOf authmeNames])
      (chain [literal "email".toList, plus blank, literal "setpassword".toList])),
    credentialPattern (oneOf commandNames)]

/-- `maskCommandCredentials`. -/
def maskCommandCredentials (command : Text) : Text :=
  commandPatterns.foldl
    (fun acc pattern => pattern.replaceAll (fun c => c.recorded 1 ++ " [redacted]".toList) acc)
    command

example : maskCommandCredentials "  /LOGIN hunter2".toList = "  /LOGIN [redacted]".toList := by
  decide +kernel

end CommandCredentials

end OpenMcc
