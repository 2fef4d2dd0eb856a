import OpenMcc.Construction.McConfigKeys
import OpenMcc.Construction.SleepWindow
import OpenMcc.Framework.ShellText

/-!
# The size of a collected file (`artifact.ts`)

What a client writes is collected from files whose names an operator may choose.  The command that
asks for the size of such a file is read by a shell, which takes the quotes from it, and by `find`,
which takes the name as a pattern.
-/

namespace OpenMcc

namespace ArtifactCommands

open ShellText

/-- `RESERVED_FILE_NAMES`. -/
def reservedFileNames : List Text :=
  ["MinecraftClient", "Sentry", "SessionCache.db", "ProfileKeyCache.ini", "Rendered_Maps", "lang",
    "replay_recordings", "recording_cache"].map String.toList

/-- `isReservedFileName`. -/
def isReservedFileName (value : Text) : Bool := reservedFileNames.contains value

/-- `PATH_SHAPE`. -/
def pathShape (value : Text) : Bool :=
  !value.isEmpty && value.all fun c => c != '/' && c != '\\' && c != '%'

/-- `fileNameIssue`. -/
def fileNameIssue (value : Text) : Option Text :=
  if !pathShape value || value == ".".toList || value == "..".toList || !isPlainText value then
    some "A file name, not a path".toList
  else if utf8Bytes value > 255 then some "Too long for a file name".toList
  else none

/-- `isOperatorFileName`. -/
def isOperatorFileName (value : Text) : Bool :=
  (fileNameIssue value).isNone && !isReservedFileName value

/-- `isCollectableName`. -/
def isCollectableName (value : Text) : Bool := isOperatorFileName value

/-- `shellQuote`. -/
def shellQuote (value : Text) : Text := singleQuote value

/-- The characters that `literalPattern` puts a backslash before. -/
def isWild (c : Char) : Bool := c == '*' || c == '?' || c == '[' || c == ']'

/-- `literalPattern`. -/
def literalPattern (name : Text) : Text := escape isWild name

/-- `INSTANCES_ROOT`. -/
def instancesRoot : Text := "\"$HOME\"/.local/share/open-mcc".toList

/-- `instanceDir`. -/
def instanceDir (instanceId : Text) : Except InternalError Text :=
  (validateInstanceId instanceId).map fun id => instancesRoot ++ "/instances/".toList ++ id

/-- `stateDirectory`. -/
def stateDirectory (instanceId : Text) : Except InternalError Text :=
  (instanceDir instanceId).map fun directory => directory ++ "/state".toList

/-- `regularFileSize`. -/
def regularFileSize (instanceId name : Text) : Except InternalError Text :=
  (stateDirectory instanceId).map fun directory =>
    "find ".toList ++ directory ++ " -maxdepth 1 -type f -name ".toList ++
      shellQuote (literalPattern name) ++ " -printf '%s\\n'".toList

end ArtifactCommands

end OpenMcc
