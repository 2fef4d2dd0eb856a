import OpenMcc.Framework.Base64
import OpenMcc.Framework.Toml

/-!
# The answer to a read of the player list (`artifact.ts`)

The command that reads the player list prints the size of the file, the states of two units, the
next bytes and what it finds before and after them, each on a line of its own.  The manager takes
the answer apart with one regular expression.  None of its groups takes a line end, so each line is
matched on its own here.
-/

namespace OpenMcc

namespace PlayerListAnswer

/-- `(0|[1-9][0-9]{0,14})`. -/
def isSize (t : Text) : Bool := Toml.isDigits t && decide (t.length ≤ 15)

/-- `[a-z]+(?:-[a-z]+)*`. -/
def isState (t : Text) : Bool :=
  (t.splitOn '-').all fun word => !word.isEmpty && word.all Char.isLower

/-- `[0-9a-f]{64}`. -/
def isFingerprint (t : Text) : Bool :=
  t.length == 64 && t.all fun c => Text.isDigit c || ('a' ≤ c && c ≤ 'f')

/-- `[A-Za-z0-9+/]*={0,2}`. -/
def isEncoded (t : Text) : Bool :=
  match t.dropWhile fun c => (Base64.bits c).isSome with
  | [] => true
  | ['='] => true
  | ['=', '='] => true
  | _ => false

/-- `PlayerListRead`. -/
structure PlayerListRead where
  size : Option Nat
  unit : Text
  auth : Text
  before : Text
  chunk : List UInt8
  after : Text
  deriving DecidableEq, Repr

/-- What a line has after its key, when the shape takes it. -/
def field (key : Text) (shape : Text → Bool) (line : Text) : Option Text :=
  if key.isPrefixOf line && shape (line.drop key.length) then some (line.drop key.length) else none

/-- `Buffer.from(encoded, "base64")`, where that gives back the text. -/
def exactBytes (encoded : Text) : Option (List UInt8) :=
  (Base64.decode encoded).bind fun bytes =>
    if Base64.encode bytes = encoded then some bytes else none

/-- `parsePlayerListRead`. -/
def parsePlayerListRead (output : Text) : Option PlayerListRead :=
  match Text.lines output with
  | [size, unit, auth, before, chunk, after, []] => do
    let size ← field "size=".toList (fun t => t.isEmpty || isSize t) size
    let unit ← field "unit=".toList isState unit
    let auth ← field "auth=".toList isState auth
    let before ← field "before=".toList isFingerprint before
    let encoded ← field "chunk=".toList isEncoded chunk
    let after ← field "after=".toList isFingerprint after
    let chunk ← exactBytes encoded
    some ⟨if size.isEmpty then none else some (Toml.natural size), unit, auth, before, chunk, after⟩
  | _ => none

/-- What the lines of `playerListReadCommand` print. -/
def printed (read : PlayerListRead) : Text :=
  Text.join "\n".toList
    ["size=".toList ++ (read.size.map (Nat.toDigits 10)).getD [], "unit=".toList ++ read.unit,
      "auth=".toList ++ read.auth, "before=".toList ++ read.before,
      "chunk=".toList ++ Base64.encode read.chunk, "after=".toList ++ read.after, []]

end PlayerListAnswer

end OpenMcc
