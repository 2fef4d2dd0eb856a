import OpenMcc.Framework.Text

/-!
# The step that authorises the manager's key

The setup script puts the key of the manager into `authorized_keys` of the account.  An awk program
first looks for the key in the file.  Where the key is there under options that leave it usable the
step leaves the file alone, under others it stops, and otherwise it writes the key at the end.

What counts is what the SSH server reads in the file afterwards.  `SshServer` is the part of it that
is not in this repository, how it reads a key and a single option, with what its manual says of
these.  How it goes through a line and through the file is `grant` and `decide`.
-/

namespace OpenMcc

namespace AuthorisedKeys

/-! ## The scanner -/

/-- `[ \t]`. -/
def isBlank (c : Char) : Bool := c == ' ' || c == '\t'

/-- `split($0, f, /[ \t]+/)`. -/
def fields : Text → List Text
  | [] => [[]]
  | c :: rest =>
    if isBlank c then
      -- a run of blanks cuts once, where its last one stands
      if rest.head?.any isBlank then fields rest else [] :: fields rest
    else (fields rest).modifyHead (c :: ·)

/-- `split(opts, tokens, ",")`: an empty text has no parts. -/
def tokens (opts : Text) : List Text := if opts = [] then [] else opts.splitOn ','

/-- `is_keytype`. -/
def isKeytype (s : Text) : Bool :=
  "ssh-".toList.isPrefixOf s || "ecdsa-".toList.isPrefixOf s || "sk-".toList.isPrefixOf s

/-- The option that turns everything off. -/
def restrictOption : Text := "restrict".toList

/-- The option that turns port forwarding on. -/
def portForwardingOption : Text := "port-forwarding".toList

/-- The other options that the scanner knows. -/
def otherOptions : List Text :=
  ["pty", "no-pty", "agent-forwarding", "no-agent-forwarding", "X11-forwarding",
    "no-X11-forwarding", "user-rc", "no-user-rc"].map String.toList

/-- An option that leaves the scanner's `ok` as it is. -/
def isKnown (t : Text) : Bool :=
  t == restrictOption || t == portForwardingOption || otherOptions.contains t

/-- The fields before the type of the key. -/
def optionFields (f : List Text) : List Text := f.takeWhile fun s => !isKeytype s

/-- The options, as the scanner cuts them. -/
def optionTokens (f : List Text) : List Text := tokens (Text.join ",".toList (optionFields f))

/-- `is_clean`. -/
def isClean (f : List Text) : Bool :=
  if optionFields f = [] then true
  else if (optionFields f).any fun s => s.contains '"' || s.contains '=' then false
  else
    (optionTokens f).all isKnown &&
      (!(optionTokens f).contains restrictOption ||
        (optionTokens f).contains portForwardingOption)

/-- What the scanner makes of a record: none when it does not have the key, and whether it is clean
when it does.  Keys are compared as texts, as none of them is a number. -/
def verdict (blob record : Text) : Option Bool :=
  if (record.dropWhile isBlank).head? = some '#' then none
  else if record.all isBlank then none
  else
    match (fields record).dropWhile fun s => !isKeytype s with
    | _ :: next :: _ => if next = blob then some (isClean (fields record)) else none
    | _ => none

/-- The variables of the scanner. -/
structure Scan where
  nr : Nat := 0
  decided : Bool := false
  present : Bool := false
  clean : Bool := false
  badline : Nat := 0

/-- A record. -/
def Scan.step (blob : Text) (s : Scan) (record : Text) : Scan :=
  let s := { s with nr := s.nr + 1 }
  if s.decided then s
  else
    match verdict blob record with
    | none => s
    | some true => { s with decided := true, present := true, clean := true }
    | some false => { s with decided := true, present := true, badline := s.nr }

/-- The lines of a file.  What comes after the last line end is one when it is not empty. -/
def records (file : Text) : List Text :=
  if (Text.lines file).getLast? = some [] then (Text.lines file).dropLast else Text.lines file

/-- The scanner. -/
def scan (blob file : Text) : Scan :=
  if blob = [] then {} else (records file).foldl (Scan.step blob) {}

/-! ## The step -/

/-- `awk "{print \$2}"` of the key. -/
def material (key : Text) : Text := ((fields key).filter (· ≠ []))[1]?.getD []

/-- What the step leaves. -/
structure Authorised where
  file : Text
  said : Text
  refused : Bool

/-- The file with a key at its end. -/
def append (file key : Text) : Text :=
  (if file ≠ [] ∧ file.getLast? ≠ some '\n' then file ++ ['\n'] else file) ++ key ++ ['\n']

/-- `AUTHORISE`. -/
def authorise (home key file : Text) : Authorised :=
  let info := scan (material key) file
  if info.present && info.clean then
    ⟨file, "  key already present, left alone".toList, false⟩
  else if info.present then
    ⟨file, "This key is already authorised in authorized_keys, but line ".toList ++
      Nat.toDigits 10 info.badline ++ (" restricts it in a way that would block the manager. Edit" ++
        " or remove that line, then run this setup again.").toList, true⟩
  else
    ⟨append file key, "  key added to ".toList ++ home ++ "/.ssh/authorized_keys".toList, false⟩

/-! ## The SSH server -/

/-- What a line lets a key do. -/
structure Grant where
  portForwarding : Bool := true
  command : Bool := false

/-- The manager can work under the grant. -/
def Grant.serves (g : Grant) : Bool := g.portForwarding && !g.command

/-- What an option changes. -/
structure Effect where
  portForwarding : Option Bool
  command : Bool

/-- An option. -/
def Grant.apply (g : Grant) (e : Effect) : Grant :=
  ⟨e.portForwarding.getD g.portForwarding, g.command || e.command⟩

/-- An option without regard to case. -/
def lower (t : Text) : Text := t.map Char.toLower

/-- How a server reads a key and an option. -/
structure SshServer (κ : Type) where
  /-- The key at the start of a text. -/
  readKey : Text → Option κ
  readOption : Text → Option Effect
  /-- A key is its type and its material, with blanks between. -/
  readKey_fields : ∀ t k, readKey t = some k → ∃ type blob more,
    fields t = type :: blob :: more ∧ isKeytype type = true ∧ blob ≠ []
  readOption_restrict : ∀ t, lower t = restrictOption → readOption t = some ⟨some false, false⟩
  readOption_portForwarding : ∀ t, lower t = portForwardingOption →
    readOption t = some ⟨some true, false⟩
  readOption_other : ∀ t, lower t ∈ otherOptions.map lower → readOption t = some ⟨none, false⟩
  /-- No option is named like a type of keys. -/
  readOption_keytype : ∀ t, isKeytype t = true → readOption t = none

/-- The text up to the first blank outside double quotes, and the rest. -/
def advance : Bool → Text → Text × Text
  | _, [] => ([], [])
  | quoted, '\\' :: '"' :: t =>
    ('\\' :: '"' :: (advance quoted t).1, (advance quoted t).2)
  | quoted, c :: t =>
    if isBlank c && !quoted then ([], c :: t)
    else
      (c :: (advance (if c = '"' then !quoted else quoted) t).1,
        (advance (if c = '"' then !quoted else quoted) t).2)

/-- The options between commas outside double quotes. -/
def splitOptions : Bool → Text → List Text
  | _, [] => [[]]
  | quoted, '\\' :: '"' :: t => (splitOptions quoted t).modifyHead ('\\' :: '"' :: ·)
  | quoted, c :: t =>
    if c = ',' && !quoted then [] :: splitOptions quoted t
    else (splitOptions (if c = '"' then !quoted else quoted) t).modifyHead (c :: ·)

section Server

variable {κ : Type} (server : SshServer κ) [DecidableEq κ] (k : κ)

/-- The options of a line, from left to right. -/
def SshServer.readOptions (options : Text) : Option Grant :=
  (splitOptions false options).foldlM
    (fun g option => (server.readOption option).map g.apply) {}

/-- What a line lets the key do, if it is a line for it. -/
def SshServer.grant (line : Text) : Option Grant :=
  let line := line.dropWhile isBlank
  if line = [] ∨ line.head? = some '#' then none
  else
    match server.readKey line with
    | some found => if found = k then some {} else none
    | none =>
      match server.readKey ((advance false line).2.dropWhile isBlank) with
      | some found => if found = k then server.readOptions (advance false line).1 else none
      | none => none

/-- What the file lets the key do: the first line for it decides. -/
def SshServer.decide (file : Text) : Option Grant := (records file).findSome? (server.grant k)

/-- The key is let in with port forwarding and without a forced command. -/
def SshServer.Serves (file : Text) : Prop := ∃ g, server.decide k file = some g ∧ g.serves = true

end Server

end AuthorisedKeys

end OpenMcc
