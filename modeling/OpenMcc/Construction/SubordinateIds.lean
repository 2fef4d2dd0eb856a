import OpenMcc.Construction.AuthorisedKeys
import OpenMcc.Framework.Toml

/-!
# The ids of an account's containers (`SUBORDINATE_SECTION`)

The setup script gives an account ids of its own, in `/etc/subuid` and in `/etc/subgid`, unless it
has some in both.  They begin where the last of all that either file gives away ends.  The script
reads the files with awk and leaves it to `usermod` to write them, which are in `Host` as far as the
script relies on them.
-/

namespace OpenMcc

namespace SubordinateIds

open AuthorisedKeys (records)

/-! ## The files -/

/-- The fields of a record, as `awk -F:` cuts it. -/
def fields (record : Text) : List Text := if record = [] then [] else record.splitOn ':'

/-- `$1`. -/
def owner (record : Text) : Text := (fields record).head?.getD []

/-- `/^[0-9]+$/`. -/
def isNumber (t : Text) : Bool := !t.isEmpty && t.all Text.isDigit

/-- Ids in a row. -/
structure Range where
  start : Nat
  count : Nat
  deriving DecidableEq, Repr

/-- The first id after them. -/
def Range.stop (r : Range) : Nat := r.start + r.count

/-- What a record gives, when the script counts it. -/
def given (record : Text) : Option Range :=
  match fields record with
  | [_, start, count] =>
    if isNumber start && isNumber count then
      some ⟨Toml.natural start, Toml.natural count⟩
    else none
  | _ => none

/-- What a file gives. -/
def ranges (file : Text) : List Range := (records file).filterMap given

/-- `top`. -/
def top (ranges : List Range) : Nat :=
  ranges.foldl (fun top range => if range.stop > top then range.stop else top) 0

/-- The line that gives ids to an account. -/
def line (account : Text) (range : Range) : Text :=
  account ++ ':' :: (Nat.toDigits 10 range.start ++ ':' :: Nat.toDigits 10 range.count)

/-- `ACCOUNT_NAME_PATTERN`. -/
def isAccountName : Text → Bool
  | [] => false
  | c :: rest =>
    (c.isLower || c == '_') &&
      rest.all (fun c => c.isLower || Text.isDigit c || c == '_' || c == '-') &&
      decide (rest.length ≤ 31)

/-- The name of an account. -/
abbrev AccountName := { account : Text // isAccountName account = true }

/-! ## The section -/

/-- What the script uses of the machine: how awk compares a field with a variable, and the file that
`usermod` writes when it adds the ids from one to another. -/
structure Host where
  equal : Text → Text → Bool
  add : Text → Nat → Nat → Text → Text

/-- What is documented of it: a value is equal to itself, and the ids are added as a line after
those there are. -/
structure Host.Documented (host : Host) : Prop where
  equal_self : ∀ t, host.equal t t = true
  records_add : ∀ (account : AccountName) (start last : Nat) (file : Text),
    records (host.add account start last file) =
      records file ++ [line account ⟨start, last + 1 - start⟩]
  add_newline : ∀ (account : AccountName) (start last : Nat) (file : Text),
    (host.add account start last file).getLast? = some '\n'

/-- The two files. -/
structure Files where
  subuid : Text
  subgid : Text
  deriving DecidableEq

/-- A run of the section, with what `id -u` says and whether each `usermod` succeeds. -/
structure Setup where
  account : AccountName
  uid : Text
  uidsAdded : Bool
  gidsAdded : Bool

/-- `has_range`. -/
def hasRange (host : Host) (setup : Setup) (file : Text) : Bool :=
  (records file).any fun record =>
    host.equal (owner record) setup.account || host.equal (owner record) setup.uid

/-- `has_range FILE || usermod …`, and `none` where that ends the script. -/
def ensure (host : Host) (setup : Setup) (start : Nat) (added : Bool) (file : Text) : Option Text :=
  if hasRange host setup file then some file
  else if added then some (host.add setup.account start (start + 65535) file)
  else none

/-- `start`. -/
def nextStart (s : Files) : Nat :=
  let top := top (ranges (s.subuid ++ s.subgid))
  if top > 100000 then top else 100000

/-- `SUBORDINATE_SECTION`: the files after it, and whether the script went on. -/
def setUp (host : Host) (s : Files) (setup : Setup) : Files × Bool :=
  if hasRange host setup s.subuid && hasRange host setup s.subgid then (s, true)
  else
    let start := nextStart s
    match ensure host setup start setup.uidsAdded s.subuid with
    | none => (s, false)
    | some subuid =>
      match ensure host setup start setup.gidsAdded s.subgid with
      | none => ({ s with subuid := subuid }, false)
      | some subgid => (⟨subuid, subgid⟩, true)

/-- One run after another. -/
def run (host : Host) (setups : List Setup) (s : Files) : Files :=
  setups.foldl (fun s setup => (setUp host s setup).1) s

end SubordinateIds

end OpenMcc
