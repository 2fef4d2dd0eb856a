import OpenMcc.Framework.IpLiteral

/-!
# Where a notification may go (`egress.ts`)

A destination is checked by its address: the text is read to bytes, an IPv4 address written as an
IPv6 one is taken for what it is, and the bytes are compared with the ranges that are never reached
and with those that are reached only where the operator named the host or the address.

`isIP` is the check of the runtime's standard library, which recognises exactly the texts that
write an address.  Reading a text as a web address and lower-casing one are its own too and are
parameters, `parseUrl` and `toLowerCase`.
-/

namespace OpenMcc

/-! ## Policies and verdicts -/

/-- `AddressAllowance`. -/
structure AddressAllowance where
  bytes : List Nat
  bits : Nat
  deriving DecidableEq, Repr

/-- `EgressPolicy`. -/
structure EgressPolicy where
  allowHttp : Bool
  allowedHosts : List Text
  allowedAddresses : List AddressAllowance
  deriving DecidableEq, Repr

/-- `PUBLIC_ONLY`. -/
def publicOnly : EgressPolicy where
  allowHttp := false
  allowedHosts := []
  allowedAddresses := []

/-- `REJECTION_CATEGORIES`. -/
inductive RejectionCategory
  | loopback | privateNetwork | reserved | unreadable | insecure | credentials | fragment | host
  | retired | signin | parameters
  deriving DecidableEq, Repr

/-- `AddressVerdict`. -/
inductive AddressVerdict
  | allowed (named : Bool)
  | refused (reason : Text) (category : RejectionCategory)
  deriving DecidableEq, Repr

/-- The verdict allows the address. -/
def AddressVerdict.isAllowed : AddressVerdict → Bool
  | .allowed _ => true
  | .refused _ _ => false

namespace Egress

def loopback : Text := "it points back at this machine".toList
def privateNetwork : Text := "it points at a private network".toList
def reserved : Text := "it points at a reserved address".toList
def unreadable : Text := "that address could not be read".toList

/-- `CATEGORY_OF`, with the default of `categoryFor`. -/
def categoryFor (reason : Text) : RejectionCategory :=
  if reason = loopback then .loopback
  else if reason = privateNetwork then .privateNetwork
  else if reason = reserved then .reserved
  else if reason = unreadable then .unreadable
  else .reserved

/-! ## Reading an address -/

/-- `isIP`. -/
def isIP (address : Text) : Nat :=
  if (Ip.readV4 address).isSome then 4 else if Ip.isV6 address then 6 else 0

/-- One part of `parseV4`. -/
def parseByte (part : Text) : Option Nat :=
  if part.all Text.isDigit && 1 ≤ part.length && part.length ≤ 3 then
    if 255 < Ip.decimal part then none else some (Ip.decimal part)
  else none

/-- `parseV4`. -/
def parseV4 (address : Text) : Option (List Nat) :=
  let parts := address.splitOn '.'
  if parts.length ≠ 4 then none else parts.mapM parseByte

/-- The two groups of an embedded address. -/
def embed : List Nat → Option (List Nat)
  | [a, b, c, d] => some [a <<< 8 ||| b, c <<< 8 ||| d]
  | _ => none

/-- The loop of `hextetsOf`, where only the last group may hold a dot. -/
def hextetsOfGroups : List Text → Option (List Nat)
  | [] => some []
  | group :: rest =>
    if rest.isEmpty && group.contains '.' then (parseV4 group).bind embed
    else (Ip.hextet group).bind fun g => (hextetsOfGroups rest).map fun groups => g :: groups

/-- `hextetsOf`. -/
def hextetsOf (segment : Text) : Option (List Nat) :=
  if segment.length = 0 then some [] else hextetsOfGroups (segment.splitOn ':')

/-- `octetsOf`. -/
def octetsOf (groups : List Nat) : List Nat :=
  groups.flatMap fun group => [group >>> 8 &&& 0xff, group &&& 0xff]

/-- `split("::")`. -/
def splitDoubleColon : Text → List Text
  | [] => [[]]
  | ':' :: ':' :: rest => [] :: splitDoubleColon rest
  | c :: rest => (splitDoubleColon rest).modifyHead (c :: ·)

/-- `V6_GROUPS`. -/
def v6Groups : Nat := 8

/-- `parseV6`. -/
def parseV6 (address : Text) : Option (List Nat) :=
  if address.contains '%' then none
  else match splitDoubleColon address with
    | [only] => do
      let groups ← hextetsOf only
      if groups.length ≠ v6Groups then none else some (octetsOf groups)
    | [before, after] => do
      let head ← hextetsOf before
      let tail ← hextetsOf after
      let gap : Int := v6Groups - head.length - tail.length
      if gap < 1 then none
      else some (octetsOf (head ++ List.replicate gap.toNat 0 ++ tail))
    | _ => none

/-- `parseAddress`. -/
def parseAddress (address : Text) : Option (List Nat) :=
  if isIP address = 4 then parseV4 address
  else if isIP address = 6 then parseV6 address
  else none

/-! ## Ranges -/

/-- `bareHostname`. -/
def bareHostname (hostname : Text) : Text :=
  let opened := if hostname.head? = some '[' then hostname.tail else hostname
  if opened.getLast? = some ']' then opened.dropLast else opened

/-- `allowanceOf`. -/
def allowanceOf (text : Text) : Option AddressAllowance := do
  let (written, rest) := text.span (· ≠ '/')
  let bytes ← parseAddress (bareHostname written)
  match rest with
  | [] => some ⟨bytes, bytes.length * 8⟩
  | _ :: width =>
    if width.all Text.isDigit && 1 ≤ width.length && width.length ≤ 3 then
      if bytes.length * 8 < Ip.decimal width then none else some ⟨bytes, Ip.decimal width⟩
    else none

/-- `Range`. -/
structure Range extends AddressAllowance where
  reason : Text
  category : RejectionCategory
  deriving DecidableEq, Repr

/-- `range`; the module does not load where one is `none`. -/
def range (text reason : Text) : Option Range :=
  (allowanceOf text).map fun allowance => ⟨allowance, reason, categoryFor reason⟩

/-- A table of ranges. -/
def ranges (entries : List (String × Text)) : List Range :=
  entries.filterMap fun entry => range entry.1.toList entry.2

/-- The loop of `within`, which goes on with the bytes that are left to compare. -/
def bitsAgree : List Nat → List Nat → Nat → Bool
  | _, _, 0 => true
  | left :: lefts, right :: rights, remaining + 1 =>
    let width := min 8 (remaining + 1)
    let mask := 0xff <<< (8 - width) &&& 0xff
    left &&& mask == right &&& mask && bitsAgree lefts rights (remaining + 1 - width)
  | _, _, _ + 1 => false

/-- `within`. -/
def within (bytes : List Nat) (limit : AddressAllowance) : Bool :=
  if bytes.length ≠ limit.bytes.length then false
  else if limit.bytes.length * 8 < limit.bits then false
  else bitsAgree bytes limit.bytes limit.bits

/-- `NEVER_V4`. -/
def neverV4 : List Range := ranges
  [("0.0.0.0/8", loopback), ("169.254.0.0/16", reserved), ("224.0.0.0/4", reserved),
    ("240.0.0.0/4", reserved), ("100.100.100.100/32", reserved), ("100.100.100.200/32", reserved),
    ("192.0.0.192/32", reserved)]

/-- `NEVER_V6`. -/
def neverV6 : List Range := ranges
  [("::/128", loopback), ("ff00::/8", reserved), ("fe80::/10", reserved),
    ("fd00:ec2::254/128", reserved)]

/-- `FORBIDDEN_V4`. -/
def forbiddenV4 : List Range := ranges
  [("10.0.0.0/8", privateNetwork), ("100.64.0.0/10", privateNetwork), ("127.0.0.0/8", loopback),
    ("172.16.0.0/12", privateNetwork), ("192.0.0.0/24", reserved), ("192.0.2.0/24", reserved),
    ("192.88.99.0/24", reserved), ("192.168.0.0/16", privateNetwork), ("198.18.0.0/15", reserved),
    ("198.51.100.0/24", reserved), ("203.0.113.0/24", reserved)]

/-- `GLOBAL_V6`. -/
def globalV6 : Range := ⟨⟨0x20 :: List.replicate 15 0, 3⟩, reserved, categoryFor reserved⟩

/-- `MAPPED_V4`. -/
def mappedV4 : Range :=
  ⟨⟨List.replicate 10 0 ++ [0xff, 0xff, 0, 0, 0, 0], 96⟩, reserved, categoryFor reserved⟩

/-- The two ranges that stand alone are the ones their texts write. -/
example : range "2000::/3".toList reserved = some globalV6 ∧
    range "::ffff:0:0/96".toList reserved = some mappedV4 := by decide +kernel

/-- `NON_GLOBAL_V6`. -/
def nonGlobalV6 : List Range := ranges
  [("::1/128", loopback), ("fc00::/7", privateNetwork), ("fec0::/10", privateNetwork)]

/-- `FORBIDDEN_V6`. -/
def forbiddenV6 : List Range := ranges
  [("2001::/32", reserved), ("2001:2::/48", reserved), ("2001:10::/28", reserved),
    ("2001:20::/28", reserved), ("2001:db8::/32", reserved), ("2002::/16", reserved),
    ("3fff::/20", reserved)]

/-- No entry of a table is unreadable, so that the module loads. -/
example : neverV4.length = 7 ∧ neverV6.length = 4 ∧ forbiddenV4.length = 11 ∧
    nonGlobalV6.length = 3 ∧ forbiddenV6.length = 7 := by decide +kernel

/-! ## The verdict on an address -/

/-- `softDeny`. -/
def softDeny (bytes : List Nat) : Option Range :=
  if bytes.length = 4 then forbiddenV4.find? fun limit => within bytes limit.toAddressAllowance
  else if !within bytes globalV6.toAddressAllowance then
    some ((nonGlobalV6.find? fun limit => within bytes limit.toAddressAllowance).getD globalV6)
  else forbiddenV6.find? fun limit => within bytes limit.toAddressAllowance

/-- `normalised`. -/
def normalised (bytes : List Nat) : List Nat :=
  if bytes.length = 16 && within bytes mappedV4.toAddressAllowance then bytes.drop 12 else bytes

/-- The ranges of a family that are never reached. -/
def neverOf (bytes : List Nat) : List Range := if bytes.length = 4 then neverV4 else neverV6

/-- `verifyAddress`, once the bytes are read. -/
def verifyBytes (bytes : List Nat) (policy : EgressPolicy) (hostAllowed : Bool) :
    AddressVerdict :=
  match (neverOf bytes).find? fun limit => within bytes limit.toAddressAllowance with
  | some never => .refused never.reason never.category
  | none =>
    let named := hostAllowed || policy.allowedAddresses.any fun allowance => within bytes allowance
    match softDeny bytes with
    | none => .allowed named
    | some hit => if named then .allowed true else .refused hit.reason hit.category

/-- `verifyAddress`. -/
def verifyAddress (address : Text) (policy : EgressPolicy) (hostAllowed : Bool) :
    AddressVerdict :=
  match parseAddress address with
  | none => .refused unreadable .unreadable
  | some parsed => verifyBytes (normalised parsed) policy hostAllowed

/-! ## The verdict on a destination -/

/-- `LOCAL_SUFFIXES`. -/
def localSuffixes : List Text :=
  [".localhost".toList, ".local".toList, ".internal".toList, ".home.arpa".toList]

/-- `looksLocalName`. -/
def looksLocalName (hostname : Text) : Bool :=
  hostname == "localhost".toList || localSuffixes.any fun suffix => suffix.isSuffixOf hostname

variable (toLowerCase : Text → Text)

/-- `hostIsAllowed`. -/
def hostIsAllowed (hostname : Text) (policy : EgressPolicy) : Bool :=
  policy.allowedHosts.contains (toLowerCase (bareHostname hostname))

/-- `UrlVerdict`. -/
inductive UrlVerdict
  | allowed (hostname : Text)
  | refused (reason : Text) (category : RejectionCategory)
  deriving DecidableEq, Repr

/-- The verdict allows the destination. -/
def UrlVerdict.isAllowed : UrlVerdict → Bool
  | .allowed _ => true
  | .refused _ _ => false

/-- What is read of a web address. -/
structure Url where
  protocol : Text
  username : Text
  password : Text
  hash : Text
  hostname : Text
  deriving DecidableEq, Repr

/-- `INSECURE`. -/
def insecure : Text := "the address must start with https".toList

/-- The end of `verifyDestinationUrl`, once the host is known. -/
def verifyProtocol (parsed : Url) (policy : EgressPolicy) (named : Bool) : UrlVerdict :=
  if parsed.protocol = "http:".toList then
    if !policy.allowHttp || !named then .refused insecure .insecure else .allowed parsed.hostname
  else .allowed parsed.hostname

/-- `verifyDestinationUrl`. -/
def verifyDestinationUrl (parseUrl : Text → Option Url) (raw : Text) (policy : EgressPolicy) :
    UrlVerdict :=
  match parseUrl raw with
  | none => .refused "that does not look like a web address".toList .unreadable
  | some parsed =>
    if parsed.protocol ≠ "https:".toList ∧ parsed.protocol ≠ "http:".toList then
      .refused insecure .insecure
    else if 0 < parsed.username.length ∨ 0 < parsed.password.length then
      .refused "the address must not contain a username or password".toList .credentials
    else if 0 < parsed.hash.length then
      .refused "the address must not contain a fragment".toList .fragment
    else
      let hostname := bareHostname parsed.hostname
      if hostname.length = 0 then
        .refused "that does not look like a web address".toList .unreadable
      else
        let hostAllowed := hostIsAllowed toLowerCase hostname policy
        if isIP hostname ≠ 0 then
          match verifyAddress hostname policy hostAllowed with
          | .refused reason category => .refused reason category
          | .allowed named => verifyProtocol parsed policy (hostAllowed || named)
        else if !hostAllowed && looksLocalName hostname then .refused loopback .loopback
        else verifyProtocol parsed policy hostAllowed

/-- `verifyDestinationHost`. -/
def verifyDestinationHost (raw : Text) (policy : EgressPolicy) : UrlVerdict :=
  let hostname := toLowerCase (bareHostname (Text.trim raw))
  if hostname.length = 0 then
    .refused "that does not look like a server address".toList .unreadable
  else
    let hostAllowed := hostIsAllowed toLowerCase hostname policy
    if isIP hostname ≠ 0 then
      match verifyAddress hostname policy hostAllowed with
      | .allowed _ => .allowed hostname
      | .refused reason category => .refused reason category
    else if hostname.contains '/' || hostname.contains '@' || hostname.contains ':' then
      .refused "give the server address only, with nothing after it".toList .parameters
    else if !hostAllowed && looksLocalName hostname then .refused loopback .loopback
    else .allowed hostname

end Egress

end OpenMcc
