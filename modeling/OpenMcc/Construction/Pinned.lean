import OpenMcc.Construction.Egress
import OpenMcc.Construction.Outcome
import OpenMcc.Framework.Dialogue

/-!
# Sending to pinned addresses (`pinned.ts`)

A name is looked up once, every address it has is checked, and the connections of the request go
to the addresses that were checked.  `resolvePinned` is written for any monad, as the lookup is an
argument of it; the mail client looks names up with it too.

`sendPinned` is a routine that asks whether its deadline has passed, looks a name up, and has the
HTTP client make the request.  What that client opens on the way is left to it, within what the
documentation of such clients promises: a host that is an address is connected to as it stands,
and any other one at an address that the lookup function of the request gave for some options.
Redirects are not followed.
-/

namespace OpenMcc.Pinned

open Egress

/-- An answer of `AddressLookup`. -/
structure LookupAnswer where
  address : Text
  family : Nat
  deriving DecidableEq, Repr

/-- `PinnedAddress`. -/
structure PinnedAddress where
  address : Text
  family : Nat
  named : Bool
  deriving DecidableEq, Repr

/-- `PinVerdict`. -/
inductive PinVerdict
  | pinned (addresses : List PinnedAddress)
  | refused (reason : Text)
  deriving DecidableEq, Repr

/-- `NO_ANSWER`. -/
def noAnswer : Text := "that address could not be looked up".toList

/-- `TOO_SLOW`. -/
def tooSlow : Text := "the delivery took too long".toList

/-! ## Resolving a name -/

/-- The loop of `resolvePinned` over the answers. -/
def pinAnswers (policy : EgressPolicy) (hostAllowed : Bool) (pinned : List PinnedAddress) :
    List LookupAnswer → PinVerdict
  | [] => .pinned pinned
  | answer :: rest =>
    let family := isIP answer.address
    if family = 0 then .refused noAnswer
    else match verifyAddress answer.address policy hostAllowed with
      | .refused reason _ => .refused reason
      | .allowed named =>
        pinAnswers policy hostAllowed
          (pinned ++ [⟨answer.address, if family = 4 then 4 else 6, named⟩]) rest

variable (toLowerCase : Text → Text)

/-- `resolvePinned`, over the answers of the lookup. -/
def pinVerdict (hostname : Text) (policy : EgressPolicy) :
    Except NetworkError (List LookupAnswer) → PinVerdict
  | .error _ => .refused noAnswer
  | .ok answers =>
    if answers.isEmpty then .refused noAnswer
    else pinAnswers policy (hostIsAllowed toLowerCase hostname policy) [] answers

/-- `resolvePinned`. -/
def resolvePinned {m : Type → Type} [Monad m] (hostname : Text) (policy : EgressPolicy)
    (lookupAddresses : Text → m (Except NetworkError (List LookupAnswer))) : m PinVerdict :=
  let hostAllowed := hostIsAllowed toLowerCase hostname policy
  let literal := isIP hostname
  if literal ≠ 0 then
    match verifyAddress hostname policy hostAllowed with
    | .refused reason _ => pure (.refused reason)
    | .allowed named => pure (.pinned [⟨hostname, if literal = 4 then 4 else 6, named⟩])
  else do
    let answers ← lookupAddresses hostname
    return pinVerdict toLowerCase hostname policy answers

/-! ## The lookup function of a request -/

/-- The `family` of a lookup's options. -/
inductive FamilyOption
  | number (family : Nat)
  | name (family : Text)
  deriving DecidableEq, Repr

/-- The options an HTTP client looks a name up with. -/
structure LookupOptions where
  family : Option FamilyOption
  all : Bool
  deriving DecidableEq, Repr

/-- `wantedFamily`. -/
def wantedFamily (family : Option FamilyOption) : Option Nat :=
  if family = some (.number 4) ∨ family = some (.name "IPv4".toList) then some 4
  else if family = some (.number 6) ∨ family = some (.name "IPv6".toList) then some 6
  else none

/-- `chosen`. -/
def chosen (addresses : List PinnedAddress) (options : LookupOptions) : List PinnedAddress :=
  match wantedFamily options.family with
  | none => addresses
  | some wanted => addresses.filter fun entry => entry.family == wanted

/-- `pinnedLookup`: the addresses it calls back with, or its error. -/
def pinnedLookup (addresses : List PinnedAddress) (options : LookupOptions) :
    Except NetworkError (List LookupAnswer) :=
  match (chosen addresses options).head? with
  | none => .error (internalError noAnswer)
  | some first =>
    if options.all then
      .ok ((chosen addresses options).map fun entry => ⟨entry.address, entry.family⟩)
    else .ok [⟨first.address, first.family⟩]

/-! ## The request -/

/-- `PinnedRequest`, without the limits of time and size. -/
structure PinnedRequest where
  url : Text
  method : Text
  headers : List (Text × Text)
  body : Option Text
  policy : EgressPolicy
  deriving DecidableEq, Repr

/-- A header of a response, given once or several times. -/
inductive HeaderValue
  | single (value : Text)
  | several (values : List Text)
  | absent
  deriving DecidableEq, Repr

/-- `flatten`. -/
def flatten (headers : List (Text × HeaderValue)) : List (Text × Text) :=
  headers.filterMap fun (key, value) =>
    match value with
    | .single value => some (key, value)
    | .several values => some (key, Text.join ", ".toList values)
    | .absent => none

/-- What the HTTP client answers. -/
structure HttpResponse where
  status : Nat
  headers : List (Text × HeaderValue)
  body : Text
  deriving DecidableEq, Repr

/-- `PinnedResult`. -/
inductive PinnedResult
  | sent (status : Nat) (headers : List (Text × Text)) (body : Text)
  | unsent (reason : Text)
  deriving DecidableEq, Repr

/-- What `sendPinned` asks. -/
inductive PinAsk
  /-- `deadline.aborted`. -/
  | aborted
  /-- The lookup, raced against the deadline. -/
  | lookup (hostname : Text)
  /-- `undiciRequest`, with the addresses its agent's lookup function knows. -/
  | request (request : PinnedRequest) (addresses : List PinnedAddress)
  deriving DecidableEq, Repr

/-- The answers to what `sendPinned` asks.  A lookup has none where the deadline passes first. -/
abbrev PinAnswer : PinAsk → Type
  | .aborted => Bool
  | .lookup _ => Option (Except NetworkError (List LookupAnswer))
  | .request _ _ => Except NetworkError HttpResponse

/-- A routine that may throw. -/
abbrev Sending := Routine PinAsk PinAnswer Unit NetworkError

/-- The lookup inside `beforeDeadline`. -/
def lookupBeforeDeadline (hostname : Text) :
    Sending (Except NetworkError (List LookupAnswer)) := do
  let lookup : Sending (Option (Except NetworkError (List LookupAnswer))) :=
    Routine.ask (PinAsk.lookup hostname)
  match ← lookup with
  | none => throw (internalError tooSlow)
  | some answers => return answers

/-- The last part of `sendPinned`, with the addresses of the verdict. -/
def sendTo (request : PinnedRequest) (protocol : Text) (addresses : List PinnedAddress) :
    Sending PinnedResult :=
  if protocol = "http:".toList ∧ ¬ (addresses.all fun entry => entry.named) then
    return .unsent insecure
  else do
    let undiciRequest : Sending (Except NetworkError HttpResponse) :=
      Routine.ask (PinAsk.request request addresses)
    match ← undiciRequest with
    | .error error => throw error
    | .ok response => return .sent response.status (flatten response.headers) response.body

/-- The protocol of a request. -/
def requestProtocol (parseUrl : Text → Option Url) (request : PinnedRequest) : Text :=
  ((parseUrl request.url).map (·.protocol)).getD []

/-- `sendPinned`. -/
def sendPinned (parseUrl : Text → Option Url) (request : PinnedRequest) : Sending PinnedResult :=
  match verifyDestinationUrl toLowerCase parseUrl request.url request.policy with
  | .refused reason _ => return .unsent reason
  | .allowed hostname => do
    if ← Routine.ask .aborted then throw (internalError tooSlow)
    else
      match ← resolvePinned toLowerCase (bareHostname hostname) request.policy lookupBeforeDeadline
        with
      | .refused reason => return .unsent reason
      | .pinned addresses => sendTo request (requestProtocol parseUrl request) addresses

/-! ## The outside of a request -/

/-- What happens in a call, as far as it can be seen from outside, the latest first. -/
inductive PinEvent
  | lookedUp (hostname : Text) (answers : List LookupAnswer)
  | requested (request : PinnedRequest) (addresses : List PinnedAddress)
  | opened (address : Text)
  deriving DecidableEq, Repr

/-- How the outside answers: the choices left open. -/
inductive PinChoice
  | aborted (passed : Bool)
  | looksUp (answers : Option (Except NetworkError (List LookupAnswer)))
  /-- The connections the client opens for the request, each with the options it looks the host up
  with and which of the addresses it takes, and what it answers in the end. -/
  | responds (dials : List (LookupOptions × Nat)) (response : Except NetworkError HttpResponse)

/-- The address a connection of the HTTP client goes to. -/
def dialled (host : Text) (addresses : List PinnedAddress) (dial : LookupOptions × Nat) :
    Option Text :=
  if isIP host ≠ 0 then some host
  else match pinnedLookup addresses dial.1 with
    | .error _ => none
    | .ok answers => (answers[dial.2]?).map (·.address)

/-- What a call leaves to be seen of an answered lookup. -/
def lookedUpEvents (hostname : Text) :
    Option (Except NetworkError (List LookupAnswer)) → List PinEvent
  | some (.ok answers) => [.lookedUp hostname answers]
  | _ => []

/-- The host of a request, as an address is written. -/
def requestHost (parseUrl : Text → Option Url) (request : PinnedRequest) : Text :=
  ((parseUrl request.url).map fun url => bareHostname url.hostname).getD []

/-- What a call leaves to be seen of a request. -/
def requestEvents (host : Text) (request : PinnedRequest) (addresses : List PinnedAddress)
    (dials : List (LookupOptions × Nat)) : List PinEvent :=
  (dials.filterMap (dialled host addresses)).map .opened ++ [.requested request addresses]

/-- The outside of a call of `sendPinned`. -/
def pinOutside (parseUrl : Text → Option Url) :
    Outside PinAsk PinAnswer (List PinEvent) Empty PinChoice where
  turn _ t := nomatch t
  answer log q choice :=
    match q, choice with
    | .aborted, .aborted passed => some (passed, log)
    | .lookup hostname, .looksUp answers => some (answers, lookedUpEvents hostname answers ++ log)
    | .request request addresses, .responds dials response =>
      some (response,
        requestEvents (requestHost parseUrl request) request addresses dials ++ log)
    | _, _ => none

end OpenMcc.Pinned
