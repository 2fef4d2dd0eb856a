import OpenMcc.Framework.Text

/-!
# What a delivery came to (`outcome.ts`, `failure.ts`)

The outcome of one attempt at a destination, and the reasons written down for a failure of the
network.
-/

namespace OpenMcc

/-! ## Failures of the network -/

/-- What `networkReason` looks at of an error, and its message. -/
structure NetworkError where
  name : Text
  message : Text
  code : Option Text
  /-- The code of the error it names as its cause. -/
  causeCode : Option Text
  deriving DecidableEq, Repr

/-- `new InternalError(message)`, whose class keeps the name of its base. -/
def internalError (message : Text) : NetworkError where
  name := "Error".toList
  message := message
  code := none
  causeCode := none

namespace Failure

def timedOut : Text := "That address did not answer in time".toList
def refused : Text := "That address refused the connection".toList
def dropped : Text := "That address closed the connection".toList
def unreachable : Text := "That address could not be reached".toList
def insecure : Text := "That address presented a certificate we could not trust".toList

/-- `DID_NOT_GO_THROUGH`. -/
def didNotGoThrough : Text := "The delivery did not go through".toList

/-- `REASONS`. -/
def reasons : List (Text × Text) :=
  [("UND_ERR_CONNECT_TIMEOUT".toList, timedOut), ("UND_ERR_HEADERS_TIMEOUT".toList, timedOut),
    ("UND_ERR_BODY_TIMEOUT".toList, timedOut), ("ETIMEDOUT".toList, timedOut),
    ("ECONNREFUSED".toList, refused), ("ECONNRESET".toList, dropped), ("EPIPE".toList, dropped),
    ("UND_ERR_SOCKET".toList, dropped), ("EHOSTUNREACH".toList, unreachable),
    ("ENETUNREACH".toList, unreachable), ("ENETDOWN".toList, unreachable),
    ("EAI_AGAIN".toList, unreachable), ("ENOTFOUND".toList, unreachable),
    ("CERT_HAS_EXPIRED".toList, insecure), ("CERT_NOT_YET_VALID".toList, insecure),
    ("CERT_SIGNATURE_FAILURE".toList, insecure),
    ("UNABLE_TO_VERIFY_LEAF_SIGNATURE".toList, insecure),
    ("UNABLE_TO_GET_ISSUER_CERT".toList, insecure),
    ("UNABLE_TO_GET_ISSUER_CERT_LOCALLY".toList, insecure),
    ("SELF_SIGNED_CERT_IN_CHAIN".toList, insecure),
    ("DEPTH_ZERO_SELF_SIGNED_CERT".toList, insecure),
    ("ERR_TLS_CERT_ALTNAME_INVALID".toList, insecure),
    ("ERR_TLS_INVALID_PROTOCOL_VERSION".toList, insecure),
    ("ERR_SSL_WRONG_VERSION_NUMBER".toList, insecure), ("HOSTNAME_MISMATCH".toList, insecure)]

/-- `errorCode`. -/
def errorCode (error : NetworkError) : Option Text := error.code.orElse fun _ => error.causeCode

/-- The part of `networkReason` that goes by the error's code. -/
def reasonOfCode (code : Text) : Option Text :=
  match reasons.lookup code with
  | some known => some known
  | none =>
    if ["ERR_TLS".toList, "ERR_SSL".toList, "CERT_".toList, "DEPTH_".toList].any
          fun start => start.isPrefixOf code then some insecure
    else if code.includes "SELF_SIGNED".toList || code.includes "UNABLE_TO_".toList then
      some insecure
    else none

/-- `networkReason`, of an error. -/
def networkReason (error : NetworkError) : Text :=
  match (errorCode error).bind reasonOfCode with
  | some reason => reason
  | none =>
    if error.name = "AbortError".toList ∨ error.name = "TimeoutError".toList then timedOut
    else didNotGoThrough

end Failure

/-! ## Outcomes -/

/-- `DeliveryOutcome`, with the status code and the wait an answer gave. -/
inductive AttemptOutcome
  | delivered (statusCode : Option Nat)
  | retryable (statusCode : Option Nat) (reason : Text) (retryAfterSeconds : Option Nat)
  | terminal (statusCode : Option Nat) (reason : Text) (stopSending : Bool)
  deriving DecidableEq, Repr

/-- The outcome is `delivered`. -/
def AttemptOutcome.isDelivered : AttemptOutcome → Bool
  | .delivered _ => true
  | _ => false

/-- `classifyNetworkFailure`. -/
def classifyNetworkFailure (reason : Text) : AttemptOutcome := .retryable none reason none

/-- `classifyRefusal`. -/
def classifyRefusal (reason : Text) : AttemptOutcome := .terminal none reason false

/-- `classifySmtpReply`. -/
def classifySmtpReply (code : Nat) (reason : Text) : AttemptOutcome :=
  if 200 ≤ code ∧ code < 400 then .delivered (some code)
  else if 400 ≤ code ∧ code < 500 then .retryable (some code) reason none
  else .terminal (some code) reason false

lemma isDelivered_classifySmtpReply (code : Nat) (reason : Text) :
    (classifySmtpReply code reason).isDelivered = decide (200 ≤ code ∧ code < 400) := by
  unfold classifySmtpReply
  split
  · next h => simp [AttemptOutcome.isDelivered, h]
  · next h =>
    split
    all_goals simp only [AttemptOutcome.isDelivered, h, decide_false]

end OpenMcc
