import OpenMcc.Construction.Pinned
import OpenMcc.Construction.Producer
import OpenMcc.Construction.SmtpClient
import OpenMcc.Framework.Base64
import OpenMcc.Framework.DateText
import OpenMcc.Framework.Json
import OpenMcc.Framework.Utf8

/-!
# What a destination is sent (`sender.ts`, `bounds.ts`, `notification.ts`)

Seven kinds of destinations are sent the title and the text of a notification in a JSON body.  For
`ntfy` the text is the body, and the title is a header.

The digest of a signature is a parameter, as are the text that a number has and the number that a
text stands for (`NumberText`).
-/

namespace OpenMcc

open Pinned (PinnedRequest)
open Smtp (truncateChars)

/-! ## Bounds -/

/-- `byteLength`. -/
def byteLength (text : Text) : Nat := (Utf8.encode text).length

/-- The loop of `truncateBytes`: the characters that fit. -/
def keepBytes (budget used : Nat) : Text → Text
  | [] => []
  | point :: text =>
    if budget < used + byteLength [point] then []
    else point :: keepBytes budget (used + byteLength [point]) text

/-- `truncateBytes`. -/
def truncateBytes (text : Text) (max : Nat) : Text :=
  if byteLength text ≤ max then text
  else
    let marker := byteLength ['…']
    if marker < max then keepBytes (max - marker) 0 text ++ ['…'] else keepBytes max 0 text

/-! ## Names and notifications -/

/-- The check of a name in `createHostInput` and in `createInstanceInput`. -/
def isAcceptedName (name : Text) : Bool := 1 ≤ name.utf16Length && name.utf16Length ≤ 64

/-- The name of a kind. -/
def NotificationKind.name : NotificationKind → Text
  | .hostUnreachable => "host.unreachable".toList
  | .hostDriftStarted => "host.drift_started".toList
  | .instanceDisconnected => "instance.disconnected".toList
  | .instanceFlapping => "instance.flapping".toList
  | .instanceNeverJoined => "instance.never_joined".toList
  | .instanceUnexpectedStop => "instance.unexpected_stop".toList
  | .instanceNeedsAuth => "instance.needs_auth".toList
  | .instanceDriftStarted => "instance.drift_started".toList
  | .hostRecovered => "host.recovered".toList
  | .hostDriftResolved => "host.drift_resolved".toList
  | .instanceReconnected => "instance.reconnected".toList
  | .instanceProcessRecovered => "instance.process_recovered".toList
  | .instanceDriftResolved => "instance.drift_resolved".toList
  | .test => "test".toList

/-- `RESOLVING`. -/
def NotificationKind.isResolving : NotificationKind → Bool
  | .hostRecovered | .hostDriftResolved | .instanceReconnected | .instanceProcessRecovered
  | .instanceDriftResolved => true
  | _ => false

/-- What a notification has besides what it says. -/
structure Occurrence where
  id : Text
  deliveryId : Text
  subjectType : Text
  subjectId : Text
  occurredAt : Date
  deriving DecidableEq, Repr

/-- `NotificationEnvelope`. -/
structure NotificationEnvelope extends Occurrence, NotificationCopy where
  kind : NotificationKind
  deriving DecidableEq, Repr

/-- The envelope of a notification about a host or a bot of this name. -/
def envelopeOf (occurrence : Occurrence) (kind : NotificationKind) (name : Text) :
    NotificationEnvelope where
  toOccurrence := occurrence
  toNotificationCopy := notificationCopy kind name
  kind := kind

/-! ## Destinations -/

/-- The settings of the kinds of `HTTP_DESTINATION_KINDS`. -/
inductive HttpDestination
  | webhook (url : Text) (signingSecrets : List Text)
  | telegram (botToken chatId : Text) (messageThreadId : Option Int)
  | discord (url : Text)
  | slack (url : Text)
  | teams (url : Text)
  | gotify (serverUrl appToken : Text) (priority : Int)
  | ntfy (serverUrl topic : Text) (priority : Int) (accessToken : Option Text)
  | resend (apiKey fromAddress : Text) (toAddresses : List Text)
  deriving DecidableEq, Repr

/-- A text of a length between these bounds. -/
def hasLength (least most : Nat) (t : Text) : Bool :=
  least ≤ t.utf16Length && t.utf16Length ≤ most

/-- A text that `/^[-_A-Za-z0-9]{1,64}$/` matches. -/
def isTopic (t : Text) : Bool :=
  hasLength 1 64 t && t.all fun c => c.isAlphanum || c == '-' || c == '_'

/-- The schemas of the settings: `webhookConfigInput` and those after it.  The checks of web
addresses and of mail addresses are those of the schema library. -/
def HttpDestination.isAccepted (isUrl isEmail : Text → Bool) : HttpDestination → Bool
  | .webhook url _ | .discord url | .slack url | .teams url => isUrl url && hasLength 0 2048 url
  | .telegram botToken chatId messageThreadId =>
    hasLength 1 256 botToken && hasLength 1 64 chatId && messageThreadId.all (0 < ·)
  | .gotify serverUrl appToken priority =>
    isUrl serverUrl && hasLength 0 2048 serverUrl && hasLength 1 256 appToken &&
      0 ≤ priority && priority ≤ 10
  | .ntfy serverUrl topic priority accessToken =>
    isUrl serverUrl && hasLength 0 2048 serverUrl && isTopic topic &&
      1 ≤ priority && priority ≤ 5 && accessToken.all (hasLength 0 256)
  | .resend apiKey fromAddress toAddresses =>
    hasLength 1 256 apiKey && isEmail fromAddress && toAddresses.all isEmail &&
      1 ≤ toAddresses.length && toAddresses.length ≤ 20

/-- The credentials that go into a header. -/
def HttpDestination.credentials : HttpDestination → List Text
  | .gotify _ appToken _ => [appToken]
  | .ntfy _ _ _ accessToken => accessToken.toList
  | .resend apiKey _ _ => [apiKey]
  | _ => []

/-! ## Requests -/

/-- `JSON_HEADERS`. -/
def jsonHeaders : List (Text × Text) :=
  [("content-type".toList, "application/json".toList), ("user-agent".toList, "OpenMCC".toList)]

/-- `plainText`, and `telegramText`. -/
def plainText (envelope : NotificationEnvelope) : Text := envelope.title ++ '\n' :: envelope.body

/-- `serverUrl.replace(/\/+$/, "")`. -/
def withoutSlashes (serverUrl : Text) : Text := (serverUrl.reverse.dropWhile (· == '/')).reverse

section Requests

variable (digest : Text → Text → List UInt8) (numbers : Json.NumberText Int)

/-- `webhookBody`. -/
def webhookBody (envelope : NotificationEnvelope) : Json Text Int :=
  .object
    [("type".toList, .string envelope.kind.name),
      ("timestamp".toList, .string envelope.occurredAt.toISOString),
      ("data".toList, .object
        [("id".toList, .string envelope.id),
          ("title".toList, .string envelope.title),
          ("body".toList, .string envelope.body),
          ("subject".toList, .object
            [("type".toList, .string envelope.subjectType),
              ("id".toList, .string envelope.subjectId)])])]

/-- `signPayload`: `digest` is the one of a secret and what is signed. -/
def signPayload (secret id timestamp body : Text) : Text :=
  "v1,".toList ++ Base64.encode (digest secret (id ++ '.' :: timestamp ++ '.' :: body))

/-- `signatureHeader`. -/
def signatureHeader (secrets : List Text) (id timestamp body : Text) : Text :=
  Text.join " ".toList (secrets.map fun secret => signPayload digest secret id timestamp body)

/-- The body that `deliverTelegram` sends. -/
def telegramBody (chatId : Text) (messageThreadId : Option Int) (envelope : NotificationEnvelope) :
    Json Text Int :=
  .object
    ([("chat_id".toList, .string chatId),
        ("text".toList, .string (plainText envelope)),
        ("disable_notification".toList, .bool false),
        ("disable_web_page_preview".toList, .bool true)] ++
      messageThreadId.toList.map fun thread => ("message_thread_id".toList, .number thread))

/-- `discordBody`, with `DISCORD_CONTENT_CHARS`. -/
def discordBody (envelope : NotificationEnvelope) : Json Text Int :=
  .object [("content".toList, .string (truncateChars (plainText envelope) 2000))]

/-- `slackBody`, with `SLACK_TEXT_CHARS`. -/
def slackBody (envelope : NotificationEnvelope) : Json Text Int :=
  .object [("text".toList, .string (truncateChars (plainText envelope) 4000))]

/-- `teamsTitle`, with `TEAMS_TITLE_CHARS`. -/
def teamsTitle (envelope : NotificationEnvelope) : Text :=
  (if envelope.kind.isResolving then "\u2705".toList else "\u26a0\ufe0f".toList) ++
    ' ' :: truncateChars envelope.title 250

/-- `teamsBody`, with `TEAMS_TEXT_BYTES`. -/
def teamsBody (envelope : NotificationEnvelope) : Json Text Int :=
  .object
    [("type".toList, .string "message".toList),
      ("attachments".toList, .array
        [.object
          [("contentType".toList, .string "application/vnd.microsoft.card.adaptive".toList),
            ("content".toList, .object
              [("type".toList, .string "AdaptiveCard".toList),
                ("$schema".toList,
                  .string "http://adaptivecards.io/schemas/adaptive-card.json".toList),
                ("version".toList, .string "1.2".toList),
                ("body".toList, .array
                  [.object
                    [("type".toList, .string "TextBlock".toList),
                      ("text".toList, .string (teamsTitle envelope)),
                      ("size".toList, .string "Medium".toList),
                      ("weight".toList, .string "Bolder".toList),
                      ("wrap".toList, .bool true)],
                    .object
                      [("type".toList, .string "TextBlock".toList),
                        ("text".toList, .string (truncateBytes envelope.body 20000)),
                        ("wrap".toList, .bool true)]])])]])]

/-- `gotifyBody`, with `TEAMS_TITLE_CHARS` and `OPERATIONAL_TEXT_CHARS`. -/
def gotifyBody (envelope : NotificationEnvelope) (priority : Int) : Json Text Int :=
  .object
    [("title".toList, .string (truncateChars envelope.title 250)),
      ("message".toList, .string (truncateChars envelope.body 4000)),
      ("priority".toList, .number priority),
      ("extras".toList, .object
        [("client::display".toList, .object
          [("contentType".toList, .string "text/plain".toList)])])]

/-- `resendBody`, with `TEAMS_TITLE_CHARS` and `OPERATIONAL_TEXT_CHARS`. -/
def resendBody (envelope : NotificationEnvelope) (fromAddress : Text) (toAddresses : List Text) :
    Json Text Int :=
  .object
    [("from".toList, .string fromAddress),
      ("to".toList, .array (toAddresses.map .string)),
      ("subject".toList, .string (truncateChars envelope.title 250)),
      ("text".toList, .string (truncateChars envelope.body 4000))]

/-- A request to post a text. -/
def post (policy : EgressPolicy) (url : Text) (headers : List (Text × Text)) (body : Text) :
    PinnedRequest where
  url := url
  method := "POST".toList
  headers := headers
  body := some body
  policy := policy

/-- The request of `deliverWebhook`, `deliverTelegram`, `deliverDiscord`, `deliverSlack`,
`deliverTeams`, `deliverGotify`, `deliverNtfy` and `deliverResend`. -/
def HttpDestination.request (policy : EgressPolicy) (now : Int) (envelope : NotificationEnvelope) :
    HttpDestination → PinnedRequest
  | .webhook url signingSecrets =>
    let body := Json.stringify numbers.write (webhookBody envelope)
    let timestamp := numbers.write (now / 1000)
    post policy url
      [("content-type".toList, "application/json".toList), ("user-agent".toList, "OpenMCC".toList),
        ("webhook-id".toList, envelope.id), ("webhook-timestamp".toList, timestamp),
        ("webhook-signature".toList,
          signatureHeader digest signingSecrets envelope.id timestamp body)]
      body
  | .telegram botToken chatId messageThreadId =>
    post policy ("https://api.telegram.org/bot".toList ++ botToken ++ "/sendMessage".toList)
      [("content-type".toList, "application/json".toList), ("user-agent".toList, "OpenMCC".toList)]
      (Json.stringify numbers.write (telegramBody chatId messageThreadId envelope))
  | .discord url =>
    post policy url jsonHeaders (Json.stringify numbers.write (discordBody envelope))
  | .slack url => post policy url jsonHeaders (Json.stringify numbers.write (slackBody envelope))
  | .teams url => post policy url jsonHeaders (Json.stringify numbers.write (teamsBody envelope))
  | .gotify serverUrl appToken priority =>
    post policy (withoutSlashes serverUrl ++ "/message".toList)
      (jsonHeaders ++ [("x-gotify-key".toList, appToken)])
      (Json.stringify numbers.write (gotifyBody envelope priority))
  | .ntfy serverUrl topic priority accessToken =>
    post policy (withoutSlashes serverUrl ++ '/' :: topic)
      ([("content-type".toList, "text/plain; charset=utf-8".toList),
          ("user-agent".toList, "OpenMCC".toList),
          ("x-title".toList, truncateChars envelope.title 250),
          ("x-priority".toList, numbers.write priority)] ++
        accessToken.toList.map fun token => ("authorization".toList, "Bearer ".toList ++ token))
      (truncateBytes envelope.body 4096)
  | .resend apiKey fromAddress toAddresses =>
    post policy "https://api.resend.com/emails".toList
      (jsonHeaders ++
        [("authorization".toList, "Bearer ".toList ++ apiKey),
          ("idempotency-key".toList, envelope.deliveryId)])
      (Json.stringify numbers.write (resendBody envelope fromAddress toAddresses))

end Requests

/-! ## The client and the receiver -/

/-- A character that the HTTP client takes in a header. -/
def isHeaderChar (c : Char) : Bool :=
  c == '\t' || (' ' ≤ c && c ≤ '~') || ('\x80' ≤ c && c ≤ 'ÿ')

/-- The HTTP client takes the headers. -/
def clientTakes (request : PinnedRequest) : Bool :=
  request.headers.all fun (_, value) => value.all isHeaderChar

/-- A blank that is no part of a header where it stands at an end. -/
def isPadding (c : Char) : Bool := c == ' ' || c == '\t'

/-- A header as it is received: a character is one byte, and the blanks around a value are not part
of it. -/
def receivedHeader (value : Text) : Text :=
  let bytes := value.map fun c => UInt8.ofNat c.toNat
  let text := bytes.map fun b => Char.ofNat b.toNat
  ((text.dropWhile isPadding).reverse.dropWhile isPadding).reverse

/-- The body as it is received: the bytes of the text. -/
def receivedBody (request : PinnedRequest) : Option Text :=
  request.body.bind fun body => Utf8.decode (Utf8.encode body)

/-- The strings at these places of a JSON body. -/
def receivedStrings (toNumber : Text → Int) (request : PinnedRequest)
    (places : List (List Json.Place)) : Option (List Json.Units) := do
  let body ← receivedBody request
  let v ← Json.parse toNumber body
  places.mapM fun place => (v.follow place).bind Json.asString

/-- What a receiver gets of a notification. -/
def HttpDestination.received (toNumber : Text → Int) (request : PinnedRequest) :
    HttpDestination → Option (List Json.Units)
  | .webhook .. =>
    receivedStrings toNumber request
      [[.member "data", .member "title"], [.member "data", .member "body"]]
  | .telegram .. | .slack .. => receivedStrings toNumber request [[.member "text"]]
  | .discord .. => receivedStrings toNumber request [[.member "content"]]
  | .teams .. =>
    receivedStrings toNumber request
      [[.member "attachments", .item 0, .member "content", .member "body", .item 0, .member "text"],
        [.member "attachments", .item 0, .member "content", .member "body", .item 1,
          .member "text"]]
  | .gotify .. => receivedStrings toNumber request [[.member "title"], [.member "message"]]
  | .ntfy .. => do
    let title ← request.headers.lookup "x-title".toList
    let body ← receivedBody request
    return [Json.units (receivedHeader title), Json.units body]
  | .resend .. => receivedStrings toNumber request [[.member "subject"], [.member "text"]]

/-- What a receiver is to get: the title and the text, within the bounds of the sender, and before
the title that `deliverTeams` sends its mark. -/
def HttpDestination.expected (kind : NotificationKind) (copy : NotificationCopy) :
    HttpDestination → List Text
  | .webhook .. => [copy.title, copy.body]
  | .telegram .. => [copy.title ++ '\n' :: copy.body]
  | .discord .. => [truncateChars (copy.title ++ '\n' :: copy.body) 2000]
  | .slack .. => [truncateChars (copy.title ++ '\n' :: copy.body) 4000]
  | .teams .. =>
    [(if kind.isResolving then "\u2705".toList else "\u26a0\ufe0f".toList) ++
        ' ' :: truncateChars copy.title 250,
      truncateBytes copy.body 20000]
  | .gotify .. | .resend .. => [truncateChars copy.title 250, truncateChars copy.body 4000]
  | .ntfy .. => [truncateChars copy.title 250, truncateBytes copy.body 4096]

end OpenMcc
