import Mathlib.Logic.Function.Basic
import OpenMcc.Construction.Pinned
import OpenMcc.Construction.SmtpReply

/-!
# Sending an alert by mail (`smtp.client.ts`, `smtp.sender.ts`, `smtp.connect.ts`)

`deliverEmail` looks the mail server up and goes through the addresses it has, and `converse` holds
the conversation with one of them.  Both are programs in dialogue with an outside: the servers, the
network between, and the sockets of the process.

A socket is a number.  Text that arrives is given to the readers that listen on its socket, at any
moment and cut in any way; a socket fails, ends or times out at any moment too, so the timers of
`watch` are part of the outside.  A socket that an upgrade returned is another one than the socket
that was upgraded, and emits what its secured session carries.

A line is written as the text the source gives it, but what the outside answers does not depend on
the text here, so a `Line` only says which line it is and what it is made of.
-/

namespace OpenMcc.Smtp

open Pinned

/-! ## What is said -/

/-- `SmtpMessage`. -/
structure SmtpMessage where
  id : Text
  fromAddress : Text
  toAddresses : List Text
  subject : Text
  text : Text
  sentAt : Int
  deriving DecidableEq, Repr

/-- The lines `converse` writes. -/
inductive Line
  | ehlo
  | startTls
  /-- `AUTH PLAIN` with both credentials. -/
  | authPlain (username password : Text)
  | authLogin
  /-- The answer to the first prompt of `AUTH LOGIN`. -/
  | username (username : Text)
  /-- The answer to the second. -/
  | password (password : Text)
  | mailFrom (sender : Text)
  | rcptTo (recipient : Text)
  | data
  /-- The message with the line that ends it. -/
  | message (message : SmtpMessage)
  | quit
  deriving DecidableEq, Repr

/-- The lines that come before the sign-in; every other one belongs to the sign-in, to the message
or to what names its sender and recipients, or ends the conversation. -/
def Line.isOpening : Line → Bool
  | .ehlo | .startTls => true
  | _ => false

/-- `IMPLICIT_TLS_PORT`. -/
def implicitTlsPort : Nat := 465

/-- `needsStartTls`. -/
def needsStartTls (port : Nat) : Bool := port != implicitTlsPort

/-- What the programs ask. -/
inductive SmtpAsk
  | lookup (hostname : Text)
  | openPinned (address : Text) (port : Nat)
  | upgrade (socket : Nat)
  | createReader (socket : Nat)
  | residual (reader : Nat)
  | stop (reader : Nat)
  | destroy (socket : Nat)
  /-- `socket.write`, up to its callback. -/
  | write (socket : Nat) (line : Line)
  /-- The callback of the write. -/
  | written (socket : Nat)
  /-- `reader.read`, up to its promise. -/
  | read (reader : Nat)
  /-- The promise of the read. -/
  | reply (reader : Nat)
  deriving DecidableEq, Repr

/-- The answers to what the programs ask. -/
abbrev SmtpAnswer : SmtpAsk → Type
  | .lookup _ => Except NetworkError (List LookupAnswer)
  | .openPinned _ _ | .upgrade _ => Except NetworkError Nat
  | .createReader _ => Nat
  | .residual _ => Text
  | .stop _ | .destroy _ | .write _ _ | .read _ => Unit
  | .written _ => Except NetworkError Unit
  | .reply _ => Except NetworkError SmtpReply

/-! ## The conversation -/

def injected : Text := "That mail server's reply looked tampered with".toList
def noTls : Text := "That mail server would not start a secure session".toList
def noAuth : Text := "That mail server does not accept the sign-in we support".toList
def refused : Text := "That mail server refused the message".toList
def refusedRecipient : Text := "That mail server refused one of the addresses".toList
def someRefused : Text := "That mail server refused one or more of the addresses".toList
def unexpected : Text := "That mail server answered in a way we did not expect".toList

/-- `Conversation`. -/
inductive Conversation
  | settled (outcome : AttemptOutcome)
  | tryNextAddress (outcome : AttemptOutcome)
  deriving DecidableEq, Repr

/-- `byReply`. -/
def byReply (code : Nat) (reason : Text) : Conversation :=
  if isTransient code then .tryNextAddress (classifySmtpReply code reason)
  else .settled (classifySmtpReply code reason)

/-- `SmtpCredentials`, without the host name, which `converse` does not use. -/
structure SmtpCredentials where
  port : Nat
  username : Text
  password : Text
  deriving DecidableEq, Repr

/-- The variables of `converse`. -/
structure Locals where
  dataWritten : Bool
  socket : Nat
  reader : Nat
  deriving DecidableEq, Repr

/-- The ways `converse` leaves its `try` before the end. -/
inductive Exit
  | returns (conversation : Conversation)
  | throws (error : NetworkError)
  deriving DecidableEq, Repr

/-- The part of `converse` inside its `try`. -/
abbrev Talk := Routine SmtpAsk SmtpAnswer Locals Exit

/-- A promise that is awaited: it throws where it is rejected. -/
def awaited {α : Type} (promise : Talk (Except NetworkError α)) : Talk α := do
  match ← promise with
  | .ok a => return a
  | .error error => throw (.throws error)

/-- `say`, to the present socket. -/
def say (line : Line) : Talk Unit := do
  let locals ← get
  Routine.ask (SmtpAsk.write locals.socket line)
  awaited (Routine.ask (SmtpAsk.written locals.socket))

/-- `reader.read()`, of the present reader. -/
def read : Talk SmtpReply := do
  let locals ← get
  Routine.ask (SmtpAsk.read locals.reader)
  awaited (Routine.ask (SmtpAsk.reply locals.reader))

/-- `step`. -/
def step (line : Line) : Talk SmtpReply := do
  say line
  read

/-- A `return` in the middle of `converse`, where the condition for going on does not hold. -/
def goOnIf (condition : Bool) (otherwise : Conversation) : Talk Unit :=
  if condition then pure () else throw (.returns otherwise)

/-- `EHLO`, before and after the upgrade. -/
def hello : Talk SmtpReply := do
  let capabilities ← step .ehlo
  goOnIf capabilities.isPositive (byReply capabilities.code unexpected)
  return capabilities

section Conversations

variable (toUpperCase : Text → Text)

/-- `converse`, where the port needs `STARTTLS`. -/
def startTls (capabilities : SmtpReply) : Talk SmtpReply := do
  goOnIf (advertises toUpperCase capabilities "STARTTLS".toList)
    (.settled (classifyRefusal noTls))
  let ready ← step .startTls
  goOnIf ready.isPositive (byReply ready.code noTls)
  let locals ← get
  let residual ← Routine.ask (SmtpAsk.residual locals.reader)
  goOnIf residual.isEmpty (.settled (classifyRefusal injected))
  Routine.ask (SmtpAsk.stop locals.reader)
  let socket ← awaited (Routine.ask (SmtpAsk.upgrade locals.socket))
  modify fun locals => { locals with socket := socket }
  let reader ← Routine.ask (SmtpAsk.createReader socket)
  modify fun locals => { locals with reader := reader }
  hello

/-- `converse`, the sign-in. -/
def signIn (credentials : SmtpCredentials) (capabilities : SmtpReply) : Talk Unit :=
  let mechanisms := authMechanisms toUpperCase capabilities
  if mechanisms.contains "PLAIN".toList then do
    let signedIn ← step (.authPlain credentials.username credentials.password)
    goOnIf signedIn.isPositive (byReply signedIn.code noAuth)
  else if mechanisms.contains "LOGIN".toList then do
    let asked ← step .authLogin
    goOnIf (asked.code == 334) (byReply asked.code noAuth)
    let wantsPassword ← step (.username credentials.username)
    goOnIf (wantsPassword.code == 334) (byReply wantsPassword.code noAuth)
    let signedIn ← step (.password credentials.password)
    goOnIf signedIn.isPositive (byReply signedIn.code noAuth)
  else throw (.returns (.settled (classifyRefusal noAuth)))

/-- `converse`, the loop over the recipients: how many were taken, and the codes that refused. -/
def nameRecipients (takers : Nat) (refusals : List Nat) : List Text → Talk (Nat × List Nat)
  | [] => return (takers, refusals)
  | recipient :: rest => do
    let answer ← step (.rcptTo recipient)
    if answer.isPositive then nameRecipients (takers + 1) refusals rest
    else nameRecipients takers (refusals ++ [answer.code]) rest

/-- `explains`. -/
def explains (refusals : List Nat) : Nat :=
  ((refusals.find? fun code => !isTransient code).orElse fun _ => refusals.head?).getD 550

/-- `landed`. -/
def landed (accepted : SmtpReply) (refusals : List Nat) : Conversation :=
  if refusals.length = 0 then .settled (.delivered (some accepted.code))
  else .settled (.terminal (some (explains refusals)) someRefused false)

/-- `converse`, from `DATA` on. -/
def sendMessage (message : SmtpMessage) (refusals : List Nat) : Talk Conversation := do
  let opened ← step .data
  goOnIf (opened.code == 354) (byReply opened.code refused)
  modify fun locals => { locals with dataWritten := true }
  let accepted ← step (.message message)
  goOnIf accepted.isPositive (byReply accepted.code refused)
  tryCatch (say .quit) fun _ => return ()
  return landed accepted refusals

/-- `converse`, from `MAIL FROM` on. -/
def transfer (message : SmtpMessage) : Talk Conversation := do
  let sender ← step (.mailFrom message.fromAddress)
  goOnIf sender.isPositive (byReply sender.code refused)
  let (takers, refusals) ← nameRecipients 0 [] message.toAddresses
  goOnIf (takers != 0) (byReply (explains refusals) refusedRecipient)
  sendMessage message refusals

/-- `converse`, the upgrade: the capabilities to go on with. -/
def secureSession (port : Nat) (capabilities : SmtpReply) : Talk SmtpReply :=
  if needsStartTls port then startTls toUpperCase capabilities else return capabilities

/-- `converse`, the part inside its `try`. -/
def exchange (credentials : SmtpCredentials) (message : SmtpMessage) : Talk Conversation := do
  let greeting ← read
  goOnIf greeting.isPositive (byReply greeting.code unexpected)
  let first ← hello
  let capabilities ← secureSession toUpperCase credentials.port first
  signIn toUpperCase credentials capabilities
  transfer message

/-- The outcome `converse` has for an error it caught. -/
def caught (error : NetworkError) : AttemptOutcome :=
  .retryable none (if error.message = tooSlow then tooSlow else Failure.networkReason error) none

/-- What `converse` returns after its `try` and `catch`. -/
def concluded : Except Exit Conversation × Locals → Conversation
  | (.ok conversation, _) | (.error (.returns conversation), _) => conversation
  | (.error (.throws error), locals) =>
    if locals.dataWritten then .settled (caught error) else .tryNextAddress (caught error)

/-- `converse`. -/
def converse (connected : Nat) (credentials : SmtpCredentials) (message : SmtpMessage) :
    Dialogue SmtpAsk SmtpAnswer Conversation := do
  let reader ← Dialogue.send (SmtpAsk.createReader connected)
  let ending ← (exchange toUpperCase credentials message).run.run ⟨false, connected, reader⟩
  Dialogue.send (SmtpAsk.stop ending.2.reader)
  Dialogue.send (SmtpAsk.destroy ending.2.socket)
  return concluded ending

end Conversations

/-! ## The addresses of the server -/

/-- `NOWHERE`. -/
def nowhere : Text := "that mail server could not be reached".toList

/-- `truncateChars`. -/
def truncateChars (text : Text) (max : Nat) : Text :=
  if text.length ≤ max then text
  else if max ≤ 1 then text.take max
  else text.take (max - 1) ++ ['…']

/-- `EmailSettings`. -/
structure EmailSettings where
  smtpServer : Text
  smtpPort : Nat
  username : Text
  password : Text
  fromAddress : Text
  toAddresses : List Text
  deriving DecidableEq, Repr

/-- What `emailMessage` reads of a `NotificationEnvelope`. -/
structure Envelope where
  deliveryId : Text
  title : Text
  body : Text
  deriving DecidableEq, Repr

/-- `emailMessage`, with `EMAIL_SUBJECT_CHARS` and `EMAIL_TEXT_CHARS`. -/
def emailMessage (settings : EmailSettings) (envelope : Envelope) (sentAt : Int) : SmtpMessage where
  id := envelope.deliveryId
  fromAddress := settings.fromAddress
  toAddresses := settings.toAddresses
  subject := truncateChars envelope.title 250
  text := truncateChars (envelope.title ++ "\n\n".toList ++ envelope.body) 4000
  sentAt := sentAt

/-- The credentials `deliverEmail` gives to `converse`. -/
def EmailSettings.credentials (settings : EmailSettings) : SmtpCredentials where
  port := settings.smtpPort
  username := settings.username
  password := settings.password

section Delivering

variable (toUpperCase toLowerCase : Text → Text)

/-- `secure`, where the port does not need `STARTTLS`. -/
def secured (port socket : Nat) : Dialogue SmtpAsk SmtpAnswer (Except NetworkError Nat) :=
  if needsStartTls port then return .ok socket else Dialogue.send (SmtpAsk.upgrade socket)

/-- One turn of the loop of `deliverEmail`: what its failure is, or what it returns. -/
def tryAddress (settings : EmailSettings) (message : SmtpMessage) (pinned : PinnedAddress) :
    Dialogue SmtpAsk SmtpAnswer Conversation := do
  match ← Dialogue.send (SmtpAsk.openPinned pinned.address settings.smtpPort) with
  | .error error =>
    return .tryNextAddress (classifyNetworkFailure (Failure.networkReason error))
  | .ok opened =>
    match ← secured settings.smtpPort opened with
    | .error error => do
      Dialogue.send (SmtpAsk.destroy opened)
      return .tryNextAddress (classifyNetworkFailure (Failure.networkReason error))
    | .ok socket => converse toUpperCase socket settings.credentials message

/-- The loop of `deliverEmail` over the pinned addresses. -/
def tryAddresses (settings : EmailSettings) (message : SmtpMessage) (lastFailure : AttemptOutcome) :
    List PinnedAddress → Dialogue SmtpAsk SmtpAnswer AttemptOutcome
  | [] => return lastFailure
  | pinned :: rest => do
    match ← tryAddress toUpperCase settings message pinned with
    | .settled outcome => return outcome
    | .tryNextAddress outcome => tryAddresses settings message outcome rest

/-- `deliverEmail`, with the verdict on the host. -/
def deliverTo (settings : EmailSettings) (message : SmtpMessage) :
    PinVerdict → Dialogue SmtpAsk SmtpAnswer AttemptOutcome
  | .refused reason => return classifyRefusal reason
  | .pinned addresses =>
    tryAddresses toUpperCase settings message (classifyRefusal nowhere) addresses

/-- The host name `deliverEmail` resolves. -/
def EmailSettings.hostname (settings : EmailSettings) : Text :=
  toLowerCase (Egress.bareHostname settings.smtpServer)

/-- `deliverEmail`. -/
def deliverEmail (settings : EmailSettings) (envelope : Envelope) (policy : EgressPolicy)
    (sentAt : Int) : Dialogue SmtpAsk SmtpAnswer AttemptOutcome := do
  let verdict ← resolvePinned toLowerCase (settings.hostname toLowerCase) policy
    fun hostname => Dialogue.send (SmtpAsk.lookup hostname)
  deliverTo toUpperCase settings (emailMessage settings envelope sentAt) verdict

end Delivering

/-! ## The outside -/

/-- What happens in a call, as far as it can be seen from outside. -/
inductive SmtpEvent
  | lookedUp (hostname : Text) (answers : Except NetworkError (List LookupAnswer))
  /-- A connection is opened to the address, or it fails. -/
  | contacted (address : Text) (socket : Option Nat)
  | upgraded (plain secured : Nat)
  | listened (socket reader : Nat)
  | wrote (socket : Nat) (line : Line)
  /-- A read of the program. -/
  | asked (reader : Nat)
  /-- What it was answered with. -/
  | replied (reader : Nat) (reply : Except NetworkError TextReply)
  | received (socket : Nat) (chunk : Text)

/-- The sockets and readers of the process, numbered in the order they were made, and what has
happened so far, the latest first. -/
structure SmtpWorld where
  log : List SmtpEvent
  sockets : Nat
  /-- A socket emits what it receives once something has listened to it. -/
  flowing : Nat → Bool
  made : Nat
  readers : Nat → Reader

/-- The world before a call. -/
def SmtpWorld.empty : SmtpWorld where
  log := []
  sockets := 0
  flowing := fun _ => false
  made := 0
  readers := fun _ => (Reader.create 0).stop

/-- What happens to the sockets of itself. -/
inductive SmtpTurn
  | receives (socket : Nat) (chunk : Text)
  /-- An error of the socket, its timeout included. -/
  | errs (socket : Nat) (error : NetworkError)
  | ends (socket : Nat)
  deriving DecidableEq, Repr

/-- How the outside answers: the choices left open. -/
inductive SmtpChoice
  | looksUp (answers : Except NetworkError (List LookupAnswer))
  | succeeds
  | fails (error : NetworkError)

/-- What reaches a socket is given to the readers that listen on it. -/
def SmtpWorld.emit (w : SmtpWorld) (socket : Nat) (handle : Reader → Reader) : SmtpWorld :=
  { w with
    readers := fun id =>
      let r := w.readers id
      if r.listening && r.socket == socket then handle r else r }

/-- What happens to the sockets of itself. -/
def smtpTurn (w : SmtpWorld) : SmtpTurn → Option SmtpWorld
  | .receives socket chunk =>
    if w.flowing socket then
      some { w.emit socket (·.onData chunk) with log := .received socket chunk :: w.log }
    else none
  | .errs socket error => some (w.emit socket (·.fail error))
  | .ends socket => some (w.emit socket (·.onEnd))

/-- A reader after a change. -/
def SmtpWorld.setReader (w : SmtpWorld) (id : Nat) (r : Reader) : SmtpWorld :=
  { w with readers := Function.update w.readers id r }

/-- Something else has happened. -/
def SmtpWorld.note (w : SmtpWorld) (event : SmtpEvent) : SmtpWorld :=
  { w with log := event :: w.log }

/-- The promise of a read, once it is settled. -/
def takeReply (w : SmtpWorld) (id : Nat) :
    Option (Except NetworkError SmtpReply × SmtpWorld) :=
  let r := w.readers id
  let taken := { r with settled := none }
  r.settled.map fun reply =>
    (reply.map (·.toSmtpReply), (w.setReader id taken).note (.replied id reply))

/-- How the outside answers.  A socket is known once it was handed out. -/
def smtpAnswer (w : SmtpWorld) : (q : SmtpAsk) → SmtpChoice → Option (SmtpAnswer q × SmtpWorld)
  | .lookup hostname, .looksUp answers => some (answers, w.note (.lookedUp hostname answers))
  | .openPinned address _, .succeeds =>
    some (.ok w.sockets,
      { w with sockets := w.sockets + 1, log := .contacted address (some w.sockets) :: w.log })
  | .openPinned address _, .fails error => some (.error error, w.note (.contacted address none))
  | .upgrade socket, .succeeds =>
    some (.ok w.sockets,
      { w with sockets := w.sockets + 1, log := .upgraded socket w.sockets :: w.log })
  | .upgrade _, .fails error => some (.error error, w)
  | .createReader socket, .succeeds =>
    if socket < w.sockets then
      some (w.made,
        { w with
          log := .listened socket w.made :: w.log
          flowing := Function.update w.flowing socket true
          made := w.made + 1
          readers := Function.update w.readers w.made (.create socket) })
    else none
  | .residual id, .succeeds => some ((w.readers id).buffer, w)
  | .stop id, .succeeds => some ((), w.setReader id (w.readers id).stop)
  | .destroy _, .succeeds => some ((), w)
  | .write socket line, .succeeds => some ((), w.note (.wrote socket line))
  | .written _, .succeeds => some (.ok (), w)
  | .written _, .fails error => some (.error error, w)
  | .read id, .succeeds => some ((), (w.setReader id (w.readers id).read).note (.asked id))
  | .reply id, .succeeds => takeReply w id
  | _, _ => none

/-- The outside of a call of `deliverEmail`. -/
def smtpOutside : Outside SmtpAsk SmtpAnswer SmtpWorld SmtpTurn SmtpChoice where
  turn := smtpTurn
  answer := smtpAnswer

end OpenMcc.Smtp
