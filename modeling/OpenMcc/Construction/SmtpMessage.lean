import OpenMcc.Construction.SmtpClient
import OpenMcc.Framework.Base64
import OpenMcc.Framework.DateText
import OpenMcc.Framework.Utf8

/-!
# The message of a mail (`smtp.message.ts`)

`messageBytes` writes a message as it goes over the wire: eight header lines, an empty line and the
text in base64, all of them ended by a carriage return and a line feed.  `converse` writes it after
`DATA`, with the line that ends it.
-/

namespace OpenMcc.Smtp

/-! ## The settings -/

/-- A character that the schema library's check of addresses allows. -/
def isAddressChar (c : Char) : Bool := c.isAlphanum || "_'+-.@".toList.contains c

/-- `emailConfigInput`.  `isEmail` is the check of addresses of the schema library. -/
def emailConfigInput (isEmail : Text → Bool) (settings : EmailSettings) : Bool :=
  1 ≤ settings.smtpServer.utf16Length && settings.smtpServer.utf16Length ≤ 253 &&
    1 ≤ settings.smtpPort && settings.smtpPort ≤ 65535 &&
    settings.username.utf16Length ≤ 256 && settings.password.utf16Length ≤ 256 &&
    isEmail settings.fromAddress && settings.toAddresses.all isEmail &&
    1 ≤ settings.toAddresses.length && settings.toAddresses.length ≤ 20

/-! ## The message -/

/-- The end of a line. -/
def crlf : Text := ['\r', '\n']

/-- A character of `[\x20-\x7e]`. -/
def isPrintable (c : Char) : Bool := ' ' ≤ c && c ≤ '~'

/-- `encodedWord`. -/
def encodedWord (value : Text) : Text :=
  if value.all isPrintable then value
  else "=?UTF-8?B?".toList ++ Base64.encode (Utf8.encode value) ++ "?=".toList

/-- `BASE64_LINE` replaced by itself and a line end: one comes after every 76 characters, and here
after `left` of them first. -/
def breakLines (left : Nat) : Text → Text
  | [] => []
  | c :: text =>
    if left = 1 then c :: (crlf ++ breakLines 76 text) else c :: breakLines (left - 1) text

/-- `wrappedBase64`. -/
def wrappedBase64 (value : Text) : Text := breakLines 76 (Base64.encode (Utf8.encode value))

/-- `domainOf`. -/
def domainOf (address : Text) : Text :=
  if '@' ∈ address then (address.reverse.takeWhile (· != '@')).reverse
  else "openmcc.invalid".toList

/-- `toUTCString` of the date at an instant. -/
def dateText (sentAt : Int) : Text :=
  match Date.ofMs sentAt with
  | some date => date.toUTCString
  | none => "Invalid Date".toList

/-- The header lines. -/
def headerLines (message : SmtpMessage) : List Text :=
  ["From: ".toList ++ message.fromAddress,
    "To: ".toList ++ Text.join ", ".toList message.toAddresses,
    "Subject: ".toList ++ encodedWord message.subject,
    "Date: ".toList ++ dateText message.sentAt,
    "Message-ID: <".toList ++ message.id ++ '@' :: domainOf message.fromAddress ++ ['>'],
    "MIME-Version: 1.0".toList,
    "Content-Type: text/plain; charset=\"utf-8\"".toList,
    "Content-Transfer-Encoding: base64".toList]

/-- `messageBytes`. -/
def messageBytes (message : SmtpMessage) : Text :=
  Text.join crlf (headerLines message ++ [[], wrappedBase64 message.text])

/-- What `converse` writes after `DATA`. -/
def dataBytes (message : SmtpMessage) : List UInt8 :=
  Utf8.encode (messageBytes message ++ crlf ++ '.' :: crlf)

/-! ## The receiver -/

/-- A control character. -/
def isControl (c : Char) : Bool := c < ' ' || '\x7f' ≤ c && c < '\u00a0'

/-- The lines of what a receiver gets, and what comes after the last of them. -/
def crlfLines : List UInt8 → List (List UInt8)
  | [] => [[]]
  | 13 :: 10 :: rest => [] :: crlfLines rest
  | b :: rest => (crlfLines rest).modifyHead (b :: ·)

example : crlfLines (Utf8.encode "a\r\n.\r\n".toList) =
    ["a".toList, ".".toList, []].map Utf8.encode := by decide

/-- A receiver gets the header lines, an empty line, the text in lines of base64 and the line that
ends the message. -/
def ReadsAs (bytes : List UInt8) (headers : List Text) (text : Text) : Prop :=
  ∃ body : List Text,
    crlfLines bytes = (headers ++ [] :: body ++ [['.'], []]).map Utf8.encode ∧
      (∀ line ∈ headers ++ [] :: body, '\r' ∉ line ∧ '\n' ∉ line ∧ line.head? ≠ some '.') ∧
      (∀ line ∈ body, line.length ≤ 76 ∧ line.all Base64.isBase64 = true) ∧
      (Base64.decode body.flatten).bind Utf8.decode = some text

end OpenMcc.Smtp
