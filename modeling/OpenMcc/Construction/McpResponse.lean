import OpenMcc.Framework.Json

/-!
# What an answer of the live control server is read as

The server answers a request with a JSON-RPC response, as a body that is JSON or as one that is a
stream of events.  `dataFramesOf` tells the two apart and takes the data of the events out of a
stream; `responseFrom` reads the last of what it gives.

How a number is read and shown is left to parameters.
-/

namespace OpenMcc

namespace Mcp

open Json

/-! ## The frames of a body -/

/-- `split(/\n\n+/)`.  The flag tells that the cut is made and line ends that follow are of it. -/
def splitBlankLines : Bool → Text → List Text
  | _, [] => [[]]
  | true, '\n' :: t => splitBlankLines true t
  | false, '\n' :: '\n' :: t => [] :: splitBlankLines true t
  | _, c :: t => (splitBlankLines false t).modifyHead (c :: ·)

/-- The data of a block. -/
def payloadOf (block : Text) : Text :=
  Text.join "\n".toList
    (((Text.lines block).filter fun line => "data:".toList.isPrefixOf line).map
      fun line => Text.trimStart (line.drop 5))

/-- The texts in a body that may be answers. -/
def dataFramesOf (body : Text) : List Text :=
  let trimmed := Text.trim body
  if trimmed.length = 0 then []
  else if !Text.includes trimmed "\ndata:".toList && !"data:".toList.isPrefixOf trimmed then
    [trimmed]
  else
    ((splitBlankLines false trimmed).map payloadOf).filter fun payload => 0 < payload.length

/-! ## The response -/

section Response

variable {ν : Type}

/-- The error that a response carries. -/
structure JsonRpcError (ν : Type) where
  code : ν
  message : Units

/-- A response as its schema gives it. -/
structure JsonRpcResponse (ν : Type) where
  id : Option (Json Units ν)
  result : Option (Json Units ν)
  error : Option (JsonRpcError ν)

/-- An error of the protocol, with its message. -/
structure McpProtocolError where
  message : Units

/-- `z.union([z.number(), z.string()]).nullable()`. -/
def isId : Json Units ν → Bool
  | .number _ => true
  | .string _ => true
  | .null => true
  | _ => false

/-- The schema of an error. -/
def jsonRpcError (v : Json Units ν) : Option (JsonRpcError ν) :=
  match v with
  | .object members =>
    match member (units "code".toList) members, member (units "message".toList) members with
    | some (.number code), some (.string message) => some ⟨code, message⟩
    | _, _ => none
  | _ => none

/-- A part that may be missing. -/
def optional {α β : Type} (schema : α → Option β) : Option α → Option (Option β)
  | none => some none
  | some v => (schema v).map some

/-- The schema of a response. -/
def jsonRpcResponse (v : Json Units ν) : Option (JsonRpcResponse ν) :=
  match v with
  | .object members =>
    if (member (units "jsonrpc".toList) members).bind asString = some (units "2.0".toList) then
      (optional (fun v => if isId v then some v else none)
        (member (units "id".toList) members)).bind fun id =>
      (optional jsonRpcError (member (units "error".toList) members)).map fun error =>
        ⟨id, member (units "result".toList) members, error⟩
    else none
  | _ => none

variable (toNumber : Text → ν) (showNumber : ν → Text)

/-- The response in a body. -/
def responseFrom (body : Text) : Except McpProtocolError (JsonRpcResponse ν) :=
  match (dataFramesOf body).getLast? with
  | none => .error ⟨units "The client returned an empty response".toList⟩
  | some last =>
    match parse toNumber last with
    | none => .error ⟨units "The client returned a response that is not JSON".toList⟩
    | some parsed =>
      match jsonRpcResponse parsed with
      | none => .error ⟨units "The client returned a malformed response".toList⟩
      | some data =>
        match data.error with
        | some error =>
          .error ⟨error.message ++ units " (".toList ++ units (showNumber error.code) ++
            units ")".toList⟩
        | none => .ok data

end Response

end Mcp

end OpenMcc
