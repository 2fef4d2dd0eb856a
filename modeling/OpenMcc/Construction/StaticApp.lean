import OpenMcc.Framework.PercentText
import OpenMcc.Framework.PosixPath

/-!
# The files of the dashboard (`static-app.ts`)

The web server answers a request with a file under its root, or with the shell of the dashboard
where no file is asked for.  What is under the root is read by `readIfFile`, which is a parameter
here, as is the table of media types.
-/

namespace OpenMcc

namespace StaticApp

open PosixPath PercentText

/-- `ASSETS_DIR`. -/
def assetsDir : Text := "assets".toList

/-- `IMMUTABLE_CACHE`. -/
def immutableCache : Text := "public, max-age=31536000, immutable".toList

/-- `UNCACHED`. -/
def uncached : Text := "no-store".toList

/-- `SHELL`. -/
def shell : Text := "index.html".toList

/-- `SHELL_TYPE`. -/
def shellType : Text := "text/html; charset=utf-8".toList

/-- `TEXT_TYPE`. -/
def textType : Text := "text/plain; charset=utf-8".toList

/-- `UNKNOWN_TYPE`. -/
def unknownType : Text := "application/octet-stream".toList

/-- `MISSING_DASHBOARD`. -/
def missingDashboard : Text := "The dashboard files are missing from this image.".toList

/-- `reservedForApi`. -/
def reservedForApi (pathname : Text) : Bool :=
  pathname == "/healthz".toList || pathname == "/trpc".toList ||
    "/trpc/".toList.isPrefixOf pathname || pathname == "/api".toList ||
    "/api/".toList.isPrefixOf pathname

/-- `decodedPath`. -/
def decodedPath (pathname : Text) : Option Text :=
  (decodeURIComponent pathname).bind fun decoded =>
    if decoded.contains (Char.ofNat 0) then none else some decoded

/-- `withinRoot`. -/
def withinRoot (root decoded : Text) : Option Text :=
  let resolved := resolve root ('.' :: decoded)
  let inside := relative root resolved
  if "..".toList.isPrefixOf inside || isAbsolute inside then none else some resolved

/-- `isHashedAsset`. -/
def isHashedAsset (within : Text) : Bool := (segments within).head? == some assetsDir

/-- `namesAFile`. -/
def namesAFile (within : Text) : Bool :=
  isHashedAsset within || ((segments within).getLast?.getD []).contains '.'

/-- `cacheFor`. -/
def cacheFor (within : Text) : Text := if isHashedAsset within then immutableCache else uncached

/-- What the server answers with. -/
inductive Response (β : Type)
  /-- `missing`: 404. -/
  | missing
  /-- `served`: the body of a file, with its type and how long it is kept. -/
  | served (file : Text) (body : β) (type cache : Text)
  /-- 500, with `MISSING_DASHBOARD`. -/
  | noDashboard
  deriving DecidableEq, Repr

/-- The status of an answer. -/
def Response.status {β : Type} : Response β → Nat
  | missing => 404
  | served _ _ _ _ => 200
  | noDashboard => 500

/-- The answer of `createStaticApp` to a request for a path. -/
def respond {β : Type} (getMimeType : Text → Option Text) (readIfFile : Text → Option β)
    (root path : Text) : Response β :=
  match decodedPath path with
  | none => .missing
  | some decoded =>
    if reservedForApi decoded then .missing
    else
      match withinRoot root decoded with
      | none => .missing
      | some file =>
        let within := relative root file
        match readIfFile file with
        | some body =>
          .served file body ((getMimeType file).getD unknownType) (cacheFor within)
        | none =>
          if namesAFile within then .missing
          else
            match readIfFile (joined root shell) with
            | none => .noDashboard
            | some body => .served (joined root shell) body shellType uncached

end StaticApp

end OpenMcc
