import SyncProbe.Url.Host

/-!
# URLs

`Url` is a URL taken apart, with each part in its encoded form. `Url.text` puts the parts together;
that is the form in which a URL is shown and compared.
-/

namespace SyncProbe

namespace Url

/-- Who is spoken to, between the two slashes and the path. -/
structure Authority where
  username : String
  password : Option String
  /-- There is no host in the URL of a local file. -/
  host : Option Host
  /-- The port, unless it is the scheme's own. -/
  port : Option Nat
deriving DecidableEq, Repr

/-- What is asked for. -/
inductive Path where
  /-- A path that starts at the root: each segment stands behind a slash. -/
  | rooted (segments : List String)
  /-- Text without structure, as in a mail address. -/
  | rootless (text : String)
deriving DecidableEq, Repr

end Url

/-- A URL. -/
structure Url where
  scheme : String
  authority : Option Url.Authority
  path : Url.Path
  query : Option String
  fragment : Option String
deriving DecidableEq, Repr

namespace Url

/-! ## Schemes -/

def defaultPort? (scheme : String) : Option Nat :=
  if scheme = "http" ∨ scheme = "ws" then some 80
  else if scheme = "https" ∨ scheme = "wss" then some 443
  else if scheme = "ftp" then some 21
  else none

/-- Whether a scheme names local files. -/
def isFile (scheme : String) : Bool :=
  scheme = "file"

/-- Whether a scheme always has an authority, and takes backslashes for slashes. -/
def isSpecial (scheme : String) : Bool :=
  isFile scheme || (defaultPort? scheme).isSome

/-! ## Parts -/

/-- The host of a URL, if it has one. -/
def host? (url : Url) : Option Host := do
  let authority ← url.authority
  authority.host

/-- The credentials before a host. -/
def Authority.userinfo (authority : Authority) : String :=
  let password := match authority.password with
    | some password => ":" ++ password
    | none => ""
  let credentials := authority.username ++ password
  if credentials.isEmpty then "" else credentials ++ "@"

def Authority.text (authority : Authority) : String :=
  let host := match authority.host with
    | some host => host.text
    | none => ""
  let port := match authority.port with
    | some port => s!":{port}"
    | none => ""
  authority.userinfo ++ host ++ port

def Path.text : Path → String
  | rooted segments => String.join (segments.map ("/" ++ ·))
  | rootless text => text

/-- What keeps a path from being read as an authority, in a URL that has none. -/
def guard (url : Url) : String :=
  match url.authority, url.path with
  | none, .rooted ("" :: _ :: _) => "/."
  | _, _ => ""

def announced (sign : String) : Option String → String
  | some part => sign ++ part
  | none => ""

/-- What a request asks the host for: the path and the query. -/
def target (url : Url) : String :=
  url.path.text ++ announced "?" url.query

def text (url : Url) : String :=
  let authority := announced "//" (url.authority.map Authority.text)
  url.scheme ++ ":" ++ authority ++ url.guard ++ url.target ++ announced "#" url.fragment

end Url

end SyncProbe
