import Runbook.Url.Host

/-! Absolute addresses, in the form that they are printed in.
-/

set_option autoImplicit false

namespace Runbook

namespace Url

/-- Who is asked; names and passwords are encoded, and empty where there are none. -/
structure Authority where
  username : String := ""
  password : String := ""
  host : Option Host := none
  port : Option Nat := none
  deriving DecidableEq, Repr

namespace Authority

def credentials (authority : Authority) : String :=
  if authority.username.isEmpty && authority.password.isEmpty then ""
  else if authority.password.isEmpty then authority.username ++ "@"
  else authority.username ++ ":" ++ authority.password ++ "@"

def text (authority : Authority) : String :=
  let host := (authority.host.map Host.text).getD ""
  let port := (authority.port.map fun port => s!":{port}").getD ""
  "//" ++ authority.credentials ++ host ++ port

/-- Without name and password, as far as these are texts: they are sent by themselves. -/
def withoutCredentials (authority : Authority) : Authority :=
  let isText (part : String) : Bool := (Percent.decodeText? part.toList).isSome
  if isText authority.username &&
      (!authority.username.isEmpty || (!authority.password.isEmpty && isText authority.password)) then
    { authority with username := "", password := "" }
  else authority

end Authority

end Url

structure Url where
  scheme : String
  authority : Option Url.Authority := none
  path : String := ""
  query : Option String := none
  fragment : Option String := none
  deriving DecidableEq, Repr

namespace Url

def text (url : Url) : String :=
  let authority :=
    match url.authority with
    | some authority => authority.text
    | none => if url.path.startsWith "//" then "/." else ""
  let query := (url.query.map fun query => "?" ++ query).getD ""
  let fragment := (url.fragment.map fun fragment => "#" ++ fragment).getD ""
  url.scheme ++ ":" ++ authority ++ url.path ++ query ++ fragment

def host? (url : Url) : Option Host :=
  url.authority.bind Authority.host

def withoutCredentials (url : Url) : Url :=
  { url with authority := url.authority.map Authority.withoutCredentials }

end Url

end Runbook
