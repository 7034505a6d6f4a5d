import Runbook.Url.Basic

/-! Reading addresses by the URL standard: blanks around a text and line breaks inside it do not count, and for
schemes of the web a backslash is as good as a slash.
-/

set_option autoImplicit false

namespace Runbook.Url

def cleaned (text : String) : List Char :=
  let isEdge (c : Char) : Bool := c.toNat ≤ 0x20
  let inner := ((text.toList.dropWhile isEdge).reverse.dropWhile isEdge).reverse
  inner.filter fun c => c != '\t' && c != '\n' && c != '\r'

def isSchemeChar (c : Char) : Bool :=
  c.isAlphanum || c == '+' || c == '-' || c == '.'

def scheme? (cs : List Char) : Option (String × List Char) :=
  let name := cs.takeWhile isSchemeChar
  match name, cs.drop name.length with
  | first :: _, ':' :: rest =>
    if first.isAlpha then some (String.ofList (name.map Char.toLower), rest) else none
  | _, _ => none

/-- The schemes of the web with the ports that need not be written. -/
def defaultPorts : List (String × Nat) :=
  [("http", 80), ("https", 443), ("ws", 80), ("wss", 443), ("ftp", 21)]

def isSpecial (scheme : String) : Bool :=
  scheme == "file" || (defaultPorts.lookup scheme).isSome

def isSlash (special : Bool) (c : Char) : Bool :=
  c == '/' || (special && c == '\\')

/-- What is before the last `@`, if there is one, and what follows it. -/
def splitUser (cs : List Char) : Option (List Char) × List Char :=
  let tail := (cs.reverse.takeWhile (· != '@')).reverse
  if tail.length = cs.length then (none, cs) else (some (cs.take (cs.length - tail.length - 1)), tail)

/-- The host, and the port behind the first colon outside brackets. -/
def splitPort (bracketed : Bool) : List Char → List Char × Option (List Char)
  | [] => ([], none)
  | c :: rest =>
    if c == ':' && !bracketed then ([], some rest)
    else
      let bracketed := if c == '[' then true else if c == ']' then false else bracketed
      let (host, port) := splitPort bracketed rest
      (c :: host, port)

def port? (digits : List Char) : Option (Option Nat) :=
  if digits.all Char.isDigit then
    let port := digits.foldl (fun n c => min 65536 (10 * n + (c.toNat - 48))) 0
    if digits.isEmpty then some none else if port ≤ 65535 then some (some port) else none
  else none

def credentials (cs : List Char) : String × String :=
  let name := cs.takeWhile (· != ':')
  let encode := Percent.encode Percent.inUserInfo
  (encode name, encode (cs.drop (name.length + 1)))

/-- An authority; only outside the web it may do without a host. -/
def authority? (scheme : String) (cs : List Char) : Option Authority := do
  let special := isSpecial scheme
  let (user, place) := splitUser cs
  let (host, digits) := splitPort false place
  if host.isEmpty then
    if special || user.isSome || digits.isSome then none else some {}
  else
    let host ← if special then Host.ofDomain? host else Host.ofName? host
    let port ← port? (digits.getD [])
    let (username, password) := credentials (user.getD [])
    return { username, password, host := some host,
             port := port.filter fun port => defaultPorts.lookup scheme != some port }

def fileAuthority? (cs : List Char) : Option Authority :=
  if cs.isEmpty then some {}
  else
    match Host.ofDomain? cs with
    | some (.name "localhost") => some {}
    | some host => some { host := some host }
    | none => none

def segments (special : Bool) : List Char → List (List Char)
  | [] => [[]]
  | c :: rest =>
    match segments special rest with
    | [] => []
    | first :: others =>
      if isSlash special c then [] :: first :: others else (c :: first) :: others

/-- How many points a segment consists of, which may be written in digits. -/
def points? : List Char → Option Nat
  | [] => some 0
  | '.' :: rest => (points? rest).map (· + 1)
  | '%' :: '2' :: 'e' :: rest | '%' :: '2' :: 'E' :: rest => (points? rest).map (· + 1)
  | _ => none

/-- The segments with one point left out, and those with two together with the ones before them; the first
argument is what is done, backwards. -/
def walk (done : List (List Char)) : List (List Char) → List (List Char)
  | [] => done.reverse
  | segment :: rest =>
    let isLast := rest.isEmpty
    match points? segment with
    | some 1 => walk (if isLast then [] :: done else done) rest
    | some 2 => walk (if isLast then [] :: done.tail else done.tail) rest
    | _ => walk (segment :: done) rest

def pathText (special : Bool) (cs : List Char) : String :=
  "/" ++ "/".intercalate ((walk [] (segments special cs)).map (Percent.encode Percent.inPath))

def pathAfter (special : Bool) : List Char → String
  | [] => if special then "/" else ""
  | c :: rest => if isSlash special c then pathText special rest else pathText special (c :: rest)

def tail (special : Bool) (cs : List Char) : Option String × Option String :=
  let beforeHash := cs.takeWhile (· != '#')
  let query := match beforeHash with
    | '?' :: query => some (Percent.encode (Percent.inQuery special) query)
    | _ => none
  let fragment := match cs.drop beforeHash.length with
    | '#' :: fragment => some (Percent.encode Percent.inFragment fragment)
    | _ => none
  (query, fragment)

/-- An address with an authority, from behind the slashes on. -/
def withAuthority? (scheme : String) (read : List Char → Option Authority) (cs path rest : List Char) :
    Option Url := do
  let special := isSpecial scheme
  let (query, fragment) := tail special rest
  return { scheme, authority := some (← read cs), path := pathAfter special path, query, fragment }

def ofFile? (cs rest : List Char) : Option Url :=
  let trim (path : List Char) := path.dropWhile (isSlash true)
  match cs with
  | a :: b :: inner =>
    if isSlash true a && isSlash true b then
      let host := inner.takeWhile fun c => !isSlash true c
      withAuthority? "file" fileAuthority? host (trim (inner.drop host.length)) rest
    else withAuthority? "file" fileAuthority? [] (trim cs) rest
  | _ => withAuthority? "file" fileAuthority? [] (trim cs) rest

def parse? (text : String) : Option Url := do
  let (scheme, cs) ← scheme? (cleaned text)
  let special := isSpecial scheme
  let main := cs.takeWhile fun c => c != '?' && c != '#'
  let rest := cs.drop main.length
  if scheme == "file" then ofFile? main rest
  else if special || "//".toList.isPrefixOf main then
    let inner := if special then main.dropWhile (isSlash true) else main.drop 2
    let cs := inner.takeWhile fun c => !isSlash special c
    withAuthority? scheme (authority? scheme) cs (inner.drop cs.length) rest
  else
    let (query, fragment) := tail false rest
    let path := match main with
      | '/' :: inner => pathText false inner
      | _ => Percent.encode Percent.inControls main
    return { scheme, path, query, fragment }

end Runbook.Url
