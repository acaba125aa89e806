/-
Locations of sorted-set servers.

A location is a URL of scheme `redis` (a host and a port) or `unix`, also spelled
`redis+unix` (a socket file).  `Location.open?` says exactly which texts are accepted
and what is wrong with the others, the first fault winning: the text is no such URL, the
host or the path is missing, encryption is asked for, the database is no number, a
credential is not UTF-8, the protocol is unknown.

Design notes: only what decides acceptance is kept of a URL.  The path is simplified
(`.` and `..` segments) before its database number is read, and tabs and line ends count
nowhere in a URL.
-/
import QuotaGate.Net.Address
import QuotaGate.Text.Encoding

namespace QuotaGate.Redis

/-- A URL, taken apart as far as acceptance needs it. -/
structure Url where
  scheme : String
  user : List Char
  password : List Char
  /-- The host, if there is one. -/
  host : Option (List Char)
  /-- The path, simplified; a URL without authority whose path does not begin with a slash has none. -/
  path : Option (List Char)
  query : List Char
  deriving DecidableEq, Repr

/-- Why a location is refused. -/
inductive UrlError
  | notUrl
  | noHost
  | noPath
  | encrypted
  | database
  | user
  | password
  | protocol (name : String)
  deriving DecidableEq, Repr

/-- The wording of a refusal. -/
def UrlError.message : UrlError → String
  | .notUrl => "Redis URL did not parse- InvalidClientConfig"
  | .noHost => "Missing hostname- InvalidClientConfig"
  | .noPath => "Missing path- InvalidClientConfig"
  | .encrypted => "can't connect with TLS, the feature is not enabled- InvalidClientConfig"
  | .database => "Invalid database number- InvalidClientConfig"
  | .user => "Username is not valid UTF-8 string- InvalidClientConfig"
  | .password => "Password is not valid UTF-8 string- InvalidClientConfig"
  | .protocol name => "Invalid protocol version - InvalidClientConfig: " ++ name

namespace Url

/-- Characters that count nowhere in a URL. -/
def isSkipped (c : Char) : Bool :=
  c = '\t' || c = '\n' || c = '\r'

/-- Characters that do not count at the ends of a URL. -/
def isEdge (c : Char) : Bool :=
  c.toNat ≤ 0x20

/-- The characters of a URL that count. -/
def clean (cs : List Char) : List Char :=
  (((cs.dropWhile isEdge).reverse.dropWhile isEdge).reverse).filter fun c => !isSkipped c

/-- The scheme, in small letters, and what follows its colon. -/
def scheme? (cs : List Char) : Option (String × List Char) :=
  let name := cs.takeWhile (· ≠ ':')
  match cs.dropWhile (· ≠ ':'), name with
  | _ :: rest, first :: _ =>
    if first.isAlpha && name.all fun c => c.isAlphanum || c = '+' || c = '-' || c = '.' then
      some (String.ofList (name.map Char.toLower), rest)
    else none
  | _, _ => none

/-- Whether `c` ends the authority. -/
def endsAuthority (c : Char) : Bool :=
  c = '/' || c = '?' || c = '#'

/-- Characters that a host name may not hold. -/
def isForbiddenInHost (c : Char) : Bool :=
  c = '\x00' || c = ' ' || "#/:<>?@[\\]^|".toList.contains c

/-- Whether a text is a host: a name, possibly empty, or a long address in brackets. -/
def isHost (cs : List Char) : Bool :=
  match cs with
  | '[' :: inner => inner.getLast? == some ']' && (V6.ofText? inner.dropLast).isSome
  | cs => !cs.any isForbiddenInHost

/-- The host at the front, up to a colon outside brackets, and what follows it. -/
def splitHost : (inBrackets : Bool) → List Char → List Char × List Char
  | _, [] => ([], [])
  | b, c :: rest =>
    if (c = ':' && !b) || endsAuthority c then ([], c :: rest)
    else
      let (host, after) := splitHost (if c = '[' then true else if c = ']' then false else b) rest
      (c :: host, after)

/-- Whether a text is the end of an authority after the host: nothing, or a colon and a
port. -/
def isPort (cs : List Char) : Bool :=
  match cs with
  | [] => true
  | ':' :: digits => digits.all Char.isDigit && (digits.isEmpty || (Numeral.natUpTo 65535 digits).isOk)
  | _ => false

/-- Reads what follows `//`: user, password, host and the rest. -/
def authority? (cs : List Char) : Option (List Char × List Char × List Char × List Char) :=
  let auth := cs.takeWhile fun c => !endsAuthority c
  let tail := cs.dropWhile fun c => !endsAuthority c
  let (credentials, place) := match Text.splitLast? '@' auth with
    | some (before, after) => (some before, after)
    | none => (none, auth)
  let userInfo := credentials.getD []
  let user := userInfo.takeWhile (· ≠ ':')
  let password := (userInfo.dropWhile (· ≠ ':')).drop 1
  let (host, after) := splitHost false place
  let port := after.takeWhile (· ≠ '\\')
  -- A host may be missing, but not beside credentials or a port.
  let missing :=
    host.isEmpty
      && ((credentials == some [] && !tail.isEmpty && place.isEmpty)
        || !user.isEmpty || !password.isEmpty || after.head? == some ':')
  if isHost host && isPort port && !missing then
    some (user, password, host, after.drop port.length ++ tail)
  else none

/-- Whether a segment is the name of a drive: a letter, and a colon or a bar after it.
What follows a backslash does not count. -/
def isDrive : List Char → Bool
  | letter :: mark :: rest =>
    letter.isAlpha && (mark = ':' || mark = '|') && (rest.isEmpty || rest.head? == some '\\')
  | _ => false

/-- Drops `.` segments, and with every `..` the segment before it, unless that is a
drive. -/
def simplify : (kept : List (List Char)) → List (List Char) → List (List Char)
  | kept, [] => kept.reverse
  | kept, seg :: rest =>
    -- Points in the last place leave an empty segment, so that the path ends in a slash.
    let last := rest.isEmpty
    let above := if (kept.head?.map isDrive).getD false then kept else kept.drop 1
    if isDots 2 seg then simplify (if last then [] :: above else above) rest
    else if isDots 1 seg then simplify (if last then [] :: kept else kept) rest
    else simplify (seg :: kept) rest
where
  /-- Whether a segment is `n` points, some of them perhaps as percent triplets. -/
  isDots (n : Nat) (seg : List Char) : Bool :=
    let plain := Text.percentDecode seg
    plain == List.replicate n 46 && seg.all fun c => "%2eE.".toList.contains c

/-- The path at the front, simplified, and the query after it. -/
def pathAndQuery (cs : List Char) : List Char × List Char :=
  let path := cs.takeWhile fun c => c ≠ '?' && c ≠ '#'
  let rest := cs.dropWhile fun c => c ≠ '?' && c ≠ '#'
  let query := match rest with
    | '?' :: q => q.takeWhile (· ≠ '#')
    | _ => []
  let segments := match path with
    | [] => []
    | '/' :: p => Text.splitAll '/' p
    | p => Text.splitAll '/' p
  ((simplify [] segments).flatMap fun s => '/' :: s, query)

/-- Takes a URL apart; schemes other than those of `schemes` are refused. -/
def ofText? (schemes : List String) (s : String) : Option Url := do
  let (scheme, rest) ← scheme? (clean s.toList)
  if !schemes.contains scheme then none
  match rest with
  | '/' :: '/' :: rest =>
    let (user, password, host, rest) ← authority? rest
    let (path, query) := pathAndQuery rest
    return { scheme, user, password, query, path, host := if host.isEmpty then none else host }
  | '/' :: _ =>
    let (path, query) := pathAndQuery rest
    return { scheme, user := [], password := [], host := none, path, query }
  | _ =>
    let (_, query) := pathAndQuery rest
    return { scheme, user := [], password := [], host := none, path := none, query }

/-- A name or a value of a query, decoded: plus signs are spaces. -/
def decodeField (cs : List Char) : String :=
  Text.ofUtf8Lossy (Text.percentDecode (cs.map fun c => if c = '+' then ' ' else c))

/-- The last value that the query gives to a name. -/
def field? (u : Url) (name : String) : Option String :=
  let fields := (Text.splitAll '&' u.query).filter fun f => !f.isEmpty
  (fields.reverse.find? fun f => decodeField (f.takeWhile (· ≠ '=')) = name).map
    fun f => decodeField ((f.dropWhile (· ≠ '=')).drop 1)

end Url

/-- A server, by its location. -/
structure Location where
  url : Url
  database : Int

namespace Location

def schemes : List String := ["redis", "rediss", "redis+unix", "unix"]

/-- Refuses an unknown protocol. -/
def checkProtocol (u : Url) : Except UrlError Unit :=
  match u.field? "protocol" with
  | none => .ok ()
  | some name => if ["2", "resp2", "3", "resp3"].contains name then .ok () else .error (.protocol name)

/-- The database that a path names, without the slashes at its ends. -/
def pathDatabase? (path : List Char) : Option Int :=
  let inner := ((path.dropWhile (· = '/')).reverse.dropWhile (· = '/')).reverse
  if inner.isEmpty then some 0 else Numeral.int64? inner

/-- A server reached over a host. -/
def overHost (u : Url) : Except UrlError Location := do
  if u.host.isNone then throw .noHost
  if u.scheme = "rediss" then throw .encrypted
  let some database := pathDatabase? (u.path.getD []) | throw .database
  if (Text.ofUtf8? (Text.percentDecode u.user)).isNone then throw .user
  if (Text.ofUtf8? (Text.percentDecode u.password)).isNone then throw .password
  checkProtocol u
  return { url := u, database }

/-- A server reached over a socket file. -/
def overFile (u : Url) : Except UrlError Location := do
  let here := match u.host with
    | none => true
    | some host => String.ofList host = "localhost"
  let some (_ :: _) := u.path | throw .noPath
  if !here then throw .noPath
  let database ← match u.field? "db" with
    | none => pure 0
    | some n => match Numeral.int64? n.toList with
      | some d => pure d
      | none => throw .database
  checkProtocol u
  return { url := u, database }

/-- Opens a location; nothing is connected yet. -/
def open? (s : String) : Except UrlError Location :=
  match Url.ofText? schemes s with
  | none => .error .notUrl
  | some u => if u.scheme = "redis" ∨ u.scheme = "rediss" then overHost u else overFile u

end Location

end QuotaGate.Redis
