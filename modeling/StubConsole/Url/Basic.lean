import StubConsole.Url.Host

/-!
# Url — addresses and their normal form

An address is read into its parts and written back in one normal form: scheme and server name in
small letters, no port that the scheme implies, no `.` and `..` segments, characters that may not
stand in a part percent-encoded.  In the schemes of servers a backslash counts as a slash; tabs
and line feeds inside an address count as nothing.

* `Url` — the parts;
* `Url.parse` — an absolute address from text;
* `Url.text` — the normal form.
-/

namespace StubConsole

/-- Whom an address speaks to.  All texts are in their written form. -/
structure Authority where
  username : List Char
  password : Option (List Char)
  host : List Char
  port : Option Nat
  deriving DecidableEq, Repr

structure Url where
  scheme : List Char
  authority : Option Authority
  path : List Char
  query : Option (List Char)
  fragment : Option (List Char)
  deriving DecidableEq, Repr

namespace Url

/-! ## Schemes -/

/-- Schemes whose addresses name a server: they have a host, a path, and a port of their own. -/
def defaultPort? (scheme : List Char) : Option Nat :=
  if scheme = "http".toList || scheme = "ws".toList then some 80
  else if scheme = "https".toList || scheme = "wss".toList then some 443
  else if scheme = "ftp".toList then some 21
  else none

def isFile (scheme : List Char) : Bool := scheme = "file".toList

def isSpecial (scheme : List Char) : Bool :=
  (defaultPort? scheme).isSome || isFile scheme

/-- The scheme in front of the first colon, in small letters. -/
def readScheme? (s : List Char) : Option (List Char × List Char) :=
  match Text.splitAt? ':' s with
  | none => none
  | some (scheme, rest) =>
      let plain := fun (c : Char) => c.isAlphanum || c = '+' || c = '-' || c = '.'
      if (scheme.head?.any Char.isAlpha) && scheme.all plain then
        some (scheme.map Char.toLower, rest)
      else none

/-! ## Servers -/

/-- A character that ends the part of an address that names the server. -/
def endsAuthority (special : Bool) (c : Char) : Bool :=
  c = '/' || c = '?' || c = '#' || (special && c = '\\')

/-- What stands before and after the last `@`. -/
def splitAtLastAt (s : List Char) : Option (List Char × List Char) :=
  match Text.splitAt? '@' s.reverse with
  | none => none
  | some (back, front) => some (front.reverse, back.reverse)

/-- User name and password; an empty password is none. -/
def readUserInfo (s : List Char) : List Char × Option (List Char) :=
  let encode := Percent.encode Percent.userInfo
  match Text.splitAt? ':' s with
  | none => (encode s, none)
  | some (name, password) =>
      (encode name, if password.isEmpty then none else some (encode password))

/-- Host and port are parted by the first colon outside brackets. -/
def splitHost (inBrackets : Bool) : List Char → List Char × Option (List Char)
  | [] => ([], none)
  | c :: rest =>
      if c = ':' && !inBrackets then ([], some rest)
      else
        -- colons inside brackets belong to the host
        let (host, port) := splitHost (if c = '[' then true else if c = ']' then false
          else inBrackets) rest
        (c :: host, port)

/-- A port of at most two bytes; the one that the scheme implies is left out. -/
def readPort (scheme digits : List Char) : Except UrlError (Option Nat) :=
  if digits.isEmpty then .ok none
  else
    match Text.natUpTo? 65535 digits with
    | none => .error .invalidPort
    -- a sign in front of the digits is no part of a port
    | some port =>
        if !digits.all Char.isDigit then .error .invalidPort
        else if defaultPort? scheme = some port then .ok none
        else .ok (some port)

def readHost (scheme s : List Char) : Except UrlError (List Char) :=
  if isSpecial scheme then (if s.isEmpty then .error .emptyHost else Host.read s)
  else Host.readOpaque s

/-- The server of an address, from the text between the slashes. -/
def readAuthority (scheme s : List Char) : Except UrlError Authority :=
  let (info, server) := match splitAtLastAt s with
    | none => ([], s)
    | some (info, server) => (info, server)
  let (username, password) := readUserInfo info
  let (host, port) := splitHost false server
  if (splitAtLastAt s).isSome && server.isEmpty then .error .emptyHost
  else do
    let written ← readHost scheme host
    -- what was written for the host may come to nothing
    if written.isEmpty && port.isSome then .error .emptyHost
    else
      let port ← match port with
        | none => Except.ok none
        | some digits => readPort scheme digits
      if written.isEmpty && !(username.isEmpty && password.isNone) then .error .emptyHost
      else return ⟨username, password, written, port⟩

/-! ## Paths -/

def isSingleDot (segment : List Char) : Bool :=
  let s := segment.map Char.toLower
  s = ['.'] || s = ['%', '2', 'e']

def isDoubleDot (segment : List Char) : Bool :=
  let s := segment.map Char.toLower
  s = ['.', '.'] || s = ['.', '%', '2', 'e'] || s = ['%', '2', 'e', '.']
    || s = ['%', '2', 'e', '%', '2', 'e']

/-- A segment such as `C:` names a drive; `..` does not leave it. -/
def isDrive : List Char → Bool
  | [letter, mark] => letter.isAlpha && (mark = ':' || mark = '|')
  | _ => false

/-- Segments in reverse, without the last one. -/
def leave : List (List Char) → List (List Char)
  | [] => []
  | segment :: rest => if isDrive segment then segment :: rest else rest

/-- Adds segments to the path `done`, which is kept in reverse; a path that ends in a dot segment
ends in a slash. -/
def resolve (done : List (List Char)) : List (List Char) → List (List Char)
  | [] => done
  | segment :: rest =>
      let written := Percent.encode Percent.path segment
      -- dots may be written with percent signs, so they are looked for afterwards
      if isDoubleDot written then
        resolve (if rest.isEmpty then [] :: leave done else leave done) rest
      else if isSingleDot written then
        resolve (if rest.isEmpty then [] :: done else done) rest
      else resolve (written :: done) rest

/-- Cuts a path at its slashes. -/
def segmentsOf (special : Bool) (s : List Char) : List (List Char) :=
  Text.splitOn '/' (if special then s.map fun c => if c = '\\' then '/' else c else s)

/-- The normal form of the path whose text, behind its first slash, is `s`. -/
def readPath (special : Bool) (s : List Char) : List Char :=
  '/' :: Text.joinWith ['/'] (resolve [] (segmentsOf special s)).reverse

/-- A path behind a server: its first slash may be missing. -/
def readPathAfterHost (special : Bool) (s : List Char) : List Char :=
  match s with
  | [] => if special then ['/'] else []
  | c :: rest =>
      if c = '/' || (special && c = '\\') then readPath special rest else readPath special s

/-! ## Whole addresses -/

/-- Path, query and fragment of what follows the server. -/
def splitTail (s : List Char) : List Char × Option (List Char) × Option (List Char) :=
  let (front, fragment) := match Text.splitAt? '#' s with
    | none => (s, none)
    | some (front, fragment) => (front, some fragment)
  match Text.splitAt? '?' front with
  | none => (front, none, fragment)
  | some (path, query) => (path, some query, fragment)

/-- An address of files: a server other than `localhost` may stand between two slashes and the
path. -/
def readFile (s : List Char) : Except UrlError (Option Authority × List Char) :=
  let isSlash := fun c => c = '/' || c = '\\'
  match s with
  | a :: b :: rest =>
      if isSlash a && isSlash b then
        let host := rest.takeWhile fun c => !isSlash c
        -- a drive is the start of a path, although it stands where a server would
        if isDrive host then .ok (some ⟨[], none, [], none⟩, readPath true rest)
        else do
          let written ← if host.isEmpty then Except.ok [] else Host.read host
          let written := if written = "localhost".toList then [] else written
          return (some ⟨[], none, written, none⟩,
            readPathAfterHost true (rest.dropWhile fun c => !isSlash c))
      else .ok (some ⟨[], none, [], none⟩, readPathAfterHost true s)
  | _ => .ok (some ⟨[], none, [], none⟩, readPathAfterHost true s)

/-- Server and path of what follows the scheme, up to the query. -/
def readHierarchy (scheme s : List Char) : Except UrlError (Option Authority × List Char) :=
  if isFile scheme then readFile s
  else if isSpecial scheme then do
    -- any number of slashes, none included, leads to the server
    let rest := s.dropWhile fun c => c = '/' || c = '\\'
    let authority ← readAuthority scheme (rest.takeWhile fun c => !endsAuthority true c)
    return (some authority, readPathAfterHost true (rest.dropWhile fun c => !endsAuthority true c))
  else
    match s with
    | '/' :: '/' :: rest => do
        let authority ← readAuthority scheme (rest.takeWhile fun c => !endsAuthority false c)
        return (some authority,
          readPathAfterHost false (rest.dropWhile fun c => !endsAuthority false c))
    | '/' :: rest => .ok (none, readPath false rest)
    | _ => .ok (none, Percent.encode Percent.control s)

/-- Characters that are cut off at both ends of an address. -/
def isOuterBlank (c : Char) : Bool := c.toNat ≤ 0x20

def isIgnored (c : Char) : Bool := c = '\t' || c = '\n' || c = '\r'

/-- The characters of an address that count. -/
def clean (s : List Char) : List Char :=
  let trimmed := ((s.dropWhile isOuterBlank).reverse.dropWhile isOuterBlank).reverse
  trimmed.filter fun c => !isIgnored c

def parse (s : List Char) : Except UrlError Url :=
  match readScheme? (clean s) with
  | none => .error .relativeWithoutBase
  | some (scheme, rest) => do
      let (front, query, fragment) := splitTail rest
      let (authority, path) ← readHierarchy scheme front
      -- quotes are encoded in the queries of servers only
      let inQuery := if isSpecial scheme then Percent.specialQuery else Percent.query
      return {
        scheme
        authority
        path
        query := query.map (Percent.encode inQuery)
        fragment := fragment.map (Percent.encode Percent.fragment) }

/-! ## Written form -/

def Authority.text (a : Authority) : List Char :=
  let password := match a.password with
    | none => []
    | some p => ':' :: p
  let info := a.username ++ password
  let port := match a.port with
    | none => []
    | some n => ':' :: Text.decimal n
  (if info.isEmpty then [] else info ++ ['@']) ++ a.host ++ port

def text (u : Url) : List Char :=
  let server := match u.authority with
    | some a => ['/', '/'] ++ Authority.text a
    | none => if u.path.take 2 = ['/', '/'] then ['/', '.'] else []
  let query := match u.query with
    | none => []
    | some q => '?' :: q
  let fragment := match u.fragment with
    | none => []
    | some f => '#' :: f
  u.scheme ++ [':'] ++ server ++ u.path ++ query ++ fragment

/-- The host, if the address has one. -/
def host? (u : Url) : Option (List Char) :=
  (u.authority.map (·.host)).filter fun h => !h.isEmpty

def port? (u : Url) : Option Nat :=
  u.authority.bind (·.port)

/-- Adds a pair to the query. -/
def appendPair (u : Url) (name value : String) : Url :=
  let pair := Percent.formEncode name.toList ++ '=' :: Percent.formEncode value.toList
  let query := match u.query with
    | none => pair
    | some [] => pair
    | some q => q ++ '&' :: pair
  { u with query := some query }

end Url

end StubConsole
