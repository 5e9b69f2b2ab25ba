import ImageFlow.Text.Blank
import ImageFlow.Url.Host

/-!
# URLs

Reading a URL as far as a client needs it: whether the text is one at all, its scheme and host,
and the path and query that a request for it names.  Blanks and control characters around the
text and line breaks inside it are passed over.  In a URL of the web a backslash counts as a
slash, and the dot segments of the path are resolved.
-/

namespace ImageFlow

/-- A URL as far as a client needs it; the fragment is left out. -/
structure Url where
  scheme : String
  host : Option Url.Host
  port : Option Nat
  /-- The path as it is sent. -/
  path : String
  /-- The query as it is sent, without its question mark. -/
  query : Option String
  deriving DecidableEq, Inhabited

namespace Url

/-- The schemes of the web, whose URLs have a host. -/
def webSchemes : List String :=
  ["http", "https", "ws", "wss", "ftp"]

/-- Blanks and control characters around a URL. -/
def isPadding (c : Char) : Bool :=
  c.toNat ≤ 0x20

/-- Tabs and line breaks, which are passed over everywhere. -/
def isBreak (c : Char) : Bool :=
  c = '\t' || c = '\n' || c = '\r'

/-- The characters of a URL that count. -/
def significant (s : String) : List Char :=
  (Text.dropTail isPadding (s.toList.dropWhile isPadding)).filter (!isBreak ·)

/-- The scheme, in lower case, and what follows its colon. -/
def scheme? (cs : List Char) : Option (String × List Char) :=
  match Text.cutFirst ':' cs with
  | none => none
  | some (front, rest) =>
    let fits := fun (c : Char) => c.isAlphanum || c = '+' || c = '-' || c = '.'
    if (front.head?.any Char.isAlpha) && front.all fits then
      some (String.ofList (front.map Char.toLower), rest)
    else none

/-- A slash, or what counts as one. -/
def isSlash (web : Bool) (c : Char) : Bool :=
  c = '/' || (web && c = '\\')

/-- Whether a character ends the part with the host. -/
def endsAuthority (web : Bool) (c : Char) : Bool :=
  isSlash web c || c = '?' || c = '#'

/-- Cuts the host off the port: at the first colon outside brackets. -/
def cutPort (inBrackets : Bool) : List Char → List Char × Option (List Char)
  | [] => ([], none)
  | c :: rest =>
    if c = ':' ∧ !inBrackets then ([], some rest)
    else
      let within := if c = '[' then true else if c = ']' then false else inBrackets
      let (host, port) := cutPort within rest
      (c :: host, port)

/-- The number of a port; an empty text leaves the usual one.  A backslash ends it, also in a URL
with a scheme of its own. -/
def port? (cs : List Char) : Option (Option Nat) :=
  let figures := cs.takeWhile (· ≠ '\\')
  if figures = [] then some none
  else
    match Text.natural? figures with
    | some n => if n < UInt16.size then some (some n) else none
    | none => none

/-- The host and the port of the part between the slashes. -/
def parseAuthority (web : Bool) (cs : List Char) (last : Bool) :
    Except UrlProblem (Option Host × Option Nat) :=
  let (user, address) := match Text.cutLast '@' cs with
    | some (user, address) => (some user, address)
    | none => (none, cs)
  let (host, port) := cutPort false address
  if user = some [] ∧ address = [] ∧ !last then .error .emptyHost
  else if host = [] ∧ web then .error .emptyHost
  else do
    let parsed ← if web then Host.parse host else Host.parseOpaque host
    if host = [] ∧ port.isSome then .error .emptyHost
    else
      match port? (port.getD []) with
      | none => .error .badPort
      | some n =>
        if host = [] ∧ user.any (fun u => u ≠ [] ∧ u ≠ [':']) then .error .emptyHost
        else .ok (if host = [] then none else some parsed, n)

/-- A segment that stands for the directory itself. -/
def isSingleDot (segment : List Char) : Bool :=
  [".", "%2e"].contains (String.ofList (segment.map Char.toLower))

/-- A segment that stands for the directory above. -/
def isDoubleDot (segment : List Char) : Bool :=
  ["..", ".%2e", "%2e.", "%2e%2e"].contains (String.ofList (segment.map Char.toLower))

/-- A drive, which no path climbs out of. -/
def isDrive : List Char → Bool
  | [letter, mark] => letter.isAlpha && (mark = ':' || mark = '|')
  | _ => false

/-- Leaves the last segment, unless it is a drive. -/
def climb : List (List Char) → List (List Char)
  | [] => []
  | top :: below => if isDrive top then top :: below else below

/-- Resolves the dot segments; `stack` lists the segments so far, last first. -/
def resolveDots (stack : List (List Char)) : List (List Char) → List (List Char)
  | [] => stack.reverse
  | [segment] =>
    if isDoubleDot segment then (([] : List Char) :: climb stack).reverse
    else if isSingleDot segment then (([] : List Char) :: stack).reverse
    else (percentEncode keptInPath segment :: stack).reverse
  | segment :: rest =>
    if isDoubleDot segment then resolveDots (climb stack) rest
    else if isSingleDot segment then resolveDots stack rest
    else resolveDots (percentEncode keptInPath segment :: stack) rest

def segments (web : Bool) : List Char → List (List Char)
  | [] => [[]]
  | c :: rest =>
    if isSlash web c then [] :: segments web rest
    else
      match segments web rest with
      | [] => [[c]]
      | first :: others => (c :: first) :: others

def sentPath (cs : List Char) : String :=
  let below := match cs with
    | [] => []
    | c :: rest => if isSlash true c then rest else c :: rest
  String.ofList ((resolveDots [] (segments true below)).flatMap ('/' :: ·))

/-- The path and the query of what follows the host. -/
def pathAndQuery (cs : List Char) : List Char × Option String :=
  let shown := Text.beforeFirst '#' cs
  match Text.cutFirst '?' shown with
  | some (path, query) => (path, some (String.ofList (percentEncode keptInQuery query)))
  | none => (shown, none)

def parseFromHost (scheme : String) (web : Bool) (cs : List Char) : Except UrlProblem Url := do
  let authority := cs.takeWhile (!endsAuthority web ·)
  let rest := cs.dropWhile (!endsAuthority web ·)
  let (host, port) ← parseAuthority web authority rest.isEmpty
  let (path, query) := pathAndQuery rest
  return { scheme, host, port, path := if web then sentPath path else String.ofList path, query }

def hostless (scheme : String) (cs : List Char) : Url :=
  let (path, query) := pathAndQuery cs
  { scheme, host := none, port := none, path := String.ofList path, query }

/-- A URL of the file scheme, of which only the host matters. -/
def parseFile (cs : List Char) : Except UrlProblem Url :=
  match cs with
  | a :: b :: rest =>
    if isSlash true a ∧ isSlash true b then
      let name := rest.takeWhile (!endsAuthority true ·)
      if name = [] ∨ isDrive name then .ok (hostless "file" rest)
      else do
        let host ← Host.parse name
        return { hostless "file" (rest.drop name.length) with host := some host }
    else .ok (hostless "file" cs)
  | _ => .ok (hostless "file" cs)

def parse (s : String) : Except UrlProblem Url :=
  match scheme? (significant s) with
  | none => .error .relative
  | some (scheme, rest) =>
    if webSchemes.contains scheme then
      parseFromHost scheme true (rest.dropWhile (isSlash true))
    else if scheme = "file" then parseFile rest
    else
      match Text.dropFront ['/', '/'] rest with
      | some rest => parseFromHost scheme false rest
      | none => .ok (hostless scheme rest)

/-- Adds fields to the query; without any fields an empty query is left out. -/
def addFields (url : Url) (fields : List (String × String)) : Url :=
  let pairs := fields.map fun (key, value) =>
    String.ofList (formEncode key ++ '=' :: formEncode value)
  let given := url.query.toList.filter (!·.isEmpty)
  let query := String.intercalate "&" (given ++ pairs)
  { url with query := if query.isEmpty then none else some query }

/-- What a request for the URL names: the path and the query. -/
def target (url : Url) : String :=
  match url.query with
  | some query => url.path ++ "?" ++ query
  | none => url.path

end Url

end ImageFlow
