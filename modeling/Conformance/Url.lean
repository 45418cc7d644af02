import Conformance.Url.Host
import Conformance.Url.Path

/-!
# URLs

The address of a host as a client reads it from a text: blanks at the ends and line breaks do not
count, a scheme and its colon come first, and what may not stand in a part is written with percent
signs. An address has one text, so addresses that mean the same are written alike; `Url.read`
refuses a text whose host or port cannot be read.
-/

namespace Conformance

open Url (Host Kind)

/-- An address. -/
structure Url where
  scheme : String
  /-- The name of the user. -/
  user : String
  /-- The password, if one is given. -/
  password : Option String
  /-- The host, unless the address has no place for one. -/
  host : Option Host
  /-- The port, unless it is the usual one. -/
  port : Option Nat
  path : String
  query : Option String
  fragment : Option String
  deriving Repr, DecidableEq

namespace Url

/-! ## Text -/

/-- The user in front of a host. -/
def credentials (u : Url) : String :=
  if u.user.isEmpty && u.password.isNone then ""
  else u.user ++ ((u.password.map (":" ++ ·)).getD "") ++ "@"

/-- What stands between the scheme and the path. Without a host, a path that begins with two slashes
has a step in front that stays, for it would be taken for a host. -/
def authority (u : Url) : String :=
  match u.host with
  | none => if u.path.startsWith "//" then "/." else ""
  | some h => "//" ++ u.credentials ++ h.text ++ ((u.port.map fun n => ":" ++ toString n).getD "")

/-- The address as a text. -/
def text (u : Url) : String :=
  u.scheme ++ ":" ++ u.authority ++ u.path ++ ((u.query.map ("?" ++ ·)).getD "")
    ++ ((u.fragment.map ("#" ++ ·)).getD "")

/-- The address without a user. -/
def anonymous (u : Url) : Url := { u with user := "", password := none }

/-! ## Schemes -/

/-- The schemes of the web with their usual ports. -/
def webSchemes : List (String × Nat) :=
  [("http", 80), ("https", 443), ("ws", 80), ("wss", 443), ("ftp", 21)]

/-- The kind of a scheme. -/
def Kind.ofScheme (scheme : String) : Kind :=
  if scheme = "file" then .file else if webSchemes.any (·.1 == scheme) then .web else .other

/-- The text up to the first character of a class, and the rest. -/
def upTo (inClass : Char → Bool) (s : List Char) : List Char × List Char :=
  (s.takeWhile (!inClass ·), s.dropWhile (!inClass ·))

/-- The scheme of a text, and the text behind its colon. -/
def scheme? (s : List Char) : Option (String × List Char) :=
  match upTo (· = ':') s with
  | (c :: name, ':' :: rest) =>
    if c.isAlpha && name.all fun x => x.isAlphanum || x = '+' || x = '-' || x = '.' then
      some (String.ofList ((c :: name).map Char.toLower), rest)
    else none
  | _ => none

/-! ## Users, hosts and ports -/

/-- The name and the password of a user, with a colon between. An empty password is none. -/
def readCredentials (s : List Char) : String × Option String :=
  let (user, password) := upTo (· = ':') s
  let written (s : List Char) : String := String.ofList (percentEncode notInCredentials s)
  (written user, if password.length < 2 then none else some (written (password.drop 1)))

/-- The text up to the first colon outside of brackets, and the rest. -/
def hostEnd (inside : Bool) : List Char → List Char × List Char
  | [] => ([], [])
  | c :: rest =>
    if c = ':' && !inside then ([], c :: rest)
    else
      let (host, rest) := hostEnd ((inside || c = '[') && c != ']') rest
      (c :: host, rest)

/-- The port behind a colon, unless it is the usual one of the scheme, and what stands behind it. -/
def port? (scheme : String) (s : List Char) : Option (Option Nat × List Char) :=
  match s with
  | ':' :: s =>
    let (digits, rest) := upTo (!·.isDigit) s
    match rest with
    | [] | '\\' :: _ =>
      let n := digits.foldl (fun n c => 10 * n + (c.toNat - 48)) 0
      if 65535 < n then none
      else some (if digits.isEmpty || webSchemes.contains (scheme, n) then none else some n, rest)
    | _ => none
  | s => some (none, s)

/-- The user, if any, and what stands behind the sign that divides it from the host. The sign alone
is refused where something follows the authority. -/
def user? (isAtEnd : Bool) (s : List Char) : Option ((String × Option String) × List Char) :=
  if !s.contains '@' then some (("", none), s)
  else
    let host := (s.reverse.takeWhile (· ≠ '@')).reverse
    let user := s.take (s.length - host.length - 1)
    if user.isEmpty && host.isEmpty && !isAtEnd then none else some (readCredentials user, host)

/-! ## Queries and fragments -/

/-- The address with the query and the fragment that `s` writes. -/
def withEnd (u : Url) (s : List Char) : Url :=
  let (query, fragment) := upTo (· = '#') s
  let isWellKnown := (Kind.ofScheme u.scheme).isWellKnown
  let part (inClass : Char → Bool) (s : List Char) : Option String :=
    if s.isEmpty then none else some (String.ofList (percentEncode inClass (s.drop 1)))
  { u with query := part (notInQuery isWellKnown) query, fragment := part notInFragment fragment }

/-- Does the character end a path? -/
def endsPath (c : Char) : Bool := c = '?' || c = '#'

/-! ## Addresses -/

/-- The address with an authority, the text of which is `s` with what follows. -/
def readWithHost? (scheme : String) (s : List Char) : Option Url := do
  let k := Kind.ofScheme scheme
  let (authority, rest) := upTo (fun c => k.isSlash c || endsPath c) s
  let ((user, password), s) ← user? rest.isEmpty authority
  let (name, s) := hostEnd false s
  let host ← if k = .web then Host.wellKnown? name else Host.ofText? name
  if name.isEmpty && (k = .web || !user.isEmpty || password.isSome || s.head? = some ':') then none
  let (port, s) ← port? scheme s
  let (path, rest) := upTo endsPath (s ++ rest)
  let path := match path with
    | [] => if k = .web then "/" else ""
    | c :: path => pathText k (pathSteps k (if k.isSlash c then path else c :: path))
  return withEnd ⟨scheme, user, password, some host, port, path, none, none⟩ rest

/-- The address of a file. The host of this computer has no name, and a drive that a path begins
with is on this computer. In front of the path of a host stands one slash; without a host, a slash
divides an empty step from the next. -/
def readFile? (s : List Char) : Option Url := do
  let k : Kind := .file
  let withoutSlash (s : List Char) : List Char :=
    match s with
    | c :: rest => if k.isSlash c then rest else c :: rest
    | [] => []
  let (host, s) ← match s with
    | a :: b :: rest =>
      if k.isSlash a && k.isSlash b then
        let (name, after) := upTo (fun c => k.isSlash c || endsPath c) rest
        if name.isEmpty || isDrive name then some (Host.none, rest)
        else
          match Host.wellKnown? name with
          | none => none
          | some host =>
            if host = .name "localhost" then some (Host.none, after)
            else some (host, withoutSlash after)
      else some (Host.none, withoutSlash s)
    | s => some (Host.none, withoutSlash s)
  let (path, rest) := upTo endsPath s
  let steps := pathSteps k path
  let host := if (steps.head?.map isDrive).getD false then Host.none else host
  return withEnd ⟨"file", "", none, some host, none, pathText k steps, none, none⟩ rest

/-- The address without a host. What does not begin with a slash is no row of steps and stays as it
is. -/
def readWithoutHost (scheme : String) (s : List Char) : Url :=
  let (path, rest) := upTo endsPath s
  let path := match path with
    | '/' :: path => pathText .other (pathSteps .other path)
    | path => String.ofList (percentEncode isControl path)
  withEnd ⟨scheme, "", none, none, none, path, none, none⟩ rest

/-- The text without the characters that do not count. -/
def cleaned (s : List Char) : List Char :=
  let blank (c : Char) : Bool := c.toNat ≤ 0x20
  let s := ((s.dropWhile blank).reverse.dropWhile blank).reverse
  s.filter fun c => c ≠ '\t' && c ≠ '\n' && c ≠ '\r'

/-- The address that a text writes. -/
def read (s : String) : Option Url := do
  let (scheme, rest) ← scheme? (cleaned s.toList)
  match Kind.ofScheme scheme with
  | .file => readFile? rest
  | .web => readWithHost? scheme (rest.dropWhile Kind.web.isSlash)
  | .other =>
    match rest with
    | '/' :: '/' :: rest => readWithHost? scheme rest
    | rest => return readWithoutHost scheme rest

end Url

end Conformance
