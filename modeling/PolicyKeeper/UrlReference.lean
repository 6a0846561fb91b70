import PolicyKeeper.HostAddress
import PolicyKeeper.QuotedText

/-!
# Url references

The target of an include is a reference that is resolved against the name of
the including file, as if both were addresses: a scheme, an authority, a path
with parameters, a query and a fragment.  Whatever stands in the name of the
file is read by these rules, its directory among them.
-/

namespace PolicyKeeper

inductive UrlFault
  | openBracket
  | badBracketedHost (host : List Char)
  | fourPartHost
  | badFutureHost
  | hiddenMark (authority : List Char)
  deriving DecidableEq

def UrlFault.message : UrlFault → String
  | .openBracket => "Invalid IPv6 URL"
  | .badBracketedHost host =>
      quoted (String.ofList host) ++ " does not appear to be an IPv4 or IPv6 address"
  | .fourPartHost => "An IPv4 address cannot be in brackets"
  | .badFutureHost => "IPvFuture address is invalid"
  | .hiddenMark authority =>
      "netloc '" ++ String.ofList authority ++
        "' contains invalid characters under NFKC normalization"

structure UrlParts where
  scheme : String
  authority : List Char
  path : List Char
  parameters : List Char
  query : List Char
  fragment : List Char
  deriving DecidableEq

namespace Url

def relativeSchemes : List String :=
  ["", "ftp", "http", "gopher", "nntp", "imap", "wais", "file", "https", "shttp", "mms",
    "prospero", "rtsp", "rtsps", "rtspu", "sftp", "svn", "svn+ssh", "ws", "wss"]

def authoritySchemes : List String :=
  ["", "ftp", "http", "gopher", "nntp", "telnet", "imap", "wais", "file", "mms", "https",
    "shttp", "snews", "prospero", "rtsp", "rtsps", "rtspu", "rsync", "svn", "svn+ssh", "sftp",
    "nfs", "git", "git+ssh", "ws", "wss"]

def parameterSchemes : List String :=
  ["", "ftp", "hdl", "prospero", "http", "imap", "https", "shttp", "rtsp", "rtsps", "rtspu",
    "sip", "sips", "mms", "sftp", "tel"]

/-- The address as it is read: controls and spaces before it, and tabs and
line breaks anywhere, do not count. -/
def cleaned (url : List Char) : List Char :=
  (url.dropWhile (·.toNat ≤ 0x20)).filter fun c => c ≠ '\t' && c ≠ '\r' && c ≠ '\n'

def cut (c : Char) (s : List Char) : List Char × Option (List Char) :=
  let before := s.takeWhile (· ≠ c)
  if before.length = s.length then (s, none) else (before, some (s.drop (before.length + 1)))

def isSchemeCharacter (c : Char) : Bool := c.isAlphanum || c == '+' || c == '-' || c == '.'

def splitScheme (default : String) (url : List Char) : String × List Char :=
  match cut ':' url with
  | (before, some rest) =>
      if (before.head?.any Char.isAlpha) && before.all isSchemeCharacter then
        (String.ofList (before.map Char.toLower), rest)
      else (default, url)
  | (_, none) => (default, url)

def checkBracketedHost (host : List Char) : Except UrlFault Unit :=
  match host with
  | 'v' :: rest =>
      let digits := rest.takeWhile fun c => (hexValue? c).isSome
      match rest.drop digits.length with
      | '.' :: _ :: _ => if digits.isEmpty then .error .badFutureHost else .ok ()
      | _ => .error .badFutureHost
  | _ =>
      if HostAddress.isFourPart host then .error .fourPartHost
      else if HostAddress.isEightPart host then .ok ()
      else .error (.badBracketedHost host)

/-- Characters that stand for others, among which is a mark of an address. -/
def hiddenMarks : List Char :=
  ['\u2047', '\u2048', '\u2049', '\u2100', '\u2101', '\u2105', '\u2106', '\u2a74', '\ufe13',
    '\ufe16', '\ufe55', '\ufe56', '\ufe5f', '\ufe6b', '\uff03', '\uff0f', '\uff1a', '\uff1f',
    '\uff20']

def checkBrackets (authority : List Char) : Except UrlFault Unit :=
  match authority.contains '[', authority.contains ']' with
  | false, false => .ok ()
  | true, true =>
      let inside := ((cut '[' authority).2.getD [])
      checkBracketedHost (cut ']' inside).1
  | _, _ => .error .openBracket

def checkAuthority (authority : List Char) : Except UrlFault Unit := do
  checkBrackets authority
  if authority.any hiddenMarks.contains then .error (.hiddenMark authority) else .ok ()

def splitAuthority : List Char → Except UrlFault (List Char × List Char)
  | '/' :: '/' :: rest => do
      let ends := fun c => c == '/' || c == '?' || c == '#'
      let authority := rest.takeWhile (!ends ·)
      checkAuthority authority
      .ok (authority, rest.dropWhile (!ends ·))
  | url => .ok ([], url)

def splitParameters (path : List Char) : List Char × List Char :=
  let last := (path.reverse.takeWhile (· ≠ '/')).reverse
  let before := path.take (path.length - last.length)
  match cut ';' last with
  | (segment, some parameters) => (before ++ segment, parameters)
  | (_, none) => (path, [])

def split (url : List Char) (defaultScheme : String) : Except UrlFault UrlParts := do
  let (scheme, rest) := splitScheme defaultScheme (cleaned url)
  let (authority, rest) ← splitAuthority rest
  let (rest, fragment) := cut '#' rest
  let (path, query) := cut '?' rest
  let (path, parameters) :=
    if parameterSchemes.contains scheme then splitParameters path else (path, [])
  .ok { scheme, authority, path, parameters, query := query.getD [],
        fragment := fragment.getD [] }

def withMark (mark : Char) (part : List Char) : List Char :=
  if part.isEmpty then [] else mark :: part

def joinParts (u : UrlParts) : List Char :=
  let path := u.path ++ withMark ';' u.parameters
  let hasAuthority := !u.authority.isEmpty ||
    (u.scheme ≠ "" && authoritySchemes.contains u.scheme) || ['/', '/'].isPrefixOf path
  let location :=
    if hasAuthority then
      let path := if !path.isEmpty && path.head? ≠ some '/' then '/' :: path else path
      '/' :: '/' :: u.authority ++ path
    else path
  let start := if u.scheme = "" then [] else u.scheme.toList ++ [':']
  start ++ location ++ withMark '?' u.query ++ withMark '#' u.fragment

def segments (path : List Char) : List (List Char) := partsAt '/' path

def joinSegments : List (List Char) → List Char
  | [] => []
  | [segment] => segment
  | segment :: rest => segment ++ '/' :: joinSegments rest

def dropInnerEmpty : List (List Char) → List (List Char)
  | [] => []
  | first :: rest =>
      match rest.getLast? with
      | none => [first]
      | some last => first :: (rest.dropLast.filter (!·.isEmpty)) ++ [last]

/-- Takes the dot segments away: one dot stays, two dots leave the segment
before, if there is one. -/
def resolveDots (done : List (List Char)) : List (List Char) → List (List Char)
  | [] => done.reverse
  | segment :: rest =>
      if segment = ['.', '.'] then resolveDots done.tail rest
      else if segment = ['.'] then resolveDots done rest
      else resolveDots (segment :: done) rest

def joinPaths (base path : List Char) : List Char :=
  let own := segments path
  let all :=
    if path.head? = some '/' then own
    else
      let before := segments base
      let before := if before.getLast? = some [] then before else before.dropLast
      dropInnerEmpty (before ++ own)
  let resolved := resolveDots [] all
  let resolved :=
    match all.getLast? with
    | some last => if last = ['.'] ∨ last = ['.', '.'] then resolved ++ [[]] else resolved
    | none => resolved
  let joined := joinSegments resolved
  if joined.isEmpty then ['/'] else joined

def joinLists (base reference : List Char) : Except UrlFault (List Char) :=
  if base.isEmpty then .ok reference
  else if reference.isEmpty then .ok base
  else do
    let b ← split base ""
    let r ← split reference b.scheme
    if r.scheme ≠ b.scheme || !relativeSchemes.contains r.scheme then .ok reference
    else
      let usesAuthority := authoritySchemes.contains r.scheme
      if usesAuthority && !r.authority.isEmpty then .ok (joinParts r)
      else
        let r := if usesAuthority then { r with authority := b.authority } else r
        if r.path.isEmpty && r.parameters.isEmpty then
          .ok (joinParts { r with
            path := b.path, parameters := b.parameters
            query := if r.query.isEmpty then b.query else r.query })
        else .ok (joinParts { r with path := joinPaths b.path r.path })

def join (base reference : String) : Except UrlFault String :=
  (joinLists base.toList reference.toList).map String.ofList

end Url

end PolicyKeeper
