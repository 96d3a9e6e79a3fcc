import Vestibule.Url.Authority

/-! URLs, from texts and as normal texts. A text is read on its own, without a base. -/

namespace Vestibule

inductive UrlPath where
  | opaqueText (text : String)
  | segments (segments : List String)
  deriving DecidableEq, Repr

def UrlPath.ofSegments (segments : List (List Char)) : UrlPath :=
  .segments (segments.map String.ofList)

structure Url where
  scheme : String
  username : String
  password : String
  host : Option Host
  port : Option Nat
  path : UrlPath
  query : Option String
  fragment : Option String
  deriving DecidableEq, Repr

namespace Url

def authorityText (u : Url) : List Char :=
  match u.host with
  | none => []
  | some host =>
    let password := if u.password = "" then [] else ':' :: u.password.toList
    let user := u.username.toList ++ password
    "//".toList ++ (if user.isEmpty then [] else user ++ ['@']) ++ host.text ++
      (match u.port with
        | some port => ':' :: (toString port).toList
        | none => [])

/-- A path that would read as a host is kept apart by a dot. -/
def pathText (u : Url) : List Char :=
  match u.path with
  | .opaqueText text => text.toList
  | .segments segments =>
    let apart := match u.host, segments with
      | none, "" :: _ :: _ => "/.".toList
      | _, _ => []
    apart ++ segments.flatMap fun s => '/' :: s.toList

def part (sign : Char) : Option String → List Char
  | none => []
  | some text => sign :: text.toList

def text (u : Url) : List Char :=
  u.scheme.toList ++ ':' :: u.authorityText ++ u.pathText ++ part '?' u.query ++
    part '#' u.fragment

instance : ToString Url := ⟨fun u => String.ofList u.text⟩

/-- The same URL with the pairs at the end of its query. -/
def appendPairs (u : Url) (pairs : List (String × String)) : Url :=
  let added := String.ofList (Percent.form pairs)
  let query := match u.query with
    | none | some "" => added
    | some old => old ++ "&" ++ added
  { u with query := some query }

/-- The text without control characters and spaces at its ends, and without tabs and line ends. -/
def cleaned (text : List Char) : List Char :=
  let isEdge := fun (c : Char) => c.toNat ≤ 0x20
  let trimmed := ((text.dropWhile isEdge).reverse.dropWhile isEdge).reverse
  trimmed.filter fun c => c ≠ '\t' ∧ c ≠ '\n' ∧ c ≠ '\r'

/-- The scheme in lower case and what follows its colon. -/
def splitScheme? (text : List Char) : Option (String × List Char) :=
  let isPart := fun (c : Char) =>
    Text.isAsciiLetter c || Text.isAsciiDigit c || c == '+' || c == '-' || c == '.'
  match text.takeWhile isPart, text.dropWhile isPart with
  | c :: name, ':' :: rest =>
    if Text.isAsciiLetter c then some (String.ofList ((c :: name).map Text.toAsciiLower), rest)
    else none
  | _, _ => none

/-- The host and the path of a file. A drive where a host could stand belongs to the path, and a
path with a drive has no host. -/
def readFile (text : List Char) : Except UrlFault Url := do
  let (hostText, rest) :=
    match text with
    | c :: d :: rest =>
      if isSlash true c && isSlash true d then
        let hostText := rest.takeWhile (!endsAuthority true ·)
        if Segment.isDrive hostText then ([], rest) else (hostText, rest.drop hostText.length)
      else ([], text)
    | _ => ([], text)
  let host ← if hostText.isEmpty then .ok (.domain "") else Host.read hostText
  let path := readFilePath (beforeTail rest)
  let host := if host = .domain "localhost" || path.any Segment.isDrive then .domain "" else host
  return ⟨"file", "", "", some host, none, .ofSegments path, none, none⟩

/-- The authority and the path of a text after its scheme. -/
def readHierarchy (scheme : String) (text : List Char) : Except UrlFault Url := do
  let special := isSpecial scheme
  let withAuthority := fun (text : List Char) => show Except UrlFault Url from do
    let (a, rest) ← readAuthority scheme text
    return ⟨scheme, a.username, a.password, some a.host, a.port,
      .ofSegments (readPath special (beforeTail rest)), none, none⟩
  let bare := fun (path : UrlPath) => Url.mk scheme "" "" none none path none none
  if scheme = "file" then readFile text
  else if special then withAuthority (text.dropWhile (isSlash true))
  else
    match text with
    | '/' :: '/' :: rest => withAuthority rest
    | '/' :: rest => return bare (.ofSegments (readSegments false [] (beforeTail rest)))
    | _ =>
      return bare (.opaqueText (String.ofList (Percent.encode Percent.controls (beforeTail text))))

/-- The query and the fragment of a URL of a scheme. -/
def readTail (scheme : String) (text : List Char) : Option String × Option String :=
  let beforeFragment := text.takeWhile (· != '#')
  let querySet := if isSpecial scheme then Percent.specialQuery else Percent.query
  let encoded := fun (s : Percent.CharSet) (t : List Char) => String.ofList (Percent.encode s t)
  (((beforeFragment.dropWhile (· != '?')).tail?).map (encoded querySet),
    ((text.dropWhile (· != '#')).tail?).map (encoded Percent.fragment))

/-- Reads an absolute URL. -/
def read (text : String) : Except UrlFault Url := do
  match splitScheme? (cleaned text.toList) with
  | none => .error .relative
  | some (scheme, rest) =>
    let u ← readHierarchy scheme rest
    let (query, fragment) := readTail scheme rest
    return { u with query := query, fragment := fragment }

/-- Reads a text relative to `u`: an authority, a path from the root or from the last slash, a
query, or a fragment. -/
def readRelative (u : Url) (text : List Char) : Except UrlFault Url := do
  let special := isSpecial u.scheme
  let (query, fragment) := readTail u.scheme text
  let withPath := fun (path : List (List Char)) =>
    { u with path := .ofSegments path, query := query, fragment := fragment }
  match u.path, beforeTail text with
  | .opaqueText _, [] =>
    if query.isNone && fragment.isSome then return { u with fragment := fragment }
    else .error .relative
  | .opaqueText _, _ => .error .relative
  | .segments _, [] => return { u with query := query.or u.query, fragment := fragment }
  | .segments segments, c :: rest =>
    if !isSlash special c then
      return withPath
        (readSegments special (segments.dropLast.map String.toList) (c :: rest))
    else if rest.head?.any (isSlash special) then read (u.scheme ++ ":" ++ String.ofList text)
    else return withPath (readSegments special [] rest)

/-- Reads a URL, or a text relative to `u`. A text with the special scheme of `u` is relative
unless two slashes follow the scheme. -/
def join (u : Url) (text : String) : Except UrlFault Url :=
  match splitScheme? (cleaned text.toList) with
  | none => readRelative u (cleaned text.toList)
  | some (scheme, rest) =>
    if scheme = u.scheme && isSpecial scheme && (rest.takeWhile (isSlash true)).length < 2 then
      readRelative u rest
    else read text

end Url

end Vestibule
