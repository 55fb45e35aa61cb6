import ForeignKeyLint.Url.Authority

/-!
Absolute URLs in normal form. A scheme is in lower case, the usual port of a scheme is left out, the
path has no dot segments, and every part has its own characters encoded.
-/

namespace ForeignKeyLint

open Text

structure Url where
  scheme : String
  authority : Option Url.Authority
  path : List Char
  /-- The query and the fragment with the marks before them. -/
  suffix : List Char := []
deriving Repr, DecidableEq

namespace Url

def isKeptInPath : Char → Bool :=
  Percent.keepsAllBut " \"<>\x60#?\x7b\x7d"

/-- A quote is kept in the query of a scheme that is not known. -/
def isKeptInQuery (scheme : String) (c : Char) : Bool :=
  Percent.keepsAllBut " \"#<>" c && !(isKnown scheme && c == '\'')

def isKeptInFragment : Char → Bool :=
  Percent.keepsAllBut " \"<>\x60"

/-- The scheme in lower case, and what follows its colon. -/
def scheme? (text : List Char) : Option (String × List Char) :=
  match splitAtFirst? [':'] text with
  | some (c :: name, rest) =>
    if c.isAlpha && name.all fun c => c.isAlphanum || c == '+' || c == '-' || c == '.' then
      some (String.ofList ((c :: name).map Char.toLower), rest)
    else none
  | _ => none

/-- A segment that names its own directory. -/
def isHere (segment : List Char) : Bool :=
  [".", "%2e"].contains (String.ofList (segment.map Char.toLower))

/-- A segment that names the parent of its directory. -/
def isParent (segment : List Char) : Bool :=
  ["..", ".%2e", "%2e.", "%2e%2e"].contains (String.ofList (segment.map Char.toLower))

/-- A segment that names a drive has no parent. -/
def isDrive : List Char → Bool
  | [letter, mark] => letter.isAlpha && (mark == ':' || mark == '|')
  | _ => false

/-- The segments, from the last to the first, without the last of them. -/
def leave : List (List Char) → List (List Char)
  | [] => []
  | last :: others => if isDrive last then last :: others else others

/-- Resolves dot segments, given those already resolved from the last to the first. A path that
ends in one ends in a slash. -/
def resolve (done : List (List Char)) : List (List Char) → List (List Char)
  | [] => done.reverse
  | segment :: others =>
    let kept :=
      if isParent segment then leave done else if isHere segment then done else segment :: done
    let isDots := isParent segment || isHere segment
    if others.isEmpty && isDots then ([] :: kept).reverse else resolve kept others

/-- Segments as a path that starts with a slash. -/
def pathOfSegments (segments : List (List Char)) : List Char :=
  '/' :: ['/'].intercalate (segments.map (Percent.encode isKeptInPath))

/-- The path after its first slash, in normal form. -/
def absolutePath (path : List Char) : List Char :=
  pathOfSegments (resolve [] (splitOn '/' path))

/-- The path of a file after its first slash, in normal form. It starts with a single slash, and a
drive is marked by a colon. -/
def filePath (path : List Char) : List Char :=
  let mark (segment : List Char) : List Char :=
    if isDrive segment then segment.take 1 ++ [':'] else segment
  '/' :: (absolutePath (['/'].intercalate ((splitOn '/' path).map mark))).dropWhile (· == '/')

/-- The query and the fragment in normal form. -/
def suffixOf (scheme : String) (text : List Char) : List Char :=
  let fragment (text : List Char) : List Char :=
    match text with
    | '#' :: rest => '#' :: Percent.encode isKeptInFragment rest
    | _ => []
  match text with
  | '?' :: rest =>
    '?' :: Percent.encode (isKeptInQuery scheme) (rest.takeWhile (· != '#')) ++
      fragment (rest.dropWhile (· != '#'))
  | _ => fragment text

/-- Reads what stands between the scheme of files and the query. -/
def fileBody? (body : List Char) : Option Url :=
  match body with
  | '/' :: '/' :: rest =>
    let hostText := rest.takeWhile (· != '/')
    if isDrive hostText then
      some { scheme := fileScheme, authority := some { host := [] }, path := filePath rest }
    else do
      let authority ← fileAuthority? hostText
      some { scheme := fileScheme, authority := some authority,
             path := filePath ((rest.dropWhile (· != '/')).drop 1) }
  | '/' :: rest | rest =>
    some { scheme := fileScheme, authority := some { host := [] }, path := filePath rest }

/-- Reads what stands between a scheme with a usual port and the query. Any number of slashes may
come before the host. -/
def knownBody? (scheme : String) (body : List Char) : Option Url := do
  let place := body.dropWhile (· == '/')
  let authority ← authority? scheme (place.takeWhile (· != '/'))
  some { scheme, authority := some authority
         path := absolutePath ((place.dropWhile (· != '/')).drop 1) }

/-- Reads what stands between a scheme that is not known and the query. A path that starts with two
slashes is kept from being read as a host. A backslash after a port starts a path. -/
def freeBody? (scheme : String) (body : List Char) : Option Url :=
  match body with
  | '/' :: '/' :: place => do
    let wide := place.takeWhile (· != '/')
    let (_, tail) := splitPort false (splitCredentials wide).2
    let path := tail.dropWhile (· != '\\') ++ place.dropWhile (· != '/')
    let authority ← authority? scheme (wide.take (wide.length - (tail.dropWhile (· != '\\')).length))
    some { scheme, authority := some authority
           path := match path with
            | [] => []
            | '/' :: rest | rest => absolutePath rest }
  | '/' :: rest =>
    let path := absolutePath rest
    some { scheme, authority := none
           path := if beginsWith ['/', '/'] path then ['/', '.'] ++ path else path }
  | _ => some { scheme, authority := none, path := Percent.encode (fun c => !Percent.isControl c) body }

/-- Reads an absolute URL. -/
def parse? (text : List Char) : Option Url := do
  let isEdge (c : Char) : Bool := c.toNat ≤ 0x20
  let trimmed := ((text.dropWhile isEdge).reverse.dropWhile isEdge).reverse
  let (scheme, rest) ← scheme? (trimmed.filter fun c => !"\t\n\r".toList.contains c)
  let isMark (c : Char) : Bool := c == '?' || c == '#'
  let body := rest.takeWhile fun c => !isMark c
  let slashed := body.map fun c => if c = '\\' then '/' else c
  let url ←
    if scheme = fileScheme then fileBody? slashed
    else if isKnown scheme then knownBody? scheme slashed
    else freeBody? scheme body
  some { url with suffix := suffixOf scheme (rest.dropWhile fun c => !isMark c) }

/-- The URL without credentials that can be told in another way. -/
def withoutCredentials (url : Url) : Url :=
  { url with
    authority := url.authority.map fun authority =>
      if authority.credentials.any Credentials.areReadable then
        { authority with credentials := none }
      else authority }

def text (url : Url) : String :=
  let authority := (url.authority.map fun authority => ['/', '/'] ++ authority.text).getD []
  url.scheme ++ ":" ++ String.ofList (authority ++ url.path ++ url.suffix)

end Url

end ForeignKeyLint
