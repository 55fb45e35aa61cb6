import ForeignKeyLint.Domain
import ForeignKeyLint.Url.Address
import ForeignKeyLint.Url.Percent

/-!
The part of a URL that says whom to ask: credentials, a host and a port. The schemes with a usual
port take a domain name or an address for a host, in any spelling; for others a host is any text.
-/

namespace ForeignKeyLint.Url

open Text

/-- A name and a password, both encoded. -/
structure Credentials where
  name : List Char
  password : Option (List Char)
deriving Repr, DecidableEq

namespace Credentials

/-- The credentials in a text, unless there are none. The first colon parts the two. -/
def ofText? (text : List Char) : Option Credentials :=
  let isKept := Percent.keepsAllBut " \"<>\x60#?\x7b\x7d/:;=@[\\]^|"
  let name := Percent.encode isKept (text.takeWhile (· != ':'))
  let password := Percent.encode isKept ((text.dropWhile (· != ':')).drop 1)
  if name.isEmpty && password.isEmpty then none
  else some { name, password := if password.isEmpty then none else some password }

def text (credentials : Credentials) : List Char :=
  credentials.name ++ (credentials.password.map (':' :: ·)).getD [] ++ ['@']

/-- What is encoded is text: the name, and the password unless a name makes up for it. -/
def areReadable (credentials : Credentials) : Bool :=
  (Percent.decode? credentials.name).isSome &&
    (!credentials.name.isEmpty || credentials.password.all fun password =>
      (Percent.decode? password).isSome)

end Credentials

structure Authority where
  credentials : Option Credentials := none
  host : List Char
  /-- The port, unless it is the usual one. -/
  port : Option Nat := none
deriving Repr, DecidableEq

/-- The schemes whose URLs always have a host, with their usual ports. -/
def usualPorts : List (String × Nat) :=
  [("ftp", 21), ("http", 80), ("https", 443), ("ws", 80), ("wss", 443)]

/-- The scheme of the files of a machine, whose URLs need no host. -/
def fileScheme : String := "file"

/-- The host is a domain name or an address, and the path starts with a slash, which may also lean
backward. -/
def isKnown (scheme : String) : Bool :=
  (usualPorts.lookup scheme).isSome || scheme == fileScheme

/-- Characters that make any host invalid. -/
def isForbiddenInHost (c : Char) : Bool :=
  "\x00\t\n\r #/:<>?@[\\]^|".toList.contains c

/-- Characters that make a domain name invalid. -/
def isForbiddenInDomain (c : Char) : Bool :=
  isForbiddenInHost c || c.toNat < 0x20 || c.toNat == 0x7F || c == '%'

/-- An address between brackets. -/
def bracketedHost? (text : List Char) : Option (List Char) := do
  let inner ← afterPrefix? ['['] text
  let address ← Ipv6.parse? (← beforeSuffix? [']'] inner)
  some (['['] ++ address.text ++ [']'])

/-- A domain name or an address in normal form. -/
def knownHost? (text : List Char) : Option (List Char) := do
  if beginsWith ['['] text then bracketedHost? text
  else
    let name ← Domain.toPlain? (← Percent.decode? text)
    if name.isEmpty || name.any isForbiddenInDomain then none
    else if Ipv4.isMeant name then (Ipv4.parse? name).map Ipv4.text
    else some name

/-- A host of a scheme that says nothing about hosts. It may be empty. -/
def freeHost? (text : List Char) : Option (List Char) :=
  if beginsWith ['['] text then bracketedHost? text
  else if text.any isForbiddenInHost then none
  else some (Percent.encode (fun c => !Percent.isControl c) text)

/-- Splits a text at the first colon outside of brackets. -/
def splitPort (inBrackets : Bool) : List Char → List Char × List Char
  | [] => ([], [])
  | c :: rest =>
    if c = ':' ∧ !inBrackets then ([], c :: rest)
    else
      let (host, port) := splitPort (c = '[' ∨ (c ≠ ']' ∧ inBrackets)) rest
      (c :: host, port)

/-- The port that digits give, if it is in range; nothing where none is written. -/
def port? (digits : List Char) : Option (Option Nat) :=
  if digits.isEmpty then some none
  else (numeral? 10 digits).bind fun value => if value < 65536 then some (some value) else none

/-- The text up to the last `@`, if there is one, and the text after it. -/
def splitCredentials (text : List Char) : Option (List Char) × List Char :=
  let after := (text.reverse.takeWhile (· != '@')).reverse
  if after.length = text.length then (none, text)
  else (some (text.take (text.length - after.length - 1)), after)

/-- Reads the authority of a URL with a scheme other than that of files. Credentials and ports need
a host. -/
def authority? (scheme : String) (text : List Char) : Option Authority := do
  let (userinfo, place) := splitCredentials text
  let credentials := userinfo.bind Credentials.ofText?
  let (hostText, portText) := splitPort false place
  let host ← if isKnown scheme then knownHost? hostText else freeHost? hostText
  let port ← port? (portText.drop 1)
  let needsHost := !portText.isEmpty || credentials.isSome || userinfo == some []
  if host.isEmpty && needsHost then none
  some { credentials, host, port := if port = usualPorts.lookup scheme then none else port }

/-- Reads the authority of a URL for files, which has a host at most. The machine itself needs no
name. -/
def fileAuthority? (text : List Char) : Option Authority := do
  if text.isEmpty then return { host := [] }
  let host ← knownHost? text
  return { host := if host == "localhost".toList then [] else host }

def Authority.text (authority : Authority) : List Char :=
  (authority.credentials.map Credentials.text).getD [] ++ authority.host ++
    (authority.port.map fun port => ':' :: Decimal.digits port).getD []

end ForeignKeyLint.Url
