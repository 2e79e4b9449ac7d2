import AuthProxy.Text.Utf8
import AuthProxy.Url.Idna.Domain
import AuthProxy.Url.Ipv6

/-!
# Reading URLs

The scheme and host of a URL. The schemes of the web name hosts that are domains or addresses, and forgive backslashes
and missing slashes; `file` may do without a host; under any other scheme a host follows two slashes and is taken as it
stands. Every failure has a cause of its own.
-/

namespace AuthProxy.Url

open Number Text

/-- The schemes whose hosts are domains or addresses, apart from `file`. -/
def webSchemes : List String :=
  ["http", "https", "ws", "wss", "ftp"]

def isSchemeChar (c : Char) : Bool :=
  c.isAlphanum || c == '+' || c == '-' || c == '.'

/-- The scheme of a text, in lower case, and what follows its colon. -/
def takeScheme? (s : List Char) : Option (List Char × List Char) :=
  let scheme := s.takeWhile isSchemeChar
  match scheme.head?, s.dropWhile isSchemeChar with
  | some c, ':' :: r => if c.isAlpha then some (scheme.map Char.toLower, r) else none
  | _, _ => none

/-- The bytes of a text with its percent signs decoded, where two hexadecimal digits follow them. -/
def percentDecode : Bytes → Bytes
  | [] => []
  | [b] => [b]
  | [b, c] => [b, c]
  | b :: h :: l :: r =>
    match hexDigit? (Char.ofNat h.toNat), hexDigit? (Char.ofNat l.toNat) with
    | some x, some y =>
      if b = 37 then UInt8.ofNat (x * 16 + y) :: percentDecode r else b :: percentDecode (h :: l :: r)
    | _, _ => b :: percentDecode (h :: l :: r)

/-- The address in brackets, if the text starts with one. -/
def bracketed (s : List Char) : Option (Except Malformed Host) :=
  match s with
  | '[' :: r =>
    match r.getLast?, ipv6Address? r.dropLast with
    | some ']', some groups => some (.ok (.ipv6 groups))
    | _, _ => some (.error .invalidIpv6)
  | _ => none

/-- The host of a web scheme. -/
def webHost (s : List Char) : Except Malformed Host :=
  match bracketed s with
  | some result => result
  | none =>
    match Idna.domain? (decodeLossy (percentDecode (encodeUtf8 s))) with
    | none => .error .invalidDomain
    | some [] => .error .emptyHost
    | some domain =>
      if endsInNumber domain then
        match ipv4Address? domain with
        | some address => .ok (.ipv4 address)
        | none => .error .invalidIpv4
      else .ok (.domain domain)

/-- A character that no host may hold. -/
def isForbiddenInHost (c : Char) : Bool :=
  "\x00\t\n\r #/:<>?@[\\]^|".toList.contains c

/-- The host of a scheme that does not say what a host is; an empty one is none. -/
def plainHost? (s : List Char) : Except Malformed (Option Host) :=
  match bracketed s with
  | some result => some <$> result
  | none =>
    if s.any isForbiddenInHost then .error .invalidDomainCharacter
    else .ok (if s.isEmpty then none else some (.domain s))

/-- The host of an authority, and what follows it; a colon within brackets belongs to the host. -/
def splitHost (inBrackets : Bool) : List Char → List Char × List Char
  | [] => ([], [])
  | c :: r =>
    if c = ':' ∧ ¬ inBrackets then ([], c :: r)
    else
      let (host, rest) := splitHost (if c = '[' then true else if c = ']' then false else inBrackets) r
      (c :: host, rest)

/-- Whether a port, behind its colon, is a number that fits 16 bits; a backslash ends it. -/
def portFits (s : List Char) : Bool :=
  match numberIn? 10 (s.takeWhile Char.isDigit), s.dropWhile Char.isDigit with
  | some n, [] | some n, '\\' :: _ => decide (n < 2 ^ 16)
  | _, _ => false

/-- The text before and behind the last occurrence of a character, if there is one. -/
def splitLast? (c : Char) (s : List Char) : Option (List Char × List Char) :=
  let behind := (s.reverse.takeWhile (· != c)).reverse
  if behind.length = s.length then none else some (s.take (s.length - behind.length - 1), behind)

/-- The host of an authority, which is followed by `rest`. Credentials or a port need a host to belong to. -/
def authorityHost (web : Bool) (authority rest : List Char) : Except Malformed (Option Host) := do
  let (credentials, place) := (splitLast? '@' authority).getD ([], authority)
  let bare := (splitLast? '@' authority).isSome && credentials.isEmpty
  if bare ∧ place.isEmpty ∧ ¬ rest.isEmpty then .error .emptyHost
  let (name, port) := splitHost false place
  if web ∧ name.isEmpty then .error .emptyHost
  let host ← if web then some <$> webHost name else plainHost? name
  if host.isNone ∧ ¬ port.isEmpty then .error .emptyHost
  match port with
  | _ :: digits => if portFits digits then pure () else .error .invalidPort
  | [] => pure ()
  if host.isNone ∧ ¬ credentials.isEmpty ∧ credentials ≠ [':'] then .error .emptyHost
  .ok host

/-- The character ends an authority. -/
def endsAuthority (web : Bool) (c : Char) : Bool :=
  c == '/' || c == '?' || c == '#' || (web && c == '\\')

/-- The host of what follows the slashes. -/
def hostBehindSlashes (web : Bool) (s : List Char) : Except Malformed (Option Host) :=
  authorityHost web (s.takeWhile (! endsAuthority web ·)) (s.dropWhile (! endsAuthority web ·))

/-- A drive letter, which a path of files may start with. -/
def isDriveLetter : List Char → Bool
  | [c, d] => c.isAlpha && (d == ':' || d == '|')
  | _ => false

/-- The segment stands for the directory it is in. -/
def isDot (s : List Char) : Bool :=
  s == ['.'] || s.map Char.toLower == "%2e".toList

/-- The segment stands for the directory above. -/
def isDoubleDot (s : List Char) : Bool :=
  ["..", "%2e.", ".%2e", "%2e%2e"].any fun t => s.map Char.toLower == t.toList

/-- Whether a path of files, `depth` segments deep so far, starts with a drive letter. -/
def startsWithDrive (depth : Nat) : List (List Char) → Bool
  | [] => false
  | s :: r =>
    if isDoubleDot s then startsWithDrive (depth - 1) r
    else if isDot s then startsWithDrive depth r
    else if depth = 0 ∧ isDriveLetter s then true
    else startsWithDrive (depth + 1) r

/-- The host of a `file` URL: none without two slashes, where it is `localhost`, and in front of a drive letter. -/
def fileHost : List Char → Except Malformed (Option Host)
  | a :: b :: s =>
    if (a = '/' ∨ a = '\\') ∧ (b = '/' ∨ b = '\\') then do
      let name := s.takeWhile (! endsAuthority true ·)
      let path := (s.dropWhile (! endsAuthority true ·)).takeWhile fun c => c != '?' && c != '#'
      if name.isEmpty ∨ isDriveLetter name then .ok none
      else
        let host ← webHost name
        let segments := splitAt '/' ((path.drop 1).map fun c => if c = '\\' then '/' else c)
        if host = .domain "localhost".toList ∨ startsWithDrive 0 segments then .ok none else .ok (some host)
    else .ok none
  | _ => .ok none

/-- A character that is cut off the ends of a URL. -/
def isPadding (c : Char) : Bool :=
  decide (c.toNat ≤ 0x20)

/-- The text without what is cut off its ends, and without tabs and line ends anywhere. -/
def cleaned (s : List Char) : List Char :=
  (((s.dropWhile isPadding).reverse.dropWhile isPadding).reverse).filter fun c =>
    c != '\t' && c != '\n' && c != '\r'

/-- The URL that a text writes. -/
def parse (s : List Char) : Except Malformed Url :=
  match takeScheme? (cleaned s) with
  | none => .error .relative
  | some (scheme, r) =>
    let host :=
      if scheme = "file".toList then fileHost r
      else if webSchemes.any (·.toList == scheme) then
        hostBehindSlashes true (r.dropWhile fun c => c == '/' || c == '\\')
      else
        match r with
        | '/' :: '/' :: s => hostBehindSlashes false s
        | _ => .ok none
    host.map (⟨scheme, ·⟩)

end AuthProxy.Url
