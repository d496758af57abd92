/-
The path component of a URL. Control characters and spaces in front are skipped, and tabs and line
ends anywhere; then scheme, network location, fragment and query are taken off, and, for the
schemes that have them, the parameters of the last path segment.
-/
import SampleTypes.Text.Quoted
import SampleTypes.Url.Address

namespace SampleTypes.Url

/-! ## Errors -/

/-- Why a URL has no path: its network location is not one. -/
inductive Error where
  /-- Brackets that do not match, or text beside them. -/
  | brackets
  /-- Between the brackets stands no address. -/
  | notAnAddress (host : String)
  /-- Between the brackets stands a version four address. -/
  | address4
  /-- Between the brackets stands no well-formed address of a later version. -/
  | futureAddress
  /-- A character that is equivalent to a separator. -/
  | separator (location : String)
  deriving DecidableEq, Repr

/-- The words for an error. -/
def Error.message : Error → String
  | .brackets => "Invalid IPv6 URL"
  | .notAnAddress host => Text.quoted host ++ " does not appear to be an IPv4 or IPv6 address"
  | .address4 => "An IPv4 address cannot be in brackets"
  | .futureAddress => "IPvFuture address is invalid"
  | .separator location =>
    "netloc '" ++ location ++ "' contains invalid characters under NFKC normalization"

/-! ## Pieces -/

/-- An ASCII letter. -/
def isLetter (c : Char) : Bool :=
  ('a' ≤ c && c ≤ 'z') || ('A' ≤ c && c ≤ 'Z')

/-- A character of a scheme. -/
def isSchemeChar (c : Char) : Bool :=
  isLetter c || Text.isDecimal c || c == '+' || c == '-' || c == '.'

/-- The schemes whose last path segment may carry parameters; so may a URL without scheme. -/
def schemesWithParameters : List String :=
  ["", "ftp", "hdl", "prospero", "http", "imap", "https", "shttp", "rtsp", "rtspu", "sip",
    "sips", "mms", "sftp", "tel"]

/-- The characters before the first one in `stops`, and the rest from it on. -/
def upTo (stops : List Char) (s : List Char) : List Char × List Char :=
  (s.takeWhile (fun c => !(c ∈ stops)), s.dropWhile (fun c => !(c ∈ stops)))

/-- The URL without the characters that are skipped. -/
def clean (url : String) : List Char :=
  (url.toList.dropWhile (fun c => c.toNat ≤ 0x20)).filter (fun c => !(c ∈ ['\t', '\r', '\n']))

/-- The scheme in lower case, and what follows its colon. -/
def takeScheme (s : List Char) : String × List Char :=
  let (word, rest) := upTo [':'] s
  match word, rest with
  | first :: _, _ :: after =>
    if isLetter first && word.all isSchemeChar then (String.ofList (word.map Char.toLower), after)
    else ("", s)
  | _, _ => ("", s)

/-- The network location after two slashes, and what follows it. -/
def takeLocation (s : List Char) : List Char × List Char :=
  match s with
  | '/' :: '/' :: rest => upTo ['/', '?', '#'] rest
  | _ => ([], s)

/-- The path without the parameters of its last segment. -/
def dropParameters (path : List Char) : List Char :=
  let last := (path.reverse.takeWhile (· != '/')).reverse
  path.take (path.length - last.length) ++ (upTo [';'] last).1

/-! ## The network location -/

/-- Accepts what stands between brackets. -/
def checkHost (host : String) : Except Error Unit :=
  if host.toList.head? = some 'v' then
    if isFutureAddress host then .ok () else .error .futureAddress
  else if isAddress4 host then .error .address4
  else if isAddress6 host then .ok ()
  else .error (.notAnAddress host)

/-- Accepts brackets that enclose an address, with only a port after them. -/
def checkBrackets (location : List Char) : Except Error Unit :=
  let hasOpen := '[' ∈ location
  let hasClose := ']' ∈ location
  if hasOpen != hasClose then .error .brackets
  else if !hasOpen then .ok ()
  else
    let hostAndPort := (location.reverse.takeWhile (· != '@')).reverse
    match upTo ['['] hostAndPort with
    | ([], _ :: bracketed) =>
      let (host, rest) := upTo [']'] bracketed
      match rest.drop 1 with
      | [] => checkHost (String.ofList host)
      | ':' :: _ => checkHost (String.ofList host)
      | _ => .error .brackets
    | (_ :: _, _ :: _) => .error .brackets
    | (host, []) => checkHost (String.ofList (upTo [':'] host).1)

/-- Characters outside ASCII that are equivalent to a text with a separator of URLs in it. -/
def separatorLikes : List Nat :=
  [0x2047, 0x2048, 0x2049, 0x2100, 0x2101, 0x2105, 0x2106, 0x2A74, 0xFE13, 0xFE16, 0xFE55,
    0xFE56, 0xFE5F, 0xFE6B, 0xFF03, 0xFF0F, 0xFF1A, 0xFF1F, 0xFF20]

/-- Accepts a location without characters equivalent to a separator. -/
def checkSeparators (location : List Char) : Except Error Unit :=
  if location.any (fun c => c.toNat ∈ separatorLikes) then
    .error (.separator (String.ofList location))
  else .ok ()

/-! ## The path -/

/-- The path component of a URL. -/
def path? (url : String) : Except Error String := do
  let (scheme, rest) := takeScheme (clean url)
  let (location, rest) := takeLocation rest
  checkBrackets location
  let path := (upTo ['?'] (upTo ['#'] rest).1).1
  checkSeparators location
  return String.ofList (if scheme ∈ schemesWithParameters then dropParameters path else path)

end SampleTypes.Url
