import AgentMod.Library.Lines
import AgentMod.Primitives.Text
import Mathlib.Data.List.Infix

/-! The bounded scan of a text for secret material. -/

namespace AgentMod

/-- Maximum text inspected as one value. -/
def maxInformationFlowTextBytes : Nat := 64 * 1024

/-- Stable bounded secret or reference finding of a scan. -/
inductive InformationFlowFinding where
  | inspectionBoundExceeded
  | credentialAssignment
  | credentialPrefix
  | authorizationMaterial
  | privateKeyMaterial
  | signedToken
  | externalHandle
  | controlCharacter
  deriving DecidableEq

/-- `str::contains`. -/
def containsMarker (marker : String) (text : List Char) : Bool := marker.toList <:+: text

/-- `str::starts_with`. -/
def startsWith (front : String) (text : List Char) : Bool := front.toList <+: text

/-- `str::match_indices`, as what stands in front of and behind the matches. -/
def matchIndices (pattern : String) (text : List Char) : List (List Char × List Char) :=
  matchesFrom pattern.toList [] 0 text

/-- `str::split_once` at a character. -/
def splitOnceAt (separator : Char) (text : List Char) : Option (List Char × List Char) :=
  if separator ∈ text then some (text.takeWhile (· ≠ separator), (text.dropWhile (· ≠ separator)).tail) else none

/-- `str::trim_matches`. -/
def trimMatches (trimmed : Char → Bool) (text : List Char) : List Char :=
  ((text.dropWhile trimmed).reverse.dropWhile trimmed).reverse

/-- The items of `str::split_whitespace`. -/
def whitespaceTokens (text : List Char) : List (List Char) :=
  (text.splitOnP isWhitespace).filter (!·.isEmpty)

/-- `u8::is_ascii_uppercase`. -/
def isAsciiUppercase (character : Char) : Bool :=
  65 ≤ character.toNat && character.toNat ≤ 90

/-- Whether a sensitive name is paired with an assignment behind some match. -/
def isAssignment (found : List Char × List Char) : Bool :=
  if found.1.getLast?.any fun character => isAsciiAlphanumeric character || character == '_' then false
  else
    let suffix := found.2.dropWhile isWhitespace
    startsWith "=" suffix || startsWith ":" suffix || startsWith "=>" suffix ||
      startsWith "\"" suffix && startsWith ":" (suffix.tail.dropWhile isWhitespace)

/-- Whether a name is assigned somewhere in the text. -/
def containsSensitiveAssignment (text : List Char) (name : String) : Bool :=
  (matchIndices name text).any isAssignment

/-- What ends a bearer token. -/
def endsBearer (character : Char) : Bool :=
  isWhitespace character || character == '"' || character == '\'' || character == ',' || character == ';'

/-- Whether a long enough token stands behind some match. -/
def isBearer (found : List Char × List Char) : Bool :=
  let token := found.2.takeWhile fun character => !endsBearer character
  16 ≤ utf8Length token && token.all fun character =>
    isAsciiAlphanumeric character || character == '.' || character == '_' || character == '-'

/-- Whether a bearer token stands somewhere in the text. -/
def containsBearerToken (text : List Char) : Bool :=
  (matchIndices "bearer " text).any isBearer

/-- Whether a token is a URI with a user and a password. -/
def hasUserInfo (token : List Char) : Bool :=
  ((matchIndices "://" token).head?.bind fun found =>
    (splitOnceAt '@' (found.2.takeWhile (· ≠ '/'))).bind fun authority =>
      splitOnceAt ':' authority.1).any fun credentials => !credentials.1.isEmpty && !credentials.2.isEmpty

/-- Whether the text has a URI with user information. -/
def containsUriUserInfo (text : List Char) : Bool :=
  (whitespaceTokens text).any hasUserInfo

/-- What is trimmed from a token before its handle is looked for. -/
def isHandlePunctuation (character : Char) : Bool :=
  ['"', '\'', ',', ';', '(', ')', '[', ']', '\x7b', '\x7d'].contains character

/-- Whether a token is a handle of the system. -/
def isExternalHandle (token : List Char) : Bool :=
  let token := trimMatches isHandlePunctuation token
  let bytes := utf8Bytes token
  containsMarker "://" token || startsWith "\\\\.\\pipe" token || startsWith "pipe:" token ||
    startsWith "process:" token || startsWith "handle:" token ||
    1 < bytes.length && (startsWith "/" token || startsWith "./" token || startsWith "../" token ||
      startsWith "\\\\" token) ||
    bytes[1]? == some 58 &&
      bytes[0]?.any (fun byte => 65 ≤ byte && byte ≤ 90 || 97 ≤ byte && byte ≤ 122) &&
      bytes[2]?.any fun separator => separator == 92 || separator == 47

/-- Whether the text has a handle of the system. -/
def containsExternalHandle (text : List Char) : Bool :=
  (whitespaceTokens text).any isExternalHandle

/-- What separates the candidates for credentials. -/
def endsCredential (character : Char) : Bool :=
  isWhitespace character || ['"', '\'', ',', ';', '(', ')', '[', ']'].contains character

/-- Whether a trimmed token is an access key of the given prefix. -/
def isAccessKey (front : String) (trimmed : List Char) : Bool :=
  startsWith front trimmed && utf8Length trimmed == 20 &&
    trimmed.all fun character => isAsciiUppercase character || isAsciiDigit character

/-- The prefixes of issued tokens. -/
def tokenPrefixes : List String :=
  ["ghp_", "gho_", "ghu_", "ghs_", "github_pat_", "xoxb-", "xoxp-", "xoxa-"]

/-- Whether a token begins like a credential. -/
def isCredential (token : List Char) : Bool :=
  let trimmed := trimMatches (fun character =>
    !isAsciiAlphanumeric character && !(character == '_' || character == '-')) token
  isAccessKey "AKIA" trimmed || isAccessKey "ASIA" trimmed ||
    tokenPrefixes.any (fun front => startsWith front trimmed && utf8Length front.toList + 16 ≤ utf8Length trimmed) ||
    startsWith "sk-" trimmed && 24 ≤ utf8Length trimmed

/-- Whether the text has a credential of a known prefix. -/
def containsCredentialPrefix (text : List Char) : Bool :=
  (text.splitOnP endsCredential).any isCredential

/-- Whether a segment is made of the characters of a signed token. -/
def isTokenSegment (segment : List Char) : Bool :=
  !segment.isEmpty && segment.all fun character =>
    isAsciiAlphanumeric character || character == '-' || character == '_'

/-- Whether a token has the shape of a compact signed token. -/
def looksLikeJwt (token : List Char) : Bool :=
  let segments := token.splitOn '.'
  32 ≤ utf8Length token && utf8Length token ≤ 4096 && startsWith "eyJ" token && segments.length == 3 &&
    segments.all isTokenSegment

/-- What separates the candidates for signed tokens. -/
def endsSigned (character : Char) : Bool :=
  isWhitespace character || character == '"' || character == '\''

/-- The envelopes of private keys. -/
def privateKeyMarkers : List String :=
  ["-----begin private key-----", "-----begin rsa private key-----", "-----begin ec private key-----",
   "-----begin openssh private key-----", "ssh-private-key"]

/-- The headers that carry authorization. -/
def authorizationMarkers : List String := ["authorization:", "proxy-authorization:"]

/-- The names of credentials. -/
def credentialNames : List String :=
  ["password", "passwd", "api_key", "api-key", "apikey", "client_secret", "access_token", "refresh_token", "id_token",
   "secret_key", "secret_access_key", "aws_secret_access_key", "private_key"]

/-- Whether a lowercase text has the envelope of a private key. -/
def containsPrivateKey (lowercase : List Char) : Bool :=
  privateKeyMarkers.any (containsMarker · lowercase)

/-- Whether a lowercase text has authorization material. -/
def containsAuthorization (lowercase : List Char) : Bool :=
  authorizationMarkers.any (containsMarker · lowercase) || containsBearerToken lowercase || containsUriUserInfo lowercase

/-- Whether a lowercase text assigns a credential. -/
def containsCredentialAssignment (lowercase : List Char) : Bool :=
  credentialNames.any (containsSensitiveAssignment lowercase ·)

/-- Detects high-confidence secret material using a bounded scan. -/
def detectSensitiveText (text : String) : Option InformationFlowFinding :=
  let lowercase := (toAsciiLowercase text).toList
  if maxInformationFlowTextBytes < utf8Length text.toList then some .inspectionBoundExceeded
  else if '\x00' ∈ text.toList then some .controlCharacter
  else if containsExternalHandle lowercase then some .externalHandle
  else if containsPrivateKey lowercase then some .privateKeyMaterial
  else if containsAuthorization lowercase then some .authorizationMaterial
  else if containsCredentialAssignment lowercase then some .credentialAssignment
  else if containsCredentialPrefix text.toList then some .credentialPrefix
  else if (text.toList.splitOnP endsSigned).any looksLikeJwt then some .signedToken
  else none

/-- One text is another one with the cases of some ASCII letters changed. -/
def AsciiCaseChange (left right : String) : Prop :=
  List.Forall₂ (fun first second : Char => first = second ∨
    isAsciiUppercase first ∧ second.toNat = first.toNat + 32 ∨
    isAsciiUppercase second ∧ first.toNat = second.toNat + 32) left.toList right.toList

end AgentMod
