import ImageWorker.Settings.Store
import ImageWorker.Text.Blank
import ImageWorker.Text.Bytes

/-!
# The URLs of objects

With a public base, the URL of an object is the base and the key, with one slash between them.
Without one it is the address of the object at the store, percent-encoded, with parameters that
say how long it holds.
-/

namespace ImageWorker

def withoutTrailingSlashes (s : String) : String :=
  String.ofList (s.toList.reverse.dropWhile (· = '/')).reverse

def withoutLeadingSlashes (s : String) : String := String.ofList (s.toList.dropWhile (· = '/'))

def publicUrlBelow (base key : String) : String :=
  withoutTrailingSlashes base ++ "/" ++ withoutLeadingSlashes key

/-- Whether an octet stands for itself in the path of a URL. -/
def staysInPath (b : UInt8) : Bool :=
  (65 ≤ b && b ≤ 90) || (97 ≤ b && b ≤ 122) || (48 ≤ b && b ≤ 57) ||
    [45, 46, 95, 126, 47].contains b

/-- A digit of base sixteen. -/
def upperHexDigit (n : UInt8) : Char := Char.ofNat (if n < 10 then 48 + n.toNat else 55 + n.toNat)

/-- A path with every other octet written as a percent sign and two digits. -/
def percentEncoded (s : String) : String :=
  String.ofList ((Bytes.ofText s).flatMap fun b =>
    if staysInPath b then [Char.ofNat b.toNat]
    else ['%', upperHexDigit (b / 16), upperHexDigit (b % 16)])

/-- A URL that grants access for some time. -/
structure SignedUrl where
  address : String
  /-- Names and values, without those of the signature. -/
  parameters : List (String × String)
  deriving DecidableEq, Repr

def SignedUrl.text (u : SignedUrl) : String :=
  u.address ++ "?" ++ "&".intercalate (u.parameters.map fun (name, value) => name ++ "=" ++ value)

/-- The longest time for which a URL can be signed: one week. -/
def longestSigned : Duration := .ofSeconds 604800

/-- Whether a request can name a key: one of nothing but blanks would leave the name out. -/
def isNameable (key : String) : Bool := !isAllBlank key

namespace StoreSettings

def address (s : StoreSettings) : String :=
  s.endpoint.getD ("https://s3." ++ s.region.getD "us-east-1" ++ ".amazonaws.com")

def signedUrl (s : StoreSettings) (key : String) (holds : Duration) :
    Except StorageError SignedUrl :=
  if longestSigned.nanos < holds.nanos then
    .error (.presignFailed "expiration cannot be longer than one week")
  else if isNameable key then
    .ok
      { address := s.address ++ "/" ++ s.bucket ++ "/" ++ percentEncoded key
        parameters := [("X-Amz-Expires", toString holds.seconds), ("x-id", "GetObject")] }
  else .error (.presignFailed "failed to construct request")

def publicUrl (s : StoreSettings) (key : String) : Except StorageError String :=
  match s.publicBase with
  | some base => .ok (publicUrlBelow base key)
  | none => (s.signedUrl key s.signedFor).map SignedUrl.text

end StoreSettings

end ImageWorker
