import ImageWorker.Failure.QueueError
import ImageWorker.Text.Count

/-!
# Addresses of brokers

An address begins with a scheme and a colon; after two slashes it names a host and, after another
colon, a number. The fault of an address shows when somebody tries to connect to it.
-/

namespace ImageWorker

inductive AddressFault where
  | noScheme
  | noHost
  | badNumber
  | unknownScheme (scheme : String)
  deriving DecidableEq, Repr

def AddressFault.message : AddressFault → String
  | noScheme => "relative URL without a base"
  | noHost => "empty host"
  | badNumber => "invalid port number"
  | unknownScheme scheme => "Invalid AMQP scheme: " ++ scheme

namespace BrokerAddress

/-- Whether a character at either end of an address does not count. -/
def isMargin (c : Char) : Bool := c.val ≤ 0x20

/-- The characters of an address that count: none of the margins, and no line breaks or tabs. -/
def core (s : String) : List Char :=
  let cs := ((s.toList.dropWhile isMargin).reverse.dropWhile isMargin).reverse
  cs.filter fun c => c ≠ '\t' && c ≠ '\n' && c ≠ '\r'

def continuesScheme (c : Char) : Bool := c.isAlphanum || c = '+' || c = '-' || c = '.'

/-- The scheme in small letters, and what follows its colon. -/
def splitScheme (cs : List Char) : Option (String × List Char) :=
  match cs.dropWhile continuesScheme with
  | ':' :: rest =>
    if cs.head?.any Char.isAlpha then
      some (String.ofList ((cs.takeWhile continuesScheme).map Char.toLower), rest)
    else none
  | _ => none

/-- The host with its number, without the user that stands before them. -/
def hostPart (cs : List Char) : List Char :=
  let part := cs.takeWhile fun c => c ≠ '/' && c ≠ '?' && c ≠ '#'
  (part.reverse.takeWhile (· ≠ '@')).reverse

/-- The digits after the colon that follows the host, if there is such a colon; a host in brackets
may hold colons of its own. -/
def splitHost (cs : List Char) : List Char × Option (List Char) :=
  match (cs.reverse.takeWhile (· ≠ ']')).reverse.dropWhile (· ≠ ':') with
  | [] => (cs, none)
  | _ :: digits => (cs.take (cs.length - digits.length - 1), some digits)

/-- Checks a host and its number. -/
def hostFault? (cs : List Char) : Option AddressFault :=
  match splitHost (hostPart cs) with
  | (_, none) => none
  | ([], some _) => some .noHost
  | (_, some []) => none
  | (_, some digits) =>
    if (digitsValue? digits).any (· < 2 ^ 16) then none else some .badNumber

/-- What is wrong with an address, if anything is. -/
def fault? (address : String) : Option AddressFault :=
  match splitScheme (core address) with
  | none => some .noScheme
  | some (scheme, rest) =>
    let atHost := match rest with
      | '/' :: '/' :: r => hostFault? r
      | _ => none
    match atHost with
    | some fault => some fault
    | none => if scheme = "amqp" || scheme = "amqps" then none else some (.unknownScheme scheme)

end BrokerAddress

/-- The failure to connect to an address that has a fault. -/
def LinkError.ofAddressFault (f : AddressFault) : LinkError := .io (.described .other f.message)

end ImageWorker
