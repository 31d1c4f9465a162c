import BrowserFlow.Host.Name
import BrowserFlow.Host.Numeric
import BrowserFlow.Number.Reading
import BrowserFlow.Text.Case
import BrowserFlow.Text.Percent
import BrowserFlow.Text.Quoted
import BrowserFlow.Text.Split

/-!
# Addresses

Requests reach the service through an HTTP client, which reads the address of a request and
refuses it if it is none. What is here, and under `Host` what an address needs, is the
behaviour of that client; the service is only given the path.

An address names a path of the service. It may be written in full, with a scheme and a
host, or from the root of the service on; a slash at its front is then the same as
none. Query and fragment are not looked at. A path can have points in it, which stay
where they are or lead one level up, but never above the root. They are taken out
before the path is decoded, so that encoded points are parts like any others.

Nothing is looked up at the host, but it has to be one: four numbers, groups of
hexadecimal digits between brackets, or a name. One that is written in ASCII for
characters beyond it is read once the address is followed.
-/

namespace BrowserFlow.Service

/-- An address by its parts, as they are written. -/
structure Address where
  scheme : List Char := []
  user : List Char := []
  host : List Char := []
  port : List Char := []
  path : List Char
deriving DecidableEq, Repr

inductive AddressFault where
  | tooLong
  /-- A character that does not print stands at a position. -/
  | unprintable (c : Char) (position : Nat)
  /-- A host is made like four numbers and is none. -/
  | numbers (host : String)
  /-- A host stands between brackets and is no groups of digits. -/
  | groups (host : String)
  /-- The name of a host cannot be written in ASCII. -/
  | name (host : String)
  | port (text : String)
  /-- The path of an address without a host begins with two slashes. -/
  | twoSlashes
  /-- The path of an address without a scheme begins with a colon. -/
  | colon
  /-- The name of a host cannot be read from ASCII. -/
  | unreadableName (fault : Host.Fault)
  /-- A host is to be written in ASCII as it is. -/
  | unwritableHost (u : Text.Encoding.Unwritable)
deriving DecidableEq, Repr

def AddressFault.message : AddressFault → String
  | .tooLong => "URL too long"
  | .unprintable c position =>
    s!"Invalid non-printable ASCII character in URL, {String.ofList (Text.quoted [c])} "
      ++ s!"at position {position}."
  | .numbers host => s!"Invalid IPv4 address: {String.ofList (Text.quoted host.toList)}"
  | .groups host => s!"Invalid IPv6 address: {String.ofList (Text.quoted host.toList)}"
  | .name host => s!"Invalid IDNA hostname: {String.ofList (Text.quoted host.toList)}"
  | .port text => s!"Invalid port: {String.ofList (Text.quoted text.toList)}"
  | .twoSlashes => "Relative URLs cannot have a path starting with '//'"
  | .colon => "Relative URLs cannot have a path starting with ':'"
  | .unreadableName fault => fault.message
  | .unwritableHost u => u.message

namespace Address

def lengthLimit : Nat := 65536

def isControl (c : Char) : Bool := c.toNat < 0x20 || c.toNat = 0x7f

/-- Whether a text can stand before the first colon of an address. It may be empty. -/
def isScheme : List Char → Bool
  | [] => true
  | c :: rest => c.isAlpha && rest.all fun d => d.isAlphanum || d == '+' || d == '.' || d == '-'

def splitScheme (cs : List Char) : List Char × List Char :=
  match cs.span (· ≠ ':') with
  | (scheme, _ :: rest) => if isScheme scheme then (scheme, rest) else ([], cs)
  | _ => ([], cs)

def splitAuthority : List Char → List Char × List Char
  | '/' :: '/' :: rest => rest.span fun c => c ≠ '/' ∧ c ≠ '?' ∧ c ≠ '#'
  | cs => ([], cs)

/-- What stands before and after the last of the characters `mark`; all of it stands
after where there is none. -/
def splitLast (mark : Char) (cs : List Char) : List Char × List Char :=
  match cs.reverse.span (· ≠ mark) with
  | (after, _ :: before) => (before.reverse, after.reverse)
  | _ => ([], cs)

/-- Splits host and port. A host between brackets may have colons in it, and ends at the
last bracket. -/
def splitPort (cs : List Char) : List Char × List Char :=
  if cs.head? = some '[' ∧ cs.contains ']' then
    let (port, host) := cs.reverse.span (· ≠ ']')
    (host.reverse, if port.getLast? = some ':' then port.dropLast.reverse else port.reverse)
  else
    let (host, port) := cs.span (· ≠ ':')
    (host, port.drop 1)

def ofChars (cs : List Char) : Address :=
  let (scheme, afterScheme) := splitScheme cs
  let (authority, rest) := splitAuthority afterScheme
  let (user, place) := splitLast '@' authority
  let (host, port) := splitPort place
  { scheme, user, host, port, path := rest.takeWhile fun c => c ≠ '?' ∧ c ≠ '#' }

/-- Whether an address names a scheme or anything of a host. -/
def isAnchored (a : Address) : Bool :=
  !(a.scheme.isEmpty && a.user.isEmpty && a.host.isEmpty && a.port.isEmpty)

def reserved : List Char := [' ', '#', '/', ':', '<', '>', '?', '@', '[', ']', '^']

def hostChar (c : Char) : List Char :=
  if reserved.contains c then '%' :: (Text.hexDigits 2 c.toNat).map Char.toUpper else [c.toLower]

/-- The host in ASCII; groups of digits have no brackets any more. -/
def hostInAscii (a : Address) : Except AddressFault (List Char) :=
  let shown := String.ofList a.host
  if Host.looksNumeric a.host then
    if Host.isFourBytes a.host then .ok a.host else .error (.numbers shown)
  else if a.host.head? = some '[' ∧ a.host.getLast? = some ']' then
    let groups := (a.host.drop 1).dropLast
    if Host.isGroupsInZone groups then .ok groups else .error (.groups shown)
  else if Host.isAscii a.host then .ok (a.host.flatMap hostChar)
  else (Host.nameToAscii (Text.lower a.host)).mapError fun _ => .name shown

/-- Whether an address can be followed by itself, without that of the service. -/
def isFull (a : Address) : Bool := !(a.scheme.isEmpty || a.host.isEmpty)

def followFault? (host : List Char) : Option AddressFault :=
  if Host.tag.isPrefixOf host then
    match Host.nameOfAscii host with
    | .ok _ => none
    | .error fault => some (.unreadableName fault)
  else if host.contains ':' then
    (Text.Encoding.unwritableInAscii? ('[' :: host)).map .unwritableHost
  else none

def laterFault? (a : Address) : Option AddressFault :=
  if !a.port.isEmpty && (Number.typedInt? a.port).isNone then some (.port (String.ofList a.port))
  else if a.isAnchored then none
  else
    match a.path with
    | '/' :: '/' :: _ => some .twoSlashes
    | ':' :: _ => some .colon
    | _ => none

def fault? (a : Address) : Option AddressFault :=
  match a.hostInAscii with
  | .error fault => some fault
  | .ok host => a.laterFault?.or (if a.isFull then followFault? host else none)

def read (s : String) : Except AddressFault Address :=
  let cs := s.toList
  if lengthLimit < cs.length then .error .tooLong
  else
    match cs.span fun c => !isControl c with
    | (before, c :: _) => .error (.unprintable c before.length)
    | _ =>
      let a := ofChars cs
      match a.fault? with
      | some fault => .error fault
      | none => .ok a

/-- A part of a path after those above it. One point adds nothing, and two take the part
above away, unless that is what stands before the slash at the front. -/
def addPart (above : List (List Char)) (part : List Char) : List (List Char) :=
  if part = ['.'] then above
  else if part = ['.', '.'] then if above = [] ∨ above = [[]] then above else above.dropLast
  else above ++ [part]

def climb (parts : List (List Char)) : List (List Char) := parts.foldl addPart []

def withoutPoints (path : List Char) : List Char :=
  ['/'].intercalate (climb (Text.splitOn '/' path))

/-- The path from the root of the service on, not decoded yet. -/
def fromRoot (a : Address) : List Char :=
  let path := if a.isAnchored then withoutPoints a.path else a.path
  if a.isFull then path else withoutPoints ('/' :: path.dropWhile (· = '/'))

/-- The path of an address, which is at least a slash. -/
def target (a : Address) : List Char :=
  match a.fromRoot with
  | [] => ['/']
  | path => Text.Percent.decode path

end Address

end BrowserFlow.Service
