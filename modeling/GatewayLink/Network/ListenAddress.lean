import GatewayLink.Failure
import GatewayLink.Internet.Address
import GatewayLink.Url.Host

/-!
# Addresses to listen at

A gateway listens at an internet address of its own under a service number.  In place of the address
its host may be named; then it is looked up, and no names but that of the machine itself are known.
-/

namespace GatewayLink

/-- Why a gateway cannot listen. -/
inductive ListenFault where
  | noServiceNumber
  | serviceNumber
  | nulInName
  /-- The host bears a name that no host can have. -/
  | noSuchName
  /-- No one can be asked for the host. -/
  | nameUnresolved
  /-- The address is another's. -/
  | notOwn
  /-- The address is one of many machines, or belongs to a zone that is not given. -/
  | notOne
  deriving DecidableEq, Repr

/-- The wording of a fault. -/
def ListenFault.message : ListenFault → String
  | .noServiceNumber => "invalid socket address"
  | .serviceNumber => "invalid port value"
  | .nulInName => "file name contained an unexpected NUL byte"
  | .noSuchName => "failed to lookup address information: Name or service not known"
  | .nameUnresolved =>
    "failed to lookup address information: Temporary failure in name resolution"
  | .notOwn => "Cannot assign requested address (os error 99)"
  | .notOne => "Invalid argument (os error 22)"

namespace InternetAddress

/-- Any address of the machine, one that leads back to it, one of a group, or all machines. -/
def isOwnV4 (value : Nat) : Bool :=
  let first := value / 16777216
  value == 0 || first == 127 || (224 ≤ first && first ≤ 239) || value == v4Bound - 1

/-- Why one cannot listen at an address, if so. -/
def listenFault? : InternetAddress → Option ListenFault
  | .v4 value => if isOwnV4 value then none else some .notOwn
  | .v6 [0, 0, 0, 0, 0, 65535, high, low] _ =>
    if isOwnV4 (high * 65536 + low) then none else some .notOwn
  | .v6 groups zone =>
    let first := groups.head?.getD 0
    if 65280 ≤ first || (first / 64 == 1018 && zone == 0) then some .notOne
    else if groups.dropLast.all (· == 0) && groups.getLast?.getD 0 ≤ 1 then none
    else some .notOwn

end InternetAddress

/-- Where a gateway listens. -/
structure ListenAddress where
  address : InternetAddress
  serviceNumber : Nat
  deriving DecidableEq, Repr

namespace ListenAddress

/-- A text without a plus sign in front. -/
def unsigned : List Char → List Char
  | '+' :: rest => rest
  | text => text

/-- Reads a service number: decimal digits, after a plus sign if there is one, up to 65535. -/
def serviceNumber? (text : List Char) : Option Nat :=
  let digits := unsigned text
  let value := numberInBase 10 digits
  if !digits.isEmpty && digits.all Char.isDigit && value ≤ 65535 then some value else none

/-- A number within the name of a host: decimal, octal after `0`, or hexadecimal after `0x`. -/
def hostNumber? (part : List Char) : Option Nat :=
  if part = ['0', 'x'] ∨ part = ['0', 'X'] then none else Host.ipv4Number? part

/-- The internet address that a name spells out. -/
def numeric? (name : List Char) : Option InternetAddress :=
  match ((partsAt '.' name).mapM hostNumber?).bind InternetAddress.ofNumbers? with
  | some value => some (.v4 value)
  | none => InternetAddress.zonedV6? name

/-- Whether a character can stand in the name of a host. -/
def isNameCharacter (character : Char) : Bool :=
  character.isAlphanum || character == '-' || character == '_'

/-- Whether a text can be the name of a host: labels of up to 63 characters with dots between them,
253 characters in all, or the dot of the root alone. -/
def isHostName (name : List Char) : Bool :=
  name == ['.'] ||
    (name.head?.any (· != '-') && name.length ≤ 253 && (Host.dottedParts name).all fun label =>
      !label.isEmpty && label.length ≤ 63 && label.all isNameCharacter)

/-- The machine itself. -/
def thisMachine : InternetAddress := .v4 2130706433

/-- The address of a host. -/
def lookUp (name : List Char) : Except ListenFault InternetAddress :=
  if name.contains '\x00' then .error .nulInName
  else
    match numeric? name with
    | some address => .ok address
    | none =>
      if name.map Char.toLower = "localhost".toList then .ok thisMachine
      else if isHostName name then .error .nameUnresolved
      else .error .noSuchName

/-- The service number at the end of a text, after a colon, and what stands before it. -/
def splitServiceNumber (text : List Char) : Except ListenFault (List Char × Nat) :=
  let reversed := text.reverse
  match reversed.dropWhile (· != ':') with
  | [] => .error .noServiceNumber
  | _ :: host =>
    match serviceNumber? (reversed.takeWhile (· != ':')).reverse with
    | none => .error .serviceNumber
    | some number => .ok (host.reverse, number)

/-- An address of IPv6 in brackets. -/
def bracketed? (host : List Char) : Option InternetAddress :=
  match host with
  | '[' :: rest =>
    if rest.getLast? = some ']' then InternetAddress.zonedV6? rest.dropLast else none
  | _ => none

/-- The listening address that a text gives.  Brackets stand around an address of IPv6 only where no
sign precedes the service number. -/
def parse (text : String) : Except ListenFault ListenAddress := do
  let (host, number) ← splitServiceNumber text.toList
  match bracketed? host with
  | some address =>
    if text.contains '+' then .error .noSuchName else .ok ⟨address, number⟩
  | none => return ⟨← lookUp host, number⟩

/-- The address at which a gateway starts to listen. -/
def claim (text : String) : Except TransportError ListenAddress :=
  match parse text with
  | .error fault => .error (.io fault.message)
  | .ok listening =>
    match listening.address.listenFault? with
    | some fault => .error (.io fault.message)
    | none => .ok listening

end ListenAddress

end GatewayLink
