import RegistryStorage.Fault
import RegistryStorage.Naming.Draws
import RegistryStorage.Text.Case
import RegistryStorage.Text.Pattern

/-!
Names of accounts, containers and endpoints.

A generated name has a fixed structure and a random part. Nothing is remembered about names
given out: a generated account name that turns out to be taken fails the call, and the next
call generates another. The two validators say which names of accounts and containers the
provider takes.
-/

set_option autoImplicit false

namespace RegistryStorage.Naming

open Text (Pattern)

/-! ## Storage accounts -/

/-- Small letters and digits of ASCII. -/
def isLowerOrDigit (c : Char) : Bool := c.isLower || c.isDigit

/-- The part of an account name that the infrastructure determines: the letters and digits of
a fixed word and of the infrastructure's name, cut so that the random part fits. -/
def accountRoot (infrastructure : String) : List Char :=
  (("imageregistry" ++ infrastructure).toList.filter Char.isAlphanum).take 19

/-- A name for a new storage account, and the source of randomness afterwards. -/
def accountName (infrastructure : String) (draws : Draws) : String × Draws :=
  let (suffix, draws) := draws.letters 5
  (String.ofList ((accountRoot infrastructure ++ suffix).map Char.toLower), draws)

/-- One small letter or digit of ASCII. -/
def letterPattern : Pattern := .oneOf [('a', 'z'), ('0', '9')]

/-- The names of storage accounts: 3 to 24 letters and digits. -/
def accountPattern : Pattern := .times letterPattern 3 24

/-- Whether the provider takes a name for a storage account. -/
def isAccountName (name : String) : Bool := accountPattern.accepts name

/-- Refuses a name that the provider would not take for a storage account. -/
def validateAccountName (name : String) : Except Fault Unit :=
  if isAccountName name then .ok ()
  else .error (.invalidName name
    "storage account names must be 3-24 characters of lowercase letters and digits")

/-! ## Containers -/

/-- The 128 bits that make a container name unlike any other. -/
abbrev Serial := BitVec 128

/-- The 32 digits of a serial number. -/
def Serial.digits (serial : Serial) : List Char :=
  (List.range 32).map fun i => Nat.digitChar (serial.toNat / Nat.pow 16 (31 - i) % 16)

/-- Marks random bits as a random serial number: version 4, variant 1. -/
def Serial.random (bits : BitVec 128) : Serial :=
  (bits &&& ~~~(0xF000C000000000000000#128)) ||| 0x40008000000000000000#128

/-- Leaves one hyphen of each run of hyphens. -/
def squeezeHyphens : List Char → List Char
  | [] => []
  | c :: r => if c = '-' ∧ r.head? = some '-' then squeezeHyphens r else c :: squeezeHyphens r

/-- A character as a container name may hold it: all but small letters, digits and hyphens
become hyphens. -/
def containerChar (c : Char) : Char := if isLowerOrDigit c then c else '-'

/-- A name for a new container. -/
def containerName (infrastructure : String) (serial : Serial) : String :=
  let raw := Text.lower (infrastructure ++ "-image-registry-" ++ String.ofList serial.digits)
  let name := (squeezeHyphens (raw.toList.map containerChar)).take 63
  String.ofList (((name.dropWhile (· == '-')).reverse.dropWhile (· == '-')).reverse)

/-- A letter or digit, with a hyphen in front of it or without. -/
def linkPattern : Pattern := .either letterPattern (.followedBy (.oneOf [('-', '-')]) letterPattern)

/-- The names of containers, of any length: a letter or digit, and after it any number of them,
each with a hyphen in front or without. -/
def containerPattern : Pattern := .followedBy letterPattern (.many linkPattern)

/-- Whether the provider takes a name for a container. Its length is counted in bytes. -/
def isContainerName (name : String) : Bool :=
  3 ≤ name.utf8ByteSize && name.utf8ByteSize ≤ 63 && containerPattern.accepts name

/-- Refuses a name that the provider would not take for a container. -/
def validateContainerName (name : String) : Except Fault Unit :=
  if isContainerName name then .ok ()
  else .error (.invalidName name
    "container names must be 3-63 characters of lowercase letters, digits and single hyphens")

/-! ## Endpoints and zone groups -/

/-- The name of a storage account's private endpoint. -/
def endpointName (account : String) : String := account ++ "-pe"

/-- The name of the zone group that joins an endpoint to a zone. -/
def zoneGroupName (zone : String) : String :=
  String.ofList (zone.toList.map fun c => if c = '.' then '-' else c)

end RegistryStorage.Naming
