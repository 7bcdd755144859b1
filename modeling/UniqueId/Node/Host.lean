import UniqueId.Event
import UniqueId.Node.Address
import UniqueId.Text.Quoted

/-! What can be said about the host that a program runs on: its name, the addresses of the name and
the addresses of its network interfaces. From these come the texts that tell one host from
another, or the cause why there are none. -/
namespace UniqueId
open UniqueId.Text

/-- Why a host name has no addresses. -/
inductive LookupFailure where
  | unknownName
  | nulInName
  /-- Whatever else the name service says. -/
  | other (text : String)
  deriving DecidableEq, Repr

def LookupFailure.message : LookupFailure → String
  | unknownName => "failed to lookup address information: Name or service not known"
  | nulInName => "file name contained an unexpected NUL byte"
  | other text => text

/-- Why the network interfaces cannot be listed. -/
inductive ListingFailure where
  | internal
  /-- Whatever else the system says. -/
  | other (text : String)
  deriving DecidableEq, Repr

def ListingFailure.message : ListingFailure → String
  | internal => "Internal API error"
  | other text => text

/-- Why a host cannot be told from others. -/
inductive Unavailable where
  | unresolved (host : String) (why : LookupFailure)
  | unlisted (why : ListingFailure)
  | noAddress (host : String)
  /-- Said by a source of descriptors other than the host itself. -/
  | reported (reason : String)
  deriving DecidableEq, Repr

namespace Unavailable

def reason : Unavailable → String
  | unresolved host why => "could not resolve host " ++ Quoted.quote host ++ ": " ++ why.message
  | unlisted why => "could not enumerate network interfaces: " ++ why.message
  | noAddress host => "no network address found for host " ++ Quoted.quote host
  | reported reason => reason

def message (e : Unavailable) : String := "node identity unavailable: " ++ e.reason

end Unavailable

/-- What is fixed when the library is built: its name, its version and the platform. -/
structure Build where
  package : String
  version : String
  family : String
  system : String
  architecture : String
  deriving DecidableEq, Repr

namespace Build

/-- This build, which is for 64-bit Linux. Another one describes the same host by other texts. -/
def current : Build where
  package := "rfc4122"
  version := "0.1.0"
  family := "unix"
  system := "linux"
  architecture := "x86_64"

def texts (b : Build) : List String := [b.package, b.version, b.family, b.system, b.architecture]

end Build

/-- What is known of a host. -/
structure Host where
  name : String
  addresses : List IpAddress
  interfaces : List HardwareAddress
  deriving DecidableEq, Repr

namespace Host

/-- The texts that are the same on every host. -/
def constants : List String := Build.current.texts

/-- The texts that describe a host. -/
def descriptors (h : Host) : List String :=
  constants ++ h.addresses.map (fun a => h.name ++ "/" ++ a.text) ++
    h.name :: h.interfaces.map fun a => "mac " ++ a.text

/-- The host as two lookups show it. The first failure counts; without any address the host cannot
be told from others. -/
def ofLookups (name : String) (addresses : Except LookupFailure (List IpAddress))
    (interfaces : Except ListingFailure (List HardwareAddress)) : Except Unavailable Host :=
  match addresses, interfaces with
  | .error why, _ => .error (.unresolved name why)
  | _, .error why => .error (.unlisted why)
  | .ok [], .ok [] => .error (.noAddress name)
  | .ok addresses, .ok interfaces => .ok ⟨name, addresses, interfaces⟩

/-- What is reported once a host has been described. -/
def events (h : Host) : List Event :=
  [.hostDescribed h.name h.addresses.length h.interfaces.length]

end Host

/-- The surroundings of a program: the name of its host, what the name service has for that name,
and the network interfaces, where these can be listed. -/
structure Network where
  hostName : String
  known : Option (List IpAddress)
  interfaces : Option (List HardwareAddress)
  deriving DecidableEq, Repr

namespace Network

/-- A host without a name, a name service or interfaces that can be listed. -/
def isolated : Network := ⟨"", none, none⟩

/-- The addresses of the host name. A name that is itself an address stands for that address; only
other names are looked up. -/
def resolve (n : Network) : Except LookupFailure (List IpAddress) :=
  match IpAddress.parse? n.hostName with
  | some a => .ok [a]
  | none =>
    if n.hostName.toList.contains '\x00' then .error .nulInName
    else
      match n.known with
      | some addresses => .ok addresses
      | none => .error .unknownName

def listInterfaces (n : Network) : Except ListingFailure (List HardwareAddress) :=
  match n.interfaces with
  | some interfaces => .ok interfaces
  | none => .error .internal

/-- The host, as far as it can be told from others. -/
def host (n : Network) : Except Unavailable Host :=
  Host.ofLookups n.hostName n.resolve n.listInterfaces

end Network
end UniqueId
