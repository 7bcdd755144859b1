import UniqueId.Digest.Md5
import UniqueId.Draws
import UniqueId.Failure

/-! A node identity derived from texts that describe the host: the node is a fingerprint of the
texts, the clock sequence is drawn at random. -/
namespace UniqueId.NodeIdentity

/-- What the fingerprint is taken of: every different text once, in the order of first
occurrence. -/
def fingerprintMessage (descriptors : List String) : List UInt8 :=
  descriptors.eraseDups.flatMap fun d => d.toUTF8.data.toList

/-- The first six octets of a digest, with the lowest bit of the sixth one set. -/
def fingerprint (descriptors : List String) : UInt64 :=
  let d := Digest.Md5.digest (fingerprintMessage descriptors)
  UInt64.ofNat (ByteOrder.bigEndian.number [d[0], d[1], d[2], d[3], d[4], d[5] ||| 1])

/-- An attempt to derive an identity: the result, the draws that are left, what was reported. -/
structure Derivation where
  result : Except Failure NodeIdentity
  draws : Draws
  events : List Event

/-- Derives an identity from what a source of descriptors says. -/
def derive (report : Except Unavailable (List String)) (draws : Draws) : Derivation :=
  match report with
  | .error why => ⟨.error (.unavailable why), draws, []⟩
  | .ok descriptors =>
    match draws.upTo maxClockSequence.toUInt64 with
    | (none, rest) => ⟨.error .drawsExhausted, rest, []⟩
    | (some d, rest) =>
      let id := truncate d.toUInt16 (fingerprint descriptors)
      ⟨.ok id, rest, [.identityDerived id descriptors.length]⟩

/-- Derives an identity from a host, once the host has been described. -/
def deriveFromHost (host : Except Unavailable Host) (draws : Draws) : Derivation :=
  match host with
  | .error why => derive (.error why) draws
  | .ok h =>
    let d := derive (.ok h.descriptors) draws
    { d with events := h.events ++ d.events }

end UniqueId.NodeIdentity
