import HumidifierBridge.DsUid.Basic
import HumidifierBridge.Hash.Md5

/-!
# dSUIDs made from UUIDs

A UUID of sixteen octets becomes a dSUID by appending the sub-device octet `00`. `DsUid.ofName`
derives the identifier of an appliance from its name: the name-based UUID (version 3, an MD5 digest
of a fixed namespace and the name), so that one name always has one identifier. `DsUid.ofRandom`
makes a random UUID (version 4) of sixteen octets of entropy.
-/

namespace HumidifierBridge.DsUid

/-- The octet at an index of a UUID: the seventh holds the version, the ninth the variant. -/
def stampOctet (version : UInt8) (i : Nat) (b : UInt8) : UInt8 :=
  if i = 6 then (b &&& 0x0F) ||| version * 16
  else if i = 8 then (b &&& 0x3F) ||| 0x80
  else b

/-- Marks the octets of a UUID with its version and with the standard variant. -/
def stamp (version : UInt8) (bytes : List UInt8) : List UInt8 :=
  bytes.mapIdx (stampOctet version)

theorem length_stamp (version : UInt8) (bytes : List UInt8) :
    (stamp version bytes).length = bytes.length := by simp [stamp]

/-- The dSUID of the sixteen octets of a UUID. -/
def ofUuid (bytes : List UInt8) (h : bytes.length = 16) : DsUid :=
  ⟨Ascii.hexDigits (bytes ++ [0]), by simp [h, dsUidDigits]⟩

/-- The namespace of appliance names. -/
def namespaceOctets : List UInt8 :=
  [0x6f, 0x1b, 0x2c, 0x4e, 0x9a, 0x3d, 0x4f, 0x7b, 0x8e, 0x21, 0x5d, 0x0c, 0xa4, 0xb3, 0xf9, 0x12]

/-- The dSUID of the appliance with the given name. -/
def ofName (name : String) : DsUid :=
  ofUuid (stamp 3 (Md5.digest (namespaceOctets ++ name.toUTF8.toList)))
    (by simp [length_stamp])

/-- The dSUID of a random UUID, from sixteen octets of entropy; missing octets count as zero. -/
def ofRandom (entropy : List UInt8) : DsUid :=
  ofUuid (stamp 4 ((List.range 16).map fun i => entropy.getD i 0)) (by simp [length_stamp])

end HumidifierBridge.DsUid
