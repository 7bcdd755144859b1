import UniqueId.Uuid.Basic

/-! The namespaces for names that other systems give out. -/
namespace UniqueId.Uuid.Namespace

/-- Fully qualified domain names. -/
def dns : TimeBased := { high := 0x6ba7b8109dad11d1, low := 0x80b400c04fd430c8, version_eq := by decide }

/-- Uniform resource locators. -/
def url : TimeBased := { high := 0x6ba7b8119dad11d1, low := 0x80b400c04fd430c8, version_eq := by decide }

/-- ISO object identifiers. -/
def oid : TimeBased := { high := 0x6ba7b8129dad11d1, low := 0x80b400c04fd430c8, version_eq := by decide }

/-- X.500 distinguished names. -/
def x500 : TimeBased := { high := 0x6ba7b8149dad11d1, low := 0x80b400c04fd430c8, version_eq := by decide }

end UniqueId.Uuid.Namespace
