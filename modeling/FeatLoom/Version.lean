/-!
# Packed module versions

A module version is one integer that packs four parts: the build number in the low 31 bits, then
16 bits of revision, 8 bits of minor version, and the major version in all bits above. The parts
are the digits of the number in a mixed base, for negative numbers too.
-/

namespace FeatLoom

structure Version where
  number : Int
  deriving DecidableEq, Inhabited

namespace Version

/-- What one step of the revision is worth: the build number has 31 bits. -/
def revisionUnit : Int := 0x80000000

def minorUnit : Int := 0x800000000000

def majorUnit : Int := 0x80000000000000

def major (v : Version) : Int := v.number / majorUnit

def minor (v : Version) : Int := v.number / minorUnit % 0x100

def revision (v : Version) : Int := v.number / revisionUnit % 0x10000

def build (v : Version) : Int := v.number % revisionUnit

/-- Packs four parts, each cut down to its width; nine bits are kept of the major version. -/
def pack (major minor revision build : Int) : Version :=
  ⟨major % 0x200 * majorUnit + minor % 0x100 * minorUnit + revision % 0x10000 * revisionUnit +
    build % revisionUnit⟩

instance : ToString Version where
  toString v := ".".intercalate [toString v.major, toString v.minor, toString v.revision,
    toString v.build]

def zero : Version := ⟨0⟩

theorem number_eq_parts (v : Version) :
    v.number = v.major * majorUnit + v.minor * minorUnit + v.revision * revisionUnit + v.build := by
  simp only [major, minor, revision, build, majorUnit, minorUnit, revisionUnit]
  omega

end Version

end FeatLoom
