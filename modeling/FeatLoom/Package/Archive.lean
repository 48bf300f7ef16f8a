import FeatLoom.Package
import FeatLoom.Package.Checksum

/-!
# Archives

An archive ends with a record that says where its directory is. The directory lists the entries, and
every entry has a header of its own in front of its content. Places count from the start of the
archive, which may follow other data. Entries are read as they are stored; of an entry with an
unknown name or content the archive is read no further.
-/

namespace FeatLoom

inductive ArchiveError where
  | damaged
  | truncated
  | unsupported
  | encrypted
  | undecodable
  | unnamed
  deriving DecidableEq

namespace Archive

/-- The number that some bytes denote, least significant first. Bytes past the end count as zero. -/
def number (bytes : ByteArray) (start count : Nat) : Nat :=
  (List.range count).foldr (fun n value => value * 256 + (bytes.data.getD (start + n) 0).toNat) 0

def endMark : Nat := 0x06054B50

def entryMark : Nat := 0x02014B50

def headerMark : Nat := 0x04034B50

def endSize : Nat := 22

def entrySize : Nat := 46

def headerSize : Nat := 30

def commentReach : Nat := 0x10000

/-- The place of the last end mark at or before a place, and not before another one. -/
def endPlace? (bytes : ByteArray) (least : Nat) : Nat → Option Nat
  | 0 => if number bytes 0 4 = endMark then some 0 else none
  | place + 1 =>
    if number bytes (place + 1) 4 = endMark then some (place + 1)
    else if place < least then none
    else endPlace? bytes least place

def endRecord? (bytes : ByteArray) : Option Nat :=
  let last := bytes.size - endSize
  if bytes.size < endSize then none
  else if number bytes last 4 = endMark && number bytes (bytes.size - 2) 2 = 0 then some last
  else (endPlace? bytes (last - commentReach) bytes.size).filter (· ≤ last)

/-! ## Names -/

def olderCharacters : String :=
  "ÇüéâäàåçêëèïîìÄÅÉæÆôöòûùÿÖÜ¢£¥₧ƒáíóúñÑªº¿⌐¬½¼¡«»░▒▓│┤╡╢╖╕╣║╗╝╜╛┐└┴┬├─┼╞╟" ++
  "╚╔╩╦╠═╬╧╨╤╥╙╘╒╓╫╪┘┌█▄▌▐▀αßΓπΣσµτΦΘΩδ∞φε∩≡±≥≤⌠⌡÷≈°∙·√ⁿ²■\u00a0"

def olderCharacter (byte : UInt8) : Char :=
  if byte < 128 then Char.ofNat byte.toNat
  else olderCharacters.toList.getD (byte.toNat - 128) '?'

def hasFlag (flags bit : Nat) : Bool := flags / bit % 2 == 1

def encryptedFlag : Nat := 0x1

def patchFlag : Nat := 0x20

def strongFlag : Nat := 0x40

def utf8Flag : Nat := 0x800

def name? (flags : Nat) (bytes : ByteArray) : Except ArchiveError String :=
  if hasFlag flags utf8Flag then
    match String.fromUTF8? bytes with
    | some name => .ok name
    | none => .error .undecodable
  else .ok (String.ofList (bytes.toList.map olderCharacter))

/-! ## The directory -/

structure Entry where
  name : String
  flags : Nat
  method : Nat
  checksum : Nat
  storedSize : Nat
  size : Nat
  header : Nat

namespace Entry

def path (entry : Entry) : String :=
  String.ofList (entry.name.toList.takeWhile (· ≠ '\x00'))

def newestVersion : Nat := 63

def hasWholeFields (fields : ByteArray) (place : Nat) : Bool :=
  if fields.size < place + 4 then true
  else
    let next := place + 4 + number fields (place + 2) 2
    next ≤ fields.size && hasWholeFields fields next
termination_by fields.size - place

def readAll (directory : ByteArray) (place : Nat) : Except ArchiveError (List Entry) :=
  if directory.size ≤ place then .ok []
  else if directory.size < place + entrySize || number directory place 4 ≠ entryMark then
    .error .damaged
  else do
    let number (offset count : Nat) : Nat := number directory (place + offset) count
    let nameStart := place + entrySize
    let nameSize := number 28 2
    let flags := number 8 2
    let name ← name? flags (directory.extract nameStart (nameStart + nameSize))
    if newestVersion < number 6 1 then throw .unsupported
    let entry := { name, flags, method := number 10 2, checksum := number 16 4
                   storedSize := number 20 4, size := number 24 4, header := number 42 4 }
    let fieldsStart := nameStart + nameSize
    let fieldsEnd := fieldsStart + number 30 2
    if !hasWholeFields (directory.extract fieldsStart fieldsEnd) 0 then throw .damaged
    let more ← readAll directory (fieldsEnd + number 32 2)
    return entry :: more
termination_by directory.size - place
decreasing_by simp only [entrySize]; omega

def storedMethod : Nat := 0

def packedMethods : List Nat := [8, 12, 14]

def content (entry : Entry) (bytes : ByteArray) (start : Int) : Except ArchiveError ByteArray := do
  if start + entry.header < 0 then throw .damaged
  let header := (start + entry.header).toNat
  if bytes.size < header + headerSize || number bytes header 4 ≠ headerMark then throw .damaged
  let nameStart := header + headerSize
  let nameEnd := nameStart + number bytes (header + 26) 2
  if hasFlag entry.flags patchFlag || hasFlag entry.flags strongFlag then throw .unsupported
  let name ← name? (number bytes (header + 6) 2) (bytes.extract nameStart nameEnd)
  if name ≠ entry.name then throw .damaged
  if hasFlag entry.flags encryptedFlag then throw .encrypted
  if packedMethods.contains entry.method then throw .damaged
  if entry.method ≠ storedMethod then throw .unsupported
  let contentStart := nameEnd + number bytes (header + 28) 2
  let stored := bytes.extract contentStart (contentStart + entry.storedSize)
  let content := stored.extract 0 entry.size
  let isWhole := stored.size = entry.storedSize || (0 < stored.size && content.size = entry.size)
  if !isWhole then throw .truncated
  if (Checksum.ofBytes content).toNat ≠ entry.checksum then throw .damaged
  return content

end Entry

/-- Files that could be read, and why reading ended before the last of them, if it did. -/
structure Reading where
  files : List PackageFile := []
  fault : Option ArchiveError := none

/-- Reads the entries in order. Those whose path ends in a slash are directories. -/
def readEntries (bytes : ByteArray) (start : Int) : List Entry → Reading
  | [] => {}
  | entry :: rest =>
    match entry.path.toList.getLast? with
    | none => { fault := some .unnamed }
    | some '/' => readEntries bytes start rest
    | some _ =>
      match entry.content bytes start with
      | .error fault => { fault := some fault }
      | .ok content =>
        let more := readEntries bytes start rest
        { more with files := ⟨entry.path, content⟩ :: more.files }

def read (bytes : ByteArray) : Reading :=
  match endRecord? bytes with
  | none => { fault := some .damaged }
  | some record =>
    let size := number bytes (record + 12) 4
    if record < size then { fault := some .damaged }
    else
      let place := record - size
      match Entry.readAll (bytes.extract place record) 0 with
      | .error fault => { fault := some fault }
      | .ok entries =>
        readEntries bytes ((place : Int) - (number bytes (record + 16) 4 : Int)) entries

end Archive

end FeatLoom
