/-!
# Reading UTF-8

Stat files are read leniently: every maximal part of the bytes that begins a character but does
not complete one reads as U+FFFD, and so does every byte that begins none. A leading byte order
mark is dropped.
-/

namespace FeatLoom.Text

structure Utf8Pending where
  value : Nat
  owed : Nat
  low : UInt8
  high : UInt8

inductive Utf8Start where
  | complete (c : Char)
  | lead (pending : Utf8Pending)
  | invalid

/-- The role of a byte that may begin a character; only shortest forms below U+110000 that are no
surrogates have a lead. -/
def Utf8Start.ofByte (b : UInt8) : Utf8Start :=
  if b < 0x80 then .complete (Char.ofNat b.toNat)
  else if b < 0xC2 then .invalid
  else if b < 0xE0 then .lead ⟨b.toNat - 0xC0, 1, 0x80, 0xBF⟩
  else if b == 0xE0 then .lead ⟨0, 2, 0xA0, 0xBF⟩
  else if b == 0xED then .lead ⟨0xD, 2, 0x80, 0x9F⟩
  else if b < 0xF0 then .lead ⟨b.toNat - 0xE0, 2, 0x80, 0xBF⟩
  else if b == 0xF0 then .lead ⟨0, 3, 0x90, 0xBF⟩
  else if b < 0xF4 then .lead ⟨b.toNat - 0xF0, 3, 0x80, 0xBF⟩
  else if b == 0xF4 then .lead ⟨4, 3, 0x80, 0x8F⟩
  else .invalid

structure Utf8Reader where
  text : String := ""
  pending : Option Utf8Pending := none

def replacementChar : Char := Char.ofNat 0xFFFD

namespace Utf8Reader

def start (reader : Utf8Reader) (b : UInt8) : Utf8Reader :=
  match Utf8Start.ofByte b with
  | .complete c => ⟨reader.text.push c, none⟩
  | .lead pending => ⟨reader.text, some pending⟩
  | .invalid => ⟨reader.text.push replacementChar, none⟩

def step (reader : Utf8Reader) (b : UInt8) : Utf8Reader :=
  match reader.pending with
  | none => reader.start b
  | some pending =>
    if pending.low ≤ b && b ≤ pending.high then
      let value := pending.value * 64 + (b.toNat - 0x80)
      if pending.owed ≤ 1 then ⟨reader.text.push (Char.ofNat value), none⟩
      else ⟨reader.text, some ⟨value, pending.owed - 1, 0x80, 0xBF⟩⟩
    else (⟨reader.text.push replacementChar, none⟩ : Utf8Reader).start b

def finish (reader : Utf8Reader) : String :=
  if reader.pending.isSome then reader.text.push replacementChar else reader.text

end Utf8Reader

def dropByteOrderMark (text : List Char) : List Char :=
  match text with
  | c :: rest => if c.toNat == 0xFEFF then rest else text
  | [] => []

def decodeUtf8 (bytes : ByteArray) : List Char :=
  dropByteOrderMark (bytes.foldl Utf8Reader.step ⟨"", none⟩).finish.toList

end FeatLoom.Text
