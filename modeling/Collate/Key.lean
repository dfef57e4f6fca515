import Collate.Number.Hexadecimal

namespace Collate

structure Key where
  text : String
deriving DecidableEq, Inhabited

namespace Key

def ofInt (value : Int) : Key := ⟨toString value⟩

def precedes (left right : Key) : Bool :=
  left.text < right.text || left.text = right.text

end Key

structure Uuid where
  value : BitVec 128
deriving DecidableEq

namespace Uuid

private def groupLengths : List Nat := [8, 4, 4, 4, 12]

/-- An identifier from its hyphenated hexadecimal text, in any case. -/
def ofText? (text : String) : Option Uuid :=
  let groups := text.splitOn "-"
  if groups.map String.length = groupLengths then
    (Number.hexCode? 32 (String.join groups).toList).map
      fun code => ⟨BitVec.ofNat 128 code.1⟩
  else none

private def cut : List Nat → List Char → List String
  | [], _ => []
  | length :: rest, characters =>
      String.ofList (characters.take length) ::
        cut rest (characters.drop length)

def text (uuid : Uuid) : String :=
  let digits := Nat.toDigits 16 uuid.value.toNat
  let padded := List.replicate (32 - digits.length) '0' ++ digits
  "-".intercalate (cut groupLengths padded)

end Uuid

def Key.ofUuid (uuid : Uuid) : Key := ⟨uuid.text⟩

end Collate
