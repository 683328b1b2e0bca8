import Chatline.Md5
import Chatline.Text.Hex

namespace Chatline

structure Identity where
  bits : BitVec 128
  deriving DecidableEq, Repr

namespace Identity

def toText (id : Identity) : String :=
  let digits := Text.hexDigits 32 id.bits.toNat
  let group (start len : Nat) : String := .ofList ((digits.drop start).take len)
  "-".intercalate [group 0 8, group 8 4, group 12 4, group 16 4, group 20 12]

def ofText? (s : String) : Option Identity :=
  let digits := s.toList.filter (· != '-')
  if digits.length = 32 then (Text.ofHexDigits? digits).map (⟨.ofNat 128 ·⟩) else none

def oidSpace : Identity :=
  ⟨0x6ba7b8129dad11d180b400c04fd430c8#128⟩

def bytes (id : Identity) : List UInt8 :=
  (Md5.toBytes 16 id.bits.toNat).reverse

-- The identity of a name within a namespace (version 3): the digest of both, with the version and
-- the variant written over six of its bits.
def ofName (space : Identity) (name : String) : Identity :=
  let hash := Md5.digest (space.bytes ++ name.toUTF8.toList)
  let bits := BitVec.ofNat 128 (Md5.ofBytes hash.reverse)
  let bits := bits &&& ~~~(0xc000#128 <<< 48) ||| (0x8000#128 <<< 48)
  ⟨bits &&& ~~~(0xf000#128 <<< 64) ||| (0x3000#128 <<< 64)⟩

end Identity
end Chatline
