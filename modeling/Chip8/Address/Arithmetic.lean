import Chip8.Address.Basic
import Chip8.Fault

/-! Checked addresses. Hosts and instructions count in 64-bit words; a word
becomes an address only after it was found to lie in memory. -/
namespace Chip8

/-- How a computation ends whose sums may be too large for a word. Unlike a fault a
panic is no answer: it ends the host as well. -/
inductive Completion (α : Type) where
  | returned (answer : Except Fault α)
  | panicked

namespace Completion

/-- Works on with the value of the answer. -/
def andThen (completion : Completion α) (next : α → Except Fault β) : Completion β :=
  match completion with
  | returned answer => returned (answer >>= next)
  | panicked => panicked

/-- The answer of a computation that is known not to panic. -/
def answer (completion : Completion α) (calm : completion ≠ panicked) : Except Fault α :=
  match completion, calm with
  | returned answer, _ => answer
  | panicked, calm => absurd rfl calm

end Completion

namespace Address

def ofNat (number : Nat) : Except Fault Address :=
  if inside : number < memorySize then .ok ⟨number, inside⟩
  else .error (.invalidAddress number)

def ofWord (word : UInt64) : Except Fault Address := ofNat word.toNat

def toWord (address : Address) : UInt64 := UInt64.ofNat address.toNat

/-- The sum is taken on words and only then checked, so it panics past the largest word. -/
def offset (address : Address) (distance : UInt64) : Completion Address :=
  if UInt64.size ≤ address.toNat + distance.toNat then .panicked
  else .returned (ofWord (address.toWord + distance))

def aligned (address : Address) : Except Fault AlignedAddress :=
  if even : address.toNat % 2 = 0 then .ok ⟨address, even⟩
  else .error (.invalidAddress address.toNat)

theorem toNat_toWord (address : Address) : address.toWord.toNat = address.toNat := by
  have inside : address.toNat < 2 ^ 64 := Nat.lt_trans address.inMemory (by decide)
  exact UInt64.toNat_ofNat_of_lt' inside

/-- A sum that fits in a word is checked as it is. -/
theorem offset_eq (address : Address) {distance : UInt64}
    (fits : address.toNat + distance.toNat < UInt64.size) :
    address.offset distance = .returned (ofNat (address.toNat + distance.toNat)) := by
  rw [offset, if_neg (Nat.not_le.mpr fits), ofWord, UInt64.toNat_add, toNat_toWord,
    Nat.mod_eq_of_lt fits]

/-- No address is so large that a byte leads past all words. -/
theorem offset_byte (address : Address) (distance : UInt8) :
    address.offset distance.toUInt64 = .returned (ofNat (address.toNat + distance.toNat)) := by
  have inside : address.toNat < 4096 := address.inMemory
  have short : distance.toNat < 256 := distance.toNat_lt
  have size : UInt64.size = 18446744073709551616 := rfl
  have number := UInt8.toNat_toUInt64 distance
  rw [address.offset_eq (by omega), number]

theorem offset_byte_ne_panicked (address : Address) (distance : UInt8) :
    address.offset distance.toUInt64 ≠ .panicked := by
  rw [address.offset_byte distance]
  exact nofun

/-- The address that a byte leads to: instructions go no further in one step. -/
def advance (address : Address) (distance : UInt8) : Except Fault Address :=
  (address.offset distance.toUInt64).answer (address.offset_byte_ne_panicked distance)

end Address

namespace AlignedAddress

/-- The target has to be aligned too. -/
def offset (address : AlignedAddress) (distance : UInt64) : Completion AlignedAddress :=
  (address.toAddress.offset distance).andThen Address.aligned

theorem offset_byte_ne_panicked (address : AlignedAddress) (distance : UInt8) :
    address.offset distance.toUInt64 ≠ .panicked := by
  rw [offset, address.toAddress.offset_byte distance]
  exact nofun

def advance (address : AlignedAddress) (distance : UInt8) : Except Fault AlignedAddress :=
  (address.offset distance.toUInt64).answer (address.offset_byte_ne_panicked distance)

end AlignedAddress

end Chip8
