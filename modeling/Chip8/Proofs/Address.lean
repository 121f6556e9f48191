import Chip8.Address.Arithmetic

/-! Sums of addresses and distances, as numbers. They are exact while they fit in a word, and
panic where they do not. The sums that instructions take always fit. -/
namespace Chip8

namespace Completion

theorem answer_of_returned {completion : Completion α} (calm : completion ≠ .panicked)
    (returned : completion = .returned result) : completion.answer calm = result := by
  cases returned
  rfl

theorem answer_andThen {completion : Completion α} {next : α → Except Fault β}
    (calm : completion ≠ .panicked) (further : completion.andThen next ≠ .panicked) :
    (completion.andThen next).answer further = completion.answer calm >>= next := by
  cases completion with
  | returned answer => rfl
  | panicked => exact absurd rfl calm

end Completion

namespace Address

theorem ofNat_of_lt (inside : number < memorySize) : ofNat number = .ok ⟨number, inside⟩ :=
  dif_pos inside

theorem ofNat_of_le (outside : memorySize ≤ number) :
    ofNat number = .error (.invalidAddress number) := dif_neg (Nat.not_lt.mpr outside)

theorem aligned_of_odd {address : Address} (odd : address.toNat % 2 = 1) :
    address.aligned = .error (.invalidAddress address.toNat) := by
  simp [aligned, odd]

theorem aligned_of_even {address : Address} (even : address.toNat % 2 = 0) :
    address.aligned = .ok ⟨address, even⟩ := by
  simp [aligned, even]

theorem aligned_ofNat_of_lt (inside : number < memorySize) (even : number % 2 = 0) :
    ofNat number >>= Address.aligned = .ok ⟨⟨number, inside⟩, even⟩ := by
  rw [ofNat_of_lt inside]
  exact aligned_of_even even

/-- The number is reported, whichever of the two is wrong with it. -/
theorem aligned_ofNat_of_wrong (wrong : memorySize ≤ number ∨ number % 2 = 1) :
    ofNat number >>= Address.aligned = .error (.invalidAddress number) := by
  by_cases inside : number < memorySize
  · rw [ofNat_of_lt inside]
    exact aligned_of_odd (wrong.resolve_left (Nat.not_le.mpr inside))
  · rw [ofNat_of_le (Nat.not_lt.mp inside)]
    rfl

theorem advance_eq (address : Address) (distance : UInt8) :
    address.advance distance = ofNat (address.toNat + distance.toNat) :=
  Completion.answer_of_returned _ (address.offset_byte distance)

theorem offset_of_size_le (address : Address) {distance : UInt64}
    (long : UInt64.size ≤ address.toNat + distance.toNat) : address.offset distance = .panicked :=
  if_pos long

theorem toNat_injective : Function.Injective Address.toNat := by
  intro first last same
  obtain ⟨number, inside⟩ := first
  cases same
  rfl

end Address

namespace AlignedAddress

theorem advance_eq (address : AlignedAddress) (distance : UInt8) :
    address.advance distance = Address.ofNat (address.toNat + distance.toNat) >>= Address.aligned := by
  rw [← address.toAddress.advance_eq distance]
  exact Completion.answer_andThen _ _

theorem advance_of_lt (address : AlignedAddress) (distance : UInt8)
    (inside : address.toNat + distance.toNat < memorySize)
    (even : (address.toNat + distance.toNat) % 2 = 0) :
    address.advance distance = .ok ⟨⟨address.toNat + distance.toNat, inside⟩, even⟩ :=
  (address.advance_eq distance).trans (Address.aligned_ofNat_of_lt inside even)

theorem advance_of_le (address : AlignedAddress) (distance : UInt8)
    (outside : memorySize ≤ address.toNat + distance.toNat) :
    address.advance distance = .error (.invalidAddress (address.toNat + distance.toNat)) :=
  (address.advance_eq distance).trans (Address.aligned_ofNat_of_wrong (.inl outside))

/-- The last word of memory is the only one that nothing follows. -/
theorem advance_two_of_last {address : AlignedAddress} (last : address.toNat = 0xFFE) :
    address.advance 2 = .error (.invalidAddress 0x1000) := by
  have outside : memorySize ≤ address.toNat + 2 := Nat.le_of_eq (congrArg (· + 2) last.symm)
  rw [address.advance_of_le 2 outside]
  exact congrArg (fun place => Except.error (Fault.invalidAddress (place + 2))) last

theorem advance_two_of_ne {address : AlignedAddress} (inside : address.toNat ≠ 0xFFE) :
    ∃ next, address.advance 2 = .ok next ∧ next.toNat = address.toNat + 2 := by
  have even := address.even
  have bound : address.toNat < 0x1000 := address.inMemory
  have reached : address.toNat + 2 < 0x1000 := by omega
  have aligned : (address.toNat + 2) % 2 = 0 := by omega
  exact ⟨_, address.advance_of_lt 2 reached aligned, rfl⟩

theorem advance_two_of_eq {address next : AlignedAddress}
    (past : next.toNat = address.toNat + 2) : address.advance 2 = .ok next := by
  have inside : address.toNat + 2 < memorySize := past ▸ next.inMemory
  have even : (address.toNat + 2) % 2 = 0 := past ▸ next.even
  obtain ⟨⟨number, bound⟩, aligned⟩ := next
  cases past
  exact address.advance_of_lt 2 inside even

theorem toNat_injective : Function.Injective fun address : AlignedAddress => address.toNat := by
  intro first last same
  obtain ⟨first, even⟩ := first
  obtain ⟨last, _⟩ := last
  cases Address.toNat_injective same
  rfl

end AlignedAddress

/-- A sum is completed exactly. Past the words it panics; within them it is answered, by the
address with its number, or by a fault that reports the number where it is that of no address. -/
structure Completion.Exact (number : α → Nat) (valid : Nat → Prop) (sum : Nat)
    (completion : Completion α) : Prop where
  panics : completion = .panicked ↔ UInt64.size ≤ sum
  succeeds : (∃ target, completion = .returned (.ok target)) ↔ valid sum
  found : ∀ target, completion = .returned (.ok target) ↔ number target = sum
  refuses : completion = .returned (.error (.invalidAddress sum)) ↔ sum < UInt64.size ∧ ¬ valid sum

namespace Completion

variable {number : α → Nat} {valid : Nat → Prop}

theorem exact_panicked (long : UInt64.size ≤ sum) (invalid : ¬ valid sum)
    (each : ∀ target, valid (number target)) : panicked.Exact number valid sum where
  panics := iff_of_true rfl long
  succeeds := iff_of_false nofun invalid
  found target := iff_of_false nofun fun same => invalid (same ▸ each target)
  refuses := iff_of_false nofun fun refused => Nat.not_lt.mpr long refused.1

theorem exact_error (fits : sum < UInt64.size) (invalid : ¬ valid sum)
    (each : ∀ target, valid (number target)) :
    (returned (.error (.invalidAddress sum))).Exact number valid sum where
  panics := iff_of_false nofun (Nat.not_le.mpr fits)
  succeeds := iff_of_false nofun invalid
  found target := iff_of_false nofun fun same => invalid (same ▸ each target)
  refuses := iff_of_true rfl ⟨fits, invalid⟩

theorem exact_ok (fits : sum < UInt64.size) (apart : Function.Injective number)
    (each : ∀ target, valid (number target)) (reached : number target = sum) :
    (returned (.ok target)).Exact number valid sum where
  panics := iff_of_false nofun (Nat.not_le.mpr fits)
  succeeds := iff_of_true ⟨target, rfl⟩ (reached ▸ each target)
  found other := by
    constructor
    · intro same
      cases same
      exact reached
    · intro same
      rw [apart (same.trans reached.symm)]
  refuses := iff_of_false nofun fun refused => refused.2 (reached ▸ each target)

end Completion

theorem outside_of_size_le (long : UInt64.size ≤ sum) : ¬ sum < memorySize := by
  have small : memorySize ≤ UInt64.size := by decide
  exact Nat.not_lt.mpr (Nat.le_trans small long)

theorem Address.offset_exact (address : Address) (distance : UInt64) :
    (address.offset distance).Exact Address.toNat (· < memorySize)
      (address.toNat + distance.toNat) := by
  by_cases fits : address.toNat + distance.toNat < UInt64.size
  · rw [address.offset_eq fits]
    by_cases inside : address.toNat + distance.toNat < memorySize
    · rw [ofNat_of_lt inside]
      exact Completion.exact_ok fits toNat_injective inMemory rfl
    · rw [ofNat_of_le (Nat.not_lt.mp inside)]
      exact Completion.exact_error fits inside inMemory
  · have long := Nat.not_lt.mp fits
    rw [address.offset_of_size_le long]
    exact Completion.exact_panicked long (outside_of_size_le long) inMemory

theorem AlignedAddress.offset_exact (address : AlignedAddress) (distance : UInt64) :
    (address.offset distance).Exact (fun target : AlignedAddress => target.toNat)
      (fun number => number < memorySize ∧ number % 2 = 0) (address.toNat + distance.toNat) := by
  have each (target : AlignedAddress) : target.toNat < memorySize ∧ target.toNat % 2 = 0 :=
    ⟨target.inMemory, target.even⟩
  unfold offset
  by_cases fits : address.toNat + distance.toNat < UInt64.size
  · rw [address.toAddress.offset_eq fits, Completion.andThen]
    by_cases valid : address.toNat + distance.toNat < memorySize ∧
        (address.toNat + distance.toNat) % 2 = 0
    · rw [Address.aligned_ofNat_of_lt valid.1 valid.2]
      exact Completion.exact_ok fits toNat_injective each rfl
    · have wrong : memorySize ≤ address.toNat + distance.toNat ∨
          (address.toNat + distance.toNat) % 2 = 1 := by omega
      rw [Address.aligned_ofNat_of_wrong wrong]
      exact Completion.exact_error fits valid each
  · have long := Nat.not_lt.mp fits
    rw [address.toAddress.offset_of_size_le long]
    exact Completion.exact_panicked long (fun valid => outside_of_size_le long valid.1) each

/-- Sums are exact below the words; a larger one is neither answered nor refused but panics.
That goes for both kinds of addresses, the aligned ones taking even sums only. -/
theorem offsets_exact_below_words (distance : UInt64) :
    (∀ address : Address, (address.offset distance).Exact Address.toNat (· < memorySize)
      (address.toNat + distance.toNat)) ∧
    ∀ address : AlignedAddress, (address.offset distance).Exact
      (fun target : AlignedAddress => target.toNat)
      (fun number => number < memorySize ∧ number % 2 = 0) (address.toNat + distance.toNat) :=
  ⟨fun address => address.offset_exact distance, fun address => address.offset_exact distance⟩

/-- The distance from the first instruction up to the first number that is no word. -/
theorem long_distance_panics :
    memorySize ≤ AlignedAddress.start.toNat + (0xFFFFFFFFFFFFFE00 : UInt64).toNat ∧
      AlignedAddress.start.toAddress.offset 0xFFFFFFFFFFFFFE00 = .panicked ∧
      AlignedAddress.start.offset 0xFFFFFFFFFFFFFE00 = .panicked :=
  ⟨by decide, rfl, rfl⟩

end Chip8
