import Chip8.Proofs.Machine.Destination
import Chip8.Proofs.Machine.Reporting
import Chip8.Proofs.Memory.Bounds

/-! What the instructions leave that move bytes between registers and memory, up to the last
byte of it. What one of them stores, another one loads again. -/
namespace Chip8

theorem Answer.ofFailure_eq_done_iff {failure : Option Fault} :
    Answer.ofFailure failure = .done ↔ failure = none := by
  cases failure with
  | none => exact iff_of_true rfl rfl
  | some fault => exact iff_of_false nofun nofun

namespace Machine

variable {machine before after : Machine} {call : Call} {instruction : Instruction}
  {x last : Register}

/-- The call executes the instruction and returns without a fault. -/
structure Succeeds (machine : Machine) (call : Call) (instruction : Instruction) : Prop where
  executed : machine.executed? call = some instruction
  answer : (machine.perform call).answer = .done

theorem Succeeds.made (succeeds : machine.Succeeds call instruction) :
    ∃ random made counter, machine.effect random instruction = .ok made ∧
      (machine.perform call).machine = { made.machine with counter } := by
  obtain ⟨random, _, answer, _, same⟩ := perform_of_executed succeeds.executed
  have succeeded := Answer.ofFailure_eq_done_iff.mp (answer.symm.trans succeeds.answer)
  obtain ⟨made, counter, done, _, moved⟩ := execute_success succeeded
  exact ⟨random, made, counter, done, (same succeeded).trans moved⟩

/-- What touches memory succeeds where memory reaches as far as the stretch that is touched,
and as far as the instruction after it. -/
theorem answer_of_reach (executed : machine.executed? call = some instruction)
    (reaches : instruction.reach = some length) :
    (machine.perform call).answer = .done ↔
      machine.index.toNat + length ≤ memorySize ∧ machine.counter.toNat + 2 < memorySize := by
  obtain ⟨random, _, answer, _⟩ := perform_of_executed executed
  rw [answer, Answer.ofFailure_eq_done_iff, Outcome.failure_eq_none_iff,
    arrival_of_reach reaches random, placeAfter]
  by_cases inside : machine.index.toNat + length ≤ memorySize
  · rw [if_neg (Nat.not_lt.mpr inside)]
    by_cases next : machine.counter.toNat + 2 < memorySize
    · rw [if_pos next]
      exact iff_of_true ⟨_, rfl⟩ ⟨inside, next⟩
    · simp [next]
  · rw [if_pos (Nat.not_le.mp inside)]
    simp [inside]

theorem getElem?_registers (machine : Machine) (x : Register) :
    machine.registers[x.val]? = some (machine.register x) := by
  simp [register]

theorem getElem?_registersThrough (machine : Machine) (within : x ≤ last) :
    (machine.registersThrough last)[x.val]? = some (machine.register x) := by
  have reached : x.val < last.val + 1 := Nat.lt_succ_of_le within
  rw [registersThrough, List.getElem?_take_of_lt reached, Vector.getElem?_toList, getElem?_registers]

/-- Where the index stands after a transfer: past the bytes that were moved or, in the other
dialect, where it was. It never gets beyond the end of memory. -/
structure PassesIndex (before : Machine) (length : Nat) (after : Machine) : Prop where
  index : after.index.toNat =
    before.index.toNat + if before.dialect.transferAdvancesIndex then length else 0
  bound : after.index.toNat ≤ memorySize

/-- The sum stays in memory, so it does not wrap as indices do. -/
theorem toNat_index_add {length : Nat} (inside : machine.index.toNat + length ≤ memorySize) :
    (machine.index + UInt16.ofNat length).toNat = machine.index.toNat + length := by
  have bound : machine.index.toNat + length ≤ 0x1000 := inside
  have short : length < 2 ^ 16 := by omega
  rw [UInt16.toNat_add, UInt16.toNat_ofNat_of_lt' short, Nat.mod_eq_of_lt (by omega)]

theorem advanceIndex_passes {length : Nat} (inside : machine.index.toNat + length ≤ memorySize) :
    ∃ index, machine.advanceIndex length = { machine with index } ∧
      machine.PassesIndex length { machine with index } := by
  by_cases advances : machine.dialect.transferAdvancesIndex = true
  · have sum := toNat_index_add inside
    refine ⟨_, if_pos advances, ?_, ?_⟩
    · rw [if_pos advances]
      exact sum
    · exact Nat.le_trans (Nat.le_of_eq sum) inside
  · refine ⟨_, if_neg advances, ?_, ?_⟩
    · rw [if_neg advances]
      rfl
    · exact Nat.le_trans (Nat.le_add_right _ length) inside

/-- The registers through `last` were stored from the index on. -/
structure StoresThrough (last : Register) (before after : Machine) : Prop where
  stored : ∀ x, x ≤ last →
    after.memory.cells[before.index.toNat + x.val]? = some (before.register x)
  kept : ∀ position,
    ¬ (before.index.toNat ≤ position ∧ position ≤ before.index.toNat + last.val) →
      after.memory.cells[position]? = before.memory.cells[position]?
  registers : after.registers = before.registers
  index : before.PassesIndex (last.val + 1) after
  others : after = { before with
    memory := after.memory
    index := after.index
    counter := after.counter }

/-- The registers through `last` were loaded from the index on. -/
structure LoadsThrough (last : Register) (before after : Machine) : Prop where
  loaded : ∀ x, x ≤ last →
    before.memory.cells[before.index.toNat + x.val]? = some (after.register x)
  kept : ∀ x, last < x → after.register x = before.register x
  memory : after.memory = before.memory
  index : before.PassesIndex (last.val + 1) after
  others : after = { before with
    registers := after.registers
    index := after.index
    counter := after.counter }

/-- The decimal digits of a register were stored from the index on, the hundreds first. -/
structure StoresDigits (x : Register) (before after : Machine) : Prop where
  digits : ∃ hundreds tens units : UInt8,
    after.memory.cells[before.index.toNat]? = some hundreds ∧
    after.memory.cells[before.index.toNat + 1]? = some tens ∧
    after.memory.cells[before.index.toNat + 2]? = some units ∧
    hundreds.toNat ≤ 9 ∧ tens.toNat ≤ 9 ∧ units.toNat ≤ 9 ∧
    100 * hundreds.toNat + 10 * tens.toNat + units.toNat = (before.register x).toNat
  kept : ∀ position,
    ¬ (before.index.toNat ≤ position ∧ position < before.index.toNat + 3) →
      after.memory.cells[position]? = before.memory.cells[position]?
  registers : after.registers = before.registers
  index : after.index = before.index
  others : after = { before with
    memory := after.memory
    counter := after.counter }

theorem Succeeds.storesThrough (succeeds : machine.Succeeds call (.storeRegisters last)) :
    StoresThrough last machine (machine.perform call).machine := by
  obtain ⟨random, made, counter, done, same⟩ := succeeds.made
  obtain ⟨memory, written, rfl⟩ := made_of_storeRegisters done
  obtain ⟨inside, overwritten⟩ := Memory.writeSlice_eq_ok_iff.mp written
  rw [UInt16.toNat_toUInt64] at inside overwritten
  have length := machine.length_registersThrough last
  rw [length] at inside
  let stored : Machine := { machine with memory }
  obtain ⟨index, frame, passes⟩ := advanceIndex_passes (show stored.index.toNat + _ ≤ _ from inside)
  have moved : (machine.perform call).machine = { stored with index, counter } :=
    same.trans (congrArg (fun reached : Machine => { reached with counter }) frame)
  rw [moved]
  refine ⟨?_, ?_, rfl, ⟨passes.index, passes.bound⟩, rfl⟩
  · intro x within
    have low : x.val ≤ last.val := within
    have bound : x.val < (machine.registersThrough last).length := by omega
    exact (overwritten.written x.val bound).trans (machine.getElem?_registersThrough within)
  · intro position outside
    apply overwritten.kept
    omega

theorem Succeeds.loadsThrough (succeeds : machine.Succeeds call (.loadRegisters last)) :
    LoadsThrough last machine (machine.perform call).machine := by
  obtain ⟨random, made, counter, done, same⟩ := succeeds.made
  obtain ⟨bytes, read, rfl⟩ := made_of_loadRegisters done
  obtain ⟨inside, length, held⟩ := Memory.slice_eq_ok_iff.mp read
  rw [toNat_transferLength] at inside length
  rw [UInt16.toNat_toUInt64] at inside held
  let registers := Cells.overlay machine.registers 0 bytes
  let loaded : Machine := { machine with registers }
  obtain ⟨index, frame, passes⟩ := advanceIndex_passes (show loaded.index.toNat + _ ≤ _ from inside)
  have moved : (machine.perform call).machine = { loaded with index, counter } :=
    same.trans (congrArg (fun reached : Machine => { reached with counter }) frame)
  rw [moved]
  refine ⟨?_, ?_, rfl, ⟨passes.index, passes.bound⟩, rfl⟩
  · intro x within
    have low : x.val ≤ last.val := within
    have covered : x.val < bytes.length := by omega
    have laid : registers[0 + x.val]? = bytes[x.val]? :=
      Cells.getElem?_overlay_of_covered machine.registers covered (by omega)
    rw [held x.val covered, ← laid, Nat.zero_add]
    exact loaded.getElem?_registers x
  · intro x beyond
    have high : last.val < x.val := beyond
    have uncovered : ¬ (0 ≤ x.val ∧ x.val < 0 + bytes.length) := by omega
    have laid : registers[x.val]? = machine.registers[x.val]? :=
      Cells.getElem?_overlay_of_uncovered machine.registers uncovered
    rw [getElem?_registers, loaded.getElem?_registers] at laid
    exact Option.some.inj laid

/-- The digits of a byte are digits, and make it up again. -/
theorem decimalDigits_eq (value : UInt8) :
    ∃ hundreds tens units : UInt8, decimalDigits value = [hundreds, tens, units] ∧
      hundreds.toNat ≤ 9 ∧ tens.toNat ≤ 9 ∧ units.toNat ≤ 9 ∧
      100 * hundreds.toNat + 10 * tens.toNat + units.toNat = value.toNat := by
  have bound := value.toNat_lt
  have hundreds : (value / 100).toNat = value.toNat / 100 := UInt8.toNat_div value 100
  have rest : (value % 100).toNat = value.toNat % 100 := UInt8.toNat_mod value 100
  have tens : (value % 100 / 10).toNat = (value % 100).toNat / 10 := UInt8.toNat_div (value % 100) 10
  have units : (value % 10).toNat = value.toNat % 10 := UInt8.toNat_mod value 10
  refine ⟨_, _, _, rfl, ?_⟩
  omega

example : decimalDigits 254 = [2, 5, 4] := by decide

theorem Succeeds.storesDigits (succeeds : machine.Succeeds call (.storeDigits x)) :
    StoresDigits x machine (machine.perform call).machine := by
  obtain ⟨random, made, counter, done, same⟩ := succeeds.made
  obtain ⟨memory, written, rfl⟩ := made_of_storeDigits done
  obtain ⟨hundreds, tens, units, digits, sum⟩ := decimalDigits_eq (machine.register x)
  rw [digits] at written
  obtain ⟨_, overwritten⟩ := Memory.writeSlice_eq_ok_iff.mp written
  rw [UInt16.toNat_toUInt64] at overwritten
  rw [same]
  have stands (offset : Nat) (bound : offset < 3) := overwritten.written offset bound
  refine ⟨⟨hundreds, tens, units, ?_, ?_, ?_, sum⟩, overwritten.kept, rfl, rfl, rfl⟩
  · exact stands 0 (by decide)
  · exact stands 1 (by decide)
  · exact stands 2 (by decide)

/-- What was stored through one register is loaded again through any one up to it. -/
theorem LoadsThrough.register_eq {start stored second loaded : Machine} {through : Register}
    (stores : StoresThrough last start stored) (loads : LoadsThrough through second loaded)
    (memory : second.memory = stored.memory) (index : second.index = start.index)
    (part : through ≤ last) (within : x ≤ through) : loaded.register x = start.register x := by
  have found := loads.loaded x within
  rw [memory, index, stores.stored x (Fin.le_trans within part)] at found
  exact (Option.some.inj found).symm

/-- What becomes of registers and memory when bytes are moved between them. -/
structure TransfersExactly (machine : Machine) : Prop where
  succeeds : ∀ call instruction length, machine.executed? call = some instruction →
    instruction.reach = some length →
      ((machine.perform call).answer = .done ↔
        machine.index.toNat + length ≤ memorySize ∧ machine.counter.toNat + 2 < memorySize)
  stores : ∀ call last, machine.Succeeds call (.storeRegisters last) →
    StoresThrough last machine (machine.perform call).machine
  loads : ∀ call last, machine.Succeeds call (.loadRegisters last) →
    LoadsThrough last machine (machine.perform call).machine
  digits : ∀ call x, machine.Succeeds call (.storeDigits x) →
    StoresDigits x machine (machine.perform call).machine
  /-- Whatever else is different by then: the registers, the dialect or the screen. -/
  restores : ∀ store last, machine.Succeeds store (.storeRegisters last) →
    ∀ second : Machine, second.memory = (machine.perform store).machine.memory →
      second.index = machine.index → ∀ load through, through ≤ last →
        second.Succeeds load (.loadRegisters through) → ∀ x, x ≤ through →
          (second.perform load).machine.register x = machine.register x

theorem transfers_exactly (machine : Machine) : machine.TransfersExactly where
  succeeds _ _ _ executed reaches := answer_of_reach executed reaches
  stores _ _ succeeds := succeeds.storesThrough
  loads _ _ succeeds := succeeds.loadsThrough
  digits _ _ succeeds := succeeds.storesDigits
  restores _ _ stored _ memory index _ _ part loaded _ within :=
    loaded.loadsThrough.register_eq stored.storesThrough memory index part within

/-- Three registers are stored and overwritten, and two of them are loaded again. -/
theorem stored_registers_loaded :
    let start := (initial .standard false).run
      [.setRegister 0 1, .setRegister 1 2, .setRegister 2 3, .setIndex 0x300]
    let store := Call.execute 0 (.storeRegisters 2)
    let stored := (start.perform store).machine
    let second := { stored with registers := .replicate 16 9, index := 0x300 }
    let load := Call.execute 0 (.loadRegisters 1)
    let loaded := (second.perform load).machine
    start.Succeeds store (.storeRegisters 2) ∧ stored.memory.cells[0x302]? = some 3 ∧
      stored.index = 0x303 ∧ second.Succeeds load (.loadRegisters 1) ∧
      loaded.register 0 = 1 ∧ loaded.register 1 = 2 ∧ loaded.register 2 = 9 := by
  intro start store stored second load loaded
  have storing : start.Succeeds store (.storeRegisters 2) :=
    ⟨rfl, ((transfers_exactly start).succeeds store _ 3 rfl rfl).mpr (by decide)⟩
  have stores := (transfers_exactly start).stores store 2 storing
  have index : stored.index = 0x303 := UInt16.toNat_inj.mp stores.index.index
  have loading : second.Succeeds load (.loadRegisters 1) :=
    ⟨rfl, ((transfers_exactly second).succeeds load _ 2 rfl rfl).mpr (by decide)⟩
  have loads := (transfers_exactly second).loads load 1 loading
  have restored (x : Register) (within : x ≤ 1) : loaded.register x = start.register x :=
    (transfers_exactly start).restores store 2 storing second rfl rfl load 1 (by decide) loading x within
  refine ⟨storing, ?_, index, loading, ?_, ?_, ?_⟩
  · exact stores.stored 2 (by decide)
  · exact (restored 0 (by decide)).trans rfl
  · exact (restored 1 (by decide)).trans rfl
  · exact (loads.kept 2 (by decide)).trans rfl

end Machine

end Chip8
