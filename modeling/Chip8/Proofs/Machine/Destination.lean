import Chip8.Proofs.Machine.Invariant

/-! Where an instruction leads: what the program counter is after it, or which
of the competing faults is reported. Everything is said in plain numbers. -/
namespace Chip8

/-- The place past a distance, if memory reaches that far. -/
def placeAfter (start distance : Nat) : Except Fault Nat :=
  if start + distance < memorySize then .ok (start + distance)
  else .error (.invalidAddress (start + distance))

/-- How much of memory an instruction touches from the index on, if it touches
memory at all. -/
def Instruction.reach : Instruction → Option Nat
  | draw _ _ rows => some rows.toNat
  | drawBig _ _ => some 32
  | storeDigits _ => some 3
  | storeRegisters last => some (last.val + 1)
  | loadRegisters last => some (last.val + 1)
  | _ => none

/-- The place where execution goes on, or the fault that is reported. -/
def Outcome.arrival (outcome : Outcome) : Except Fault Nat :=
  match outcome.failure with
  | some reason => .error reason
  | none => .ok outcome.machine.counter.toNat

theorem Outcome.failure_eq_some_iff {outcome : Outcome} :
    outcome.failure = some reason ↔ outcome.arrival = .error reason := by
  cases failed : outcome.failure with
  | none => simp [arrival, failed]
  | some other => simp [arrival, failed]

theorem Outcome.failure_eq_none_iff {outcome : Outcome} :
    outcome.failure = none ↔ ∃ place, outcome.arrival = .ok place := by
  cases failed : outcome.failure with
  | none => simp [arrival, failed]
  | some reason => simp [arrival, failed]

namespace Machine

/-- The condition of a skip. Of a register that numbers a key only the lower
half counts. -/
def Meets (machine : Machine) : Condition → Prop
  | .equalsByte x byte => machine.register x = byte
  | .differsByte x byte => machine.register x ≠ byte
  | .equals x y => machine.register x = machine.register y
  | .differs x y => machine.register x ≠ machine.register y
  | .held x => machine.keypad.isHeld (Key.ofByte (machine.register x)) = true
  | .notHeld x => machine.keypad.isHeld (Key.ofByte (machine.register x)) = false

theorem holds_iff (machine : Machine) (condition : Condition) :
    machine.holds condition = true ↔ machine.Meets condition := by
  cases condition with
  | equalsByte x byte => exact beq_iff_eq
  | differsByte x byte => exact bne_iff_ne
  | equals x y => exact beq_iff_eq
  | differs x y => exact bne_iff_ne
  | held x => exact Iff.rfl
  | notHeld x => exact (Bool.not_eq_true' _).to_iff

instance (machine : Machine) (condition : Condition) : Decidable (machine.Meets condition) :=
  decidable_of_iff _ (machine.holds_iff condition)

/-- What execution of an instruction comes to. Checks that come first stand
first. -/
def destination (machine : Machine) (instruction : Instruction) : Except Fault Nat :=
  match instruction with
  | .unknown opcode => .error (.unknownOpcode opcode)
  | .exit => .ok machine.counter.toNat
  | .ret =>
    match machine.stack with
    | [] => .error .stackUnderflow
    | caller :: _ =>
      if caller.toNat = 0xFFE then .error (.invalidAddress 0x1000) else .ok (caller.toNat + 2)
  | .jump target =>
    if target.toNat % 2 = 1 then .error (.invalidAddress target.toNat) else .ok target.toNat
  | .call target =>
    if target.toNat % 2 = 1 then .error (.invalidAddress target.toNat)
    else if machine.stack.length = 16 then .error .stackOverflow
    else .ok target.toNat
  | .jumpOffset x target =>
    let added := if machine.dialect.jumpsByNamed then machine.register x else machine.register .first
    let sum := target.toNat + added.toNat
    if 0x1000 ≤ sum ∨ sum % 2 = 1 then .error (.invalidAddress sum) else .ok sum
  | .skip condition =>
    placeAfter machine.counter.toNat (if machine.Meets condition then 4 else 2)
  | other =>
    match other.reach with
    | some length =>
      if 0x1000 < machine.index.toNat + length then
        .error (.invalidAddress (max machine.index.toNat 0x1000))
      else placeAfter machine.counter.toNat 2
    | none => placeAfter machine.counter.toNat 2

theorem arrival_of_refusal {machine : Machine}
    (refused : machine.effect random instruction = .error reason) :
    (machine.execute random instruction).arrival = .error reason := by
  rw [execute_of_refusal refused]
  rfl

theorem arrival_of_goTo {machine : Machine}
    (done : machine.effect random instruction = .ok (.goTo after target)) :
    (machine.execute random instruction).arrival = .ok target.toNat := by
  rw [execute_of_moved done rfl]
  rfl

/-- What goes on past its own place gets there unless memory ends before. -/
theorem arrival_of_advance {machine : Machine} (distance : UInt8)
    (done : machine.effect random instruction = .ok made)
    (onward : made.flow.target machine.counter = machine.counter.advance distance)
    (even : distance.toNat % 2 = 0) :
    (machine.execute random instruction).arrival =
      placeAfter machine.counter.toNat distance.toNat := by
  have standing : machine.counter.toNat % 2 = 0 := machine.counter.even
  by_cases inside : machine.counter.toNat + distance.toNat < memorySize
  · have moved := machine.counter.advance_of_lt distance inside (by omega)
    rw [execute_of_moved done (onward.trans moved), placeAfter, if_pos inside]
    rfl
  · have blocked := machine.counter.advance_of_le distance (Nat.not_lt.mp inside)
    rw [execute_of_blocked done (onward.trans blocked), placeAfter, if_neg inside]
    rfl

theorem arrival_of_next {machine : Machine}
    (done : machine.effect random instruction = .ok ⟨after, .next, log⟩) :
    (machine.execute random instruction).arrival = placeAfter machine.counter.toNat 2 :=
  arrival_of_advance 2 done rfl (by decide)

theorem arrival_of_skip {machine : Machine}
    (done : machine.effect random instruction = .ok ⟨after, .skip, log⟩) :
    (machine.execute random instruction).arrival = placeAfter machine.counter.toNat 4 :=
  arrival_of_advance 4 done rfl (by decide)

/-- The stretch of memory that an instruction touches is checked before the
counter is. -/
theorem arrival_of_guarded {machine : Machine} {stretch : Except Fault α} {next : α → Machine}
    (guarded : machine.Guarded length stretch)
    (same : machine.effect random instruction = stretch >>= fun value => .ok (.next (next value))) :
    (machine.execute random instruction).arrival =
      if 0x1000 < machine.index.toNat + length then
        .error (.invalidAddress (max machine.index.toNat 0x1000))
      else placeAfter machine.counter.toNat 2 := by
  by_cases beyond : memorySize < machine.index.toNat + length
  · rw [guarded.outside beyond] at same
    rw [if_pos beyond]
    exact arrival_of_refusal same
  · obtain ⟨value, accepted⟩ := guarded.inside (Nat.not_lt.mp beyond)
    rw [accepted] at same
    rw [if_neg beyond]
    exact arrival_of_next same

/-- So it is with each instruction that touches memory. -/
theorem arrival_of_reach {machine : Machine} (reaches : instruction.reach = some length)
    (random : UInt8) :
    (machine.execute random instruction).arrival =
      if 0x1000 < machine.index.toNat + length then
        .error (.invalidAddress (max machine.index.toNat 0x1000))
      else placeAfter machine.counter.toNat 2 := by
  cases instruction with
  | draw x y rows =>
    cases reaches
    exact arrival_of_guarded (machine.sprite_guarded rows) Action.settles_draw.effect
  | drawBig x y =>
    cases reaches
    exact arrival_of_guarded machine.bigSprite_guarded Action.settles_drawBig.effect
  | storeDigits x =>
    cases reaches
    exact arrival_of_guarded (machine.digits_guarded x) Action.settles_storeDigits.effect
  | storeRegisters last =>
    cases reaches
    exact arrival_of_guarded (machine.stored_guarded last) Action.settles_storeRegisters.effect
  | loadRegisters last =>
    cases reaches
    exact arrival_of_guarded (machine.loaded_guarded last) Action.settles_loadRegisters.effect
  | _ => cases reaches

theorem effect_ret_of_last {machine : Machine} (opened : machine.stack = caller :: outer)
    (last : caller.toNat = 0xFFE) (random : UInt8) :
    machine.effect random .ret = .error (.invalidAddress 0x1000) := by
  simp only [Action.settles_ret.effect, opened]
  rw [AlignedAddress.advance_two_of_last last]
  rfl

theorem effect_ret_of_ne {machine : Machine} (opened : machine.stack = caller :: outer)
    (inside : caller.toNat ≠ 0xFFE) (random : UInt8) :
    ∃ target, caller.advance 2 = .ok target ∧ target.toNat = caller.toNat + 2 ∧
      machine.effect random .ret = .ok (.goTo { machine with stack := outer } target) := by
  obtain ⟨target, past, reached⟩ := AlignedAddress.advance_two_of_ne inside
  refine ⟨target, past, reached, ?_⟩
  simp only [Action.settles_ret.effect, opened]
  rw [past]
  rfl

theorem arrival_of_ret (machine : Machine) (random : UInt8) :
    (machine.execute random .ret).arrival = machine.destination .ret := by
  simp only [destination]
  cases opened : machine.stack with
  | nil =>
    apply arrival_of_refusal
    simp only [Action.settles_ret.effect, opened]
  | cons caller outer =>
    by_cases last : caller.toNat = 0xFFE
    · rw [arrival_of_refusal (effect_ret_of_last opened last random)]
      exact (if_pos last).symm
    · obtain ⟨target, _, reached, done⟩ := effect_ret_of_ne opened last random
      rw [arrival_of_goTo done, reached]
      exact (if_neg last).symm

theorem arrival_of_jump (machine : Machine) (random : UInt8) (target : Address) :
    (machine.execute random (.jump target)).arrival = machine.destination (.jump target) := by
  have done : machine.effect random (.jump target) =
      target.aligned >>= fun aligned => .ok (.goTo machine aligned) := Action.settles_jump.effect
  simp only [destination]
  by_cases odd : target.toNat % 2 = 1
  · rw [Address.aligned_of_odd odd] at done
    rw [arrival_of_refusal done]
    exact (if_pos odd).symm
  · rw [Address.aligned_of_even (Nat.mod_two_ne_one.mp odd)] at done
    rw [arrival_of_goTo done]
    exact (if_neg odd).symm

/-- The stack is full at the depth of sixteen exactly, since it never grows
beyond. -/
theorem arrival_of_call {machine : Machine} (sound : machine.Sound) (random : UInt8)
    (target : Address) :
    (machine.execute random (.call target)).arrival = machine.destination (.call target) := by
  have depth : machine.stack.length ≤ 16 := sound.depth
  simp only [destination]
  by_cases odd : target.toNat % 2 = 1
  · rw [if_pos odd]
    apply arrival_of_refusal
    simp only [Action.settles_call.effect, Address.aligned_of_odd odd]
    rfl
  · have done : machine.effect random (.call target) =
        if 16 ≤ machine.stack.length then .error .stackOverflow
        else .ok (.goTo { machine with stack := machine.counter :: machine.stack }
          ⟨target, Nat.mod_two_ne_one.mp odd⟩) := by
      simp only [Action.settles_call.effect, Address.aligned_of_even (Nat.mod_two_ne_one.mp odd)]
      rfl
    by_cases full : machine.stack.length = 16
    · rw [if_pos (Nat.le_of_eq full.symm)] at done
      rw [arrival_of_refusal done, if_neg odd, if_pos full]
    · rw [if_neg (by omega)] at done
      rw [arrival_of_goTo done, if_neg odd, if_neg full]

theorem arrival_of_jumpOffset (machine : Machine) (random : UInt8) (x : Register)
    (target : Address) :
    (machine.execute random (.jumpOffset x target)).arrival =
      machine.destination (.jumpOffset x target) := by
  generalize chosen : (if machine.dialect.jumpsByNamed then machine.register x
    else machine.register .first) = added
  have same : machine.register (if machine.dialect.jumpsByNamed then x else .first) = added :=
    (apply_ite machine.register _ x .first).trans chosen
  have done : machine.effect random (.jumpOffset x target) =
      (target.advance added >>= Address.aligned) >>=
        fun aligned => .ok (.goTo machine aligned) := by
    rw [← same, bind_assoc]
    exact Action.settles_jumpOffset.effect
  rw [target.advance_eq] at done
  simp only [destination, chosen]
  by_cases wrong : 0x1000 ≤ target.toNat + added.toNat ∨ (target.toNat + added.toNat) % 2 = 1
  · rw [Address.aligned_ofNat_of_wrong wrong] at done
    rw [arrival_of_refusal done, if_pos wrong]
  · obtain ⟨inside, even⟩ := not_or.mp wrong
    rw [Address.aligned_ofNat_of_lt (Nat.not_le.mp inside) (Nat.mod_two_ne_one.mp even)] at done
    rw [arrival_of_goTo done, if_neg wrong]

theorem arrival_of_condition (machine : Machine) (random : UInt8) (condition : Condition) :
    (machine.execute random (.skip condition)).arrival =
      machine.destination (.skip condition) := by
  simp only [destination]
  by_cases meets : machine.Meets condition
  · have done : machine.effect random (.skip condition) = .ok ⟨machine, .skip, []⟩ := by
      rw [effect_skip, if_pos ((machine.holds_iff condition).mpr meets)]
    rw [arrival_of_skip done, if_pos meets]
  · have fails : ¬ machine.holds condition = true := fun held =>
      meets ((machine.holds_iff condition).mp held)
    have done : machine.effect random (.skip condition) = .ok ⟨machine, .next, []⟩ := by
      rw [effect_skip, if_neg fails]
    rw [arrival_of_next done, if_neg meets]

theorem arrival_of_sound {machine : Machine} (sound : machine.Sound) (random : UInt8)
    (instruction : Instruction) :
    (machine.execute random instruction).arrival = machine.destination instruction := by
  cases instruction with
  | ret => exact machine.arrival_of_ret random
  | exit => rfl
  | jump target => exact machine.arrival_of_jump random target
  | call target => exact arrival_of_call sound random target
  | jumpOffset x target => exact machine.arrival_of_jumpOffset random x target
  | skip condition => exact machine.arrival_of_condition random condition
  | draw x y rows => exact arrival_of_reach rfl random
  | drawBig x y => exact arrival_of_reach rfl random
  | storeDigits x => exact arrival_of_reach rfl random
  | storeRegisters last => exact arrival_of_reach rfl random
  | loadRegisters last => exact arrival_of_reach rfl random
  | unknown opcode => rfl
  | _ => exact arrival_of_next rfl

/-- Every instruction leads to its destination, on every machine that a host can
bring about. -/
theorem execute_arrives (mode : Mode) (clipsSprites : Bool) (calls : List Call) (random : UInt8)
    (instruction : Instruction) :
    (((initial mode clipsSprites).run calls).execute random instruction).arrival =
      ((initial mode clipsSprites).run calls).destination instruction :=
  arrival_of_sound ((Sound.initial mode clipsSprites).run calls) random instruction

end Machine

end Chip8
