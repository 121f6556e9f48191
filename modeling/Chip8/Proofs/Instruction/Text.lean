import Chip8.Proofs.Instruction.RoundTrip
import Chip8.Proofs.Machine.Logging
import Chip8.Proofs.Text

/-! The text of an instruction tells its opcode. The words of the text give the mnemonic and the
operands again, and these give the instruction again, but for what is never written: the register
of a computed jump, and whether a sprite of no rows stands for a big one. -/
namespace Chip8

namespace Operand

/-- The parts of the machine that instructions name. -/
def names : List String := ["I", "DT", "ST", "K", "F", "HF", "B", "[I]", "R"]

/-- A named operand goes by one of the known names. -/
def Proper : Operand → Prop
  | named name => name ∈ names
  | _ => True

/-- What sort of operand it is. -/
inductive Kind where
  | register
  | byte
  | address
  | opcode
  | count
  | named
deriving DecidableEq

def kind : Operand → Kind
  | register _ => .register
  | byte _ => .byte
  | address _ => .address
  | opcode _ => .opcode
  | count _ => .count
  | named _ => .named

/-- Tells the sort of an operand from its text, hexadecimal numbers by their length. -/
def Kind.ofText : List Char → Kind
  | 'V' :: _ => .register
  | '#' :: digits =>
    if digits.length = 2 then .byte else if digits.length = 3 then .address else .opcode
  | first :: _ => if first.isDigit then .count else .named
  | [] => .named

theorem toList_register (x : Register) :
    (register x).text.toList = 'V' :: (Text.hex 1 x.val).toList := String.toList_append

theorem toList_byte (value : UInt8) :
    (byte value).text.toList = '#' :: (Text.hex 2 value.toNat).toList := String.toList_append

theorem toList_address (target : Address) :
    (address target).text.toList = '#' :: (Text.hex 3 target.toNat).toList := String.toList_append

theorem toList_opcode (code : Opcode) :
    (opcode code).text.toList = '#' :: (Text.hex 4 code.word.toNat).toList := String.toList_append

theorem kind_repr (number : Nat) : Kind.ofText (Nat.repr number).toList = .count := by
  have digits : ∀ character ∈ (Nat.repr number).toList, character.isDigit = true :=
    fun _ => Nat.isDigit_of_mem_repr
  have some : (Nat.repr number).toList ≠ [] := by
    rw [Nat.toList_repr]
    exact Nat.toDigits_ne_nil
  generalize (Nat.repr number).toList = text at digits some
  unfold Kind.ofText
  split
  · exact absurd (digits 'V' List.mem_cons_self) (by decide)
  · exact absurd (digits '#' List.mem_cons_self) (by decide)
  · rw [if_pos (digits _ List.mem_cons_self)]
  · exact absurd rfl some

theorem kind_text {operand : Operand} (proper : operand.Proper) :
    Kind.ofText operand.text.toList = operand.kind := by
  cases operand with
  | register x => rw [toList_register]; rfl
  | byte value =>
    have length := Text.length_hex (by decide) (show value.toNat < 16 ^ 2 from value.toNat_lt)
    rw [toList_byte, Kind.ofText, length]
    rfl
  | address target =>
    have length := Text.length_hex (by decide) (show target.toNat < 16 ^ 3 from target.inMemory)
    rw [toList_address, Kind.ofText, length]
    rfl
  | opcode code =>
    have length := Text.length_hex (by decide) (show code.word.toNat < 16 ^ 4 from code.word.toNat_lt)
    rw [toList_opcode, Kind.ofText, length]
    rfl
  | count rows => exact kind_repr rows.toNat
  | named name =>
    have known : ∀ name ∈ names, Kind.ofText name.toList = .named := by decide
    exact known name proper

/-- Operands of one sort that are written alike are the same; a text tells the sort. -/
theorem text_inj {first last : Operand} (proper : first.Proper) (other : last.Proper)
    (same : first.text = last.text) : first = last := by
  have kinds : first.kind = last.kind := by
    rw [← kind_text proper, same, kind_text other]
  -- With another sort of operand on the other side the texts would differ at sight.
  cases first with
  | register x =>
    cases last with
    | register y =>
      have digits := (String.append_right_inj "V").mp same
      exact congrArg register (Fin.ext (Text.hex_inj digits))
    | _ => cases kinds
  | byte value =>
    cases last with
    | byte another =>
      have digits := (String.append_right_inj "#").mp same
      exact congrArg byte (UInt8.toNat_inj.mp (Text.hex_inj digits))
    | _ => cases kinds
  | address target =>
    cases last with
    | address another =>
      have digits := (String.append_right_inj "#").mp same
      exact congrArg address (Address.mk.injEq .. ▸ Text.hex_inj digits)
    | _ => cases kinds
  | opcode code =>
    cases last with
    | opcode another =>
      have digits := (String.append_right_inj "#").mp same
      exact congrArg opcode (Opcode.eq_of_toNat (Text.hex_inj digits))
    | _ => cases kinds
  | count rows =>
    cases last with
    | count others =>
      have read := congrArg (fun text => Nat.ofDigitChars 10 text.toList 0) same
      simp only [text, Nat.ofDigitChars_repr] at read
      exact congrArg count (UInt8.toNat_inj.mp read)
    | _ => cases kinds
  | named name =>
    cases last with
    | named another => exact congrArg named same
    | _ => cases kinds

theorem isWord_text {operand : Operand} (proper : operand.Proper) :
    Text.IsWord operand.text.toList := by
  have hash : Text.IsWord ['#'] := by decide
  cases operand with
  | register x =>
    rw [toList_register]
    exact Text.isWord_append (show Text.IsWord ['V'] by decide) (Text.isWord_hex 1 x.val)
  | byte value =>
    rw [toList_byte]
    exact Text.isWord_append hash (Text.isWord_hex 2 value.toNat)
  | address target =>
    rw [toList_address]
    exact Text.isWord_append hash (Text.isWord_hex 3 target.toNat)
  | opcode code =>
    rw [toList_opcode]
    exact Text.isWord_append hash (Text.isWord_hex 4 code.word.toNat)
  | count rows => exact Text.isWord_repr rows.toNat
  | named name =>
    have known : ∀ name ∈ names, Text.IsWord name.toList := by decide
    exact known name proper

theorem texts_inj {first last : List Operand} (proper : ∀ operand ∈ first, operand.Proper)
    (others : ∀ operand ∈ last, operand.Proper)
    (same : first.map (·.text.toList) = last.map (·.text.toList)) : first = last := by
  induction first generalizing last with
  | nil => exact (List.map_eq_nil_iff.mp same.symm).symm
  | cons head rest ih =>
    cases last with
    | nil => cases same
    | cons another more =>
      obtain ⟨here, further⟩ := List.cons.inj same
      have heads := text_inj (proper head List.mem_cons_self) (others another List.mem_cons_self)
        (String.toList_inj.mp here)
      have tails := ih (fun operand later => proper operand (List.mem_cons_of_mem head later))
        (fun operand later => others operand (List.mem_cons_of_mem another later)) further
      rw [heads, tails]

end Operand

namespace Instruction

theorem isWord_mnemonic (instruction : Instruction) : Text.IsWord instruction.mnemonic.toList := by
  cases instruction with
  | setResolution resolution => cases resolution <;> simp [mnemonic, Text.IsWord]
  | skip condition => cases condition <;> simp [mnemonic, Condition.mnemonic, Text.IsWord]
  | arithmetic operation x y => cases operation <;> simp [mnemonic, Arithmetic.mnemonic, Text.IsWord]
  | _ => simp [mnemonic, Text.IsWord]

theorem proper_operands (instruction : Instruction) :
    ∀ operand ∈ instruction.operands, operand.Proper := by
  cases instruction with
  | skip condition => cases condition <;> simp [operands, Condition.operands, Operand.Proper]
  | _ => simp [operands, Operand.Proper, Operand.names]

/-- The words of the text are the mnemonic and the operands. -/
theorem words_text (instruction : Instruction) :
    Text.words instruction.text.toList =
      instruction.mnemonic.toList :: instruction.operands.map (·.text.toList) := by
  have plain := instruction.isWord_mnemonic
  have listed : ∀ part ∈ instruction.operands.map (·.text.toList), Text.IsWord part := by
    intro part member
    obtain ⟨operand, found, same⟩ := List.mem_map.mp member
    exact same ▸ Operand.isWord_text (instruction.proper_operands operand found)
  unfold text
  split
  · rename_i none
    rw [none]
    exact Text.words_name plain
  · rename_i operands some
    have spread : (instruction.mnemonic ++ " " ++
        ", ".intercalate (instruction.operands.map Operand.text)).toList =
          instruction.mnemonic.toList ++
            ' ' :: [',', ' '].intercalate (instruction.operands.map (·.text.toList)) := by
      rw [String.toList_append, String.toList_append, String.toList_intercalate, List.map_map,
        List.append_assoc]
      rfl
    rw [spread]
    exact Text.words_list plain listed fun empty => some (List.map_eq_nil_iff.mp empty)

/-- Reads an instruction back from its mnemonic and its operands. -/
def ofWritten? : String → List Operand → Option Instruction
  | "SYS", [.address target] => some (.system target)
  | "SCD", [.count rows] => some (.scrollDown rows)
  | "SCR", [] => some .scrollRight
  | "SCL", [] => some .scrollLeft
  | "CLS", [] => some .clear
  | "LOW", [] => some (.setResolution .low)
  | "HIGH", [] => some (.setResolution .high)
  | "RET", [] => some .ret
  | "EXIT", [] => some .exit
  | "JP", [.address target] => some (.jump target)
  | "JP", [.register x, .address target] => some (.jumpOffset x target)
  | "CALL", [.address target] => some (.call target)
  | "SE", [.register x, .byte value] => some (.skip (.equalsByte x value))
  | "SE", [.register x, .register y] => some (.skip (.equals x y))
  | "SNE", [.register x, .byte value] => some (.skip (.differsByte x value))
  | "SNE", [.register x, .register y] => some (.skip (.differs x y))
  | "SKP", [.register x] => some (.skip (.held x))
  | "SKNP", [.register x] => some (.skip (.notHeld x))
  | "LD", [.register x, .byte value] => some (.loadByte x value)
  | "LD", [.register x, .register y] => some (.arithmetic .copy x y)
  | "OR", [.register x, .register y] => some (.arithmetic .or x y)
  | "AND", [.register x, .register y] => some (.arithmetic .and x y)
  | "XOR", [.register x, .register y] => some (.arithmetic .xor x y)
  | "SUB", [.register x, .register y] => some (.arithmetic .subtract x y)
  | "SHR", [.register x, .register y] => some (.arithmetic .shiftRight x y)
  | "SUBN", [.register x, .register y] => some (.arithmetic .subtractFrom x y)
  | "SHL", [.register x, .register y] => some (.arithmetic .shiftLeft x y)
  | "ADD", [.register x, .byte value] => some (.addByte x value)
  | "ADD", [.register x, .register y] => some (.arithmetic .add x y)
  | "ADD", [.named "I", .register x] => some (.addIndex x)
  | "RND", [.register x, .byte mask] => some (.random x mask)
  | "DRW", [.register x, .register y, .count rows] => some (.draw x y rows)
  | "LD", [.named "I", .address target] => some (.setIndex target)
  | "LD", [.register x, .named "DT"] => some (.readDelay x)
  | "LD", [.register x, .named "K"] => some (.awaitKey x)
  | "LD", [.register x, .named "[I]"] => some (.loadRegisters x)
  | "LD", [.register x, .named "R"] => some (.restoreFlags x)
  | "LD", [.named "DT", .register x] => some (.setDelay x)
  | "LD", [.named "ST", .register x] => some (.setSound x)
  | "LD", [.named "F", .register x] => some (.pointDigit x)
  | "LD", [.named "HF", .register x] => some (.pointBigDigit x)
  | "LD", [.named "B", .register x] => some (.storeDigits x)
  | "LD", [.named "[I]", .register x] => some (.storeRegisters x)
  | "LD", [.named "R", .register x] => some (.saveFlags x)
  | "DW", [.opcode code] => some (.unknown code)
  | _, _ => none

/-- What a reader takes the instruction for. -/
def asWritten : Instruction → Instruction
  | jumpOffset _ target => jumpOffset .first target
  | drawBig x y => draw x y 0
  | other => other

theorem ofWritten?_eq (instruction : Instruction) :
    ofWritten? instruction.mnemonic instruction.operands = some instruction.asWritten := by
  cases instruction with
  | setResolution resolution => cases resolution <;> rfl
  | skip condition => cases condition <;> rfl
  | arithmetic operation x y => cases operation <;> rfl
  | _ => rfl

/-- Instructions between which the text makes no difference. -/
inductive Alike : Instruction → Instruction → Prop where
  | same (instruction : Instruction) : Alike instruction instruction
  | jumps (x y : Register) (target : Address) : Alike (jumpOffset x target) (jumpOffset y target)
  | draws (x y : Register) : Alike (draw x y 0) (drawBig x y)
  | drawsBig (x y : Register) : Alike (drawBig x y) (draw x y 0)

theorem Alike.symm {first last : Instruction} (alike : first.Alike last) : last.Alike first := by
  cases alike with
  | same => exact .same _
  | jumps x y target => exact .jumps y x target
  | draws x y => exact .drawsBig x y
  | drawsBig x y => exact .draws x y

theorem Alike.trans {first middle last : Instruction} (alike : first.Alike middle)
    (further : middle.Alike last) : first.Alike last := by
  cases alike with
  | same => exact further
  | jumps x y target =>
    cases further with
    | same => exact .jumps x y target
    | jumps _ z => exact .jumps x z target
  | draws x y =>
    cases further with
    | same => exact .draws x y
    | drawsBig => exact .same _
  | drawsBig x y =>
    cases further with
    | same => exact .drawsBig x y
    | draws => exact .same _

theorem alike_asWritten (instruction : Instruction) : instruction.Alike instruction.asWritten := by
  cases instruction with
  | jumpOffset x target => exact .jumps x .first target
  | drawBig x y => exact .drawsBig x y
  | _ => exact .same _

theorem Alike.text {first last : Instruction} (alike : first.Alike last) : first.text = last.text := by
  cases alike with
  | _ => rfl

/-- A computed jump has its register in its target, and big sprites have no rows. -/
theorem Alike.encode {first last : Instruction} (alike : first.Alike last) :
    first.encode = last.encode := by
  cases alike with
  | _ => rfl

theorem alike_of_text {first last : Instruction} (same : first.text = last.text) :
    first.Alike last := by
  have read := congrArg (fun text => Text.words text.toList) same
  simp only [words_text] at read
  obtain ⟨names, listed⟩ := List.cons.inj read
  have mnemonics := String.toList_inj.mp names
  have operands := Operand.texts_inj first.proper_operands last.proper_operands listed
  -- One mnemonic with one list of operands is read as one instruction.
  have back := first.ofWritten?_eq
  rw [mnemonics, operands, last.ofWritten?_eq] at back
  have written := first.alike_asWritten
  rw [← Option.some.inj back] at written
  exact written.trans last.alike_asWritten.symm

theorem text_eq_iff {first last : Instruction} : first.text = last.text ↔ first.Alike last :=
  ⟨alike_of_text, Alike.text⟩

end Instruction

/-- The text tells the opcode, even where the mode is not known. -/
theorem Opcode.eq_of_text {first last : Opcode}
    (same : (first.decode mode).text = (last.decode other).text) : first = last := by
  have opcodes := (Instruction.alike_of_text same).encode
  rwa [encode_decode, encode_decode] at opcodes

theorem Address.length_text (address : Address) : address.text.toList.length = 4 := by
  have digits := Text.length_hex (by decide) (show address.toNat < 16 ^ 3 from address.inMemory)
  exact (congrArg List.length (Operand.toList_address address)).trans (congrArg (· + 1) digits)

/-- All addresses are of one length, so it is plain where what follows them begins. -/
theorem Address.eq_of_place {first last : Address} {text further : String}
    (same : first.text ++ ": " ++ text = last.text ++ ": " ++ further) :
    first = last ∧ text = further := by
  have characters := congrArg String.toList same
  simp only [String.append_assoc, String.toList_append] at characters
  obtain ⟨places, rest⟩ :=
    List.append_inj characters (first.length_text.trans last.length_text.symm)
  have address : Operand.address first = .address last :=
    Operand.text_inj trivial trivial (String.toList_inj.mp places)
  exact ⟨Operand.address.inj address, String.toList_inj.mp (List.append_cancel_left rest)⟩

namespace Machine

variable {first last : Machine}

theorem executed_of_traced (traced : Event.lines .trace (first.cycle random).log ≠ []) :
    first.executed? (.cycle random) = some first.currentInstruction := by
  cases executed : first.executed? (.cycle random) with
  | none =>
    rw [(cycle_of_idle executed).1] at traced
    exact absurd rfl traced
  | some instruction => rw [(cycle_of_executed executed).1]

/-- A cycle that traces an instruction tells by that line what was executed, and where. -/
theorem fetched_of_trace (traced : Event.lines .trace (first.cycle random).log ≠ [])
    (same : Event.lines .trace (first.cycle random).log = Event.lines .trace (last.cycle other).log) :
    first.counter.toAddress = last.counter.toAddress ∧ first.currentOpcode = last.currentOpcode := by
  have line := trace_of_executed (executed_of_traced traced)
  have further := trace_of_executed (executed_of_traced (same ▸ traced))
  rw [line, further] at same
  have told := (String.append_right_inj "TRACE: ").mp (List.singleton_inj.mp same)
  obtain ⟨places, texts⟩ := Address.eq_of_place told
  exact ⟨places, Opcode.eq_of_text texts⟩

end Machine

/-- The text of an instruction is ambiguous only where instructions are alike. Every line of a
listing tells its opcode, and every line of a trace the opcode that was executed. -/
theorem Instruction.texts_unambiguous :
    (∀ first last : Instruction, first.text = last.text ↔ first.Alike last) ∧
      (∀ mode other (first last : Opcode),
        (first.decode mode).text = (last.decode other).text → first = last) ∧
      ∀ (first last : Machine) random other,
        Event.lines .trace (first.cycle random).log ≠ [] →
        Event.lines .trace (first.cycle random).log = Event.lines .trace (last.cycle other).log →
          first.counter.toAddress = last.counter.toAddress ∧
            first.currentOpcode = last.currentOpcode := by
  refine ⟨fun _ _ => text_eq_iff, fun _ _ _ _ same => Opcode.eq_of_text same, ?_⟩
  intro first last random other traced same
  exact Machine.fetched_of_trace traced same

end Chip8
