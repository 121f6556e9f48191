import Chip8.Proofs.Address
import Chip8.Proofs.Machine.KeyMove
import Chip8.Proofs.Machine.Reset
import Chip8.Proofs.Machine.Run

/-! Waiting for a key. A machine that waits is given the lowest of the keys that
went down since the wait began, which a host can tell from its own calls. -/
namespace Chip8

namespace Call

/-- The keys that are held after a call, if those of `held` are before it. -/
def heldAfter (held : Key → Bool) : Call → Key → Bool
  | press code =>
    match Key.ofCode code with
    | .ok key => fun other => decide (other = key) || held other
    | .error _ => held
  | release code =>
    match Key.ofCode code with
    | .ok key => fun other => decide (other ≠ key) && held other
    | .error _ => held
  | _ => held

/-- The key that goes down with a call: one that is pressed and was not held. -/
def keyDown? (held : Key → Bool) : Call → Option Key
  | press code =>
    match Key.ofCode code with
    | .ok key => if held key then none else some key
    | .error _ => none
  | _ => none

/-- The keys that go down in the course of calls, in their order. -/
def keysDown (held : Key → Bool) : List Call → List Key
  | [] => []
  | call :: rest => (call.keyDown? held).toList ++ keysDown (call.heldAfter held) rest

theorem keysDown_concat (held : Key → Bool) (calls : List Call) (call : Call) :
    keysDown held (calls ++ [call]) =
      keysDown held calls ++ (call.keyDown? (calls.foldl heldAfter held)).toList := by
  induction calls generalizing held with
  | nil => exact List.append_nil _
  | cons first rest ih =>
    simp only [List.cons_append, keysDown, List.foldl_cons, ih, List.append_assoc]

end Call

namespace Keypad

theorem firstPending_eq (keypad : Keypad) :
    keypad.firstPending = (List.finRange 16).find? keypad.isPending := rfl

theorem firstPending_of_none {keypad : Keypad}
    (idle : ∀ key : Key, keypad.isPending key = false) : keypad.firstPending = none := by
  rw [firstPending_eq]
  apply List.find?_eq_none.mpr
  intro key _ pending
  rw [idle key] at pending
  cases pending

/-- The keys are gone through in ascending order, so the lowest is found. -/
theorem firstPending_of_some {keypad : Keypad} {key : Key} (pending : keypad.isPending key = true) :
    ∃ lowest : Key, keypad.firstPending = some lowest ∧ keypad.isPending lowest = true ∧
      ∀ other : Key, keypad.isPending other = true → lowest ≤ other := by
  rw [firstPending_eq]
  cases found : (List.finRange 16).find? keypad.isPending with
  | none => exact absurd pending (List.find?_eq_none.mp found key (List.mem_finRange key))
  | some lowest =>
    obtain ⟨down, before, after, order, skipped⟩ := List.find?_eq_some_iff_append.mp found
    refine ⟨lowest, rfl, down, ?_⟩
    intro other wanted
    have ascending := List.pairwise_lt_finRange 16
    have member := List.mem_finRange other
    rw [order] at ascending member
    rcases List.mem_append.mp member with earlier | later
    · have passed := skipped other earlier
      rw [wanted] at passed
      cases passed
    · rcases List.mem_cons.mp later with same | above
      · exact Nat.le_of_eq (congrArg Fin.val same.symm)
      · have tail := List.pairwise_cons.mp (List.pairwise_append.mp ascending).2.1
        exact Nat.le_of_lt (tail.1 other above)

end Keypad

namespace Machine

/-- A machine that waits, with the keys that are held now and those that went
down since the wait began. -/
structure Waits (x : Register) (counter : AlignedAddress) (held : Key → Bool) (down : List Key)
    (machine : Machine) : Prop where
  runState : machine.runState = .awaiting x
  counter : machine.counter = counter
  halted : machine.halted = false
  fault : machine.fault = none
  held : machine.keypad.isHeld = held
  pending : ∀ key : Key, machine.keypad.isPending key = true ↔ key ∈ down

variable {x : Register} {counter : AlignedAddress} {held : Key → Bool} {down : List Key}
variable {machine : Machine}

theorem Waits.stopped (waits : machine.Waits x counter held down) :
    machine.stopped = machine.paused := by
  simp [Machine.stopped, waits.halted, waits.fault]

theorem Waits.cycle_of_paused (waits : machine.Waits x counter held down)
    (paused : machine.paused = true) (random : UInt8) :
    machine.cycle random = ⟨machine, none, []⟩ :=
  cycle_of_stopped (waits.stopped.trans paused)

theorem Waits.cycle_of_moving (waits : machine.Waits x counter held down)
    (moving : machine.paused = false) (random : UInt8) :
    machine.cycle random = ⟨machine.deliverKey x, none, []⟩ :=
  cycle_of_awaiting (waits.stopped.trans moving) waits.runState

theorem Waits.cycle_of_nil (waits : machine.Waits x counter held []) (random : UInt8) :
    machine.cycle random = ⟨machine, none, []⟩ := by
  cases paused : machine.paused with
  | true => exact waits.cycle_of_paused paused random
  | false =>
    have idle : ∀ key : Key, machine.keypad.isPending key = false := by
      intro key
      rw [← Bool.not_eq_true, waits.pending key]
      exact List.not_mem_nil
    rw [waits.cycle_of_moving paused, deliverKey, Keypad.firstPending_of_none idle]

/-- A key that is pressed may go down, and so come to be waited for; one that is released does not. -/
theorem Waits.key (waits : machine.Waits x counter held down) (move : KeyMove) (code : UInt8) :
    (machine.perform (move.call code)).machine.Waits x counter ((move.call code).heldAfter held)
      (down ++ ((move.call code).keyDown? held).toList) := by
  cases named : Key.ofCode code with
  | error reason =>
    have unmoved : (move.call code).heldAfter held = held ∧ (move.call code).keyDown? held = none := by
      cases move with
      | press => simp only [KeyMove.call, Call.heldAfter, Call.keyDown?, named, and_self]
      | release => simp only [KeyMove.call, Call.heldAfter, Call.keyDown?, named, and_self]
    rw [machine.perform_key_of_error move named, unmoved.1, unmoved.2, Option.toList_none, List.append_nil]
    exact waits
  | ok key =>
    rw [machine.perform_key_of_ok move named]
    cases move with
    | press =>
      simp only [KeyMove.call, Call.heldAfter, Call.keyDown?, named]
      refine { waits with held := ?_, pending := ?_ }
      · funext other
        exact (machine.keypad.isHeld_press key other).trans (by rw [waits.held])
      · intro other
        change (machine.keypad.press key).isPending other = true ↔ _
        rw [Keypad.isPending_press, Bool.or_eq_true, waits.pending, waits.held, List.mem_append]
        cases held key with
        | true => simp
        | false => simp
    | release =>
      simp only [KeyMove.call, Call.heldAfter, Call.keyDown?, named, Option.toList_none, List.append_nil]
      refine { waits with held := ?_ }
      funext other
      exact (machine.keypad.isHeld_release key other).trans (by rw [waits.held])

theorem Waits.unheard (waits : machine.Waits x counter held down) :
    machine.Waits x counter held (down ++ []) := by
  rw [List.append_nil]
  exact waits

theorem Waits.perform_cycle (waits : machine.Waits x counter held down) (random : UInt8)
    (undelivered : machine.paused = true ∨ down = []) :
    (machine.perform (.cycle random)).machine = machine := by
  rcases undelivered with paused | empty
  · exact congrArg Outcome.machine (waits.cycle_of_paused paused random)
  · subst empty
    exact congrArg Outcome.machine (waits.cycle_of_nil random)

/-- A wait goes on through every call but a cycle that delivers. -/
theorem Waits.perform (waits : machine.Waits x counter held down)
    (drives : Call.drives call = true) (kept : call.resets = false)
    (undelivered : ∀ random, call = .cycle random → machine.paused = true ∨ down = []) :
    (machine.perform call).machine.Waits x counter (call.heldAfter held)
      (down ++ (call.keyDown? held).toList) := by
  cases call with
  | load bytes =>
    rw [machine.load_of_not_resets kept]
    exact waits.unheard
  | loadFrom source =>
    rw [machine.loadFrom_of_not_resets kept]
    exact waits.unheard
  | reload => cases kept
  | togglePause => exact Waits.unheard { waits with }
  | setMode mode => exact Waits.unheard { waits with }
  | setDialect dialect => exact Waits.unheard { waits with }
  | cycle random =>
    rw [waits.perform_cycle random (undelivered random rfl)]
    exact waits.unheard
  | tick => exact Waits.unheard { waits with }
  | press code => exact waits.key .press code
  | release code => exact waits.key .release code
  | takeUpdated => exact Waits.unheard { waits with }
  | _ => cases drives

theorem Waits.run (waits : machine.Waits x counter held [])
    (within : ∀ call ∈ calls, call.drives = true ∧ call.resets = false)
    (undelivered : ∀ first random, first ++ [.cycle random] <+: calls →
      (machine.run first).paused = true ∨ Call.keysDown held first = []) :
    (machine.run calls).Waits x counter (calls.foldl Call.heldAfter held)
      (Call.keysDown held calls) := by
  apply run_along fun first reached =>
    reached.Waits x counter (first.foldl Call.heldAfter held) (Call.keysDown held first)
  · exact waits
  · intro first call part reached
    obtain ⟨drives, kept⟩ := within call (part.subset (List.mem_append_right first List.mem_cons_self))
    rw [List.foldl_append, Call.keysDown_concat]
    apply reached.perform drives kept
    intro random same
    exact undelivered first random (same ▸ part)

/-- To wait begins with no key on record, just past the instruction. -/
theorem cycle_awaitKey {start : Machine} (moving : start.stopped = false)
    (running : start.runState = .running) (below : start.counter.toNat < 0xFFE)
    (fetched : start.currentInstruction = .awaitKey x) (random : UInt8) :
    ∃ counter, counter.toNat = start.counter.toNat + 2 ∧
      (start.cycle random).failure = none ∧ (start.cycle random).machine =
        { start with keypad := start.keypad.clearPending, runState := .awaiting x, counter } := by
  obtain ⟨counter, past, next⟩ := AlignedAddress.advance_two_of_ne (Nat.ne_of_lt below)
  have done : start.effect random start.currentInstruction = .ok (.next
      { start with keypad := start.keypad.clearPending, runState := .awaiting x }) := by
    rw [fetched]
    rfl
  have executed := execute_of_moved done past
  have succeeded : (start.execute random start.currentInstruction).failure = none := by rw [executed]
  obtain ⟨reported, reached⟩ := step_of_success succeeded
  rw [cycle_of_running moving running, reported, reached, executed]
  exact ⟨counter, next, rfl, rfl⟩

/-- What the next cycle does to a machine that waits just past its instruction,
given the keys that went down since the wait began. -/
structure Delivers (waiting : Machine) (x : Register) (place : Nat) (down : List Key) : Prop where
  counter : waiting.counter.toNat = place
  runState : waiting.runState = .awaiting x
  paused : waiting.paused = true → ∀ random, waiting.cycle random = ⟨waiting, none, []⟩
  early : waiting.paused = false → down = [] → ∀ random, waiting.cycle random = ⟨waiting, none, []⟩
  /-- No instruction is executed, so nothing is logged either. -/
  lowest : waiting.paused = false → down ≠ [] → ∃ key ∈ down, (∀ other ∈ down, key ≤ other) ∧
    ∀ random, waiting.cycle random = ⟨{ waiting with
      keypad := waiting.keypad.clearPending
      runState := .running }.setRegister x (.ofNat key.val), none, []⟩

theorem Waits.delivers (waits : machine.Waits x counter held down) :
    machine.Delivers x counter.toNat down where
  counter := congrArg (·.toNat) waits.counter
  runState := waits.runState
  paused paused := waits.cycle_of_paused paused
  early _ empty := by
    subst empty
    exact waits.cycle_of_nil
  lowest moving arrived := by
    obtain ⟨key, member⟩ := List.exists_mem_of_ne_nil down arrived
    obtain ⟨lowest, found, pending, below⟩ :=
      Keypad.firstPending_of_some ((waits.pending key).mpr member)
    refine ⟨lowest, (waits.pending lowest).mp pending, ?_, ?_⟩
    · intro other wanted
      exact below other ((waits.pending other).mpr wanted)
    · intro random
      rw [waits.cycle_of_moving moving, deliverKey, found]

/-- A wait delivers the lowest of the keys that went down since it began, in the
first cycle that finds one, and changes nothing before. -/
theorem wait_delivers_lowest {start : Machine} (moving : start.stopped = false)
    (running : start.runState = .running) (below : start.counter.toNat < 0xFFE)
    (fetched : start.currentInstruction = .awaitKey x) (random : UInt8) {calls : List Call}
    (within : ∀ call ∈ calls, call.drives = true ∧ call.resets = false)
    (undelivered : ∀ first byte, first ++ [.cycle byte] <+: calls →
      ((start.cycle random).machine.run first).paused = true ∨
        Call.keysDown start.keypad.isHeld first = []) :
    (start.cycle random).failure = none ∧
      ((start.cycle random).machine.run calls).Delivers x (start.counter.toNat + 2)
        (Call.keysDown start.keypad.isHeld calls) := by
  obtain ⟨counter, next, succeeded, began⟩ := cycle_awaitKey moving running below fetched random
  obtain ⟨still, clear⟩ : start.halted = false ∧ start.fault = none := by
    simp only [stopped, Bool.or_eq_false_iff, Option.isSome_eq_false_iff,
      Option.isNone_iff_eq_none] at moving
    exact ⟨moving.1.2, moving.2⟩
  have waits : (start.cycle random).machine.Waits x counter start.keypad.isHeld [] := by
    rw [began]
    refine ⟨rfl, rfl, still, clear, rfl, ?_⟩
    intro key
    rw [Keypad.isPending_clearPending]
    simp
  refine ⟨succeeded, ?_⟩
  rw [← next]
  exact (waits.run within undelivered).delivers

/-- A key that was held before does not count, and of two keys that went down
during a pause the lower one does. -/
theorem tapped_key_delivers :
    let start := (initial .standard false).run [.load [0xF5, 0x0A], .press 3]
    let calls := [.press 3, .cycle 0, .togglePause, .press 9, .cycle 0, .release 9, .press 5,
      .togglePause]
    start.currentInstruction = .awaitKey 5 ∧
      Call.keysDown start.keypad.isHeld calls = [9, 5] ∧
      ((start.cycle 0).machine.run calls).Delivers 5 0x202 [9, 5] := by
  intro start calls
  let loaded := (initial .standard false).run [.load [0xF5, 0x0A]]
  have pressed : start = { loaded with keypad := loaded.keypad.press 3 } :=
    congrArg Reply.machine (loaded.perform_key_of_ok .press rfl)
  have fetched : start.currentOpcode = .ofBytes 0xF5 0x0A := by
    rw [pressed]
    exact currentOpcode_load _ ⟨[0xF5, 0x0A], by decide⟩ (by decide)
  have decoded : start.currentInstruction = .awaitKey 5 :=
    (congrArg (Opcode.decode .standard) fetched).trans (by decide)
  have down : Call.keysDown start.keypad.isHeld calls = [9, 5] := by decide
  have below : start.counter.toNat < 0xFFE := by decide
  have undelivered : ∀ first byte, first ++ [.cycle byte] <+: calls →
      ((start.cycle 0).machine.run first).paused = true ∨
        Call.keysDown start.keypad.isHeld first = [] := by
    obtain ⟨counter, _, _, began⟩ := cycle_awaitKey rfl rfl below decoded 0
    rw [began]
    intro first byte part
    simp only [calls, List.concat_prefix_cons, reduceCtorEq, and_false, Call.cycle.injEq, List.prefix_nil,
      List.append_eq_nil_iff, List.cons_ne_self, exists_const, or_self, or_false, false_or] at part
    rcases part with ⟨_, rfl, ⟨rfl, rfl⟩ | ⟨_, rfl, _, rfl, _, rfl, rfl, rfl⟩⟩
    · exact .inr rfl
    · exact .inl rfl
  obtain ⟨_, delivers⟩ := wait_delivers_lowest rfl rfl below decoded 0 (by decide) undelivered
  exact ⟨decoded, down, down ▸ delivers⟩

end Machine

end Chip8
