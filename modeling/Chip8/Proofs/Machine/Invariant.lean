import Chip8.Proofs.Machine.Wait

set_option autoImplicit false

/-! # The invariant of a machine

`WellFormed` is what a host can rely on between two actions: the range of every register, the size
and contents of every device, and the two pairs of facts that are kept twice. The stack pointer
counts the entries of the stack, and the mode of the processor says whether the keypad waits.

Whatever a host does with a machine that was built from a configuration, in whatever order and at
whatever readings of the clock, it is well-formed afterwards (`acts_wellFormed`). The program
counter is bounded by the size of the memory, and equals it only after a wait for a key at the last
word has ended.
-/

namespace Chip8

namespace Machine

variable {τ : Type}

/-- The ranges of the registers and devices of a machine whose stack may hold `maxDepth` return
addresses. -/
structure WellFormed (maxDepth : Nat) (m : Machine τ) : Prop where
  v : m.state.registers.v.toList.length = 16 ∧ ∀ b ∈ m.state.registers.v.toList, b.toNat ≤ 255
  index : 0 ≤ m.state.registers.i ∧ m.state.registers.i ≤ 0xFFFF
  pc : 0 ≤ m.state.pc ∧ m.state.pc ≤ 0x1000
  sp : m.state.registers.sp = m.state.stack.toList.length
  depth : m.state.stack.toList.length ≤ maxDepth
  entries : ∀ a ∈ m.state.stack.toList, 2 ≤ a ∧ a ≤ 0x1000
  memory : m.state.memory.bytes.toList.length = 4096 ∧
    ∀ b ∈ m.state.memory.bytes.toList, b.toNat ≤ 255
  screen : m.state.screen.pixels.toList.length = 64 * 32 ∧
    ∀ lit ∈ m.state.screen.pixels.toList, lit.toNat = 0 ∨ lit.toNat = 1
  delay : m.state.delay.value.toNat ≤ 255
  sound : m.state.sound.value.toNat ≤ 255
  /-- The processor waits for a key exactly as long as the keypad does. -/
  awaiting : (∃ x, m.processor.mode = .awaitingKey x) ↔ m.state.keypad.isAwaiting = true
  /-- Only a keypad that waits has caught a key. -/
  pending : ∀ key, m.state.keypad.pending? = some key → m.state.keypad.isAwaiting = true

theorem byte_le (b : UInt8) : b.toNat ≤ 255 := Nat.le_of_lt_succ b.toNat_lt

theorem isAwaiting_of_pending? {k : Keypad} {key : Key} (h : k.pending? = some key) :
    k.isAwaiting = true := by
  unfold Keypad.pending? at h
  unfold Keypad.isAwaiting
  cases hl : k.latch with
  | caught other => rfl
  | idle =>
      rw [hl] at h
      cases h
  | waiting => rfl

theorem wellFormed_of_sound {maxDepth : Nat} {m : Machine τ} (h : m.processor.Sound maxDepth) :
    m.WellFormed maxDepth where
  v := ⟨m.state.registers.v.length_toList, fun b _ => byte_le b⟩
  index := h.state.index
  pc := h.pc
  sp := by rw [CallStack.length_toList]; exact h.state.sp
  depth := by rw [CallStack.length_toList]; exact h.state.size
  entries := h.state.entries
  memory := ⟨m.state.memory.bytes.length_toList, fun b _ => byte_le b⟩
  screen := by
    refine ⟨?_, fun lit _ => ?_⟩
    · have hwidth : m.state.screen.width = 64 := h.state.width
      have hheight : m.state.screen.height = 32 := h.state.height
      calc m.state.screen.pixels.toList.length
          = (m.state.screen.width * m.state.screen.height).toNat := by
            rw [Array.length_toList, m.state.screen.size_eq]
        _ = (64 * 32 : Int).toNat := by rw [hwidth, hheight]
        _ = 64 * 32 := rfl
    · cases lit
      · exact .inl rfl
      · exact .inr rfl
  delay := byte_le _
  sound := byte_le _
  awaiting := by
    constructor
    · rintro ⟨x, hx⟩
      exact h.isAwaiting hx
    · intro hk
      cases hm : m.processor.mode with
      | awaitingKey x => exact ⟨x, rfl⟩
      | running =>
          have hidle := h.latch.1 hm
          change m.state.keypad.isAwaiting = false at hidle
          rw [hidle] at hk
          cases hk
  pending := fun _ => isAwaiting_of_pending?

/-- **The invariant of a machine.** Built from any configuration, it is well-formed after any
actions. If its program counter stands behind the memory, it runs, and its program counter has
changed last when a wait for a key ended that had begun at the last word. -/
theorem acts_wellFormed [Sub τ] [LT τ] [DecidableLT τ] (c : Config) (random : Twister)
    (period now : τ) (as : List (Action τ)) :
    let m₀ := c.machine random period now
    (m₀.acts as).WellFormed c.stackDepth ∧
      ((m₀.acts as).state.pc = 0x1000 →
        (m₀.acts as).processor.mode = .running ∧ m₀.Overstepped (m₀.trace as)) := by
  intro m₀
  have hbuilt := c.sound_machine random period now
  have hsound : (m₀.acts as).processor.Sound c.stackDepth := by
    rw [acts_eq_after_trace]
    exact sound_after hbuilt _
  refine ⟨wellFormed_of_sound hsound, fun hpc => ⟨?_, ?_⟩⟩
  · -- a machine that waits stands at a word
    cases hm : (m₀.acts as).processor.mode with
    | running => rfl
    | awaitingKey x =>
        have hroom := hsound.waits x hm
        change (m₀.acts as).state.pc ≤ 0xFFE at hroom
        omega
  · have hstart : m₀.state.pc ≠ 0x1000 := by
      show (0x200 : Int) ≠ 0x1000
      decide
    rw [acts_eq_after_trace] at hpc
    exact overstepped_of_pc hbuilt rfl hstart hpc

/-- The program stores a wait for a key at the last word and jumps there, and a key goes down. Then
the program counter does stand behind the memory. -/
theorem acts_wellFormed_behind_memory :
    let m₀ : Machine Nat := Config.machine {} (.ofSeed 0) 1 0
    let as : List (Action Nat) :=
      [.loadProgram [0x60, 0xF0, 0x61, 0x0A, 0xAF, 0xFE, 0xF1, 0x55, 0x1F, 0xFE], .start,
        .run (fun _ => 0) 6, .setKey (.int 3) true]
    (m₀.acts as).state.pc = 0x1000 ∧ (m₀.acts as).WellFormed defaultStackDepth ∧
      m₀.Overstepped (m₀.trace as) := by
  intro m₀ as
  have hpc : (m₀.acts as).state.pc = 0x1000 := by decide +kernel
  obtain ⟨hwell, hhistory⟩ := acts_wellFormed {} (.ofSeed 0) 1 0 as
  exact ⟨hpc, hwell, (hhistory hpc).2⟩

end Machine

end Chip8
