import Chip8.Config.Read
import Chip8.Proofs.Machine.Atomicity
import Chip8.Proofs.Machine.Execution

set_option autoImplicit false

/-! # How far the stack pointer goes

The stack pointer counts the return addresses on the stack, and so it never exceeds the depth that
is configured for the stack. A program that calls itself without end reaches this depth, whatever
it is: its stack pointer takes every value on the way (`CallsItself.acts`), and these are all the
values there are (`exists_sp_eq_iff`).

The register has eight bits in name only. A configuration may ask for a deeper stack than eight bits
can count, and the stack pointer is a byte at all times under just those that do not
(`isByte_sp_iff`).
-/

namespace Chip8

/-- A program of one word that calls itself. -/
def endlessCall : List Int := [0x22, 0x00]

theorem isProgram_endlessCall : IsProgram endlessCall := by
  unfold IsProgram endlessCall
  decide

namespace Machine

variable {τ : Type} {c : Config} {m : Machine τ} {nnn : Fin 4096}

/-- The next instruction of a machine calls its own address. -/
structure CallsItself (nnn : Fin 4096) (m : Machine τ) : Prop where
  pc : m.state.pc = nnn.val
  next : m.next? = some (.call nnn)

/-- Where the program is put, the machine calls itself. -/
theorem callsItself_endlessCall {o : Outcome (Machine τ) Unit} (hpc : m.state.pc = 0x200)
    (hmode : m.processor.mode = .running) (ho : Loaded m endlessCall o) :
    CallsItself 0x200 o.after := by
  have hstate : o.after.state.pc = 0x200 := by
    rw [ho.rest]
    exact hpc
  obtain ⟨high, hhigh, hhigh'⟩ := ho.memory.within 0 (by decide)
  obtain ⟨low, hlow, hlow'⟩ := ho.memory.within 1 (by decide)
  have hword : Word.ofBytes high low = 0x2200 := by
    change (high.toNat : Int) = 0x22 at hhigh'
    change (low.toNat : Int) = 0x00 at hlow'
    show (high.toNat * 256 + low.toNat : Int) = 0x2200
    omega
  have hfetch : o.after.state.fetch = .ok 0x2200 := by
    refine State.fetch_eq_ok_iff.2 ⟨high, low, ?_, ?_, hword.symm⟩
    · rw [hstate]
      exact hhigh
    · rw [hstate]
      exact hlow
  refine ⟨hstate, next?_eq_some_iff.2 ⟨?_, 0x2200, hfetch, by decide⟩⟩
  rw [ho.rest]
  exact hmode

variable [Sub τ] [LT τ] [DecidableLT τ]

/-- A step of such a machine leaves one more address on the stack, if there is room. -/
theorem CallsItself.pulse (h : CallsItself nnn m) (hm : Reachable c m)
    (hroom : m.state.stack.size < c.stackDepth) (now : τ) :
    CallsItself nnn (m.happen (.pulse now)) ∧
      (m.happen (.pulse now)).state.stack.size = m.state.stack.size + 1 := by
  obtain ⟨hmode, w, hfetch, hcall⟩ := next?_eq_some_iff.1 h.next
  have hpc := State.exists_fetch_iff.1 ⟨w, hfetch⟩
  have hsound := hm.sound.tick now
  have hstack := m.processor.stack_tick now
  have hfault : (Instruction.call nnn).fault? (m.processor.tick now).state = none := by
    refine if_neg ?_
    rw [hsound.state.depth, hstack]
    show ¬ c.stackDepth ≤ m.state.stack.size
    omega
  obtain ⟨t, he⟩ := (Instruction.exists_execute_iff hsound.state.index.1 hsound.state.width_pos
    hsound.state.height_pos).2 hfault
  have heffect := Instruction.effect_of_execute he
  have htpc : t.pc = nnn.val := by
    refine heffect.pc ?_
    rw [m.processor.pc_tick now]
    exact hpc
  obtain ⟨_, hstate⟩ := executed?_of_next? h.next he (by omega)
  -- the call leads to itself, and does not touch the memory that holds it
  have hfetch' : (m.happen (.pulse now)).state.fetch = .ok w := by
    rw [hstate, State.fetch, htpc, ← h.pc, heffect.memory rfl, m.processor.memory_tick now]
    exact hfetch
  have hmode' : (m.happen (.pulse now)).processor.mode = .running := by
    refine (hm.happen (.pulse now)).sound.latch.2 ?_
    show (m.happen (.pulse now)).state.keypad.isAwaiting = false
    rw [hstate, heffect.keypad]
    exact hsound.latch.1 ((m.processor.mode_tick now).trans hmode)
  refine ⟨⟨?_, next?_eq_some_iff.2 ⟨hmode', w, hfetch', hcall⟩⟩, ?_⟩
  · rw [hstate, htpc]
  · rw [hstate, heffect.stack]
    show ((m.processor.tick now).state.stack.entries.push _).size = _
    rw [Array.size_push, hstack]
    rfl

/-- The machine calls itself as often as there is room on its stack. -/
theorem CallsItself.acts (h : CallsItself nnn m) (hm : Reachable c m) (now : τ) (k : Nat)
    (hk : m.state.stack.size + k ≤ c.stackDepth) :
    (m.acts (List.replicate k (.forceStep now))).state.stack.size = m.state.stack.size + k := by
  induction k generalizing m with
  | zero => rfl
  | succ k ih =>
      obtain ⟨hnext, hsize⟩ := h.pulse hm (by omega) now
      calc (m.acts (List.replicate (k + 1) (.forceStep now))).state.stack.size
          = ((m.happen (.pulse now)).acts
              (List.replicate k (.forceStep now))).state.stack.size := rfl
        _ = (m.happen (.pulse now)).state.stack.size + k := by
            refine ih hnext (hm.happen (.pulse now)) ?_
            omega
        _ = m.state.stack.size + (k + 1) := by omega

/-- The actions of a host that loads the endless call and takes `k` steps. -/
def recurse (now : τ) (k : Nat) : List (Action τ) :=
  .loadProgram endlessCall :: List.replicate k (.forceStep now)

/-- A machine that was just built reaches any depth its stack has. -/
theorem sp_recurse (c : Config) (random : Twister) (period now : τ) {k : Nat}
    (hk : k ≤ c.stackDepth) :
    ((c.machine random period now).acts (recurse now k)).state.registers.sp = k := by
  let m := c.machine random period now
  have hm : Reachable c m := .built random period now
  have hloaded : Loaded m endlessCall (m.loadProgram endlessCall) :=
    loaded_loadProgram isProgram_endlessCall
  have hcalls : CallsItself 0x200 (m.act (.loadProgram endlessCall)) :=
    callsItself_endlessCall rfl rfl hloaded
  have hempty : (m.act (.loadProgram endlessCall)).state.stack.size = 0 := by
    show (m.loadProgram endlessCall).after.state.stack.size = 0
    rw [hloaded.rest]
    rfl
  have hsize := hcalls.acts (hm.act _) now k (by omega)
  rw [hempty, Nat.zero_add, ← acts_cons] at hsize
  rw [(hm.acts (recurse now k)).sp_eq, CallStack.length_toList]
  exact congrArg Int.ofNat hsize

/-- The values of the stack pointer are those from zero to the depth of the stack. -/
theorem exists_sp_eq_iff [Inhabited τ] (c : Config) (n : Int) :
    (∃ m : Machine τ, Reachable c m ∧ m.state.registers.sp = n) ↔ 0 ≤ n ∧ n ≤ c.stackDepth := by
  constructor
  · rintro ⟨m, hm, rfl⟩
    have hsize := hm.sound.state.size
    have hsp := hm.sound.state.sp
    change m.state.registers.sp = _ at hsp
    omega
  · rintro ⟨h0, hn⟩
    let m : Machine τ := c.machine (.ofSeed 0) default default
    refine ⟨m.acts (recurse default n.toNat), (Reachable.built _ _ _).acts _, ?_⟩
    rw [sp_recurse c _ _ _ (by omega)]
    omega

/-- **The stack pointer is a byte under a stack of at most 255 addresses.** Of a machine that was
built from a configuration, it stays in the range of a byte whatever a host does, exactly if the
configuration asks for no deeper stack. -/
theorem isByte_sp_iff [Inhabited τ] (c : Config) :
    (∀ m : Machine τ, Reachable c m → isByte m.state.registers.sp = true) ↔
      c.stackDepth ≤ 255 := by
  constructor
  · intro h
    obtain ⟨m, hm, hsp⟩ := (exists_sp_eq_iff (τ := τ) c c.stackDepth).2 ⟨by omega, by omega⟩
    have hbyte := h m hm
    rw [hsp] at hbyte
    simp only [isByte, Bool.and_eq_true, decide_eq_true_eq] at hbyte
    omega
  · intro hdepth m hm
    have hrange := (exists_sp_eq_iff c _).1 ⟨m, hm, rfl⟩
    simp only [isByte, Bool.and_eq_true, decide_eq_true_eq]
    omega

/-- A configuration that asks for room for 256 return addresses is read and built, and the stack
pointer of the machine gets beyond a byte. -/
theorem sp_beyond_byte :
    ∃ c, Config.ofValue (.map [(.text "stack_depth", .int 256)]) = .ok c ∧
      ∃ m, c.build 0 0 = .ok m ∧ Reachable c m ∧
        (m.acts (recurse 0 256)).state.registers.sp = 256 ∧ isByte 256 = false := by
  refine ⟨{ stackDepth := 256 }, rfl, _, rfl, .built _ _ _, ?_, rfl⟩
  exact sp_recurse { stackDepth := 256 } _ _ 0 (Nat.le_refl 256)

end Machine

end Chip8
