import Chip8.Proofs.Machine.Execution

set_option autoImplicit false

/-! # Subroutines

A call is followed by the body of a subroutine, and the return that belongs to it is the first one
that leaves the body. This return goes on behind the call, with the stack as it was before it,
whatever the body does: it may call other subroutines and itself, wait for keys, and write over
its own instructions.

From a reset on, the stack so holds just the addresses behind the calls that have not returned, as
long as no step fails; and a return that belongs to no call goes to the address zero. The main
statement (`subroutine_returns`) says both.
-/

namespace Chip8

namespace Machine

open Execution

variable {τ : Type} [Sub τ] [LT τ] [DecidableLT τ]

/-- A machine that was just built or reset. -/
inductive Fresh (c : Config) : Machine τ → Prop where
  | built (random : Twister) (period now : τ) : Fresh c (c.machine random period now)
  | reset {m : Machine τ} (now : τ) : Reachable c m → Fresh c (m.reset now)

variable {c : Config} {m : Machine τ} {es : List (Event τ)}

theorem Fresh.toList_stack (h : Fresh c m) : m.state.stack.toList = [] := by
  cases h with
  | built random period now => rfl
  | reset now hm => rfl

/-- A call on a stack with room is executed. -/
theorem executed?_call {nnn : Fin 4096} (hcall : m.next? = some (.call nnn))
    (hroom : m.state.stack.size < m.state.stack.depth) (now : τ) :
    m.executed? (.pulse now) = some ⟨m.state.pc, .call nnn⟩ := by
  have hstack : (m.processor.tick now).state.advance.stack = m.state.stack :=
    m.processor.stack_tick now
  obtain ⟨stack, hpush⟩ : ∃ stack, (m.processor.tick now).state.advance.stack.push
      (m.processor.tick now).state.advance.pc = .ok stack := by
    rw [hstack]
    exact ⟨_, CallStack.push_eq_ok_iff.2 ⟨hroom, rfl⟩⟩
  have he : (Instruction.call nnn).execute (m.processor.tick now).state.advance = .ok _ :=
    Instruction.execute_call_eq_ok_iff.2 ⟨stack, hpush, rfl⟩
  refine (executed?_of_next? hcall he ?_).1
  show (nnn.val : Int) % 0x1000 ≤ 0xFFF
  omega

/-- A step at the reading `now` executes a return, which goes to the address `pc` and leaves the
addresses `stack`. -/
structure Returns (m : Machine τ) (now : τ) (pc : Int) (stack : List Int) : Prop where
  executed : m.executed? (.pulse now) = some ⟨m.state.pc, .ret⟩
  pc : (m.happen (.pulse now)).state.pc = pc
  stack : (m.happen (.pulse now)).state.stack.toList = stack

/-- A return to an address in the memory is executed. -/
theorem returns_of_next? (hret : m.next? = some .ret) (htop : m.state.stack.top ≤ 0xFFF) (now : τ) :
    Returns m now m.state.stack.top m.state.stack.toList.dropLast := by
  have hstack : (m.processor.tick now).state.advance.stack = m.state.stack :=
    m.processor.stack_tick now
  have he : Instruction.ret.execute (m.processor.tick now).state.advance = .ok _ := rfl
  have hpc : (m.processor.tick now).state.advance.stack.top ≤ 0xFFF := by
    rw [hstack]
    exact htop
  obtain ⟨hexec, hstate⟩ := executed?_of_next? hret he hpc
  refine ⟨hexec, ?_, ?_⟩
  · rw [hstate]
    exact congrArg CallStack.top hstack
  · rw [hstate]
    show (m.processor.tick now).state.advance.stack.pop.toList = _
    rw [hstack, CallStack.toList_pop]

/-- A body that does not leave its subroutine, and has a return for each call in it, leaves the
stack as the call has made it. -/
theorem toList_stack_after_body {x : Execution} {body : List Execution}
    (hnever : Never interrupts m es) (hes : m.executions es = x :: body) (hx : x.isCall = true)
    (hinside : Inside body) (hbody : calls body = returns body) :
    (m.after es).state.stack.toList = m.state.stack.toList ++ [x.address + 2] := by
  rw [toList_stack_after hnever, hes, List.foldl_cons, transfer_of_isCall hx, foldl_transfer]
  rw [inside_iff.1 hinside, outstanding_eq_nil hinside hbody, Nat.sub_zero, List.take_length,
    List.append_nil]

/-- From a reset on, the stack holds what is outstanding. -/
theorem toList_stack_of_fresh (hm : Fresh c m) (hnever : Never interrupts m es) :
    (m.after es).state.stack.toList = outstanding (m.executions es) := by
  rw [toList_stack_after hnever, hm.toList_stack, foldl_transfer, List.take_nil, List.nil_append]

/-- **Subroutines return.** A call on a stack with room is executed. If what is executed after it
does not leave the subroutine and has a return for each call, and a return comes next, then this
goes on behind the call, with the stack and the stack pointer as they were before it. From a reset
on the stack holds the addresses behind the calls that have not returned, and a return that belongs
to none of them goes to the address zero and leaves the stack empty. -/
theorem subroutine_returns {c : Config} :
    (∀ (m : Machine τ) nnn, Reachable c m → m.next? = some (.call nnn) → m.state.pc ≤ 0xFFD →
      m.state.stack.size < c.stackDepth →
      (∀ now, m.executed? (.pulse now) = some ⟨m.state.pc, .call nnn⟩) ∧
      ∀ es body, Never interrupts m es →
        m.executions es = ⟨m.state.pc, .call nnn⟩ :: body →
        Inside body → calls body = returns body → (m.after es).next? = some .ret →
        ∀ now, Returns (m.after es) now (m.state.pc + 2) m.state.stack.toList ∧
          ((m.after es).happen (.pulse now)).state.registers.sp = m.state.registers.sp) ∧
    ∀ (m : Machine τ) es, Fresh c m → Never interrupts m es →
      (m.after es).state.stack.toList = outstanding (m.executions es) ∧
      (outstanding (m.executions es) = [] → (m.after es).next? = some .ret →
        ∀ now, Returns (m.after es) now 0 []) := by
  constructor
  · intro m nnn hm hcall hpc hroom
    rw [← hm.sound.state.depth] at hroom
    refine ⟨executed?_call hcall hroom, ?_⟩
    intro es body hnever hes hinside hbody hret now
    have hstack := toList_stack_after_body hnever hes rfl hinside hbody
    -- the return finds the address behind the call, which lies in the memory
    have htop : (m.after es).state.stack.top = m.state.pc + 2 := by
      rw [CallStack.top_eq_getLastD, hstack, List.getLastD_concat]
    have hreturns := returns_of_next? hret (by omega) now
    rw [htop, hstack, List.dropLast_concat] at hreturns
    refine ⟨hreturns, ?_⟩
    rw [((hm.after es).happen (.pulse now)).sp_eq, hm.sp_eq, hreturns.stack]
  · intro m es hm hnever
    have hstack := toList_stack_of_fresh hm hnever
    refine ⟨hstack, ?_⟩
    intro hout hret now
    have htop : (m.after es).state.stack.top = 0 := by
      rw [CallStack.top_eq_getLastD, hstack, hout]
      rfl
    have hreturns := returns_of_next? hret (by omega) now
    rw [htop, hstack, hout] at hreturns
    exact hreturns

/-- A subroutine that calls another one returns, and so does a program that nothing has called. -/
theorem subroutine_returns_behind_nested_call :
    let m := (Config.machine {} (.ofSeed 0) 1 0 : Machine Nat).acts
      [.loadProgram [0x22, 0x06, 0, 0, 0, 0, 0x22, 0x0A, 0x00, 0xEE, 0x00, 0xEE], .start]
    let es : List (Event Nat) := [.pulse 0, .key 3 true, .pulse 0, .stop, .pulse 2]
    let m' := (Config.machine {} (.ofSeed 0) 1 0 : Machine Nat)
    let es' : List (Event Nat) := [.write [0x00, 0xEE]]
    Reachable {} m ∧ m.next? = some (.call 0x206) ∧ Never interrupts m es ∧
      m.executions es = [⟨0x200, .call 0x206⟩, ⟨0x206, .call 0x20A⟩, ⟨0x20A, .ret⟩] ∧
      (m.after es).next? = some .ret ∧ Returns (m.after es) 3 0x202 [] ∧
      Fresh {} m' ∧ Never interrupts m' es' ∧ (m'.after es').next? = some .ret ∧
      Returns (m'.after es') 0 0 [] := by
  intro m es m' es'
  have hm : Reachable {} m := (Reachable.built _ _ _).acts _
  have hcall : m.next? = some (.call 0x206) := by decide +kernel
  have hnever : Never interrupts m es := by decide +kernel
  have hexecutions : m.executions es =
      [⟨0x200, .call 0x206⟩, ⟨0x206, .call 0x20A⟩, ⟨0x20A, .ret⟩] := by decide +kernel
  have hret : (m.after es).next? = some .ret := by decide +kernel
  have hm' : Fresh {} m' := .built _ _ _
  have hnever' : Never interrupts m' es' := by decide +kernel
  have hret' : (m'.after es').next? = some .ret := by decide +kernel
  have hcalled := subroutine_returns.1 m 0x206 hm hcall (by decide +kernel) (by decide +kernel)
  have huncalled := subroutine_returns.2 m' es' hm' hnever'
  have hreturns := (hcalled.2 es _ hnever hexecutions (by decide) (by decide) hret 3).1
  exact ⟨hm, hcall, hnever, hexecutions, hret, hreturns, hm', hnever', hret',
    huncalled.2 (by decide +kernel) hret' 0⟩

end Machine

end Chip8
