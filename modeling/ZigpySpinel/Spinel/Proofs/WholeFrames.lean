import ZigpySpinel.Spinel.Port
import ZigpySpinel.Spinel.Proofs.Isolation
import ZigpySpinel.Spinel.Proofs.Resync

/-!
# Whole frames on the wire

The wire carries what each write accepted. No write accepts more than its frame, so by
their lengths alone the accepted bytes are the frames exactly if every write accepted the
whole of its own.
-/

namespace ZigpySpinel.Spinel
open Lib

theorem length_flatMap_take_le {α β : Type} (f : α → List β) (size : α → Nat) (xs : List α) :
    (xs.flatMap fun x => (f x).take (size x)).length ≤ (xs.flatMap f).length := by
  induction xs with
  | nil => simp
  | cons x xs ih =>
    simp only [List.flatMap_cons, List.length_append, List.length_take]
    omega

/-- Pieces of lists that together are as long as the lists are the lists. -/
theorem flatMap_take_eq_iff {α β : Type} {f : α → List β} {size : α → Nat} {xs : List α}
    (hsize : ∀ x ∈ xs, size x ≤ (f x).length) :
    (xs.flatMap fun x => (f x).take (size x)) = xs.flatMap f ↔
      ∀ x ∈ xs, size x = (f x).length := by
  constructor
  · intro heq
    induction xs with
    | nil => simp
    | cons x xs ih =>
      have hx := hsize x List.mem_cons_self
      have hxs := fun y hy => hsize y (List.mem_cons_of_mem x hy)
      have hshort := length_flatMap_take_le f size xs
      have hlen := congrArg List.length heq
      simp only [List.flatMap_cons, List.length_append, List.length_take] at hlen
      have hwhole : size x = (f x).length := by omega
      simp only [List.flatMap_cons, hwhole, List.take_length, List.append_cancel_left_eq] at heq
      intro y hy
      rcases List.mem_cons.mp hy with rfl | hy
      · exact hwhole
      · exact ih hxs heq y hy
  · intro hwhole
    refine List.flatMap_congr ?_
    intro x hx
    rw [hwhole x hx, List.take_length]

namespace PortClient

variable (crcKermit : List UInt8 → UInt16)

/-- The frames of the commands that went on to wait for a response, in order. -/
def commands (p : PortClient) : List SpinelFrame := p.writes.map PortWrite.frame

/-- The port accepted all bytes of this write. -/
def Whole (write : PortWrite) : Prop :=
  write.accepted = (write.frame.encoded crcKermit).length

/-- What a step is: a write of a call that was to be written, or a step of the client. -/
theorem step_cases {p p' : PortClient} {action : PortAction} (h : p.Step crcKermit action p') :
    (∃ id accepted call client, action = .write id accepted ∧ p.client.calls id = some call ∧
      p.client.Step (.written id) client ∧ 1 ≤ accepted ∧
      accepted ≤ (call.frame.encoded crcKermit).length ∧
      p' = p.written crcKermit client call.frame accepted) ∨
    ∃ a client, action = .other a ∧ p.client.Step a client ∧ p' = { p with client := client } := by
  cases action with
  | write id accepted =>
    left
    simp only [Step, step] at h
    split at h
    · rename_i call client hcall hclient
      split at h
      · rename_i hcontract
        cases h
        exact ⟨id, accepted, call, client, rfl, hcall, hclient, hcontract.1, hcontract.2, rfl⟩
      · cases h
    · cases h
  | other a =>
    right
    simp only [Step, step] at h
    split at h
    · cases h
    · cases h
    · obtain ⟨client, hclient, rfl⟩ := Option.map_eq_some_iff.mp h
      exact ⟨_, client, rfl, hclient, rfl⟩

/-- The wire carries what the writes accepted, each of them no more than its frame. -/
structure Accepted (p : PortClient) : Prop where
  wire : p.wire =
    p.writes.flatMap fun write => (write.frame.encoded crcKermit).take write.accepted
  contract : ∀ write ∈ p.writes,
    1 ≤ write.accepted ∧ write.accepted ≤ (write.frame.encoded crcKermit).length

theorem accepted_new : Accepted crcKermit new where
  wire := rfl
  contract := by
    intro write hwrite
    cases hwrite

theorem Accepted.step {p p' : PortClient} {action : PortAction} (hp : p.Accepted crcKermit)
    (h : p.Step crcKermit action p') : p'.Accepted crcKermit := by
  rcases step_cases crcKermit h with
    ⟨id, accepted, call, client, -, -, -, hpos, hle, rfl⟩ | ⟨_, client, -, -, rfl⟩
  · constructor
    · simp [written, hp.wire]
    · intro write hwrite
      rcases List.mem_append.mp hwrite with hold | hnew
      · exact hp.contract write hold
      · obtain rfl := List.mem_singleton.mp hnew
        exact ⟨hpos, hle⟩
  · exact ⟨hp.wire, hp.contract⟩

theorem accepted_of_run {actions : List PortAction} {p : PortClient}
    (h : Run (Step crcKermit) new actions p) : p.Accepted crcKermit :=
  h.inv (Accepted crcKermit) (fun _ _ _ hp hstep => hp.step crcKermit hstep)
    (accepted_new crcKermit)

/-- In every interleaving of the calls with a port that keeps its contract, the wire carries
    the encodings of the commands that went on to wait, one behind the other, exactly if
    the port accepted all bytes of every write. -/
theorem wire_eq_encodeFrames_iff {actions : List PortAction} {p : PortClient}
    (h : Run (Step crcKermit) new actions p) :
    p.wire = SpinelProtocol.encodeFrames crcKermit p.commands ↔
      ∀ write ∈ p.writes, Whole crcKermit write := by
  have hp := accepted_of_run crcKermit h
  have hframes : SpinelProtocol.encodeFrames crcKermit p.commands =
      p.writes.flatMap fun write => write.frame.encoded crcKermit := List.flatMap_map ..
  rw [hp.wire, hframes]
  exact flatMap_take_eq_iff fun write hwrite => (hp.contract write hwrite).2

/-- One request, of which the port accepts this many bytes. -/
def oneRequest (accepted : Nat) : List PortAction := [.other (.prepare 2 [2]), .write 0 accepted]

/-- The client behind the write of its only request. -/
def oneRequestClient (accepted : Nat) : PortClient :=
  ({ new with client := SpinelClient.new.prepared 2 [2] } : PortClient).written (fun _ => 0x7FA1)
    ((SpinelClient.new.prepared 2 [2]).withCall 0 (SpinelClient.firstCall .waiting))
    (SpinelClient.firstCall .waiting).frame accepted

theorem run_oneRequest (accepted : Nat) (h : 1 ≤ accepted ∧ accepted ≤ 7) :
    Run (Step fun _ => 0x7FA1) new (oneRequest accepted) (oneRequestClient accepted) := by
  have hwrite : Step (fun _ => 0x7FA1) { new with client := SpinelClient.new.prepared 2 [2] }
      (.write 0 accepted) (oneRequestClient accepted) := if_pos h
  exact .cons rfl (.single hwrite)

/-- The port accepts all seven bytes of a request. -/
theorem wire_eq_encodeFrames_iff_oneRequest :
    (oneRequestClient 7).wire =
        SpinelProtocol.encodeFrames (fun _ => 0x7FA1) (oneRequestClient 7).commands ↔
      ∀ write ∈ (oneRequestClient 7).writes, Whole (fun _ => 0x7FA1) write :=
  wire_eq_encodeFrames_iff _ (run_oneRequest 7 (by decide))

/-- The port accepts four of the seven bytes, and the call waits all the same. -/
theorem shortWrite_truncates :
    ¬ ∀ (crcKermit : List UInt8 → UInt16) (actions : List PortAction) (p : PortClient),
      Run (Step crcKermit) new actions p →
        p.wire = SpinelProtocol.encodeFrames crcKermit p.commands := by
  intro h
  have hwire := h _ _ _ (run_oneRequest 4 (by decide))
  revert hwire
  decide

end PortClient

end ZigpySpinel.Spinel
