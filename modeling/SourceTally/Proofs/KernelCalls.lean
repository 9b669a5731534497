import SourceTally.Kernel.Host
import SourceTally.Proofs.KernelMap

/-!
# Calls to the kernel that succeed

A call succeeds only if the script permits it. For each call, what it has done then: to the maps, to
the attachments and to the record of events.

## Main definitions

* `Kernel.Event.isWrite`: whether an event is a write to a map or an attachment
-/

namespace SourceTally

namespace Kernel

/-- Whether something was written to a map, as opposed to attached. -/
def Event.isWrite : Event → Bool
  | wroteWord _ _ => true
  | insertedKey _ => true
  | attachedCounter _ _ => false
  | attachedHarness => false

/-- The call that attaches a counter in a mode. -/
def Mode.call : Mode → Call
  | native => .attachNative
  | skb => .attachSkb

namespace Host

variable {host next : Host}

theorem of_permit {α : Type} {script : Script} {call : Call} {f : Unit → Except Fault α} {a : α}
    (h : script.permit call >>= f = .ok a) : f () = .ok a := by
  cases hpermit : script.permit call with
  | error fault =>
    rw [hpermit] at h
    cases h
  | ok =>
    rw [hpermit] at h
    exact h

theorem of_load_counter (h : host.load .counter = .ok next) :
    next.maps.counters = {} ∧ next.events = host.events := by
  rw [load] at h
  cases of_permit h
  exact ⟨rfl, rfl⟩

theorem of_load_harness (h : host.load .harness = .ok next) : next = host := by
  rw [load] at h
  cases of_permit h
  rfl

theorem of_loadProgram_counter (h : host.loadProgram .counter = .ok next) :
    next.script = host.script ∧ next.maps = host.maps ∧ next.events = host.events ∧
      next.attachments = host.attachments := by
  rw [loadProgram] at h
  split at h
  · cases h
  · cases of_permit h
    exact ⟨rfl, rfl, rfl, rfl⟩

theorem of_loadProgram_harness (h : host.loadProgram .harness = .ok next) : next = host := by
  rw [loadProgram] at h
  cases of_permit h
  rfl

theorem of_setWord_policy {word : UInt32} (h : host.setWord policySlot word = .ok next) :
    next.maps.counters = host.maps.counters ∧ next.maps.control[policySlot]? = some word ∧
      next.events = host.events ++ [.wroteWord policySlot word] := by
  have hslot : policySlot < controlSlots := by decide
  rw [setWord, Maps.setControl?, dif_pos hslot] at h
  cases of_permit h
  exact ⟨rfl, Vector.getElem?_set_self hslot, rfl⟩

theorem of_insertKey {key : UInt32} (h : host.insertKey key = .ok next) :
    next.maps.control = host.maps.control ∧ next.maps.counters = host.maps.counters.put key 0 ∧
      next.events = host.events ++ [.insertedKey key] := by
  rw [insertKey] at h
  replace h := of_permit h
  cases hset : host.maps.counters.set? key 0 with
  | none =>
    rw [hset] at h
    cases h
  | some counters =>
    rw [hset] at h
    cases h
    exact ⟨rfl, BoundedMap.eq_put_of_set? hset, rfl⟩

theorem receive_attached (host : Host) (frame : Frame) :
    (host.receive frame).2.events = host.events ∧
      (host.receive frame).2.attachments = host.attachments := by
  rw [receive]
  split
  · exact ⟨rfl, rfl⟩
  · exact ⟨rfl, rfl⟩

theorem receiveAll_attached (host : Host) (frames : List Frame) :
    (host.receiveAll frames).events = host.events ∧
      (host.receiveAll frames).attachments = host.attachments := by
  induction frames generalizing host with
  | nil => exact ⟨rfl, rfl⟩
  | cons frame rest ih =>
    obtain ⟨hevents, hattachments⟩ := host.receive_attached frame
    obtain ⟨hevents', hattachments'⟩ := ih (host.receive frame).2
    exact ⟨hevents'.trans hevents, hattachments'.trans hattachments⟩

theorem events_executeAll (host : Host) (n : Nat) :
    (host.executeAll n).events = host.events := by
  induction n generalizing host with
  | zero => rfl
  | succ n ih =>
    rw [executeAll, ih, execute]
    split
    · rfl
    · rfl

theorem attachCounter_eq (host : Host) (iface : String) (mode : Mode) :
    host.attachCounter iface mode = do
      host.script.permit mode.call
      return receiveAll { host with
        attachments := host.attachments ++ [.counter iface mode]
        events := host.events ++ [.attachedCounter mode host.maps] } host.script.packets := by
  cases mode with
  | native => rfl
  | skb => rfl

theorem of_attachCounter {iface : String} {mode : Mode}
    (h : host.attachCounter iface mode = .ok next) :
    host.script.permit mode.call = .ok () ∧
      next.events = host.events ++ [.attachedCounter mode host.maps] ∧
      next.attachments = host.attachments ++ [.counter iface mode] := by
  rw [attachCounter_eq] at h
  cases hpermit : host.script.permit mode.call with
  | error fault =>
    rw [hpermit] at h
    cases h
  | ok =>
    rw [hpermit] at h
    cases h
    exact ⟨rfl, receiveAll_attached _ _⟩

theorem of_attachCounter_error {iface : String} {mode : Mode} {fault : Fault}
    (h : host.attachCounter iface mode = .error fault) :
    host.script.permit mode.call = .error fault := by
  rw [attachCounter_eq] at h
  cases hpermit : host.script.permit mode.call with
  | error fault =>
    rw [hpermit] at h
    cases h
    rfl
  | ok =>
    rw [hpermit] at h
    cases h

theorem of_attachHarness (h : host.attachHarness = .ok next) :
    next.events = host.events ++ [.attachedHarness] := by
  rw [attachHarness] at h
  cases of_permit h
  exact events_executeAll _ _

end Host

end Kernel

end SourceTally
