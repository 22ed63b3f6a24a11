import BlobRoyale.Server.SnapshotDeliveryState
import Mathlib.Data.List.Enum
import Mathlib.Logic.Relation

/-!
# The delivery and close protocol

What a session may do to its peer and its room, apart from when: one welcome, then numbered snapshots,
pings between writes, one close behind whatever is still in flight, and one departure.
-/

namespace BlobRoyale.Server

open BlobRoyale.Simulation Relation

variable {S : Type} [Scalar S]

/-- What the protocol says of a session, in the order it happens. -/
inductive ProtocolCall where
  | welcome
  | snapshot (messageSequence tick : Nat)
  | ping
  | requested
  | close
  | countedOut
  | closedSession (controller : ControllerId)
  deriving DecidableEq

namespace ProtocolCall

/-- Whether a call starts a data write or a ping. -/
def starts : ProtocolCall → Bool
  | welcome | snapshot .. | ping => true
  | requested | close | countedOut | closedSession _ => false

/-- The data writes among calls: the welcome, and each snapshot's sequence and tick. -/
def dataWrite : ProtocolCall → Option (Option (Nat × Nat))
  | welcome => some none
  | snapshot messageSequence tick => some (some (messageSequence, tick))
  | ping | requested | close | countedOut | closedSession _ => none

def closedController : ProtocolCall → Option ControllerId
  | closedSession controller => some controller
  | welcome | snapshot .. | ping | requested | close | countedOut => none

/-- No data write and no ping starts after a close was requested. -/
def Hushed (said : List ProtocolCall) : Prop :=
  ∀ before after, said = before ++ requested :: after → ∀ call ∈ after, call.starts = false

theorem Hushed.concat {said : List ProtocolCall} (hushed : Hushed said) {call : ProtocolCall}
    (silent : call.starts = false ∨ requested ∉ said) : Hushed (said ++ [call]) := by
  intro before after split other member
  obtain rfl | ⟨rest, last, same⟩ := List.eq_nil_or_concat after
  · cases member
  · rw [List.concat_eq_append] at same
    subst same
    rw [← List.cons_append, ← List.append_assoc] at split
    obtain ⟨same, equal⟩ := List.append_inj' split rfl
    rw [List.singleton_inj] at equal
    subst equal
    obtain earlier | here := List.mem_append.mp member
    · exact hushed before rest same other earlier
    · rw [List.mem_singleton] at here
      subst here
      obtain quiet | unrequested := silent
      · exact quiet
      · exact absurd (same ▸ by simp) unrequested

/-- The data writes a session starts: a welcome, then snapshots numbered from two with ascending ticks. -/
def Numbered (writes : List (Option (Nat × Nat))) (ticks : List Nat) : Prop :=
  writes = none :: ticks.zipIdx.map fun entry => some (entry.2 + 2, entry.1)

theorem Numbered.concat {writes : List (Option (Nat × Nat))} {ticks : List Nat} (numbered : Numbered writes ticks)
    (tick : Nat) : Numbered (writes ++ [some (ticks.length + 2, tick)]) (ticks ++ [tick]) := by
  unfold Numbered at *
  rw [numbered, List.zipIdx_append, List.map_append, List.cons_append]
  simp

end ProtocolCall

structure SessionProtocol (S : Type) [Scalar S] where
  delivery : SnapshotDeliveryState S
  controller : Option ControllerId
  closeIntended : Bool
  controlWriteActive : Bool
  welcomeWriteActive : Bool
  welcomeDelivered : Bool
  snapshotWriteOperationActive : Bool
  closeRequested : Bool
  closeStarted : Bool
  leftMatch : Bool
  finished : Bool
  pendingWelcome : Nat
  pendingSnapshot : Nat
  pendingPing : Nat
  pendingClose : Nat
  pendingFailure : Nat
  said : List ProtocolCall

namespace SessionProtocol

section Operations

variable (protocol : SessionProtocol S)

def say (call : ProtocolCall) : SessionProtocol S := { protocol with said := protocol.said ++ [call] }

def dataWriteActive : Bool := protocol.welcomeWriteActive || protocol.delivery.writeActive

def leave : SessionProtocol S :=
  if protocol.leftMatch then protocol
  else
    match protocol.controller with
    | none => protocol
    | some controller => ({ protocol with leftMatch := true }.say .countedOut).say (.closedSession controller)

def finish : SessionProtocol S :=
  if protocol.finished then protocol
  else
    let left := leave { protocol with finished := true }
    { left with delivery := left.delivery.discard }

def beginClose : SessionProtocol S :=
  if protocol.finished || protocol.closeStarted || protocol.dataWriteActive || protocol.controlWriteActive then
    protocol
  else { protocol with closeStarted := true, pendingClose := protocol.pendingClose + 1 }.say .close

def requestClose : SessionProtocol S :=
  if protocol.finished || protocol.closeRequested then protocol
  else
    let requested := { protocol with closeRequested := true, closeIntended := true }.say .requested
    let discarded := { requested with delivery := requested.delivery.discardPending }
    discarded.leave.beginClose

def fail : SessionProtocol S := { protocol with pendingFailure := protocol.pendingFailure + 1 }

def report : SessionProtocol S := protocol.requestClose.fail

def startWelcome : SessionProtocol S :=
  { protocol with
    welcomeWriteActive := true
    snapshotWriteOperationActive := true
    pendingWelcome := protocol.pendingWelcome + 1 }

def startSnapshot (begun : SnapshotDeliveryState S) : SessionProtocol S :=
  { protocol with
    delivery := begun
    snapshotWriteOperationActive := true
    pendingSnapshot := protocol.pendingSnapshot + 1 }

def refuseSnapshot (begun : SnapshotDeliveryState S) : SessionProtocol S :=
  { protocol with delivery := begun, snapshotWriteOperationActive := false }

def startPing : SessionProtocol S :=
  { protocol with controlWriteActive := true, pendingPing := protocol.pendingPing + 1 }

def landWelcome : SessionProtocol S :=
  { protocol with
    welcomeWriteActive := false
    snapshotWriteOperationActive := false
    pendingWelcome := protocol.pendingWelcome - 1 }

def landSnapshot : SessionProtocol S :=
  { protocol with
    snapshotWriteOperationActive := false
    pendingSnapshot := protocol.pendingSnapshot - 1 }

def landPing : SessionProtocol S :=
  { protocol with controlWriteActive := false, pendingPing := protocol.pendingPing - 1 }

def closeIfRequested : SessionProtocol S := if protocol.closeRequested then protocol.beginClose else protocol

end Operations

/-- What one callback does, in moves that each keep the protocol sound. -/
inductive Move (protocol : SessionProtocol S) : SessionProtocol S → Prop
  | observed (latest : WorldSnapshot S) (delivery : SnapshotDeliveryState S) (opened : protocol.finished = false)
      (observes : protocol.delivery.observe latest = .ok delivery) : Move protocol { protocol with delivery := delivery }
  | requested : Move protocol protocol.requestClose
  | failed : Move protocol protocol.fail
  | finished : Move protocol protocol.finish
  | welcomeStarted (opened : protocol.finished = false) (unrequested : protocol.closeRequested = false)
      (undelivered : protocol.welcomeDelivered = false) (idle : protocol.dataWriteActive = false)
      (unpinged : protocol.controlWriteActive = false) : Move protocol (protocol.startWelcome.say .welcome)
  | snapshotStarted (delivered : SnapshotDelivery S) (begun : SnapshotDeliveryState S)
      (opened : protocol.finished = false) (unrequested : protocol.closeRequested = false)
      (welcomed : protocol.welcomeDelivered = true) (unpinged : protocol.controlWriteActive = false)
      (begins : protocol.delivery.beginActiveWrite = (.ok (some delivered), begun)) :
      Move protocol ((protocol.startSnapshot begun).say
        (.snapshot (delivered.messageSequence + 1) delivered.snapshot.tickSequence.value))
  | snapshotRefused (opened : protocol.finished = false) (unrequested : protocol.closeRequested = false)
      (welcomed : protocol.welcomeDelivered = true) (unpinged : protocol.controlWriteActive = false)
      (ready : protocol.delivery.readyToWrite = true) :
      Move protocol (protocol.refuseSnapshot (protocol.delivery.beginActiveWrite).2).report
  | pingStarted (opened : protocol.finished = false) (unrequested : protocol.closeRequested = false)
      (idle : protocol.dataWriteActive = false) (unpinged : protocol.controlWriteActive = false) :
      Move protocol (protocol.startPing.say .ping)
  | welcomeLandedLate (pending : 0 < protocol.pendingWelcome) (finished : protocol.finished = true) :
      Move protocol protocol.landWelcome
  | welcomeLost (pending : 0 < protocol.pendingWelcome) : Move protocol protocol.landWelcome.finish
  | welcomeLanded (pending : 0 < protocol.pendingWelcome) (opened : protocol.finished = false) :
      Move protocol (closeIfRequested { protocol.landWelcome with welcomeDelivered := true })
  | snapshotLandedLate (pending : 0 < protocol.pendingSnapshot) (finished : protocol.finished = true) :
      Move protocol protocol.landSnapshot
  | snapshotLost (pending : 0 < protocol.pendingSnapshot) : Move protocol protocol.landSnapshot.finish
  | snapshotLanded (pending : 0 < protocol.pendingSnapshot) (opened : protocol.finished = false)
      (completed : SnapshotDeliveryState S) (completes : protocol.delivery.completeActiveWrite = .ok completed) :
      Move protocol (closeIfRequested { protocol.landSnapshot with delivery := completed })
  | pingLandedLate (pending : 0 < protocol.pendingPing) (finished : protocol.finished = true) :
      Move protocol protocol.landPing
  | pingLost (pending : 0 < protocol.pendingPing) : Move protocol protocol.landPing.finish
  | pingLanded (pending : 0 < protocol.pendingPing) : Move protocol protocol.landPing.closeIfRequested
  | timedOut : Move protocol (finish { protocol with closeIntended := true })
  | closeLanded (pending : 0 < protocol.pendingClose) :
      Move protocol (finish { protocol with pendingClose := protocol.pendingClose - 1 })
  | failureLanded (pending : 0 < protocol.pendingFailure) :
      Move protocol (finish { protocol with pendingFailure := protocol.pendingFailure - 1 })

/-- The protocol states a sequence of moves leads to. -/
abbrev Moves : SessionProtocol S → SessionProtocol S → Prop := ReflTransGen Move

end SessionProtocol

end BlobRoyale.Server
