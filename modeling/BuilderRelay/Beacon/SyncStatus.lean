import BuilderRelay.Json.ByteField
import BuilderRelay.Json.Write

/-!
# Sync status of a beacon node

What a node answers when asked how far it has come. Nodes may leave out whether they are optimistic
and whether their execution layer is offline.
-/

namespace BuilderRelay

open Json (Reader Record Field)

structure SyncStatus where
  headSlot : UInt64
  syncDistance : UInt64
  isSyncing : Bool
  isOptimistic : Bool
  elOffline : Bool
  deriving DecidableEq, Repr

namespace SyncStatus

structure Draft where
  headSlot : Option UInt64 := none
  syncDistance : Option UInt64 := none
  isSyncing : Option Bool := none
  isOptimistic : Option Bool := none
  elOffline : Option Bool := none

def Draft.finish (d : Draft) : Except String SyncStatus :=
  match d.headSlot, d.syncDistance, d.isSyncing with
  | some headSlot, some syncDistance, some isSyncing =>
      .ok {
        headSlot, syncDistance, isSyncing
        isOptimistic := d.isOptimistic.getD false
        elOffline := d.elOffline.getD false }
  | none, _, _ => .error "head_slot"
  | _, none, _ => .error "sync_distance"
  | _, _, none => .error "is_syncing"

def record : Record Draft SyncStatus where
  name := "struct SyncStatus"
  fields := [
    .of "head_slot" Draft.headSlot (fun v d => { d with headSlot := some v }) Reader.quotedUInt64,
    .of "sync_distance" Draft.syncDistance (fun v d => { d with syncDistance := some v })
      Reader.quotedUInt64,
    .of "is_syncing" Draft.isSyncing (fun v d => { d with isSyncing := some v }) Reader.boolean,
    .of "is_optimistic" Draft.isOptimistic (fun v d => { d with isOptimistic := some v })
      Reader.boolean false,
    .of "el_offline" Draft.elOffline (fun v d => { d with elOffline := some v })
      Reader.boolean false]
  initial := {}
  finish := Draft.finish

def reader : Reader SyncStatus := Reader.record record

def json (s : SyncStatus) : String := Json.object [
  ("head_slot", Json.quotedNumber s.headSlot.toNat),
  ("sync_distance", Json.quotedNumber s.syncDistance.toNat),
  ("is_syncing", Json.boolean s.isSyncing),
  ("is_optimistic", Json.boolean s.isOptimistic),
  ("el_offline", Json.boolean s.elOffline)]

def debugText (s : SyncStatus) : String :=
  s!"SyncStatus \x7b head_slot: {s.headSlot}, sync_distance: {s.syncDistance}, " ++
    s!"is_syncing: {s.isSyncing}, is_optimistic: {s.isOptimistic}, el_offline: {s.elOffline} \x7d"

def envelope : Record (Option SyncStatus) SyncStatus where
  name := "struct SyncStatusResponse"
  fields := [.of "data" id (fun v _ => some v) reader]
  initial := none
  finish
    | some status => .ok status
    | none => .error "data"

def responseReader : Reader SyncStatus := Reader.record envelope

def responseJson (s : SyncStatus) : String := Json.object [("data", s.json)]

def responseDebugText (s : SyncStatus) : String :=
  "SyncStatusResponse \x7b data: " ++ s.debugText ++ " \x7d"

end SyncStatus

end BuilderRelay
