import BuilderRelay.Beacon.Client

/-!
# A beacon node for trials

A node that knows only the syncing route and always reports the same status.
-/

namespace BuilderRelay.TrialNode

def status (isSyncing : Bool) : SyncStatus where
  headSlot := 1000
  syncDistance := if isSyncing then 64 else 0
  isSyncing := isSyncing
  isOptimistic := false
  elOffline := false

def contentType : String := "application/json"

/-- The answer to a request for the sync status, and what is logged about it. -/
def answer (isSyncing : Bool) : HttpResponse × LogEvent :=
  (⟨200, Utf8.encode (status isSyncing).responseJson⟩,
    ⟨.info, s!"Reporting sync status, is_syncing = {isSyncing}", []⟩)

end BuilderRelay.TrialNode
