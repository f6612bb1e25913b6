import BuilderRelay.Beacon.Offline
import BuilderRelay.Redis.Client
import BuilderRelay.Startup.Stages

/-!
# Startup without a network

What startup depends on when no network is connected and no server listens behind a socket.
-/

namespace BuilderRelay.Program

/-- How long connecting to the cache may take, in milliseconds. -/
def cacheTimeout : Nat := 30000

def noListener : Redis.Listener := ⟨[], none⟩

def offline : Dependencies where
  get := Offline.get
  connect uri := (Redis.connect noListener cacheTimeout uri).result.map fun _ => Cache.empty
  listen := Listening.onFreeHost

end BuilderRelay.Program
