import WinInspect.Core.Types
import WinInspect.Data.Map

/-!
# The shared state of the daemon

`ServerState` of `server_state.hpp` and the critical sections the two transports
run on it under `mu`.  The limits are in `Settings`, since nothing changes them
after start-up.

The snapshot counter is kept as a natural number; an id is made of its 64-bit
value.
-/

namespace WinInspect.Daemon

/-- `ServerState::PersistentSession`; times are in nanoseconds. -/
structure PersistentSession where
  lastSnapId : Bytes := []
  subscribed : Bool := false
  lastActivity : Nat := 0
  deriving DecidableEq, Inhabited

/-- The fields of `ServerState` that requests change. -/
structure ServerState where
  snapCounter : Nat := 1
  snaps : Map Bytes Snapshot := ∅
  pinnedCounts : Map Bytes Int := ∅
  lruOrder : List Bytes := []
  sessions : Map Bytes PersistentSession := ∅
  activeConnections : Int := 0

/-- `make_snap_id`. -/
def makeSnapId (n : Nat) : Bytes :=
  ascii "s-" ++ decimal (n % 2 ^ 64)

namespace ServerState

/-- The id the next snapshot gets. -/
def nextSid (st : ServerState) : Bytes :=
  makeSnapId st.snapCounter

/-- Store a snapshot under `nextSid` and make it the newest of the LRU order. -/
def issue (st : ServerState) (s : Snapshot) : ServerState :=
  { st with
    snapCounter := st.snapCounter + 1
    snaps := Map.emplace st.nextSid s st.snaps
    lruOrder := st.lruOrder ++ [st.nextSid] }

/-- `pinned_counts[sid]`, 0 when absent. -/
def pinCount (st : ServerState) (sid : Bytes) : Int :=
  (st.pinnedCounts.lookup sid).getD 0

/-- Add to `pinned_counts[sid]`. -/
def addPin (st : ServerState) (sid : Bytes) (amount : Int) : ServerState :=
  { st with pinnedCounts := st.pinnedCounts.insert sid (st.pinCount sid + amount) }

/-- `lru_order.remove(sid); lru_order.push_back(sid)`. -/
def touch (st : ServerState) (sid : Bytes) : ServerState :=
  { st with lruOrder := (st.lruOrder.filter fun other => other ≠ sid) ++ [sid] }

/-- One round of the eviction loop: rotate the oldest snapshot to the back when it is
pinned, and evict it otherwise.  Reading `pinned_counts[oldest]` inserts a zero. -/
def evictOnce (st : ServerState) : ServerState :=
  match st.lruOrder with
  | [] => st
  | oldest :: rest =>
      if 0 < st.pinCount oldest then
        { st.addPin oldest 0 with lruOrder := rest ++ [oldest] }
      else
        { st with
          lruOrder := rest
          snaps := st.snaps.erase oldest
          pinnedCounts := st.pinnedCounts.erase oldest }

/-- Change `sessions[id]`, which is default-constructed when it is absent. -/
def modifySession (st : ServerState) (id : Bytes)
    (change : PersistentSession → PersistentSession) : ServerState :=
  { st with sessions := Map.modify id change st.sessions }

/-- `sessions[id] = { "", false, now }`. -/
def openSession (st : ServerState) (id : Bytes) (now : Nat) : ServerState :=
  { st with sessions := st.sessions.insert id { lastActivity := now } }

/-- `sessions.erase(id)`. -/
def eraseSession (st : ServerState) (id : Bytes) : ServerState :=
  { st with sessions := st.sessions.erase id }

/-- `cleanup_sessions`: forget the sessions idle for more than `ttl` seconds. -/
def cleanupSessions (st : ServerState) (ttl : Int) (now : Nat) : ServerState :=
  { st with
    sessions := st.sessions.retain fun _ ps =>
      decide ((((now - ps.lastActivity) / 10 ^ 9 : Nat) : Int) ≤ ttl) }

end ServerState

end WinInspect.Daemon
