import WinInspect.Daemon.Turn

/-!
# The log

`Logger` is one object for the whole process.  The lines of the connections, and of the threads
besides them, go to its buffer, and `daemon.logs` reads the buffer back.  `logged` is the daemon
with the logger: the engine reads what has been logged before.
-/

namespace WinInspect.Daemon

open Transition (Config Move Step)

variable {σ : Type}

/-- The members of `Logger` that `daemon.logs` depends on. -/
structure Logger where
  minLevel : LogLevel := .info
  buffer : List LogMessage := []

namespace Logger

/-- `MAX_LOGS`. -/
def maxLogs : Nat := 100

/-- `should_log`. -/
def shouldLog (logger : Logger) (level : LogLevel) : Bool :=
  decide (logger.minLevel.toInt ≤ level.toInt)

/-- `log`; the time stamp is the time of day, to the second. -/
def log (logger : Logger) (timestamp : Bytes) (level : LogLevel) (msg : Bytes) : Logger :=
  let buffer := logger.buffer ++ [⟨level, timestamp, msg⟩]
  { logger with buffer := if maxLogs < buffer.length then buffer.tail else buffer }

/-- `LOG_AT_LEVEL`. -/
def logAtLevel (timestamp : Bytes) (logger : Logger) (line : LogLevel × Bytes) : Logger :=
  if logger.shouldLog line.1 then logger.log timestamp line.1 line.2 else logger

/-- The lines of several threads, in the order in which they take the mutex of the logger. -/
def logAll (logger : Logger) (lines : List LogMessage) : Logger :=
  lines.foldl (fun logger line => logger.logAtLevel line.timestamp (line.level, line.message))
    logger

/-- `get_recent_logs`. -/
def getRecentLogs (logger : Logger) (count : Nat) : List LogMessage :=
  if logger.buffer.length ≤ count then logger.buffer
  else logger.buffer.drop (logger.buffer.length - count)

end Logger

/-! ## What is logged -/

/-- The first line of `CoreEngine::handle`. -/
def handlingLine (req : CoreRequest) : LogLevel × Bytes :=
  (.debug, ascii "Handling request: " ++ req.method ++ ascii " (id=" ++ req.id ++ ascii ")")

/-- The line that `CoreEngine::handle` adds when there is no handler or an exception. -/
def handleLines (backend : Backend σ) (env : Surroundings) (req : CoreRequest)
    (snapshot : Snapshot) (old : Option Snapshot) (world : σ) : List (LogLevel × Bytes) :=
  match dispatch req.method with
  | none => [(.warn, ascii "Method not implemented: " ++ req.method)]
  | some handler =>
      match ((handler.program env req snapshot old).run backend world).1 with
      | .ok _ => []
      | .error what => [(.err, ascii "Request failed: " ++ what)]

/-- The key exchange of a handshake answer fails. -/
def exchangeFails (bcrypt : Crypto.BCrypt) (crypto : Crypto.CryptoSession) (answer : Answer) :
    Bool :=
  match answer.pubkey with
  | none => false
  | some pk => !(crypto.computeSharedSecret bcrypt (Base64.decode pk)).1

/-- The lines of a turn.  The TCP loop logs only a failed key exchange. -/
def Conn.lines (p : Platform σ) (cfg : Settings) (g : Shared σ) (conn : Conn) (input : Input) :
    List (LogLevel × Bytes) :=
  match conn.phase, input with
  | .starting, .start _ _ =>
      if conn.transport = .pipe then
        (.info, ascii "New client connection established.") ::
          if !cfg.requireAuth && cfg.authKeysData.isEmpty then
            [(.debug, ascii "Local auto-auth enabled (no keys, not require-auth).")]
          else []
      else []
  | .handshake, .frame payload =>
      match payload.bind (readAnswer p.stod) with
      | some answer =>
          if answer.verifies p.bcrypt cfg.authKeysData conn.challenge &&
              exchangeFails p.bcrypt conn.crypto answer then
            [(.debug, ascii "ECDH shared secret computation failed")]
          else []
      | none => []
  | .reading, .frame payload =>
      match conn.transport, payload.map (parseRequestJson p.stod) with
      | .pipe, some (.ok req) =>
          if conn.session.authenticated = false ∧ req.method ≠ ascii "hello" then
            [(.warn, ascii "Unauthorized request attempted: " ++ req.method)]
          else []
      | _, _ => []
  | .session _ sid, .go =>
      if conn.transport = .pipe then
        [(.debug, (if sid ∈ g.st.sessions then ascii "Recovered session: "
          else ascii "Created persistent session: ") ++ sid)]
      else []
  | .terminating _, .go =>
      if conn.transport = .pipe then
        [(.info, ascii "Session terminated explicitly: " ++ conn.session.id)]
      else []
  | .calling req snap old, .core _ recentLogs pollElapsed _ =>
      handlingLine req ::
        handleLines p.backend ⟨cfg.adminLogs, recentLogs, pollElapsed⟩ req snap old g.world
  | .closing, .go => [(.info, ascii "Client connection closed.")]
  | _, _ => []

/-- The lines of a move. -/
def linesOf (p : Platform σ) (cfg : Settings) (config : Config (Shared σ) Conn) :
    Move Input Transport (Outside σ) → List (LogLevel × Bytes)
  | .turn index input =>
      match config.parts[index]? with
      | some conn => conn.lines p cfg config.shared input
      | none => []
  | .spawn .pipe => [(.debug, ascii "Named Pipe connection accepted.")]
  | _ => []

/-! ## The daemon with its logger -/

/-- A move of the daemon, with the times of its first line and of its later one and the lines of
other threads between them; or a line of another thread between two moves. -/
inductive LogLabel (σ : Type) where
  | move (move : Move Input Transport (Outside σ)) (first later : Bytes)
      (between : List LogMessage)
  | other (line : LogMessage)

def stamp (timestamp : Bytes) (lines : List (LogLevel × Bytes)) : List LogMessage :=
  lines.map fun line => ⟨line.1, timestamp, line.2⟩

/-- The lines of a step, in their order.  No move has more than two of its own. -/
def stepLines (p : Platform σ) (cfg : Settings) (config : Config (Shared σ) Conn) :
    LogLabel σ → List LogMessage
  | .move move first later between =>
      let lines := linesOf p cfg config move
      stamp first (lines.take 1) ++ between ++ stamp later (lines.drop 1)
  | .other line => [line]

/-- The engine of a connection reads the logs as they are when its handler runs: it has logged its
first line before, and other threads may have logged since. -/
def readsLogs (p : Platform σ) (cfg : Settings) (config : Config (Shared σ) Conn)
    (logger : Logger) : LogLabel σ → Bool
  | .move (.turn index (.core timeout recentLogs pollElapsed durationMs)) first _ between =>
      let lines := linesOf p cfg config
        (.turn index (.core timeout recentLogs pollElapsed durationMs))
      decide (recentLogs =
        (logger.logAll (stamp first (lines.take 1) ++ between)).getRecentLogs 100)
  | _ => true

/-- The daemon with its logger, among threads that log at any time. -/
def logged (p : Platform σ) (cfg : Settings) :
    Step (Config (Shared σ) Conn × Logger) (LogLabel σ) :=
  fun state label =>
    if readsLogs p cfg state.1 state.2 label then
      let logger := state.2.logAll (stepLines p cfg state.1 label)
      match label with
      | .move move _ _ _ => ((daemon p cfg).next state.1 move).map fun after => (after, logger)
      | .other _ => some (state.1, logger)
    else none

end WinInspect.Daemon
