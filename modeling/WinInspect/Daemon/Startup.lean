import WinInspect.Daemon.Connection

/-!
# Start-up

`main`: the loop over the command line, and the settings the two servers are given.

A round of the loop tests the current argument against every switch in turn.  A switch
with a value moves on to the value, and the switches after it are then tested against
the value.  The switches that only concern the tray, the bound address, the discovery
responder and the log are left out where they take no value.
-/

namespace WinInspect.Daemon

/-- The variables of `main` that reach the servers. -/
structure Options where
  readOnly : Bool := false
  adminLogs : Bool := false
  authKeys : Bytes := []
  requireAuth : Bool := false
  maxSnaps : Int := 1000
  maxConns : Int := 32
  sessionTtl : Int := 3600
  deriving DecidableEq

/-- One `if` of the loop. -/
inductive Switch where
  | flag (name : String) (set : Options → Options)
  /-- A switch with a value; `none` is an exception of `std::stoi`, which ends `main`. -/
  | value (name : String) (set : Bytes → Options → Option Options)

/-- A switch whose value is read by `std::stoi`. -/
def intSwitch (stoi : Bytes → Option Int) (name : String) (set : Int → Options → Options) :
    Switch :=
  .value name fun text opts => (stoi text).map fun n => set n opts

/-- The `if`s of the loop, in order. -/
def switches (stoi : Bytes → Option Int) : List Switch :=
  [.flag "--read-only" fun opts => { opts with readOnly := true },
    .flag "--require-auth" fun opts => { opts with requireAuth := true },
    .flag "--admin-logs" fun opts => { opts with adminLogs := true },
    .value "--auth-keys" fun path opts => some { opts with authKeys := path },
    intSwitch stoi "--port" fun _ opts => opts,
    intSwitch stoi "--max-snapshots" fun n opts => { opts with maxSnaps := n },
    intSwitch stoi "--max-conns" fun n opts => { opts with maxConns := n },
    intSwitch stoi "--session-ttl" fun n opts => { opts with sessionTtl := n },
    intSwitch stoi "--request-timeout" fun _ opts => opts,
    intSwitch stoi "--poll-interval" fun _ opts => opts,
    intSwitch stoi "--max-wait" fun _ opts => opts,
    .value "--pipe-name" fun _ opts => some opts,
    intSwitch stoi "--discovery-port" fun _ opts => opts,
    intSwitch stoi "--max-mem-read" fun _ opts => opts,
    intSwitch stoi "--uia-depth" fun _ opts => opts,
    intSwitch stoi "--service-timeout" fun _ opts => opts,
    intSwitch stoi "--max-event-log" fun _ opts => opts,
    .value "--log-level" fun _ opts => some opts]

/-- The state of a round: `argv[i]`, the arguments after it, and the variables. -/
structure Round where
  current : Bytes
  rest : List Bytes
  opts : Options

/-- Test one switch. -/
def Switch.apply (round : Round) : Switch → Option Round
  | .flag name set =>
      some (if round.current = ascii name then { round with opts := set round.opts } else round)
  | .value name set =>
      match round.rest with
      | next :: rest =>
          if round.current = ascii name then
            (set next round.opts).map fun opts => ⟨next, rest, opts⟩
          else some round
      | [] => some round

/-- The loop.  A round takes at least one argument, so the number of arguments bounds the
number of rounds. -/
def parseLoop (stoi : Bytes → Option Int) : Nat → List Bytes → Options → Option Options
  | bound + 1, current :: rest, opts => do
      let round ← (switches stoi).foldlM Switch.apply ⟨current, rest, opts⟩
      parseLoop stoi bound round.rest round.opts
  | _, _, opts => some opts

/-- The variables after the loop; `none` when `main` ends with an exception. -/
def parseArgs (stoi : Bytes → Option Int) (args : List Bytes) : Option Options :=
  parseLoop stoi args.length args {}

/-- `auth_keys_data`: the content of the key file, where a file that cannot be read gives
the empty string. -/
def Options.authKeysData (opts : Options) (files : Bytes → Option Bytes) : Bytes :=
  if opts.authKeys = [] then [] else (files opts.authKeys).getD []

/-- What `main` gives to the two servers. -/
def Options.settings (opts : Options) (files : Bytes → Option Bytes) : Settings where
  readOnly := opts.readOnly
  requireAuth := opts.requireAuth
  adminLogs := opts.adminLogs
  authKeysData := opts.authKeysData files
  maxSnapshots := (opts.maxSnaps % 2 ^ 64).toNat
  maxConnections := opts.maxConns
  sessionTtlSec := opts.sessionTtl

end WinInspect.Daemon
