import OpenFlux.ForStd.Machine
import OpenFlux.Model.EncryptionKey
import OpenFlux.Model.NativeArgs

/-!
# NativeProcessSupervisor

The supervisor runs the OpenFlux binary.  `start` and `stop` may be called from any thread,
and every run has a watch thread of its own; all of them share the flags `running`, `ready`
and `shuttingDown`, the fields `process`, `socksPort`, `error`, `lastOutput` and one key
file.  None of this is under a lock, so a step of a thread is one access to a flag or
field, one call on a process or one operation on the file.

The layout is that of the view model: `startNext`, `stopNext` and `watchNext` are the
control flow of the three bodies, `perform` is what an effect does to the shared state.
Threads and processes are numbered in the order of their creation.

A process that was told to terminate stays alive until the environment lets it exit, also
when `StaleProcesses.kill` or the delayed `destroyForcibly` sent the signal.
-/

namespace OpenFlux

namespace Supervisor

/-- Where a thread is inside `fail`. -/
inductive FailPc where
  | setError
  | clearReady
  | clearRunning
  | deleteKey
  | testShutting
  | post
  deriving DecidableEq, Repr

/-- Where a `start` call is. -/
inductive StartPc where
  /-- `running.getAndSet(true)` -/
  | getAndSet
  | clearShutting
  | clearReady
  | clearError
  | clearOutput
  | killStale
  | allocPort
  /-- `writeText` creates the file and then fills it -/
  | createKey
  | fillKey
  | spawn
  | publishProcess (p : Nat)
  | startOutput (p : Nat)
  | startWatch (p : Nat)
  | failing (pc : FailPc) (message : String)
  | returned
  /-- returned at once because a run was on -/
  | ignored
  deriving DecidableEq, Repr

/-- Where a `stop` call is. -/
inductive StopPc where
  | setShutting
  | clearReady
  | clearRunning
  | readProcess
  /-- in `destroy` -/
  | destroyTest (p : Nat)
  | destroy (p : Nat)
  | clearProcess
  | deleteKey
  | returned
  deriving DecidableEq, Repr

/-- Where a watch thread is. -/
inductive WatchPc where
  /-- the two halves of the loop test -/
  | testShutting
  | testAlive
  | probe
  | setReady
  | deleteKey
  | testDeadline
  | sleep
  | waitFor
  /-- the two halves of the test behind `waitFor` -/
  | checkShutting
  | checkProcess
  | joinOutput
  | readOutput
  /-- in `fail`, and whether `destroy(p)` comes next -/
  | failing (pc : FailPc) (message : String) (thenDestroy : Bool)
  | destroyTest
  | destroy
  | returned
  deriving DecidableEq, Repr

/-- A call of `start` with its arguments. -/
structure StartCall where
  payload : List String
  encryptionKey : Option String
  pc : StartPc := .getAndSet
  deriving DecidableEq, Repr

/-- The thread that waits for a process. -/
structure Watch where
  proc : Nat
  pc : WatchPc := .testShutting
  deriving DecidableEq, Repr

/-- The threads that run code of the supervisor. -/
inductive Thread where
  | start (c : StartCall)
  | stop (pc : StopPc)
  | watch (w : Watch)
  deriving DecidableEq, Repr

namespace Thread

/-- `start` and `stop`, which others may wait for. -/
def isCall : Thread → Bool
  | start _ | stop _ => true
  | watch _ => false

/-- The call has returned, or the thread has ended. -/
def isReturned : Thread → Bool
  | start c => c.pc = .returned || c.pc = .ignored
  | stop pc => pc = .returned
  | watch w => w.pc = .returned

end Thread

/-- An OpenFlux process. -/
structure Proc where
  /-- the `start` call that spawned it -/
  startedBy : Nat
  args : List String
  alive : Bool := true
  /-- it was told to terminate -/
  told : Bool := false
  exitCode : Int := 0
  /-- its output is being read -/
  pumped : Bool := false
  deriving DecidableEq, Repr

/-- What a step does to the supervisor, its file and its processes. -/
inductive Effect where
  | skip
  | setRunning (b : Bool)
  | setReady (b : Bool)
  | setShuttingDown (b : Bool)
  | setError (e : Option String)
  | setLastOutput (line : Option String)
  | setProcess (p : Option Nat)
  | setSocksPort (port : Nat)
  | killStale
  | writeKey (content : String)
  | deleteKey
  | spawn (p : Proc)
  | startOutput (p : Nat)
  | startWatch (p : Nat)
  | destroy (p : Nat)
  /-- `handler.post` of the callback `onUnexpectedExit` -/
  | post (message : String)
  deriving DecidableEq, Repr

/-- An effect and the thread that had it. -/
abbrev Obs := Nat × Effect

/-- What the environment answers in a step. -/
structure Env where
  /-- the call throws, with this message -/
  threw : Option String := none
  /-- the result of `freeTcpPort` -/
  port : Nat := 0
  /-- the probe connects -/
  connects : Bool := false
  /-- `READY_TIMEOUT_MS` have passed -/
  expired : Bool := false
  deriving DecidableEq, Repr

/-- A call, a step of a thread, or a process. -/
inductive Action where
  | callStart (payload : List String) (encryptionKey : Option String)
  | callStop
  | thread (id : Nat) (env : Env)
  /-- a process exits -/
  | exit (p : Nat) (code : Int)
  /-- `pumpOutput` reads a line -/
  | output (p : Nat) (line : String)
  deriving DecidableEq, Repr

/-! ## Texts -/

/-- The message of a start that took too long. -/
def timeoutMessage : String := "OpenFlux did not start within 45 s"

/-- The message of a start that threw. -/
def spawnMessage (message : String) : String := "Failed to start OpenFlux: " ++ message

/-- The message of a process that has exited, with the last line that it wrote. -/
def exitMessage (code : Int) (lastOutput : Option String) : String :=
  "OpenFlux exited (code " ++ toString code ++ ")" ++
    match lastOutput with
    | some line => ": " ++ LogPrefix.strip line
    | none => ""

end Supervisor

/-- The fields of `NativeProcessSupervisor`, the key file, and the processes and threads there
    are. -/
structure Supervisor where
  /-- the path of the key file -/
  keyPath : String
  running : Bool := false
  ready : Bool := false
  shuttingDown : Bool := false
  process : Option Nat := none
  lastOutput : Option String := none
  socksPort : Nat := 0
  error : Option String := none
  keyFile : Option String := none
  procs : List Supervisor.Proc := []
  threads : List Supervisor.Thread := []
  deriving DecidableEq, Repr

namespace Supervisor

/-! ## Shared state -/

/-- `p.isAlive` -/
def isAlive (sup : Supervisor) (p : Nat) : Bool := (sup.procs[p]?).any (·.alive)

/-- A process changes. -/
def modifyProc (sup : Supervisor) (p : Nat) (f : Proc → Proc) : Supervisor :=
  { sup with procs := sup.procs.modify p f }

/-- A thread goes on. -/
def setThread (sup : Supervisor) (id : Nat) (t : Thread) : Supervisor :=
  { sup with threads := sup.threads.set id t }

/-- A new thread, or a call from another one. -/
def launch (sup : Supervisor) (t : Thread) : Supervisor :=
  { sup with threads := sup.threads ++ [t] }

/-- An effect on the supervisor. -/
def perform (sup : Supervisor) : Effect → Supervisor
  | .setRunning b => { sup with running := b }
  | .setReady b => { sup with ready := b }
  | .setShuttingDown b => { sup with shuttingDown := b }
  | .setError e => { sup with error := e }
  | .setLastOutput line => { sup with lastOutput := line }
  | .setProcess p => { sup with process := p }
  | .setSocksPort port => { sup with socksPort := port }
  -- every process that is left is killed
  | .killStale => { sup with procs := sup.procs.map ({ · with told := true }) }
  | .writeKey content => { sup with keyFile := some content }
  | .deleteKey => { sup with keyFile := none }
  | .spawn p => { sup with procs := sup.procs ++ [p] }
  | .startOutput p => sup.modifyProc p ({ · with pumped := true })
  | .startWatch p => sup.launch (.watch { proc := p })
  -- a process that was told to end takes its time
  | .destroy p => sup.modifyProc p ({ · with told := true })
  | .skip | .post _ => sup

/-- An effect is observed if there was one. -/
def record (id : Nat) (eff : Effect) : List Obs := if eff = .skip then [] else [(id, eff)]

/-! ## Thread bodies -/

/-- One step of `fail`; `none` when it returns. -/
def failNext (sup : Supervisor) (message : String) : FailPc → Option FailPc × Effect
  | .setError => (some .clearReady, .setError (some message))
  | .clearReady => (some .clearRunning, .setReady false)
  | .clearRunning => (some .deleteKey, .setRunning false)
  | .deleteKey => (some .testShutting, .deleteKey)
  -- a supervisor that is being stopped reports nothing
  | .testShutting => (if sup.shuttingDown then none else some .post, .skip)
  | .post => (none, .post message)

/-- A statement of the `try` block, which may throw instead. -/
def orFail (env : Env) (next : StartPc × Effect) : StartPc × Effect :=
  match env.threw with
  | some message => (.failing .setError (spawnMessage message), .skip)
  | none => next

/-- The process that a `start` call spawns. -/
def newProc (sup : Supervisor) (id : Nat) (c : StartCall) : Proc :=
  { startedBy := id
    args := NativeArgs.build c.payload ("127.0.0.1:" ++ toString sup.socksPort)
      (c.encryptionKey.map fun _ => sup.keyPath) }

/-- One step of a `start` call. -/
def startNext (sup : Supervisor) (id : Nat) (c : StartCall) (env : Env) :
    Option (StartPc × Effect) :=
  match c.pc with
  | .getAndSet => some (if sup.running then .ignored else .clearShutting, .setRunning true)
  | .clearShutting => some (.clearReady, .setShuttingDown false)
  | .clearReady => some (.clearError, .setReady false)
  | .clearError => some (.clearOutput, .setError none)
  | .clearOutput => some (.killStale, .setLastOutput none)
  | .killStale => some (.allocPort, .killStale)
  -- from here up to the spawned process a statement can throw
  | .allocPort => some (orFail env
      (if c.encryptionKey.isSome then .createKey else .spawn, .setSocksPort env.port))
  | .createKey => some (orFail env (.fillKey, .writeKey ""))
  | .fillKey => some (orFail env
      (.spawn, .writeKey (EncryptionKey.normalize (c.encryptionKey.getD ""))))
  | .spawn => some (orFail env (.publishProcess sup.procs.length, .spawn (sup.newProc id c)))
  | .publishProcess p => some (.startOutput p, .setProcess (some p))
  | .startOutput p => some (.startWatch p, .startOutput p)
  | .startWatch p => some (.returned, .startWatch p)
  | .failing pc message =>
    let (pc, eff) := sup.failNext message pc
    some (match pc with
      | some pc => .failing pc message
      | none => .returned, eff)
  | .returned | .ignored => none

/-- One step of a `stop` call. -/
def stopNext (sup : Supervisor) : StopPc → Option (StopPc × Effect)
  | .setShutting => some (.clearReady, .setShuttingDown true)
  | .clearReady => some (.clearRunning, .setReady false)
  | .clearRunning => some (.readProcess, .setRunning false)
  | .readProcess => some (match sup.process with
      | some p => .destroyTest p
      | none => .clearProcess, .skip)
  | .destroyTest p => some (if sup.isAlive p then .destroy p else .clearProcess, .skip)
  | .destroy p => some (.clearProcess, .destroy p)
  | .clearProcess => some (.deleteKey, .setProcess none)
  | .deleteKey => some (.returned, .deleteKey)
  | .returned => none

/-- One step of a watch thread. -/
def watchNext (sup : Supervisor) (w : Watch) (env : Env) : Option (WatchPc × Effect) :=
  match w.pc with
  | .testShutting => some (if sup.shuttingDown then .waitFor else .testAlive, .skip)
  | .testAlive => some (if sup.isAlive w.proc then .probe else .waitFor, .skip)
  | .probe => some (if env.connects then .setReady else .testDeadline, .skip)
  | .setReady => some (.deleteKey, .setReady true)
  | .deleteKey => some (.waitFor, .deleteKey)
  | .testDeadline =>
    some (if env.expired then .failing .setError timeoutMessage true else .sleep, .skip)
  | .sleep => some (.testShutting, .skip)
  -- blocked as long as the process is alive
  | .waitFor => if sup.isAlive w.proc then none else some (.checkShutting, .skip)
  | .checkShutting => some (if sup.shuttingDown then .returned else .checkProcess, .skip)
  | .checkProcess => some (if sup.process = some w.proc then .joinOutput else .returned, .skip)
  | .joinOutput => some (.readOutput, .skip)
  | .readOutput =>
    let code := ((sup.procs[w.proc]?).map (·.exitCode)).getD 0
    some (.failing .setError (exitMessage code sup.lastOutput) false, .skip)
  | .failing pc message thenDestroy =>
    let (pc, eff) := sup.failNext message pc
    some (match pc with
      | some pc => .failing pc message thenDestroy
      | none => if thenDestroy then .destroyTest else .returned, eff)
  | .destroyTest => some (if sup.isAlive w.proc then .destroy else .returned, .skip)
  | .destroy => some (.returned, .destroy w.proc)
  | .returned => none

/-- One step of a thread: where it is then and what it does. -/
def threadNext (sup : Supervisor) (id : Nat) (env : Env) : Thread → Option (Thread × Effect)
  | .start c => (sup.startNext id c env).map fun (pc, eff) => (.start { c with pc }, eff)
  | .stop pc => (sup.stopNext pc).map fun (pc, eff) => (.stop pc, eff)
  | .watch w => (sup.watchNext w env).map fun (pc, eff) => (.watch { w with pc }, eff)

/-- One step of a thread, if it is not blocked. -/
def threadStep (sup : Supervisor) (id : Nat) (env : Env) : Option (Supervisor × List Obs) :=
  match sup.threads[id]? with
  | none => none
  | some t => (sup.threadNext id env t).map fun (t, eff) =>
      ((sup.setThread id t).perform eff, record id eff)

/-! ## Processes -/

/-- `pumpOutput` keeps the last line that is not blank. -/
def pumpOutput (sup : Supervisor) (line : String) : Supervisor :=
  if isBlank line then sup else { sup with lastOutput := some line }

/-- One action, where it can happen. -/
def step (sup : Supervisor) : Action → Option (Supervisor × List Obs)
  | .callStart payload encryptionKey =>
    some (sup.launch (.start { payload, encryptionKey }), [])
  | .callStop => some (sup.launch (.stop .setShutting), [])
  | .thread id env => sup.threadStep id env
  | .exit p code =>
    if sup.isAlive p then
      some (sup.modifyProc p ({ · with alive := false, exitCode := code }), [])
    else none
  | .output p line =>
    if (sup.procs[p]?).any (·.pumped) then some (sup.pumpOutput line, []) else none

/-- The supervisor from a given state on. -/
def machine (init : Supervisor) : Machine Supervisor Action Obs where
  init
  step

end Supervisor

end OpenFlux
