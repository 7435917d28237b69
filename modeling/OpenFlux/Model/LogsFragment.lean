import OpenFlux.ForStd.Machine

/-!
# LogsFragment

Log messages are split into lines and queued in `pending`.  A callback that is posted to the
text view with a delay moves up to 64 of them into the view.  `flushScheduled` says that such
a callback is on its way; it is set where one is posted, and cleared by the callback itself
*after* `flushPending` has returned.

All of this runs on the main thread, so each call, click and callback is one step.  What the
clock says and whether the text has become too long for the view is the environment's.  The
colours and the scrolling are left out.
-/

namespace OpenFlux

/-- The fields of the fragment and its text view. -/
structure LogsFragment where
  pending : List String := []
  totalLines : Nat := 0
  flushScheduled : Bool := false
  /-- the number of posted callbacks that have not run yet -/
  callbacks : Nat := 0
  /-- what the text view shows -/
  text : String := ""
  deriving DecidableEq, Repr

namespace LogsFragment

/-- What a run of the callback sees. -/
structure Env where
  /-- the time at which the `i`-th line is taken -/
  time : Nat → String := fun _ => ""
  /-- where the text is cut when it has more than `MAX_LINES` lines -/
  cut : Option Nat := none

/-- What the main thread runs. -/
inductive Action where
  | enqueue (message : String)
  /-- a click on Clear -/
  | clear
  /-- a posted callback runs -/
  | callback (env : Env)

/-- The batch size of `flushPending`. -/
def batchSize : Nat := 64

/-- `message.split('\n')` without the empty lines. -/
def lines (message : String) : List String :=
  ((message.toList.splitOn '\n').map String.ofList).filter (· ≠ "")

/-- `postDelayed` of the callback. -/
def post (logs : LogsFragment) : LogsFragment :=
  { logs with flushScheduled := true, callbacks := logs.callbacks + 1 }

/-- `enqueue(message)` -/
def enqueue (logs : LogsFragment) (message : String) : LogsFragment :=
  let logs := { logs with pending := logs.pending ++ lines message }
  if !logs.flushScheduled then logs.post else logs

/-- `n.toString().padStart(4)`. -/
def lineNo (n : Nat) : String :=
  String.ofList (List.replicate (4 - (toString n).length) ' ') ++ toString n

/-- A line as it is shown. -/
def stamped (n : Nat) (time line : String) : String :=
  lineNo n ++ " " ++ "[" ++ time ++ "] " ++ line

/-- The variables of the loop in `flushPending`. -/
structure Batch where
  pending : List String
  totalLines : Nat
  toAppend : String := ""
  appended : Nat := 0

/-- The loop of `flushPending`, with at most `n` rounds to go. -/
def takeBatch (time : Nat → String) : Nat → Batch → Batch
  | 0, batch => batch
  | n + 1, batch =>
    match batch.pending with
    | [] => batch
    -- lines are joined by line feeds, and the first one comes right behind the old text
    | line :: rest =>
      takeBatch time n
        { pending := rest
          totalLines := batch.totalLines + 1
          toAppend := batch.toAppend ++ (if 0 < batch.appended then "\n" else "") ++
            stamped (batch.totalLines + 1) (time batch.appended) line
          appended := batch.appended + 1 }

/-- `flushPending()` -/
def flushPending (logs : LogsFragment) (env : Env) : LogsFragment :=
  if logs.pending.isEmpty then logs
  else
    let batch := takeBatch env.time batchSize
      { pending := logs.pending, totalLines := logs.totalLines }
    let text := logs.text ++ batch.toAppend
    -- the view may cut the text from its beginning
    let text := match env.cut with
      | some n => String.ofList (text.toList.drop n)
      | none => text
    let logs := { logs with pending := batch.pending, totalLines := batch.totalLines, text }
    -- what did not fit into the batch is for the next flush
    if !logs.pending.isEmpty && !logs.flushScheduled then logs.post else logs

/-- One call, click or callback. -/
def step (logs : LogsFragment) : Action → Option (LogsFragment × List Unit)
  | .enqueue message => some (logs.enqueue message, [])
  | .clear => some ({ logs with pending := [], totalLines := 0, text := "" }, [])
  | .callback env =>
    if logs.callbacks = 0 then none
    else
      let logs := { logs with callbacks := logs.callbacks - 1 }
      -- the callback resets the flag behind `flushPending`
      some ({ logs.flushPending env with flushScheduled := false }, [])

/-- The fragment from `onViewCreated` on. -/
def machine : Machine LogsFragment Action Unit where
  init := {}
  step

end LogsFragment

end OpenFlux
