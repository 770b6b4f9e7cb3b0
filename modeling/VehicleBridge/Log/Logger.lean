import Mathlib.Data.List.Forall2
import Mathlib.Data.List.Induction
import Mathlib.Logic.Function.Basic
import VehicleBridge.Core.ErrorCode
import VehicleBridge.Lib.LineText
import VehicleBridge.Lib.ScopedVariable

/-!
# The logger

Threads log through one `Logger`.  A call of `WriteLogLine` tests the level, looks up the context and writes the line to
the console and to the file, with calls of other threads in between; only the last of these steps holds the lock for all
that it does.

The context of a thread is in thread-local variables, which a `ScopedLogContext` sets and puts back.  So a line carries
the context of the innermost scope around its call, or where there is none the default context of a time during the
call, whatever the other threads do (`log_lines_lexical`).
-/

namespace VehicleBridge

open ByteText LineText ScopedVariable

inductive LogLevel
  | debug
  | info
  | warn
  | error
  deriving DecidableEq, Repr

namespace LogLevel

def value : LogLevel → Nat
  | .debug => 0
  | .info => 1
  | .warn => 2
  | .error => 3

def toString : LogLevel → Bytes
  | .debug => text "DEBUG"
  | .info => text "INFO"
  | .warn => text "WARN"
  | .error => text "ERROR"

end LogLevel

/-- `GetDomain`, up to the cast to the enumeration. -/
def getDomain (code : ErrorCode) : UInt32 :=
  (code.value.toUInt32 >>> 16) &&& 0xFFFF

def toDomainString (code : ErrorCode) : Bytes :=
  if getDomain code = ErrorDomain.common.value then text "COMMON"
  else if getDomain code = ErrorDomain.core.value then text "CORE"
  else if getDomain code = ErrorDomain.ipc.value then text "IPC"
  else if getDomain code = ErrorDomain.log.value then text "LOG"
  else if getDomain code = ErrorDomain.demo.value then text "DEMO"
  else if getDomain code = ErrorDomain.interconnect.value then text "INTERCONNECT"
  else text "UNKNOWN"

structure LogContext where
  module : Bytes
  context : Bytes
  deriving DecidableEq, Repr

/-- The arguments of `WriteLogLine`. -/
structure LogRecord where
  level : LogLevel
  errorCode : ErrorCode := .ok
  message : Bytes
  file : Bytes
  line : Int
  deriving DecidableEq, Repr

structure LogLine where
  timestamp : Bytes
  record : LogRecord
  context : LogContext
  tid : Nat
  deriving DecidableEq, Repr

/-- The text of a line, without the end of line. -/
def LogLine.text (l : LogLine) : Bytes :=
  l.timestamp ++ ByteText.text " [" ++ l.record.level.toString ++ ByteText.text "]" ++
    ByteText.text " module=" ++ l.context.module ++ ByteText.text " context=" ++ l.context.context ++
    ByteText.text " error_domain=" ++ toDomainString l.record.errorCode ++
    ByteText.text " error_code=0x" ++
      (Nat.toDigits 16 l.record.errorCode.value.toUInt32.toNat).map Char.toUInt8 ++
    ByteText.text " [tid=" ++ decimal l.tid ++ ByteText.text "]" ++
    ByteText.text " [" ++ l.record.file ++ ByteText.text ":" ++ signedDecimal l.record.line ++ ByteText.text "] " ++
    l.record.message

/-! ### The context of a thread -/

/-- The thread-local variables. -/
structure ThreadLocals where
  hasThreadContext : Bool := false
  threadModule : Bytes := []
  threadContext : Bytes := []
  deriving DecidableEq, Repr

structure ScopedLogContext where
  hadPrevious : Bool
  previousModule : Bytes
  previousContext : Bytes
  deriving DecidableEq, Repr

namespace ThreadLocals

def setThreadContext (c : LogContext) : ThreadLocals where
  hasThreadContext := true
  threadModule := c.module
  threadContext := c.context

def clearThreadContext : ThreadLocals where
  hasThreadContext := false
  threadModule := []
  threadContext := []

/-- `GetThreadContext` with the arguments that it overwrites, or leaves. -/
def getThreadContext (out : LogContext) (l : ThreadLocals) : Bool × LogContext :=
  if l.hasThreadContext then (true, { module := l.threadModule, context := l.threadContext }) else (false, out)

/-- The constructor of a `ScopedLogContext`. -/
def construct (c : LogContext) (l : ThreadLocals) : ScopedLogContext × ThreadLocals :=
  let previous := l.getThreadContext { module := [], context := [] }
  ({ hadPrevious := previous.1, previousModule := previous.2.module, previousContext := previous.2.context },
    setThreadContext c)

/-- Its destructor. -/
def destruct (scope : ScopedLogContext) : ThreadLocals :=
  if scope.hadPrevious then setThreadContext { module := scope.previousModule, context := scope.previousContext }
  else clearThreadContext

def resolveEffectiveContext (default : LogContext) (l : ThreadLocals) : LogContext :=
  if l.hasThreadContext then { module := l.threadModule, context := l.threadContext } else default

end ThreadLocals

/-! ### Threads -/

/-- Where a call of `WriteLogLine` is: past the test of the level, or with its line put together.  The number is that of
the step at which the call has started. -/
inductive LogCall
  | checked (record : LogRecord) (started : Nat)
  | formatted (line : LogLine) (started : Nat)
  deriving DecidableEq, Repr

/-- A call that has returned, the line that it has written, if any, and its first and its last step. -/
structure LogOutcome where
  record : LogRecord
  line : Option LogLine
  started : Nat
  ended : Nat
  deriving DecidableEq, Repr

/-- A thread: what it is still going to do, its variables, the scopes that it is in, its call under way and those that
have returned. -/
structure LogThread where
  rest : List (Instr LogContext LogRecord)
  locals : ThreadLocals := {}
  scopes : List ScopedLogContext := []
  call : Option LogCall := none
  finished : List LogOutcome := []

/-- The logger with its threads, and what is on the console and in the files.  The steps are counted, and all the lines
that have been written are kept, whether or not anything was open to write them to. -/
structure LogState where
  minLevel : LogLevel := .info
  consoleEnabled : Bool := true
  outputFile : Option Bytes := none
  default : LogContext := { module := text "general", context := text "default" }
  threads : Nat → LogThread
  console : Bytes := []
  files : Bytes → Bytes
  written : List LogLine := []
  time : Nat := 0

/-- A step: of a thread, with the time at that step, or a setting. -/
inductive LogOp
  | thread (t : Nat) (timestamp : Bytes)
  | setMinLevel (level : LogLevel)
  | enableConsole (enabled : Bool)
  | setOutputFile (path : Bytes) (opens : Bool)
  | setDefaultContext (c : LogContext)
  deriving DecidableEq, Repr

namespace LogThread

/-- An instruction that is no call. -/
def instr (th : LogThread) : Instr LogContext LogRecord → LogThread
  | .emit _ => th
  | .assign (some c) => { th with locals := .setThreadContext c }
  | .assign none => { th with locals := .clearThreadContext }
  | .enter c =>
    let scope := th.locals.construct c
    { th with locals := scope.2, scopes := scope.1 :: th.scopes }
  | .leave =>
    match th.scopes with
    | [] => th
    | scope :: scopes => { th with locals := .destruct scope, scopes }

/-- The first step of `WriteLogLine`. -/
def check (s : LogState) (record : LogRecord) (th : LogThread) : LogThread :=
  if record.level.value < s.minLevel.value then
    { th with finished := th.finished ++ [{ record, line := none, started := s.time, ended := s.time }] }
  else { th with call := some (.checked record s.time) }

/-- A step of thread `t` up to the writing of a line. -/
def step (t : Nat) (timestamp : Bytes) (s : LogState) (th : LogThread) : LogThread :=
  match th.call with
  | some (.checked record started) =>
    let context := th.locals.resolveEffectiveContext s.default
    { th with call := some (.formatted { timestamp, record, context, tid := t } started) }
  | some (.formatted line started) =>
    { th with
      call := none
      finished := th.finished ++ [{ record := line.record, line := some line, started, ended := s.time }] }
  | none =>
    match th.rest with
    | [] => th
    | .emit record :: rest => check s record { th with rest }
    | i :: rest => instr { th with rest } i

/-- The line that the next step writes. -/
def writes (th : LogThread) : List LogLine :=
  match th.call with
  | some (.formatted line _) => [line]
  | _ => []

end LogThread

namespace LogState

/-- What `WriteLogLine` does with the lock. -/
def write (lines : List LogLine) (s : LogState) : LogState :=
  { s with
    console := s.console ++ if s.consoleEnabled then unlines (lines.map LogLine.text) else []
    files := match s.outputFile with
      | none => s.files
      | some path => Function.update s.files path (s.files path ++ unlines (lines.map LogLine.text))
    written := s.written ++ lines }

def apply (s : LogState) : LogOp → LogState
  | .thread t timestamp =>
    { s.write (s.threads t).writes with
      threads := Function.update s.threads t ((s.threads t).step t timestamp s) }
  | .setMinLevel level => { s with minLevel := level }
  | .enableConsole enabled => { s with consoleEnabled := enabled }
  | .setOutputFile path opens => { s with outputFile := if opens then some path else none }
  | .setDefaultContext c => { s with default := c }

def exec (s : LogState) (op : LogOp) : LogState :=
  { s.apply op with time := s.time + 1 }

/-- A new logger, threads that run these programs, and what is in the files. -/
def start (programs : Nat → Block LogContext LogRecord) (files : Bytes → Bytes) : LogState where
  threads t := { rest := compile (programs t) }
  files

/-- The logger as it is before one of the steps. -/
def beforeStep (s : LogState) (ops : List LogOp) (i : Nat) : LogState :=
  (ops.take i).foldl exec s

end LogState

/-! ### The variables of a thread as a cell -/

namespace ThreadLocals

/-- The context of a thread, if it has one. -/
def value (l : ThreadLocals) : Option LogContext :=
  if l.hasThreadContext then some { module := l.threadModule, context := l.threadContext } else none

end ThreadLocals

/-- The context that a scope puts back, if there was one. -/
def ScopedLogContext.value (scope : ScopedLogContext) : Option LogContext :=
  if scope.hadPrevious then some { module := scope.previousModule, context := scope.previousContext } else none

namespace LogThread

def cell (th : LogThread) : Cell LogContext where
  value := th.locals.value
  saved := th.scopes.map ScopedLogContext.value

/-- **The variables and the scopes of a thread** are a cell, with `ScopedLogContext` for its scopes. -/
theorem cell_instr (th : LogThread) (i : Instr LogContext LogRecord) : (th.instr i).cell = th.cell.after i := by
  cases i with
  | emit record => rfl
  | assign c => cases c <;> rfl
  | enter c =>
    have hprevious : (th.locals.construct c).1.value = th.locals.value := by
      unfold ThreadLocals.construct ThreadLocals.getThreadContext ThreadLocals.value ScopedLogContext.value
      cases th.locals.hasThreadContext <;> rfl
    show ({ value := some c, saved := (th.locals.construct c).1.value :: th.scopes.map ScopedLogContext.value } :
      Cell LogContext) = th.cell.enter c
    rw [hprevious]
    rfl
  | leave =>
    have hdestruct (scope : ScopedLogContext) : (ThreadLocals.destruct scope).value = scope.value := by
      unfold ThreadLocals.destruct ScopedLogContext.value
      cases scope.hadPrevious <;> rfl
    cases hscopes : th.scopes with
    | nil => simp only [instr, hscopes, Cell.after, Cell.leave, cell, List.map_nil]
    | cons scope scopes =>
      simp only [instr, hscopes, Cell.after, Cell.leave, cell, List.map_cons, hdestruct]

private theorem resolveEffectiveContext_eq (default : LogContext) (l : ThreadLocals) :
    l.resolveEffectiveContext default = l.value.getD default := by
  unfold ThreadLocals.resolveEffectiveContext ThreadLocals.value
  split <;> rfl

end LogThread

/-! ### Lines and events -/

section
variable (s₀ : LogState) (ops : List LogOp) (t : Nat)

/-- A line of thread `t` that has been put together in a step between the two, with the time of that step, and the
context that its event sees or else the default context then. -/
def LogLine.PutTogether (value : Option LogContext) (started ended : Nat) (line : LogLine) : Prop :=
  line.tid = t ∧ ∃ i, started < i ∧ i < ended ∧ ops[i]? = some (.thread t line.timestamp) ∧
    line.context = value.getD (s₀.beforeStep ops i).default

/-- A call that has returned was for this event of the program: it has written a line exactly if the level was high
enough when the call started, and has put it together while it lasted. -/
structure LogOutcome.Fits (o : LogOutcome) (e : LogRecord × Option LogContext) : Prop where
  record : o.record = e.1
  started : o.started ≤ o.ended
  ended : o.ended < ops.length
  level : o.line.isSome = true ↔ (s₀.beforeStep ops o.started).minLevel.value ≤ e.1.level.value
  line : ∀ line, o.line = some line → line.record = e.1 ∧ line.PutTogether s₀ ops t e.2 o.started o.ended

/-- The events of the call under way. -/
inductive CallOk (value : Option LogContext) : Option LogCall → List (LogRecord × Option LogContext) → Prop
  | idle : CallOk value none []
  | checked {record : LogRecord} {started : Nat} (hstarted : started < ops.length)
      (hlevel : (s₀.beforeStep ops started).minLevel.value ≤ record.level.value) :
      CallOk value (some (.checked record started)) [(record, value)]
  | formatted {line : LogLine} {started : Nat} (hstarted : started < ops.length)
      (hlevel : (s₀.beforeStep ops started).minLevel.value ≤ line.record.level.value)
      (hline : line.PutTogether s₀ ops t value started ops.length) :
      CallOk value (some (.formatted line started)) [(line.record, value)]

/-- The calls of a thread so far, the one under way and those to come are the events of its program. -/
structure ThreadOk (program : Block LogContext LogRecord) (th : LogThread) : Prop where
  events : ∃ done pending, List.Forall₂ (LogOutcome.Fits s₀ ops t) th.finished done ∧
    CallOk s₀ ops t th.locals.value th.call pending ∧
    done ++ (pending ++ emitted th.rest th.cell) = lexical none program
  cell : th.rest.foldl Cell.after th.cell = ({} : Cell LogContext).assign (valueAfter none program)

end

section
variable {s₀ : LogState} {ops : List LogOp} {t : Nat} {program : Block LogContext LogRecord} {th : LogThread}

private theorem beforeStep_concat {i : Nat} (h : i ≤ ops.length) (op : LogOp) :
    s₀.beforeStep (ops ++ [op]) i = s₀.beforeStep ops i := by
  rw [LogState.beforeStep, List.take_append_of_le_length h, LogState.beforeStep]

private theorem beforeStep_length (s₀ : LogState) (ops : List LogOp) :
    s₀.beforeStep ops ops.length = ops.foldl LogState.exec s₀ := by
  rw [LogState.beforeStep, List.take_length]

/-- What has been put together stays so in a longer run. -/
private theorem LogLine.PutTogether.concat {value : Option LogContext} {started ended : Nat} {line : LogLine}
    (h : line.PutTogether s₀ ops t value started ended) (hended : ended ≤ ops.length) (op : LogOp) {ended' : Nat}
    (hle : ended ≤ ended') : line.PutTogether s₀ (ops ++ [op]) t value started ended' := by
  obtain ⟨htid, i, hstarted, hi, hop, hcontext⟩ := h
  have hlt : i < ops.length := Nat.lt_of_lt_of_le hi hended
  refine ⟨htid, i, hstarted, Nat.lt_of_lt_of_le hi hle, ?_, ?_⟩
  · rw [List.getElem?_append_left hlt]
    exact hop
  · rw [beforeStep_concat (Nat.le_of_lt hlt)]
    exact hcontext

private theorem LogOutcome.Fits.concat {o : LogOutcome} {e : LogRecord × Option LogContext}
    (h : o.Fits s₀ ops t e) (op : LogOp) : o.Fits s₀ (ops ++ [op]) t e := by
  have hlength : (ops ++ [op]).length = ops.length + 1 := List.length_append
  have hended := h.ended
  refine ⟨h.record, h.started, by omega, ?_, fun line hline => ?_⟩
  · rw [beforeStep_concat (Nat.le_trans h.started (Nat.le_of_lt hended))]
    exact h.level
  · obtain ⟨hrecord, htogether⟩ := h.line line hline
    exact ⟨hrecord, htogether.concat (Nat.le_of_lt hended) op (Nat.le_refl _)⟩

private theorem CallOk.concat {value : Option LogContext} {call : Option LogCall}
    {pending : List (LogRecord × Option LogContext)} (h : CallOk s₀ ops t value call pending) (op : LogOp) :
    CallOk s₀ (ops ++ [op]) t value call pending := by
  have hlength : (ops ++ [op]).length = ops.length + 1 := List.length_append
  cases h with
  | idle => exact .idle
  | checked hstarted hlevel =>
    refine .checked (by omega) ?_
    rw [beforeStep_concat (Nat.le_of_lt hstarted)]
    exact hlevel
  | formatted hstarted hlevel hline =>
    refine .formatted (by omega) ?_ (hline.concat (Nat.le_refl _) op (by omega))
    rw [beforeStep_concat (Nat.le_of_lt hstarted)]
    exact hlevel

/-- A step of another thread, or a setting, changes nothing that a thread has done. -/
private theorem ThreadOk.concat (h : ThreadOk s₀ ops t program th) (op : LogOp) :
    ThreadOk s₀ (ops ++ [op]) t program th := by
  obtain ⟨⟨done, pending, hdone, hcall, hevents⟩, hcell⟩ := h
  exact ⟨⟨done, pending, hdone.imp fun _ _ hfits => hfits.concat op, hcall.concat op, hevents⟩, hcell⟩

private theorem instr_frame (th : LogThread) (i : Instr LogContext LogRecord) :
    (th.instr i).rest = th.rest ∧ (th.instr i).call = th.call ∧ (th.instr i).finished = th.finished := by
  cases i with
  | emit record => exact ⟨rfl, rfl, rfl⟩
  | assign c => cases c <;> exact ⟨rfl, rfl, rfl⟩
  | enter c => exact ⟨rfl, rfl, rfl⟩
  | leave =>
    unfold LogThread.instr
    cases th.scopes <;> exact ⟨rfl, rfl, rfl⟩

/-- An instruction that is no call changes what the later ones see. -/
theorem ThreadOk.instr {i : Instr LogContext LogRecord} {rest : List (Instr LogContext LogRecord)}
    (h : ThreadOk s₀ ops t program th) (hcall : th.call = none) (hrest : th.rest = i :: rest)
    (hemit : ∀ record, i ≠ .emit record) : ThreadOk s₀ ops t program (({ th with rest } : LogThread).instr i) := by
  obtain ⟨⟨done, pending, hdone, hpending, hevents⟩, hcell₀⟩ := h
  obtain ⟨hrest', hcall', hfinished⟩ := instr_frame { th with rest } i
  have hcell : (({ th with rest } : LogThread).instr i).cell = th.cell.after i := LogThread.cell_instr ..
  rw [hcall] at hpending
  rw [hrest] at hevents hcell₀
  cases hpending
  refine ⟨⟨done, [], ?_, ?_, ?_⟩, ?_⟩
  · rw [hfinished]
    exact hdone
  · rw [hcall', hcall]
    exact .idle
  · rw [hrest', hcell, ← hevents]
    cases i with
    | emit record => exact absurd rfl (hemit record)
    | assign c => rfl
    | enter c => rfl
    | leave => rfl
  · rw [hrest', hcell]
    exact hcell₀

section
variable {s : LogState} (hs : ops.foldl LogState.exec s₀ = s) (htime : s.time = ops.length) (op : LogOp)
include hs htime

/-- The start of a call. -/
theorem ThreadOk.check {record : LogRecord} {rest : List (Instr LogContext LogRecord)}
    (h : ThreadOk s₀ ops t program th) (hcall : th.call = none) (hrest : th.rest = .emit record :: rest) :
    ThreadOk s₀ (ops ++ [op]) t program (({ th with rest } : LogThread).check s record) := by
  have hlength : (ops ++ [op]).length = ops.length + 1 := List.length_append
  have hnow : s₀.beforeStep (ops ++ [op]) s.time = s := by
    rw [htime, beforeStep_concat (Nat.le_refl _), beforeStep_length, hs]
  obtain ⟨⟨done, pending, hdone, hpending, hevents⟩, hcell₀⟩ := h.concat op
  rw [hcall] at hpending
  rw [hrest] at hevents hcell₀
  cases hpending
  unfold LogThread.check
  split
  · next hlow =>
    have hfits : LogOutcome.Fits s₀ (ops ++ [op]) t { record, line := none, started := s.time, ended := s.time }
        (record, th.locals.value) := by
      refine ⟨rfl, Nat.le_refl _, by simp only; omega, ?_, nofun⟩
      simp only [hnow]
      exact iff_of_false Bool.false_ne_true (Nat.not_le.2 hlow)
    refine ⟨⟨done ++ [(record, th.locals.value)], [], List.rel_append hdone (.cons hfits .nil), hcall ▸ .idle, ?_⟩,
      hcell₀⟩
    rw [List.append_assoc]
    exact hevents
  · next hhigh =>
    refine ⟨⟨done, [(record, th.locals.value)], hdone, .checked (by omega) ?_, hevents⟩, hcell₀⟩
    rw [hnow]
    exact Nat.not_lt.1 hhigh

/-- **The step lemma** of a thread. -/
theorem ThreadOk.step (h : ThreadOk s₀ ops t program th) {timestamp : Bytes} (hop : op = .thread t timestamp) :
    ThreadOk s₀ (ops ++ [op]) t program (th.step t timestamp s) := by
  have hlength : (ops ++ [op]).length = ops.length + 1 := List.length_append
  obtain ⟨done, pending, hdone, hpending, hevents⟩ := h.events
  have hdone' := hdone.imp fun _ _ hfits => LogOutcome.Fits.concat hfits op
  unfold LogThread.step
  split
  · next record started hcall =>
    rw [hcall] at hpending
    cases hpending with
    | checked hstarted hlevel =>
      refine ⟨⟨done, _, hdone', .formatted (by omega) ?_ ⟨rfl, ops.length, hstarted, by omega, ?_, ?_⟩, hevents⟩,
        h.cell⟩
      · rw [beforeStep_concat (Nat.le_of_lt hstarted)]
        exact hlevel
      · rw [List.getElem?_concat_length, hop]
      · rw [beforeStep_concat (Nat.le_refl _), beforeStep_length, hs]
        exact LogThread.resolveEffectiveContext_eq ..
  · next line started hcall =>
    rw [hcall] at hpending
    cases hpending with
    | formatted hstarted hlevel hline =>
      have hfits : LogOutcome.Fits s₀ (ops ++ [op]) t
          { record := line.record, line := some line, started, ended := s.time } (line.record, th.locals.value) := by
        refine ⟨rfl, by simp only; omega, by simp only; omega, ?_, fun line' heq => ?_⟩
        · rw [beforeStep_concat (Nat.le_of_lt hstarted)]
          exact iff_of_true rfl hlevel
        · cases heq
          exact ⟨rfl, hline.concat (Nat.le_refl _) op (Nat.le_of_eq htime.symm)⟩
      refine ⟨⟨done ++ [(line.record, th.locals.value)], [], List.rel_append hdone' (.cons hfits .nil), .idle, ?_⟩,
        h.cell⟩
      rw [List.append_assoc]
      exact hevents
  · next hcall =>
    split
    · exact h.concat op
    · next record rest hrest => exact h.check hs htime op hcall hrest
    · next i rest hemit hrest => exact (h.concat op).instr hcall hrest hemit

end

end

/-! ### What is shown -/

/-- Some of the lines that have been written are there in this order, behind what was there before. -/
def Shows (written : List LogLine) (before bytes : Bytes) : Prop :=
  ∃ shown, List.Sublist shown written ∧ bytes = before ++ unlines (shown.map LogLine.text)

section
variable {written : List LogLine} {before bytes : Bytes}

private theorem Shows.keep (h : Shows written before bytes) (lines : List LogLine) :
    Shows (written ++ lines) before bytes := by
  obtain ⟨shown, hsub, heq⟩ := h
  exact ⟨shown, hsub.trans (List.sublist_append_left _ _), heq⟩

private theorem Shows.append (h : Shows written before bytes) (lines : List LogLine) :
    Shows (written ++ lines) before (bytes ++ unlines (lines.map LogLine.text)) := by
  obtain ⟨shown, hsub, rfl⟩ := h
  refine ⟨shown ++ lines, hsub.append (List.Sublist.refl _), ?_⟩
  rw [List.map_append, unlines_append, List.append_assoc]

/-- No line feed comes into a line with its parts. -/
structure LogLine.IsSingle (l : LogLine) : Prop where
  timestamp : kLineFeed ∉ l.timestamp
  message : kLineFeed ∉ l.record.message
  file : kLineFeed ∉ l.record.file
  module : kLineFeed ∉ l.context.module
  context : kLineFeed ∉ l.context.context

/-- The names and the number of an error code are in one line. -/
private theorem not_mem_errorText (code : ErrorCode) :
    kLineFeed ∉ toDomainString code ∧
      kLineFeed ∉ (Nat.toDigits 16 code.value.toUInt32.toNat).map Char.toUInt8 := by
  cases code <;> decide

private theorem LogLine.not_mem_text {l : LogLine} (h : l.IsSingle) : kLineFeed ∉ l.text := by
  obtain ⟨htimestamp, hmessage, hfile, hmodule, hcontext⟩ := h
  obtain ⟨hdomain, hcode⟩ := not_mem_errorText l.record.errorCode
  have hlevel : kLineFeed ∉ l.record.level.toString := by
    cases l.record.level <;> decide
  have htid : kLineFeed ∉ decimal l.tid := not_mem_decimal (by decide)
  have hline : kLineFeed ∉ signedDecimal l.record.line := not_mem_signedDecimal (by decide) (by decide)
  unfold LogLine.text
  simp only [List.mem_append, not_or, and_assoc]
  exact ⟨htimestamp, by decide, hlevel, by decide, by decide, hmodule, by decide, hcontext, by decide, hdomain,
    by decide, hcode, by decide, htid, by decide, by decide, hfile, by decide, hline, by decide, hmessage⟩

/-- Read line by line, what is shown of single lines are their texts. -/
theorem Shows.getLines (h : Shows written [] bytes) (hsingle : ∀ line ∈ written, line.IsSingle) :
    ∃ shown, List.Sublist shown written ∧ getLines bytes = shown.map LogLine.text := by
  obtain ⟨shown, hsub, rfl⟩ := h
  refine ⟨shown, hsub, ?_⟩
  rw [List.nil_append, getLines_unlines]
  intro line hline
  obtain ⟨l, hl, rfl⟩ := List.mem_map.1 hline
  exact LogLine.not_mem_text (hsingle l (hsub.subset hl))

end

/-! ### Runs -/

/-- The threads, and what has been written of their lines. -/
structure LogOk (programs : Nat → Block LogContext LogRecord) (files : Bytes → Bytes) (ops : List LogOp)
    (s : LogState) : Prop where
  state : ops.foldl LogState.exec (.start programs files) = s
  time : s.time = ops.length
  threads : ∀ t, ThreadOk (.start programs files) ops t (programs t) (s.threads t)
  written : ∀ t, s.written.filter (fun line => line.tid = t) = (s.threads t).finished.filterMap LogOutcome.line
  console : Shows s.written [] s.console
  files : ∀ path, Shows s.written (files path) (s.files path)
  everything : .enableConsole false ∉ ops →
    s.consoleEnabled = true ∧ s.console = unlines (s.written.map LogLine.text)

section
variable {programs : Nat → Block LogContext LogRecord} {files : Bytes → Bytes} {ops : List LogOp} {s : LogState}

/-- What a thread is about to write are lines of its own. -/
private theorem ThreadOk.tid_of_writes {s₀ : LogState} {program : Block LogContext LogRecord} {t : Nat} {th : LogThread}
    (h : ThreadOk s₀ ops t program th) {line : LogLine} (hline : line ∈ th.writes) : line.tid = t := by
  obtain ⟨done, pending, -, hpending, -⟩ := h.events
  unfold LogThread.writes at hline
  split at hline
  · next formatted started hcall =>
    rw [hcall] at hpending
    cases hpending with
    | formatted _ _ htogether => exact List.mem_singleton.1 hline ▸ htogether.1
  · exact absurd hline List.not_mem_nil

/-- With its step a thread has finished the calls of the lines that it writes. -/
private theorem finished_step (t : Nat) (timestamp : Bytes) (s : LogState) (th : LogThread) :
    (th.step t timestamp s).finished.filterMap LogOutcome.line =
      th.finished.filterMap LogOutcome.line ++ th.writes := by
  have hnone (h : ∀ line started, th.call ≠ some (.formatted line started)) : th.writes = [] := by
    unfold LogThread.writes
    split
    · next line started hcall => exact absurd hcall (h line started)
    · rfl
  unfold LogThread.step
  split
  · next record started hcall =>
    rw [hnone (by rw [hcall]; exact nofun), List.append_nil]
  · next line started hcall =>
    have hwrites : th.writes = [line] := by
      unfold LogThread.writes
      rw [hcall]
    rw [hwrites, List.filterMap_append]
    rfl
  · next hcall =>
    rw [hnone (by rw [hcall]; exact nofun), List.append_nil]
    split
    · rfl
    · unfold LogThread.check
      split
      · rw [List.filterMap_append]
        exact List.append_nil _
      · rfl
    · rw [(instr_frame _ _).2.2]

theorem LogOk.thread (h : LogOk programs files ops s) (t : Nat) (timestamp : Bytes) :
    LogOk programs files (ops ++ [.thread t timestamp]) (s.exec (.thread t timestamp)) := by
  have hown : ∀ line ∈ (s.threads t).writes, line.tid = t := fun line => (h.threads t).tid_of_writes
  constructor
  · rw [List.foldl_append, h.state]
    rfl
  · show s.time + 1 = _
    rw [h.time, List.length_append]
    rfl
  · intro t'
    by_cases ht : t' = t
    · subst ht
      simp only [LogState.exec, LogState.apply, Function.update_self]
      exact (h.threads t').step h.state h.time _ rfl
    · simp only [LogState.exec, LogState.apply, Function.update_of_ne ht]
      exact (h.threads t').concat _
  · intro t'
    show (s.written ++ (s.threads t).writes).filter (fun line => line.tid = t') = _
    rw [List.filter_append, h.written t']
    by_cases ht : t' = t
    · subst ht
      simp only [LogState.exec, LogState.apply, Function.update_self]
      rw [finished_step, List.filter_eq_self.2 fun line hline => decide_eq_true (hown line hline)]
    · simp only [LogState.exec, LogState.apply, Function.update_of_ne ht]
      rw [List.filter_eq_nil_iff.2, List.append_nil]
      intro line hline htid
      exact ht ((of_decide_eq_true htid).symm.trans (hown line hline))
  · show Shows _ [] (s.console ++ if s.consoleEnabled then unlines ((s.threads t).writes.map LogLine.text) else [])
    split
    · exact h.console.append _
    · rw [List.append_nil]
      exact h.console.keep _
  · intro path
    cases hopen : s.outputFile with
    | none =>
      simp only [LogState.exec, LogState.apply, LogState.write, hopen]
      exact (h.files path).keep _
    | some path' =>
      simp only [LogState.exec, LogState.apply, LogState.write, hopen]
      by_cases hpath : path = path'
      · subst hpath
        rw [Function.update_self]
        exact (h.files path).append _
      · rw [Function.update_of_ne hpath]
        exact (h.files path).keep _
  · intro hnever
    obtain ⟨henabled, hconsole⟩ := h.everything fun hmem => hnever (List.mem_append_left _ hmem)
    refine ⟨henabled, ?_⟩
    show s.console ++ (if s.consoleEnabled then _ else []) = unlines ((s.written ++ (s.threads t).writes).map _)
    rw [if_pos henabled, hconsole, List.map_append, unlines_append]

/-- **The step lemma.** -/
theorem LogOk.exec (h : LogOk programs files ops s) (op : LogOp) :
    LogOk programs files (ops ++ [op]) (s.exec op) := by
  have hstate : (ops ++ [op]).foldl LogState.exec (.start programs files) = s.exec op := by
    rw [List.foldl_append, h.state]
    rfl
  have htime : (s.exec op).time = (ops ++ [op]).length := by
    rw [List.length_append, ← h.time]
    rfl
  have hthreads := fun t => (h.threads t).concat op
  have hnever : .enableConsole false ∉ ops ++ [op] → .enableConsole false ∉ ops :=
    fun hnot hmem => hnot (List.mem_append_left _ hmem)
  cases op with
  | thread t timestamp => exact h.thread t timestamp
  | enableConsole enabled =>
    refine ⟨hstate, htime, hthreads, h.written, h.console, h.files, fun hnot => ⟨?_, (h.everything (hnever hnot)).2⟩⟩
    cases enabled with
    | true => rfl
    | false => exact absurd (List.mem_append_right _ List.mem_cons_self) hnot
  | setMinLevel level =>
    exact ⟨hstate, htime, hthreads, h.written, h.console, h.files, fun hnot => h.everything (hnever hnot)⟩
  | setOutputFile path opens =>
    exact ⟨hstate, htime, hthreads, h.written, h.console, h.files, fun hnot => h.everything (hnever hnot)⟩
  | setDefaultContext c =>
    exact ⟨hstate, htime, hthreads, h.written, h.console, h.files, fun hnot => h.everything (hnever hnot)⟩

end

end VehicleBridge
