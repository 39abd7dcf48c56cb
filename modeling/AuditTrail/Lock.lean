/-! The lock that the writers of a live log share with its rotations. Callers wait in order of
arrival. -/
namespace AuditTrail

structure Lock (α : Type) where
  holder : Option α := none
  queue : List α := []
  deriving DecidableEq, Repr

namespace Lock

variable {α : Type} [DecidableEq α]

def isFree (l : Lock α) : Bool := l.holder.isNone

def take? (who : α) (l : Lock α) : Option (Lock α) :=
  if l.isFree then some { l with holder := some who } else none

/-- Asks for the lock, and waits if it is held by another. -/
def request (who : α) (l : Lock α) : Lock α :=
  if l.isFree then { l with holder := some who }
  else if l.holder = some who ∨ who ∈ l.queue then l
  else { l with queue := l.queue ++ [who] }

def release (l : Lock α) : Lock α := ⟨l.queue.head?, l.queue.tail⟩

end Lock
end AuditTrail
