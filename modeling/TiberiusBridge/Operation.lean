import TiberiusBridge.Tds.Driver

/-!
# The guard around bridge I/O

An `Operation` is armed from construction until `complete`; dropped while armed
it marks the connection dead. `SessionReset` guards a reset the same way.
-/
namespace TiberiusBridge

variable [MssqlTds]

def connectionClosed : Error :=
  .tds (.connectionClosed "Connection is known dead; discard this Client and reconnect")

def ensureUsable (client : TdsClient) : Result Unit :=
  if client.dead then .error connectionClosed else .ok ()

structure Operation where
  armed : Bool
  deriving DecidableEq, Repr

namespace Operation

/-- `Operation::new`. -/
def new (client : TdsClient) : Result Operation := do
  ensureUsable client
  return { armed := true }

/-- `Drop` for `Operation`. -/
def drop (o : Operation) (client : TdsClient) : TdsClient :=
  if o.armed then client.markDead else client

/-- `complete` disarms the guard and drops it. -/
def complete (o : Operation) (client : TdsClient) : TdsClient :=
  drop { o with armed := false } client

@[simp] theorem complete_eq (o : Operation) (client : TdsClient) : o.complete client = client := rfl

theorem drop_armed {o : Operation} (h : o.armed = true) (client : TdsClient) :
    o.drop client = client.markDead := if_pos h

theorem new_dead {client : TdsClient} (h : client.dead = true) :
    new client = .error connectionClosed := by
  unfold new ensureUsable
  rw [h]
  rfl

theorem new_usable {client : TdsClient} (h : client.dead = false) :
    new client = .ok { armed := true } := by
  unfold new ensureUsable
  rw [h]
  rfl

/-- A constructed guard is armed, on a connection not known to be dead. -/
theorem new_ok {client : TdsClient} {o : Operation} (h : new client = .ok o) :
    o.armed = true ∧ client.dead = false := by
  cases hd : client.dead with
  | true => rw [new_dead hd] at h; cases h
  | false => rw [new_usable hd] at h; cases h; exact ⟨rfl, rfl⟩

end Operation

structure SessionReset where
  complete : Bool
  deriving DecidableEq, Repr

/-- `Drop` for `SessionReset`. -/
def SessionReset.drop (r : SessionReset) (client : TdsClient) : TdsClient :=
  if r.complete then client else client.markDead

theorem SessionReset.drop_incomplete {r : SessionReset} (h : r.complete = false)
    (client : TdsClient) : r.drop client = client.markDead := by
  unfold drop
  rw [h]
  rfl

theorem ensureUsable_dead {client : TdsClient} (h : client.dead = true) :
    ensureUsable client = .error connectionClosed := by simp [ensureUsable, h]

theorem ensureUsable_usable {client : TdsClient} (h : client.dead = false) :
    ensureUsable client = .ok () := by simp [ensureUsable, h]

end TiberiusBridge
