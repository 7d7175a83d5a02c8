/-!
# Payment status

A pending payment may move to any status.  A terminal status is kept: seeing it again or seeing the
payment pending changes nothing, and any other terminal status is refused.
-/

namespace MobileMoney

inductive PaymentStatus where
  | pending
  | succeeded
  | failed
  | cancelled
deriving DecidableEq

namespace PaymentStatus

def all : List PaymentStatus := [pending, succeeded, failed, cancelled]

def code : PaymentStatus → String
  | pending => "pending"
  | succeeded => "succeeded"
  | failed => "failed"
  | cancelled => "cancelled"

def ofCode? (code : String) : Option PaymentStatus :=
  all.find? (·.code = code)

def name : PaymentStatus → String
  | pending => "Pending"
  | succeeded => "Succeeded"
  | failed => "Failed"
  | cancelled => "Cancelled"

def isTerminal (status : PaymentStatus) : Bool :=
  status ≠ pending

structure InvalidTransition where
  source : PaymentStatus
  target : PaymentStatus
deriving DecidableEq

def InvalidTransition.message (refused : InvalidTransition) : String :=
  s!"cannot move payment from {refused.source.name} to {refused.target.name}"

/-- The status after another one has been observed. -/
def transition (current next : PaymentStatus) : Except InvalidTransition PaymentStatus :=
  if current = pending then .ok next
  else if next = current ∨ next = pending then .ok current
  else .error ⟨current, next⟩

end PaymentStatus

end MobileMoney
