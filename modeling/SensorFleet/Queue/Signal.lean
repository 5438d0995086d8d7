/-!
Wake-up signals. A party that finds nothing to do parks; a notification for one wakes the party
parked longest or, if there is none, leaves a permit, of which there is at most one; a notification
for all wakes everyone parked and leaves nothing.
-/
namespace SensorFleet

/-- Whether a party was woken alone or with all others. -/
inductive Wake
  | one
  | all
deriving DecidableEq, Repr

/-- Who is parked, oldest first, and who was woken and has not run since. -/
structure Signal (ω : Type) where
  permit : Bool := false
  parked : List ω := []
  woken : List (ω × Wake) := []
deriving Repr, Inhabited

namespace Signal
variable {ω : Type}

def notifyOne (s : Signal ω) : Signal ω :=
  match s.parked with
  | [] => { s with permit := true }
  | w :: ws => { s with parked := ws, woken := (w, .one) :: s.woken }

def notifyAll (s : Signal ω) : Signal ω :=
  { s with parked := [], woken := s.parked.map (fun w => (w, Wake.all)) ++ s.woken }

/-- Parks a party that has just looked in vain; a permit left before that is used up. -/
def park (s : Signal ω) (who : ω) : Signal ω :=
  { s with permit := false, parked := s.parked ++ [who] }

variable [DecidableEq ω]

def isWoken (s : Signal ω) (who : ω) : Bool := s.woken.any fun w => w.1 = who

def isParked (s : Signal ω) (who : ω) : Bool := s.parked.any fun w => w = who

/-- A woken party runs again. -/
def resume (s : Signal ω) (who : ω) : Signal ω :=
  { s with woken := s.woken.filter fun w => w.1 ≠ who }

/-- A party goes away for good. If it alone had been woken, it passes the notification on. -/
def leave (s : Signal ω) (who : ω) : Signal ω :=
  let gone := { s.resume who with parked := s.parked.filter (· ≠ who) }
  if (who, Wake.one) ∈ s.woken then gone.notifyOne else gone

end Signal
end SensorFleet
