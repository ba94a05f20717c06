import ImageWorker.Broker.StatusPublisher

/-!
# The state that publishers share

Besides the place of the link and the two locks, the state knows which links were opened, which
have died and which were closed, and what was sent on each. The broker may refuse anything, and a
link may die at any time; only a link that works can carry a message.
-/

namespace ImageWorker

structure SharedLink where
  /-- What is in the place of the link. -/
  stored : Option LinkId
  established : Bool
  held : List PublisherLock
  /-- How many connections were opened. -/
  opened : Nat
  dead : List LinkId
  /-- The links that were passed to close. -/
  closed : List LinkId
  /-- What was sent, the latest first. -/
  sent : List (LinkId × Bytes)
  deriving DecidableEq, Repr

namespace SharedLink

/-- Before anything happened. -/
def initial : SharedLink := ⟨none, false, [], 0, [], [], []⟩

def isUsable (s : SharedLink) (link : LinkId) : Bool :=
  link < s.opened && !s.dead.contains link && !s.closed.contains link

/-- What is found in the place of the link. -/
def linkState (s : SharedLink) : LinkState :=
  match s.stored with
  | none => .missing
  | some link => if s.isUsable link then .usable link else .broken

def isHeld (s : SharedLink) (lock : PublisherLock) : Bool := s.held.contains lock

def AllowsBroker (s : SharedLink) : (r : LinkRequest) → r.Answer → SharedLink → Prop
  | .connect _, .ok link, s' => link = s.opened ∧ s' = { s with opened := s.opened + 1 }
  | .connect _, .error _, s' => s' = s
  | .openChannel link, .ok (), s' | .declareExchange link _, .ok (), s'
  | .declareQueue link _, .ok (), s' | .bindQueue link _ _ _, .ok (), s'
  | .limitPrefetch link, .ok (), s' | .consume link _, .ok _, s' => s.isUsable link ∧ s' = s
  | .openChannel _, .error _, s' | .declareExchange _ _, .error _, s'
  | .declareQueue _ _, .error _, s' | .bindQueue _ _ _ _, .error _, s'
  | .limitPrefetch _, .error _, s' | .consume _ _, .error _, s'
  | .publish _ _ _ _, .error _, s' => s' = s
  | .publish link _ _ payload, .ok (), s' =>
    s.isUsable link ∧ s' = { s with sent := (link, payload) :: s.sent }
  | .closeConnection link, _, s' | .close link, _, s' => s' = { s with closed := link :: s.closed }
  | .isUsable link, a, s' => a = s.isUsable link ∧ s' = s
  | .note _, _, s' => s' = s

/-- What may follow a question of a publisher. The place can only be observed while nobody holds
its lock, and a lock can only be taken while nobody holds it. -/
def Allows (s : SharedLink) : (r : PublisherRequest) → r.Answer → SharedLink → Prop
  | .broker r, a, s' => s.AllowsBroker r a s'
  | .observe, a, s' => s.isHeld .place = false ∧ a = s.linkState ∧ s' = s
  | .wasEstablished, a, s' => a = s.established ∧ s' = s
  | .setEstablished, _, s' => s' = { s with established := true }
  | .acquire lock, _, s' => s.isHeld lock = false ∧ s' = { s with held := lock :: s.held }
  | .release lock, _, s' => s' = { s with held := s.held.erase lock }
  | .replace link, a, s' => a = s.stored ∧ s' = { s with stored := some link }
  | .take, a, s' => a = s.stored ∧ s' = { s with stored := none }

def Dies (s s' : SharedLink) : Prop := ∃ link, s' = { s with dead := link :: s.dead }

end SharedLink

end ImageWorker
