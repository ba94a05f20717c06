import ImageWorker.Settings.Broker
import ImageWorker.Settings.Worker

/-!
# The settings of the worker pool
-/

namespace ImageWorker

/-- How the consumers of a pool pause, stop and meet fatal failures. -/
structure PoolSettings where
  fatalPolicy : FatalPolicy
  /-- The pause after a failed attempt to connect. -/
  reconnectDelay : Duration
  /-- The pause after a link was lost. -/
  channelClosedPause : Duration
  /-- How long the pool waits for its consumers, and then for cleanups, after shutdown. -/
  shutdownTimeout : Duration
  deriving DecidableEq, Repr

def BrokerSettings.forPool (s : BrokerSettings) (policy : FatalPolicy)
    (shutdownTimeout : Duration) : PoolSettings :=
  ⟨policy, s.reconnectDelay, s.channelClosedPause, shutdownTimeout⟩

end ImageWorker
