import ClusterKit.Lib.Observer

/-! The provider of the OTLP meter plugin: one slot and one latch, written around the awaited
shutdown of a provider. Installations, uninstallations and shutdowns overlap in any order. -/

namespace ClusterKit

/-- What waits for `provider.shutdown()`. -/
inductive ProviderCaller where
  | install
  /-- `uninstall()` or `shutdown()`; `created` providers were there when it began. -/
  | stop (created : Nat)
  deriving DecidableEq

structure ProviderShutdown where
  provider : Nat
  caller : ProviderCaller
  deriving DecidableEq

/-- Providers are numbered in the order they are created. -/
structure OtlpMeter where
  meterProvider : Option Nat := none
  isShutdown : Bool := false
  created : Nat := 0
  /-- The provider shutdowns that are awaited. -/
  stopping : List ProviderShutdown := []
  /-- Installations that go on after `shutdownProvider()`. -/
  resuming : Nat := 0
  /-- Installations that wait for their exporter. -/
  exporting : Nat := 0
  /-- Installations that wait for the host metrics, by their provider. -/
  hostMetrics : List Nat := []
  /-- *History*: the calls of `provider.shutdown()`, newest first, and those that rejected. -/
  shutdowns : List Nat := []
  rejected : List Nat := []

inductive OtlpAction where
  | install
  /-- The installation that waited for `shutdownProvider()` goes on. -/
  | resume
  | exporter
  | exporterFailed
  | hostMetrics (provider : Nat)
  | hostMetricsFailed (provider : Nat)
  | uninstall
  /-- `shutdown()`, also by the hook that `install` registers. -/
  | shutdown
  | stopped (wait : ProviderShutdown)
  | stopFailed (wait : ProviderShutdown)

namespace OtlpMeter

/-- `shutdownProvider()` up to its suspension; the wait is `none` when it returns at once. -/
def shutdownProvider (caller : ProviderCaller) (s : OtlpMeter) :
    OtlpMeter × Option ProviderShutdown :=
  match s.meterProvider with
  | none => (s, none)
  | some provider =>
    if s.isShutdown then (s, none)
    else
      ({ s with
          isShutdown := true
          shutdowns := provider :: s.shutdowns
          stopping := ⟨provider, caller⟩ :: s.stopping },
        some ⟨provider, caller⟩)

/-- `isShutdown = false` and the import of the exporter. -/
def openLatch (s : OtlpMeter) : OtlpMeter :=
  { s with isShutdown := false, exporting := s.exporting + 1 }

def install (s : OtlpMeter) : OtlpMeter :=
  match s.meterProvider with
  | none => s.openLatch
  | some _ =>
    match s.shutdownProvider .install with
    | (s, some _) => s
    | (s, none) => { s with resuming := s.resuming + 1 }

/-- The rest of `install` from the exporter on, up to the host metrics of a worker. -/
def createProvider (onWorker : Bool) (s : OtlpMeter) : OtlpMeter :=
  { s with
    meterProvider := some s.created
    created := s.created + 1
    exporting := s.exporting - 1
    hostMetrics := if onWorker then s.created :: s.hostMetrics else s.hostMetrics }

def uninstall (s : OtlpMeter) : OtlpMeter := (s.shutdownProvider (.stop s.created)).1

def shutdown (s : OtlpMeter) : OtlpMeter := (s.shutdownProvider (.stop s.created)).1

/-- The provider has shut down: the slot is cleared, whatever it holds. -/
def stopped (wait : ProviderShutdown) (s : OtlpMeter) : OtlpMeter :=
  { s with
    meterProvider := none
    stopping := s.stopping.erase wait
    resuming := if wait.caller = .install then s.resuming + 1 else s.resuming }

def stopFailed (wait : ProviderShutdown) (s : OtlpMeter) : OtlpMeter :=
  { s with stopping := s.stopping.erase wait, rejected := wait.provider :: s.rejected }

/-- `onWorker` says that host metrics are started: a worker with `instrumentation`. -/
def act (onWorker : Bool) (s : OtlpMeter) : OtlpAction → Option OtlpMeter
  | .install => some s.install
  | .resume =>
    if 0 < s.resuming then some { s.openLatch with resuming := s.resuming - 1 } else none
  | .exporter => if 0 < s.exporting then some (s.createProvider onWorker) else none
  | .exporterFailed =>
    if 0 < s.exporting then some { s with exporting := s.exporting - 1 } else none
  | .hostMetrics provider | .hostMetricsFailed provider =>
    if provider ∈ s.hostMetrics then
      some { s with hostMetrics := s.hostMetrics.erase provider }
    else none
  | .uninstall => some s.uninstall
  | .shutdown => some s.shutdown
  | .stopped wait => if wait ∈ s.stopping then some (s.stopped wait) else none
  | .stopFailed wait => if wait ∈ s.stopping then some (s.stopFailed wait) else none

/-- A new installation, uninstallation or shutdown finds no installation that waits for host
metrics, and no provider that could not be shut down behind an open latch; the latch is
reset while no shutdown is awaited; and a provider is created behind an open latch when the
one before is gone, or could not be shut down. -/
def inOrder (s : OtlpMeter) : OtlpAction → Bool
  | .install | .uninstall | .shutdown =>
    s.hostMetrics.isEmpty &&
      (s.isShutdown || s.meterProvider.all fun provider => decide (provider ∉ s.rejected))
  | .resume => !s.isShutdown || s.stopping.isEmpty
  | .exporter =>
    !s.isShutdown && s.meterProvider.all fun provider => decide (provider ∈ s.rejected)
  | _ => true

end OtlpMeter

/-- What an observer notes. -/
structure OtlpNotes where
  /-- The providers of the installations that have resolved since the last call began. -/
  installed : List Nat := []
  /-- Every provider with a smaller number was created before an uninstallation or a shutdown
  that has resolved. -/
  stopped : Nat := 0

namespace OtlpNotes

/-- The call of `uninstall()` or `shutdown()` that waits has resolved. -/
def resolved (w : OtlpNotes) : ProviderCaller → OtlpNotes
  | .install => w
  | .stop created => { w with stopped := max w.stopped created }

/-- `uninstall()` or `shutdown()` begins, and may return at once. -/
def begins (s : OtlpMeter) (w : OtlpNotes) : OtlpNotes :=
  match (s.shutdownProvider (.stop s.created)).2 with
  | none => { w with installed := [] }.resolved (.stop s.created)
  | some _ => { w with installed := [] }

def note (onWorker : Bool) (s : OtlpMeter) (a : OtlpAction) (_ : OtlpMeter) (w : OtlpNotes) :
    OtlpNotes :=
  match a with
  | .install => { w with installed := [] }
  | .uninstall | .shutdown => w.begins s
  | .exporter => if onWorker then w else { w with installed := s.created :: w.installed }
  | .hostMetrics provider => { w with installed := provider :: w.installed }
  | .stopped wait => w.resolved wait.caller
  | _ => w

end OtlpNotes

/-- The plugin with this observer. -/
def otlpMeter (onWorker : Bool) : StepSystem (OtlpMeter × OtlpNotes) OtlpAction :=
  StepSystem.observed ⟨{}, OtlpMeter.act onWorker⟩ {} (OtlpNotes.note onWorker)

end ClusterKit
