import ClusterKit.WatcherPlugin

/-! The throttle and the anti-starvation cap of the file-watcher plugin. An observer notes
the calls of `restartWorkers()` and the first change that no flush has taken yet. -/

namespace ClusterKit

variable {o : WatchOptions} {p q : WatcherPlugin}

/-! ## What a step does to the variables -/

/-- The variables and the time after an action. -/
inductive SlotsStep (o : WatchOptions) (now : Nat) (v : FileWatcher) :
    WatcherAction → Nat → FileWatcher → Prop
  | tick (ms : Nat) : SlotsStep o now v (.tick ms) (now + ms) v
  | install (n : Nat) (failed : List WatchSource) (timer : Option Nat) (watching : Bool) :
    SlotsStep o now v (.install n failed) now
      { v.reopen with startDelayTimer := timer, watching := watching }
  | startDelay (failed : List WatchSource) (watching : Bool) :
    SlotsStep o now v (.startDelay failed) now
      { v with startDelayTimer := none, watching := watching }
  | lostStartDelay (timer : StartDelay) (failed : List WatchSource) (watching : Bool) :
    SlotsStep o now v (.lostStartDelay timer failed) now { v with watching := watching }
  | changed (handle : WatchHandle) (event : WatchEvent) :
    SlotsStep o now v (.changed handle event) now (v.changed o.toFileWatcherOptions now event)
  | flush (timer : FlushTimer) :
    SlotsStep o now v (.flush timer) now (v.flushRestart o.toFileWatcherOptions now)
  | teardown : SlotsStep o now v .teardown now v.teardown
  | closed (watchers : List WatchHandle) : SlotsStep o now v (.closed watchers) now v.tornDown
  | closeFailed (watchers : List WatchHandle) : SlotsStep o now v (.closeFailed watchers) now v

namespace WatcherPlugin

theorem startWatchers_slots (o : WatchOptions) (n : Nat) (failed : List WatchSource)
    (p : WatcherPlugin) :
    ∃ b, (p.startWatchers o n failed).slots = { p.slots with watching := b } := by
  unfold startWatchers
  split
  · exact ⟨p.slots.watching, rfl⟩
  · exact ⟨true, rfl⟩

theorem startWatchers_now (o : WatchOptions) (n : Nat) (failed : List WatchSource)
    (p : WatcherPlugin) : (p.startWatchers o n failed).now = p.now := by
  unfold startWatchers
  split <;> rfl

theorem install_now (o : WatchOptions) (n : Nat) (failed : List WatchSource)
    (p : WatcherPlugin) : (p.install o n failed).now = p.now := by
  unfold install
  simp only
  split
  · rfl
  · exact startWatchers_now _ _ _ _

theorem install_slots (o : WatchOptions) (n : Nat) (failed : List WatchSource)
    (p : WatcherPlugin) : ∃ timer b, (p.install o n failed).slots =
      { p.slots.reopen with startDelayTimer := timer, watching := b } := by
  unfold install
  simp only
  split
  · exact ⟨_, _, rfl⟩
  · obtain ⟨b, hb⟩ := startWatchers_slots o n failed
      { p.modify FileWatcher.reopen with installation := n }
    exact ⟨_, b, hb⟩

/-- **Step lemma.** -/
theorem act_slots {a : WatcherAction} (h : p.act o a = some q) :
    SlotsStep o p.now p.slots a q.now q.slots := by
  cases a with
  | tick ms =>
    cases h
    exact .tick ms
  | install n failed =>
    simp only [act, Option.ite_none_left_eq_some, Option.some.injEq] at h
    obtain ⟨-, rfl⟩ := h
    obtain ⟨timer, b, hslots⟩ := install_slots o n failed p
    rw [install_now, hslots]
    exact .install n failed timer b
  | startDelay failed =>
    simp only [act, Option.ite_none_right_eq_some, Option.some.injEq] at h
    obtain ⟨-, rfl⟩ := h
    obtain ⟨b, hslots⟩ := startWatchers_slots o p.installation failed
      (p.modify fun v => { v with startDelayTimer := none })
    rw [startWatchers_now, hslots]
    exact .startDelay failed b
  | lostStartDelay timer failed =>
    simp only [act, Option.ite_none_right_eq_some, Option.some.injEq] at h
    obtain ⟨-, rfl⟩ := h
    obtain ⟨b, hslots⟩ := startWatchers_slots o timer.installation failed
      { p with lostStartDelays := p.lostStartDelays.erase timer }
    rw [startWatchers_now, hslots]
    exact .lostStartDelay timer failed b
  | changed handle event =>
    simp only [act, Option.ite_none_right_eq_some, Option.some.injEq] at h
    obtain ⟨-, rfl⟩ := h
    exact .changed handle event
  | flush timer =>
    simp only [act, Option.ite_none_right_eq_some, Option.some.injEq] at h
    obtain ⟨-, rfl⟩ := h
    exact .flush timer
  | teardown =>
    cases h
    exact .teardown
  | closed watchers =>
    simp only [act, Option.ite_none_right_eq_some, Option.some.injEq] at h
    obtain ⟨-, rfl⟩ := h
    exact .closed watchers
  | closeFailed watchers =>
    simp only [act, Option.ite_none_right_eq_some, Option.some.injEq] at h
    obtain ⟨-, rfl⟩ := h
    exact .closeFailed watchers

end WatcherPlugin

/-! ## Changes and flushes -/

/-- The event makes its handler call `triggerRestart`. -/
def WatchEvent.triggers : WatchEvent → Bool
  | .envFile none => false
  | _ => true

namespace FileWatcher

variable (f : FileWatcherOptions) (now : Nat) (v : FileWatcher)

/-- A flush leaves what is pending for the trailing timer. -/
def keepsPending : Bool := !f.dryRun && v.throttled f now

/-- **Spec of `changed`.** -/
theorem changed_cases (event : WatchEvent) :
    event.triggers = false ∧ v.changed f now event = v ∨
      ∃ reason env, event.triggers = true ∧
        v.changed f now event = v.triggerRestart f now reason env := by
  cases event with
  | file => exact .inr ⟨f.reason.getD "file-change", none, rfl, rfl⟩
  | envFile parsed =>
    cases parsed with
    | none => exact .inl ⟨rfl, rfl⟩
    | some parsed => exact .inr ⟨f.reason.getD "env-change", some parsed, rfl, rfl⟩
  | processEnv env => exact .inr ⟨f.reason.getD "env-change", some env, rfl, rfl⟩

/-- **Spec of `flushRestart`.** A flush is dry, or leaves its change to the trailing timer,
or calls. -/
theorem flush_cases :
    f.dryRun = true ∧ v.keepsPending f now = false ∧ v.flushCall f now = none ∧
        v.flushRestart f now =
          { v.clearFlushTimers with pendingReason := none, pendingEnv := none } ∨
      f.dryRun = false ∧ v.keepsPending f now = true ∧ v.flushCall f now = none ∧
        now - v.lastRestartAt < f.minRestartIntervalMs ∧
        v.flushRestart f now = { v.clearFlushTimers with
          trailingTimer := some (now + (f.minRestartIntervalMs - (now - v.lastRestartAt))) } ∨
      f.dryRun = false ∧ v.keepsPending f now = false ∧ (v.flushCall f now).isSome = true ∧
        f.minRestartIntervalMs ≤ now - v.lastRestartAt ∧
        v.flushRestart f now = { v.clearFlushTimers with
          pendingReason := none, pendingEnv := none, lastRestartAt := now } := by
  have hsame : v.clearFlushTimers.throttled f now = v.throttled f now := rfl
  unfold flushRestart flushCall keepsPending
  simp only [hsame]
  cases hdry : f.dryRun with
  | true => exact .inl ⟨rfl, rfl, rfl, rfl⟩
  | false =>
    cases ht : v.throttled f now with
    | true =>
      have hlt : now - v.lastRestartAt < f.minRestartIntervalMs := by
        simp only [throttled, Bool.and_eq_true, decide_eq_true_eq] at ht
        exact ht.2
      exact .inr (.inl ⟨rfl, rfl, rfl, hlt, rfl⟩)
    | false =>
      have hle : f.minRestartIntervalMs ≤ now - v.lastRestartAt := by
        simp only [throttled, Bool.and_eq_false_iff, decide_eq_false_iff_not] at ht
        omega
      exact .inr (.inr ⟨rfl, rfl, rfl, hle, rfl⟩)

end FileWatcher

/-! ## In every reachable state -/

/-- A restart lies in the past, and the max-wait timer was armed no later than now. -/
structure Timely (o : WatchOptions) (now : Nat) (v : FileWatcher) : Prop where
  past : v.lastRestartAt ≤ now
  maxWait : ∀ deadline ∈ v.maxWaitTimer, deadline ≤ now + o.debounceMaxWaitMs

/-- **Step lemma.** -/
theorem SlotsStep.timely {a : WatcherAction} {now now' : Nat} {v v' : FileWatcher}
    (h : SlotsStep o now v a now' v') (hv : Timely o now v) : Timely o now' v' := by
  obtain ⟨hpast, hmax⟩ := hv
  cases h with
  | tick ms =>
    refine ⟨by omega, ?_⟩
    intro deadline hd
    have hle := hmax deadline hd
    omega
  | install n failed timer watching => exact ⟨Nat.zero_le _, hmax⟩
  | startDelay failed watching => exact ⟨hpast, hmax⟩
  | lostStartDelay timer failed watching => exact ⟨hpast, hmax⟩
  | changed handle event =>
    obtain ⟨-, heq⟩ | ⟨reason, env, -, heq⟩ := v.changed_cases o.toFileWatcherOptions now event
    · rw [heq]
      exact ⟨hpast, hmax⟩
    · rw [heq]
      refine ⟨hpast, ?_⟩
      intro deadline hd
      simp only [FileWatcher.triggerRestart] at hd
      split at hd
      · simp only [Option.mem_def, Option.some.injEq] at hd
        omega
      · exact hmax deadline hd
  | flush timer =>
    obtain ⟨-, -, -, heq⟩ | ⟨-, -, -, -, heq⟩ | ⟨-, -, -, -, heq⟩ :=
      v.flush_cases o.toFileWatcherOptions now
    · rw [heq]
      exact ⟨hpast, by intro _ hd; cases hd⟩
    · rw [heq]
      exact ⟨hpast, by intro _ hd; cases hd⟩
    · rw [heq]
      exact ⟨le_refl _, by intro _ hd; cases hd⟩
  | teardown => exact ⟨hpast, hmax⟩
  | closed watchers => exact ⟨hpast, by intro _ hd; cases hd⟩
  | closeFailed watchers => exact ⟨hpast, hmax⟩

theorem reachable_timely (h : (watcherPlugin o).Reachable p) : Timely o p.now p.slots := by
  have hinit : Timely o 0 {} := ⟨le_refl _, by intro _ hd; cases hd⟩
  refine h.induct (P := fun x => Timely o x.now x.slots) hinit ?_
  intro x a y hx hs
  exact (WatcherPlugin.act_slots hs).timely hx

/-! ## From an installation to a teardown -/

/-- What an observer notes from an installation on. -/
structure WatchNotes where
  /-- The times of the calls of `restartWorkers()`, newest first. -/
  calls : List Nat := []
  /-- When the first change was seen that no flush has taken. -/
  firstSeen : Option Nat := none

def WatchNotes.note (o : WatchOptions) (now : Nat) (v : FileWatcher) (w : WatchNotes) :
    WatcherAction → WatchNotes
  | .changed _ event =>
    if event.triggers then { w with firstSeen := w.firstSeen.or (some now) } else w
  | .flush _ =>
    { calls := if (v.flushCall o.toFileWatcherOptions now).isSome then now :: w.calls else w.calls
      firstSeen := if v.keepsPending o.toFileWatcherOptions now then w.firstSeen else none }
  | _ => w

/-- Neither an installation nor any part of a teardown. -/
def WatcherAction.whileInstalled : WatcherAction → Bool
  | .install _ _ | .teardown | .closed _ | .closeFailed _ => false
  | _ => true

/-- A later call keeps its distance from the one before. -/
def KeepsDistance (o : WatchOptions) (later earlier : Nat) : Prop :=
  earlier + o.minRestartIntervalMs ≤ later

/-- A change first seen at `t0` will be flushed in time: the max-wait timer is armed for it,
or a throttled flush has handed it to the trailing timer. -/
def InTime (o : WatchOptions) (v : FileWatcher) (t0 : Nat) : Prop :=
  (∃ deadline ∈ v.maxWaitTimer, deadline ≤ t0 + o.debounceMaxWaitMs) ∨
    ∃ deadline ∈ v.trailingTimer, deadline ≤ v.lastRestartAt + o.minRestartIntervalMs

/-- The invariant from an installation on. -/
structure Paced (o : WatchOptions) (now : Nat) (v : FileWatcher) (w : WatchNotes) : Prop where
  timely : Timely o now v
  last : ∀ t ∈ w.calls.head?, t = v.lastRestartAt
  spaced : w.calls.IsChain (KeepsDistance o)
  inTime : 0 < o.debounceMaxWaitMs → ∀ t0 ∈ w.firstSeen, InTime o v t0

namespace Paced

variable {now : Nat} {v : FileWatcher} {w : WatchNotes}

theorem changed (h : Paced o now v w) (reason : String) (env : Option ProcessEnv) :
    ∀ (_ : 0 < o.debounceMaxWaitMs), ∀ t0 ∈ w.firstSeen.or (some now),
      InTime o (v.triggerRestart o.toFileWatcherOptions now reason env) t0 := by
  intro hwait t0 ht0
  cases hfirst : w.firstSeen with
  | some t =>
    rw [hfirst, Option.some_or, Option.mem_def, Option.some.injEq] at ht0
    subst ht0
    -- the timer that was armed for the first change stays
    obtain ⟨deadline, hd, hle⟩ | htrailing := h.inTime hwait t (by rw [hfirst]; rfl)
    · refine .inl ⟨deadline, ?_, hle⟩
      simp only [FileWatcher.triggerRestart]
      rw [if_neg]
      · exact hd
      · rw [Option.mem_def.mp hd]
        simp
    · exact .inr htrailing
  | none =>
    rw [hfirst, Option.none_or, Option.mem_def, Option.some.injEq] at ht0
    subst ht0
    left
    simp only [FileWatcher.triggerRestart]
    cases hmax : v.maxWaitTimer with
    | none => exact ⟨_, if_pos ⟨hwait, rfl⟩, le_refl _⟩
    | some deadline => exact ⟨deadline, if_neg (by simp), h.timely.maxWait deadline hmax⟩

theorem called (h : Paced o now v w) (hfree : o.minRestartIntervalMs ≤ now - v.lastRestartAt) :
    (now :: w.calls).IsChain (KeepsDistance o) := by
  cases hcalls : w.calls with
  | nil => exact .singleton _
  | cons t rest =>
    have ht : t = v.lastRestartAt := h.last t (by rw [hcalls]; rfl)
    have hpast := h.timely.past
    refine .cons_cons ?_ (hcalls ▸ h.spaced)
    unfold KeepsDistance
    omega

/-- **Step lemma.** -/
theorem step {a : WatcherAction} {now' : Nat} {v' : FileWatcher} (h : Paced o now v w)
    (ha : a.whileInstalled = true) (hs : SlotsStep o now v a now' v') :
    Paced o now' v' (w.note o now v a) := by
  have htimely := hs.timely h.timely
  cases hs with
  | tick ms => exact ⟨htimely, h.last, h.spaced, h.inTime⟩
  | install n failed timer watching => cases ha
  | startDelay failed watching => exact ⟨htimely, h.last, h.spaced, h.inTime⟩
  | lostStartDelay timer failed watching => exact ⟨htimely, h.last, h.spaced, h.inTime⟩
  | changed handle event =>
    simp only [WatchNotes.note]
    obtain ⟨hno, heq⟩ | ⟨reason, env, hyes, heq⟩ :=
      v.changed_cases o.toFileWatcherOptions now event
    · rw [hno, heq]
      exact h
    · rw [heq] at htimely ⊢
      rw [if_pos hyes]
      exact ⟨htimely, h.last, h.spaced, h.changed reason env⟩
  | flush timer =>
    simp only [WatchNotes.note]
    obtain ⟨-, hkeep, hcall, heq⟩ | ⟨-, hkeep, hcall, hlt, heq⟩ | ⟨-, hkeep, hcall, hfree, heq⟩ :=
      v.flush_cases o.toFileWatcherOptions now
    · rw [heq] at htimely ⊢
      rw [hkeep, hcall]
      exact ⟨htimely, h.last, h.spaced, by intro _ t0 ht0; cases ht0⟩
    · rw [heq] at htimely ⊢
      rw [hkeep, hcall]
      refine ⟨htimely, h.last, h.spaced, ?_⟩
      intro _ t0 _
      have hpast := h.timely.past
      exact .inr ⟨_, rfl, by show _ ≤ v.lastRestartAt + _; omega⟩
    · rw [heq] at htimely ⊢
      rw [hkeep, if_pos hcall]
      refine ⟨htimely, ?_, h.called hfree, by intro _ t0 ht0; cases ht0⟩
      intro t ht
      exact (Option.some.inj ht).symm
  | teardown => cases ha
  | closed watchers => cases ha
  | closeFailed watchers => cases ha

end Paced

/-- A plugin with an observer of its calls and changes. -/
def watchedPlugin (o : WatchOptions) : StepSystem (WatcherPlugin × WatchNotes) WatcherAction :=
  (watcherPlugin o).observed {} fun p a _ w => w.note o p.now p.slots a

theorem installed_paced {n : Nat} {failed : List WatchSource}
    (hp : (watcherPlugin o).Reachable p) (hq : p.act o (.install n failed) = some q)
    {y : WatcherPlugin × WatchNotes}
    (hrun : (watchedPlugin o).Run (fun _ a => a.whileInstalled = true) (q, {}) y) :
    Paced o y.1.now y.1.slots y.2 := by
  refine hrun.preserves (P := fun x => Paced o x.1.now x.1.slots x.2) ?_ ?_
  · intro x a z hx ha hs
    obtain ⟨hact, hnote⟩ := StepSystem.observed_step hs
    rw [hnote]
    exact hx.step ha (WatcherPlugin.act_slots hact)
  · have htimely := (WatcherPlugin.act_slots hq).timely (reachable_timely hp)
    refine ⟨htimely, ?_, .nil, ?_⟩
    · intro t ht
      cases ht
    · intro _ t0 ht0
      cases ht0

theorem InTime.armed {v : FileWatcher} {t0 : Nat} (h : InTime o v t0) :
    ∃ deadline ∈ v.flushTimers, deadline ≤
      max (t0 + o.debounceMaxWaitMs) (v.lastRestartAt + o.minRestartIntervalMs) := by
  unfold FileWatcher.flushTimers
  obtain ⟨deadline, hd, hle⟩ | ⟨deadline, hd, hle⟩ := h
  · refine ⟨deadline, ?_, le_max_of_le_left hle⟩
    simp only [List.mem_append, Option.mem_toList]
    exact .inl (.inr hd)
  · refine ⟨deadline, ?_, le_max_of_le_right hle⟩
    simp only [List.mem_append, Option.mem_toList]
    exact .inr hd

/-- From any installation until a teardown begins, calls of `restartWorkers()` keep their
distance, and a pending change never waits past its cap or the end of the throttle. -/
theorem restarts_paced_and_never_starved (o : WatchOptions) {p q : WatcherPlugin}
    (hp : (watcherPlugin o).Reachable p) {n : Nat} {failed : List WatchSource}
    (hq : p.act o (.install n failed) = some q) {y : WatcherPlugin × WatchNotes}
    (hrun : (watchedPlugin o).Run (fun _ a => a.whileInstalled = true) (q, {}) y) :
    y.2.calls.IsChain (fun later earlier => earlier + o.minRestartIntervalMs ≤ later) ∧
      (0 < o.debounceMaxWaitMs → ∀ t0, y.2.firstSeen = some t0 →
        ∃ deadline ∈ y.1.slots.flushTimers, deadline ≤
          max (t0 + o.debounceMaxWaitMs) (y.1.slots.lastRestartAt + o.minRestartIntervalMs)) := by
  have h := installed_paced hp hq hrun
  refine ⟨h.spaced, ?_⟩
  intro hwait t0 ht0
  exact (h.inTime hwait t0 ht0).armed

/-- A storm in `src`: the second flush is throttled. -/
def stormOptions : WatchOptions where
  watch := ["src"]
  debounceMaxWaitMs := 2000
  minRestartIntervalMs := 5000

def stormInstalled : WatcherPlugin :=
  { now := 1000000, slots := { watching := true }, installation := 1, watchers := [⟨1, .files⟩] }

def storm : List WatcherAction :=
  [.changed ⟨1, .files⟩ .file, .tick 300, .flush .debounce, .changed ⟨1, .files⟩ .file,
    .tick 300, .flush .debounce, .changed ⟨1, .files⟩ .file]

theorem restarts_paced_and_never_starved_storm :
    ∃ y : WatcherPlugin × WatchNotes,
      (y.2.calls.head? = some 1000300 ∧ y.2.firstSeen = some 1000300) ∧
      y.2.calls.IsChain (fun later earlier => earlier + 5000 ≤ later) ∧
      ∃ deadline ∈ y.1.slots.flushTimers,
        deadline ≤ max (1000300 + 2000) (y.1.slots.lastRestartAt + 5000) := by
  have hp : (watcherPlugin stormOptions).Reachable { now := 1000000 } :=
    .step .refl (a := .tick 1000000) rfl
  have hq : ({ now := 1000000 } : WatcherPlugin).act stormOptions (.install 1 []) =
      some stormInstalled := rfl
  obtain ⟨y, hrun, htest⟩ := StepSystem.exists_run_of_any (watchedPlugin stormOptions)
    (stormInstalled, {}) (fun _ a => a.whileInstalled) storm
    (fun y => decide (y.2.calls.head? = some 1000300 ∧ y.2.firstSeen = some 1000300))
    (by decide)
  have hnotes := of_decide_eq_true htest
  obtain ⟨hspaced, harmed⟩ := restarts_paced_and_never_starved stormOptions hp hq hrun
  exact ⟨y, hnotes, hspaced, harmed (by decide) 1000300 hnotes.2⟩

end ClusterKit
