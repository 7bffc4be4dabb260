import ClusterKit.WatcherThrottle

/-! Teardown and reinstallation of the file-watcher plugin. What survives a teardown is the
pending payload; when there is none, a reinstalled plugin cannot be told from a new one. -/

namespace ClusterKit

variable {o : WatchOptions} {p q : WatcherPlugin}

/-! ## What the plugin asks for -/

structure RestartCall where
  time : Nat
  opts : RestartOptions

namespace WatcherPlugin

/-- The calls of `restartWorkers()` while the plugin takes the actions, as far as they can
happen. -/
def calls (o : WatchOptions) : WatcherPlugin → List WatcherAction → List RestartCall
  | _, [] => []
  | p, a :: as =>
    match p.act o a with
    | none => []
    | some q => ((p.callOf o a).toList.map fun opts => ⟨p.now, opts⟩) ++ calls o q as

/-- A newly created plugin. -/
def created (now : Nat) : WatcherPlugin := { now := now }

/-- Installations follow complete teardowns that left no payload behind, watchers close, and
no flush calls while a teardown waits for them. -/
def cleanStep (o : WatchOptions) (p : WatcherPlugin) : WatcherAction → Bool
  | .install _ _ =>
    o.dryRun || (!p.slots.watching && p.slots.startDelayTimer.isNone && p.teardowns.isEmpty &&
      p.slots.pendingEnv.isNone)
  | .flush _ =>
    o.dryRun || p.teardowns.isEmpty || p.slots.throttled o.toFileWatcherOptions p.now
  | .closeFailed _ => o.dryRun
  | _ => true

/-! ## A dry run asks for nothing -/

theorem callOf_of_dryRun (hdry : o.dryRun = true) (p : WatcherPlugin) (a : WatcherAction) :
    p.callOf o a = none := by
  cases a with
  | flush timer =>
    simp only [callOf, FileWatcher.flushCall]
    rw [hdry]
    rfl
  | _ => rfl

theorem calls_of_dryRun (hdry : o.dryRun = true) (as : List WatcherAction) (p : WatcherPlugin) :
    p.calls o as = [] := by
  induction as generalizing p with
  | nil => rfl
  | cons a as ih =>
    rw [calls]
    split
    · rfl
    · rw [callOf_of_dryRun hdry, ih]
      rfl

/-! ## The reason of an earlier change -/

/-- Another pending reason. -/
def withReason (r : Option String) (p : WatcherPlugin) : WatcherPlugin :=
  p.modify fun v => { v with pendingReason := r }

theorem startWatchers_withReason (r : Option String) (n : Nat) (failed : List WatchSource)
    (p : WatcherPlugin) :
    (p.withReason r).startWatchers o n failed = (p.startWatchers o n failed).withReason r := by
  unfold startWatchers
  cases hclosed : p.slots.closed with
  | true =>
    rw [if_pos rfl, if_pos]
    exact hclosed
  | false =>
    rw [if_neg Bool.false_ne_true, if_neg]
    · rfl
    · rw [Bool.not_eq_true]
      exact hclosed

theorem install_withReason (r : Option String) (n : Nat) (failed : List WatchSource)
    (p : WatcherPlugin) :
    (p.withReason r).install o n failed = (p.install o n failed).withReason r := by
  unfold install
  simp only
  split
  · rfl
  · exact startWatchers_withReason r n failed
      { p.modify FileWatcher.reopen with installation := n }

/-- The two plugins make the same calls from here on: they are equal, or differ in a pending
reason that no armed flush can read. -/
def Alike (p q : WatcherPlugin) : Prop :=
  q = p ∨ ∃ r, q = p.withReason r ∧ p.slots.flushTimers = []

theorem Alike.now (h : Alike p q) : p.now = q.now := by
  obtain rfl | ⟨r, rfl, -⟩ := h <;> rfl

theorem flushTimer_of_nil {v : FileWatcher} (h : v.flushTimers = []) (timer : FlushTimer) :
    v.flushTimer timer = none := by
  simp only [FileWatcher.flushTimers, List.append_eq_nil_iff, Option.toList_eq_nil_iff] at h
  obtain ⟨⟨hdebounce, hmax⟩, htrailing⟩ := h
  cases timer with
  | debounce => exact hdebounce
  | maxWait => exact hmax
  | trailing => exact htrailing

theorem install_flushTimers (o : WatchOptions) (n : Nat) (failed : List WatchSource)
    (p : WatcherPlugin) :
    (p.install o n failed).slots.flushTimers = p.slots.flushTimers := by
  obtain ⟨timer, b, hslots⟩ := install_slots o n failed p
  rw [hslots]
  rfl

theorem startWatchers_flushTimers (o : WatchOptions) (n : Nat) (failed : List WatchSource)
    (p : WatcherPlugin) :
    (p.startWatchers o n failed).slots.flushTimers = p.slots.flushTimers := by
  obtain ⟨b, hslots⟩ := startWatchers_slots o n failed p
  rw [hslots]
  rfl

theorem alike_ite {c : Prop} [Decidable c] (h : c → Alike p q) :
    Option.Rel Alike (if c then some p else none) (if c then some q else none) := by
  split
  · rename_i hc
    exact .some (h hc)
  · exact .none

theorem Alike.changed {r : Option String} (htimers : p.slots.flushTimers = [])
    (f : FileWatcherOptions) (event : WatchEvent) :
    Alike (p.modify fun v => v.changed f p.now event)
      ((p.withReason r).modify fun v => v.changed f p.now event) := by
  cases event with
  | file => exact .inl rfl
  | envFile parsed =>
    cases parsed with
    | none => exact .inr ⟨r, rfl, htimers⟩
    | some parsed => exact .inl rfl
  | processEnv env => exact .inl rfl

/-- **Step lemma.** Alike plugins take the same actions and stay alike. -/
theorem Alike.act (h : Alike p q) (a : WatcherAction) :
    Option.Rel Alike (p.act o a) (q.act o a) := by
  obtain rfl | ⟨r, rfl, htimers⟩ := h
  · cases q.act o a with
    | none => exact .none
    | some q' => exact .some (.inl rfl)
  · cases a with
    | tick ms => exact .some (.inr ⟨r, rfl, htimers⟩)
    | install n failed =>
      simp only [WatcherPlugin.act]
      by_cases hn : n ∈ p.namesInUse
      · rw [if_pos hn, if_pos]
        · exact .none
        · exact hn
      · rw [if_neg hn, if_neg]
        · refine .some (.inr ⟨r, install_withReason r n failed p, ?_⟩)
          rw [install_flushTimers]
          exact htimers
        · exact hn
    | startDelay failed =>
      refine alike_ite fun _ => .inr ⟨r, ?_, ?_⟩
      · exact startWatchers_withReason r p.installation failed
          (p.modify fun v => { v with startDelayTimer := none })
      · rw [startWatchers_flushTimers]
        exact htimers
    | lostStartDelay timer failed =>
      refine alike_ite fun _ => .inr ⟨r, ?_, ?_⟩
      · exact startWatchers_withReason r timer.installation failed
          { p with lostStartDelays := p.lostStartDelays.erase timer }
      · rw [startWatchers_flushTimers]
        exact htimers
    | changed handle event => exact alike_ite fun _ => Alike.changed htimers _ event
    | flush timer =>
      -- no flush is armed
      have hdue : ¬p.due (p.slots.flushTimer timer) = true := by
        rw [flushTimer_of_nil htimers timer]
        exact Bool.false_ne_true
      simp only [WatcherPlugin.act]
      rw [if_neg hdue, if_neg]
      · exact .none
      · cases timer <;> exact hdue
    | teardown => exact .some (.inr ⟨r, rfl, htimers⟩)
    | closed watchers => exact alike_ite fun _ => .inr ⟨r, rfl, rfl⟩
    | closeFailed watchers => exact alike_ite fun _ => .inr ⟨r, rfl, htimers⟩

/-- Alike plugins call alike. -/
theorem Alike.callOf (h : Alike p q) {a : WatcherAction} (hs : (p.act o a).isSome = true) :
    p.callOf o a = q.callOf o a := by
  obtain rfl | ⟨r, rfl, htimers⟩ := h
  · rfl
  · cases a with
    | flush timer =>
      simp only [WatcherPlugin.act, flushTimer_of_nil htimers timer, due, Option.any_none,
        Bool.false_eq_true, if_false, Option.isSome_none] at hs
    | _ => rfl

/-- **Run lemma.** -/
theorem Alike.calls (h : Alike p q) (as : List WatcherAction) : p.calls o as = q.calls o as := by
  induction as generalizing p q with
  | nil => rfl
  | cons a as ih =>
    have hrel := h.act (o := o) a
    have hcall := h.callOf (o := o) (a := a)
    rw [WatcherPlugin.calls, WatcherPlugin.calls]
    generalize p.act o a = p' at hrel hcall ⊢
    generalize q.act o a = q' at hrel ⊢
    cases hrel with
    | none => rfl
    | some halike =>
      rw [hcall rfl, h.now]
      exact congrArg _ (ih halike)

/-! ## Complete teardowns -/

/-- Nothing runs and no flush is armed. -/
structure Idle (p : WatcherPlugin) : Prop where
  watchers : p.watchers = []
  poll : p.envPollInterval = none
  timers : p.slots.flushTimers = []
  settled : p.slots.tearingDown = false

/-- The invariant of clean runs. -/
structure Clean (p : WatcherPlugin) : Prop where
  lost : p.lost = []
  lostStartDelays : p.lostStartDelays = []
  /-- A teardown closes whatever runs. -/
  closes : ∀ watchers ∈ p.teardowns, ∀ handle ∈ p.watchers, handle ∈ watchers
  closed : p.slots.closed = false → p.teardowns = []
  delay : p.slots.closed = true → p.slots.startDelayTimer = none
  started : p.slots.watching = true → p.slots.startDelayTimer = none
  stopped : p.slots.closed = true → p.teardowns = [] → p.slots.watching = false
  idle : p.teardowns = [] → p.slots.watching = false → Idle p

theorem created_clean (now : Nat) : Clean (created now) where
  lost := rfl
  lostStartDelays := rfl
  closes := by
    intro watchers hmem
    cases hmem
  closed := fun _ => rfl
  delay := fun _ => rfl
  started := fun _ => rfl
  stopped := fun _ _ => rfl
  idle := fun _ _ => ⟨rfl, rfl, rfl, rfl⟩

theorem Idle.running (h : Idle p) (hlost : p.lost = []) : p.running = [] := by
  unfold WatcherPlugin.running
  rw [h.watchers, h.poll, hlost]
  rfl

/-- The first start of the watchers. -/
theorem Clean.startWatchers (h : Clean p) (hidle : Idle p) (ht : p.teardowns = [])
    (hdelay : p.slots.startDelayTimer = none) (n : Nat) (failed : List WatchSource) :
    Clean (p.startWatchers o n failed) := by
  unfold WatcherPlugin.startWatchers
  split
  · exact h
  · rename_i hclosed
    rw [Bool.not_eq_true] at hclosed
    refine ⟨?_, h.lostStartDelays, ?_, fun _ => ht, h.delay, fun _ => hdelay, ?_, ?_⟩
    · simp only [h.lost, hidle.poll]
      split <;> rfl
    · intro watchers hmem
      rw [ht] at hmem
      cases hmem
    · intro hyes
      rw [hclosed] at hyes
      cases hyes
    · intro _ hno
      cases hno

theorem Clean.install (h : Clean p) (hidle : Idle p) (ht : p.teardowns = [])
    (hw : p.slots.watching = false) (hdelay : p.slots.startDelayTimer = none) (n : Nat)
    (failed : List WatchSource) : Clean (p.install o n failed) := by
  have hreopened : Clean { p.modify FileWatcher.reopen with installation := n } := by
    refine ⟨h.lost, h.lostStartDelays, h.closes, fun _ => ht, ?_, fun _ => hdelay, ?_, ?_⟩
    · intro hclosed
      cases hclosed
    · intro hclosed
      cases hclosed
    · intro _ _
      exact ⟨hidle.watchers, hidle.poll, hidle.timers, hidle.settled⟩
  unfold WatcherPlugin.install
  simp only
  split
  · refine ⟨h.lost, ?_, h.closes, fun _ => ht, ?_, ?_, ?_, ?_⟩
    · show p.lostStartDelays ++ p.slots.startDelayTimer.toList.map _ = []
      rw [h.lostStartDelays, hdelay]
      rfl
    · intro hclosed
      cases hclosed
    · intro hyes
      exact absurd (hyes.symm.trans hw) (Bool.false_ne_true ∘ Eq.symm)
    · intro hclosed
      cases hclosed
    · intro _ _
      exact ⟨hidle.watchers, hidle.poll, hidle.timers, hidle.settled⟩
  · exact hreopened.startWatchers
      ⟨hidle.watchers, hidle.poll, hidle.timers, hidle.settled⟩ ht hdelay n failed

theorem Clean.tornDown (h : Clean p) {watchers : List WatchHandle}
    (hmem : watchers ∈ p.teardowns) : Clean (p.tornDown watchers) := by
  have hclosed : p.slots.closed = true := by
    cases hclosed : p.slots.closed with
    | true => rfl
    | false =>
      rw [h.closed hclosed] at hmem
      cases hmem
  refine ⟨?_, h.lostStartDelays, ?_, ?_, h.delay, fun _ => h.delay hclosed, fun _ _ => rfl,
    fun _ _ => ⟨rfl, rfl, rfl, rfl⟩⟩
  · -- whatever ran is among the closed watchers
    show (p.lost ++ p.watchers).filter _ = []
    rw [h.lost, List.nil_append, List.filter_eq_nil_iff]
    intro handle hrun
    simpa using h.closes watchers hmem handle hrun
  · intro _ _ handle hrun
    cases hrun
  · intro hopen
    rw [show (p.tornDown watchers).slots.closed = p.slots.closed from rfl, hclosed] at hopen
    cases hopen

/-- The variables that only installations and teardowns write. -/
structure SameLife (v v' : FileWatcher) : Prop where
  closed : v'.closed = v.closed
  watching : v'.watching = v.watching
  delay : v'.startDelayTimer = v.startDelayTimer

theorem changed_sameLife (f : FileWatcherOptions) (now : Nat) (v : FileWatcher)
    (event : WatchEvent) : SameLife v (v.changed f now event) := by
  obtain ⟨-, heq⟩ | ⟨reason, env, -, heq⟩ := v.changed_cases f now event <;>
    rw [heq] <;> exact ⟨rfl, rfl, rfl⟩

theorem flushRestart_sameLife (f : FileWatcherOptions) (now : Nat) (v : FileWatcher) :
    SameLife v (v.flushRestart f now) := by
  obtain ⟨-, -, -, heq⟩ | ⟨-, -, -, -, heq⟩ | ⟨-, -, -, -, heq⟩ := v.flush_cases f now <;>
    rw [heq] <;> exact ⟨rfl, rfl, rfl⟩

theorem Clean.modify (h : Clean p) {f : FileWatcher → FileWatcher}
    (hsame : SameLife p.slots (f p.slots)) (hbusy : ¬Idle p) : Clean (p.modify f) := by
  refine ⟨h.lost, h.lostStartDelays, h.closes, ?_, ?_, ?_, ?_, ?_⟩
  · intro hclosed
    exact h.closed (hsame.closed ▸ hclosed)
  · intro hclosed
    exact hsame.delay.trans (h.delay (hsame.closed ▸ hclosed))
  · intro hw
    exact hsame.delay.trans (h.started (hsame.watching ▸ hw))
  · intro hclosed ht
    exact hsame.watching.trans (h.stopped (hsame.closed ▸ hclosed) ht)
  · intro ht hw
    exact absurd (h.idle ht (hsame.watching ▸ hw)) hbusy

/-- The start delay is over. -/
theorem Clean.startDelay (h : Clean p) (hdue : p.due p.slots.startDelayTimer = true) (n : Nat)
    (failed : List WatchSource) :
    Clean ((p.modify fun v => { v with startDelayTimer := none }).startWatchers o n failed) := by
  have hopen : p.slots.closed = false := by
    cases hclosed : p.slots.closed with
    | false => rfl
    | true =>
      rw [h.delay hclosed] at hdue
      cases hdue
  have hw : p.slots.watching = false := by
    cases hw : p.slots.watching with
    | false => rfl
    | true =>
      rw [h.started hw] at hdue
      cases hdue
  have ht := h.closed hopen
  have hidle := h.idle ht hw
  have hfired : Clean (p.modify fun v => { v with startDelayTimer := none }) :=
    ⟨h.lost, h.lostStartDelays, h.closes, h.closed, fun _ => rfl, fun _ => rfl, h.stopped,
      fun _ _ => ⟨hidle.watchers, hidle.poll, hidle.timers, hidle.settled⟩⟩
  exact hfired.startWatchers ⟨hidle.watchers, hidle.poll, hidle.timers, hidle.settled⟩ ht rfl n
    failed

theorem Clean.teardown (h : Clean p) : Clean p.teardown := by
  have hwaits : p.teardowns ++ [p.watchers] ≠ [] :=
    List.append_ne_nil_of_right_ne_nil _ (List.cons_ne_nil _ _)
  refine ⟨h.lost, h.lostStartDelays, ?_, ?_, fun _ => rfl, fun _ => rfl, ?_, ?_⟩
  · intro watchers hmem handle hrun
    rcases List.mem_append.mp hmem with hmem | hmem
    · exact h.closes watchers hmem handle hrun
    · rw [List.mem_singleton.mp hmem]
      exact hrun
  · intro hclosed
    cases hclosed
  · intro _ ht
    exact absurd ht hwaits
  · intro ht
    exact absurd ht hwaits

/-- **Step lemma.** -/
theorem Clean.step (h : Clean p) (hdry : o.dryRun = false) {a : WatcherAction}
    (ha : p.cleanStep o a = true) (hs : p.act o a = some q) : Clean q := by
  cases a with
  | tick ms =>
    cases hs
    exact ⟨h.lost, h.lostStartDelays, h.closes, h.closed, h.delay, h.started, h.stopped,
      fun ht hw => ⟨(h.idle ht hw).watchers, (h.idle ht hw).poll, (h.idle ht hw).timers,
        (h.idle ht hw).settled⟩⟩
  | install n failed =>
    simp only [act, Option.ite_none_left_eq_some, Option.some.injEq] at hs
    obtain ⟨-, rfl⟩ := hs
    simp only [cleanStep, hdry, Bool.false_or, Bool.and_eq_true, Bool.not_eq_true',
      Option.isNone_iff_eq_none, List.isEmpty_iff] at ha
    obtain ⟨⟨⟨hw, hdelay⟩, ht⟩, -⟩ := ha
    exact h.install (h.idle ht hw) ht hw hdelay n failed
  | startDelay failed =>
    simp only [act, Option.ite_none_right_eq_some, Option.some.injEq] at hs
    obtain ⟨hdue, rfl⟩ := hs
    exact h.startDelay hdue p.installation failed
  | lostStartDelay timer failed =>
    simp only [act, Option.ite_none_right_eq_some, h.lostStartDelays, List.not_mem_nil,
      false_and] at hs
  | changed handle event =>
    simp only [act, Option.ite_none_right_eq_some, Option.some.injEq] at hs
    obtain ⟨⟨hrun, -⟩, rfl⟩ := hs
    refine h.modify (changed_sameLife _ _ _ _) ?_
    intro hidle
    rw [hidle.running h.lost] at hrun
    cases hrun
  | flush timer =>
    simp only [act, Option.ite_none_right_eq_some, Option.some.injEq] at hs
    obtain ⟨hdue, rfl⟩ := hs
    refine h.modify (flushRestart_sameLife _ _ _) ?_
    intro hidle
    rw [flushTimer_of_nil hidle.timers timer] at hdue
    cases hdue
  | teardown =>
    cases hs
    exact h.teardown
  | closed watchers =>
    simp only [act, Option.ite_none_right_eq_some, Option.some.injEq] at hs
    obtain ⟨hmem, rfl⟩ := hs
    exact h.tornDown hmem
  | closeFailed watchers =>
    simp only [cleanStep, hdry] at ha
    cases ha

theorem run_clean (hdry : o.dryRun = false) (now : Nat)
    (hrun : (watcherPlugin o).Run (fun p a => p.cleanStep o a = true) (created now) p) : Clean p :=
  hrun.preserves (fun _ _ _ hx ha hs => hx.step hdry ha hs) (created_clean now)

/-- An idle plugin with nothing but a reason left is installed as a new one. -/
theorem Clean.install_alike (h : Clean p) (hidle : Idle p) (ht : p.teardowns = [])
    (hw : p.slots.watching = false) (hdelay : p.slots.startDelayTimer = none)
    (henv : p.slots.pendingEnv = none) (n : Nat) (failed : List WatchSource) :
    Alike ((created p.now).install o n failed) (p.install o n failed) := by
  have hdebounce := flushTimer_of_nil hidle.timers .debounce
  have hmax := flushTimer_of_nil hidle.timers .maxWait
  have htrailing := flushTimer_of_nil hidle.timers .trailing
  obtain ⟨hwatchers, hpoll, -, hsettled⟩ := hidle
  obtain ⟨hlost, hdelays, -⟩ := h
  obtain ⟨now, slots, installation, watchers, poll, lost, delays, teardowns⟩ := p
  obtain ⟨delay, debounce, max, trailing, closed, reason, env, last, watching, tearing⟩ := slots
  dsimp only [FileWatcher.flushTimer] at *
  subst hdebounce hmax htrailing hwatchers hpoll hsettled hlost hdelays ht hw hdelay henv
  refine .inr ⟨reason, ?_, ?_⟩
  · unfold WatcherPlugin.install
    simp only
    split
    · rfl
    · rw [← startWatchers_withReason]
      rfl
  · rw [install_flushTimers]
    rfl

/-- While the plugin is closed it asks for nothing, and what it asks for after an installation
is what a new plugin would. -/
theorem clean_teardowns_seal (o : WatchOptions) (now : Nat)
    (hrun : (watcherPlugin o).Run (fun p a => p.cleanStep o a = true) (created now) p) :
    (∀ a, p.cleanStep o a = true → p.slots.closed = true → (p.act o a).isSome = true →
        p.callOf o a = none) ∧
      ∀ n failed, p.cleanStep o (.install n failed) = true → ∀ as,
        (p.install o n failed).calls o as = ((created p.now).install o n failed).calls o as := by
  cases hdry : o.dryRun with
  | true =>
    refine ⟨fun a _ _ _ => callOf_of_dryRun hdry p a, ?_⟩
    intro n failed _ as
    rw [calls_of_dryRun hdry, calls_of_dryRun hdry]
  | false =>
    have h := run_clean hdry now hrun
    constructor
    · intro a ha hclosed hs
      cases a with
      | flush timer =>
        simp only [cleanStep, hdry, Bool.false_or, Bool.or_eq_true, List.isEmpty_iff] at ha
        rcases ha with ht | hthrottled
        · -- a complete teardown has left no timer to fire
          have hidle := h.idle ht (h.stopped hclosed ht)
          simp only [act, flushTimer_of_nil hidle.timers timer, due, Option.any_none,
            Bool.false_eq_true, if_false, Option.isSome_none] at hs
        · simp only [callOf, FileWatcher.flushCall, hthrottled, Bool.or_true, if_true]
      | _ => rfl
    · intro n failed ha as
      simp only [cleanStep, hdry, Bool.false_or, Bool.and_eq_true, Bool.not_eq_true',
        Option.isNone_iff_eq_none, List.isEmpty_iff] at ha
      obtain ⟨⟨⟨hw, hdelay⟩, ht⟩, henv⟩ := ha
      exact ((h.install_alike (h.idle ht hw) ht hw hdelay henv n failed).calls as).symm

end WatcherPlugin

open WatcherPlugin

/-- Sources and a `.env` file are watched. -/
def watchedDir : WatchOptions where
  watch := ["src"]
  envFile := [".env"]

/-- An installation, a change reported by `source`, and a complete teardown. -/
def tornDownAfter (source : WatchSource) (event : WatchEvent) : List WatcherAction :=
  [.tick 1000000, .install 1 [], .changed ⟨1, source⟩ event, .teardown,
    .closed [⟨1, .files⟩, ⟨1, .envFiles⟩]]

def changeAndFlush : List WatcherAction :=
  [.changed ⟨2, .files⟩ .file, .tick 300, .flush .debounce]

/-- A pending file change leaves only its reason behind. -/
theorem clean_teardowns_seal_reinstall :
    ∃ p, (watcherPlugin watchedDir).Run (fun p a => p.cleanStep watchedDir a = true) (created 0) p ∧
      p.slots.pendingReason.isSome = true ∧
      ((p.install watchedDir 2 []).calls watchedDir changeAndFlush).length = 1 ∧
      (p.install watchedDir 2 []).calls watchedDir changeAndFlush =
        ((created p.now).install watchedDir 2 []).calls watchedDir changeAndFlush := by
  obtain ⟨p, hrun, htest⟩ := StepSystem.exists_run_of_any (watcherPlugin watchedDir) (created 0)
    (fun p a => p.cleanStep watchedDir a) (tornDownAfter .files .file)
    (fun p => p.cleanStep watchedDir (.install 2 []) && (p.slots.pendingReason.isSome &&
      decide (((p.install watchedDir 2 []).calls watchedDir changeAndFlush).length = 1)))
    (by decide)
  simp only [Bool.and_eq_true, decide_eq_true_eq] at htest
  obtain ⟨hclean, hreason, hone⟩ := htest
  exact ⟨p, hrun, hreason, hone,
    (clean_teardowns_seal watchedDir 0 hrun).2 2 [] hclean changeAndFlush⟩

/-- A flush timer fires while the teardown waits for the watchers; and a `.env` payload that
was pending at a complete teardown goes with the first restart after the reinstallation. -/
theorem teardown_lets_restarts_and_payloads_through :
    (∃ p, (watcherPlugin watchedDir).Reachable p ∧ p.slots.closed = true ∧
      (p.act watchedDir (.flush .debounce)).isSome = true ∧
      (p.callOf watchedDir (.flush .debounce)).isSome = true) ∧
    ∃ p, (watcherPlugin watchedDir).Reachable p ∧ p.slots.closed = true ∧ p.teardowns = [] ∧
      (p.install watchedDir 2 []).calls watchedDir changeAndFlush ≠
        ((created p.now).install watchedDir 2 []).calls watchedDir changeAndFlush := by
  constructor
  · obtain ⟨p, hp, htest⟩ := StepSystem.exists_reachable_of_any (watcherPlugin watchedDir)
      [.tick 1000000, .install 1 [], .changed ⟨1, .files⟩ .file, .teardown, .tick 300]
      (fun p => p.slots.closed && ((p.act watchedDir (.flush .debounce)).isSome &&
        (p.callOf watchedDir (.flush .debounce)).isSome))
      (by decide)
    simp only [Bool.and_eq_true] at htest
    exact ⟨p, hp, htest⟩
  · obtain ⟨p, hp, htest⟩ := StepSystem.exists_reachable_of_any (watcherPlugin watchedDir)
      (tornDownAfter .envFiles (.envFile (some fun _ => none)))
      (fun p => p.slots.closed && (p.teardowns.isEmpty && decide
        (((p.install watchedDir 2 []).calls watchedDir changeAndFlush).map (·.opts.env.isSome) ≠
          (((created p.now).install watchedDir 2 []).calls watchedDir changeAndFlush).map
            (·.opts.env.isSome))))
      (by decide)
    simp only [Bool.and_eq_true, decide_eq_true_eq, List.isEmpty_iff] at htest
    obtain ⟨hclosed, hnone, hne⟩ := htest
    refine ⟨p, hp, hclosed, hnone, ?_⟩
    intro heq
    rw [heq] at hne
    exact hne rfl

end ClusterKit
