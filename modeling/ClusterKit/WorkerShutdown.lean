import ClusterKit.WorkerProcess
import Mathlib.Data.List.Chain
import Mathlib.Tactic.Common

/-! What one worker process does, over all its runs: its shutdown begins once, calls the
callbacks in order under one deadline, and ends the heartbeats. -/

namespace ClusterKit

namespace WorkerProcess

variable {cfg : ResolvedConfig} {now : Nat} {p q : WorkerProcess} {a : WorkerAction}

/-! ## What a step can do -/

theorem step_act (h : p.step cfg now a = some q) :
    p.ended = none ∧ (p.busy = true → interrupts a = true) ∧ p.act cfg now a = some q := by
  unfold step at h
  split at h
  · cases h
  · rename_i hguard
    simp only [Bool.or_eq_true, Bool.and_eq_true, Option.isSome_iff_ne_none, ne_eq,
      Bool.not_eq_true', not_or, not_not, not_and, Bool.not_eq_false] at hguard
    exact ⟨hguard.1, hguard.2, h⟩

/-- The shutdown of the process is where it was, unless something else ended the process. -/
structure Keeps (p q : WorkerProcess) : Prop where
  began : q.began = p.began
  inProgress : q.localShutdownInProgress = p.localShutdownInProgress
  frame : q.frame = p.frame
  calls : q.calls = p.calls
  exitTimer : q.exitTimer = p.exitTimer
  callbacks : p.shutdownCallbacks ≤ q.shutdownCallbacks
  listening : p.listening = true → q.listening = true
  notReady : p.localShutdownInProgress = true → p.ready = false → q.ready = false
  silent : p.localShutdownInProgress = true → p.reportTimer = none → q.reportTimer = none
  completed : q.ended ≠ some .shutdownComplete
  forced : q.ended ≠ some .forcedExit

/-- What a step does to the shutdown. -/
inductive ShutdownStep (cfg : ResolvedConfig) (now : Nat) (p : WorkerProcess) :
    WorkerProcess → Prop
  | kept (q : WorkerProcess) (h : Keeps p q) : ShutdownStep cfg now p q
  | begins (m : WorkerProcess) (signal : String) (h : Keeps p m) (hm : m.ended = none)
      (hl : m.listening = true) (hp : m.localShutdownInProgress = false) :
    ShutdownStep cfg now p (m.handleShutdown cfg now signal)
  | called (signal : String) (next registers : Nat) (frame : WorkerFrame)
      (hf : p.frame = .calling signal next) (hn : next < p.shutdownCallbacks)
      (hframe : frame = .calling signal (next + 1) ∨ frame = .awaiting signal (next + 1)) :
    ShutdownStep cfg now p { p with
      shutdownCallbacks := p.shutdownCallbacks + registers
      calls := p.calls ++ [(next, signal)], frame := frame }
  | finished (signal : String) (next : Nat) (hf : p.frame = .calling signal next)
      (hn : p.shutdownCallbacks ≤ next) : ShutdownStep cfg now p { p with frame := .returned }
  | settled (signal : String) (next : Nat) (hf : p.frame = .awaiting signal next) :
    ShutdownStep cfg now p { p with frame := .calling signal next }
  | through (hf : p.frame = .returned) :
    ShutdownStep cfg now p { p with exitTimer := none, ended := some .shutdownComplete }
  | forced (deadline : Nat) (ht : p.exitTimer = some deadline) (hd : deadline ≤ now) :
    ShutdownStep cfg now p { p with ended := some .forcedExit }

theorem Keeps.refl (hp : p.ended = none) : Keeps p p where
  began := rfl
  inProgress := rfl
  frame := rfl
  calls := rfl
  exitTimer := rfl
  callbacks := le_rfl
  listening h := h
  notReady _ h := h
  silent _ h := h
  completed := by simp [hp]
  forced := by simp [hp]

theorem Keeps.ends (p : WorkerProcess) {x : ProcessEnd} (connected : Bool)
    (hc : x ≠ .shutdownComplete) (hf : x ≠ .forcedExit) :
    Keeps p { p with connected := connected, ended := some x } where
  began := rfl
  inProgress := rfl
  frame := rfl
  calls := rfl
  exitTimer := rfl
  callbacks := le_rfl
  listening h := h
  notReady _ h := h
  silent _ h := h
  completed := by simpa using hc
  forced := by simpa using hf

theorem send_keeps (hp : p.ended = none) (msg : Message) : Keeps p (p.send now msg) := by
  unfold send
  split
  · exact { Keeps.refl hp with }
  · exact .refl hp

theorem send_ended (msg : Message) : (p.send now msg).ended = p.ended := by
  unfold send
  split <;> rfl

theorem send_listening (msg : Message) : (p.send now msg).listening = p.listening := by
  unfold send
  split <;> rfl

/-- `handleShutdown` begins the shutdown, or finds it begun and stops the heartbeat. -/
theorem handleShutdown_step {m : WorkerProcess} (h : Keeps p m) (hm : m.ended = none)
    (hl : m.listening = true) (signal : String) :
    ShutdownStep cfg now p (m.handleShutdown cfg now signal) := by
  cases hp : m.localShutdownInProgress with
  | false => exact .begins m signal h hm hl hp
  | true =>
    have hsame : m.handleShutdown cfg now signal = m.stopWorkerReporting := by
      simp [handleShutdown, stopWorkerReporting, hp]
    rw [hsame]
    exact .kept _ { h with silent := fun _ _ => rfl }

theorem report_keeps (hp : p.ended = none) (rss heapUsed : Int)
    (h : p.report cfg now rss heapUsed = some q) : Keeps p q := by
  unfold report at h
  split at h
  · cases h
  · rename_i due hdue
    split at h
    · cases h
      have hsilent : ¬ (p.localShutdownInProgress = true ∧ p.reportTimer = none) := by
        simp [hdue]
      unfold send
      split
      · exact { Keeps.refl hp with silent := fun hin hnone => absurd ⟨hin, hnone⟩ hsilent }
      · exact { Keeps.refl hp with silent := fun hin hnone => absurd ⟨hin, hnone⟩ hsilent }
    · cases h

theorem callNext_step {throws : Bool} {registers : Nat}
    (h : p.callNext throws registers = some q) : ShutdownStep cfg now p q := by
  unfold callNext at h
  split at h
  · rename_i signal next hf
    split at h
    · rename_i hn
      cases h
      refine .called signal next registers _ hf hn ?_
      cases throws with
      | false => exact .inr rfl
      | true => exact .inl rfl
    · cases h
  · cases h

theorem callsOver_step (h : p.callsOver = some q) : ShutdownStep cfg now p q := by
  unfold callsOver at h
  split at h
  · rename_i signal next hf
    split at h
    · cases h
    · rename_i hn
      cases h
      exact .finished signal next hf (by omega)
  · cases h

theorem callbackSettled_step (h : p.callbackSettled = some q) : ShutdownStep cfg now p q := by
  unfold callbackSettled at h
  split at h
  · rename_i signal next hf
    cases h
    exact .settled signal next hf
  · cases h

theorem callbacksReturned_step (h : p.callbacksReturned = some q) :
    ShutdownStep cfg now p q := by
  unfold callbacksReturned at h
  split at h
  · rename_i hf
    cases h
    exact .through hf
  · cases h

theorem exitElapsed_step (h : p.exitElapsed now = some q) : ShutdownStep cfg now p q := by
  unfold exitElapsed at h
  split at h
  · cases h
  · rename_i deadline ht
    split at h
    · rename_i hd
      cases h
      exact .forced deadline ht hd
    · cases h

theorem onSignal_step (hp : p.ended = none) (signal : Signal) :
    ShutdownStep cfg now p (p.onSignal cfg now signal) := by
  unfold onSignal
  split
  · rename_i hl
    rw [Bool.and_eq_true] at hl
    exact handleShutdown_step (.refl hp) hp hl.1 signal.name
  · exact .kept _ (Keeps.ends p p.connected (by simp) (by simp))

theorem onMessage_step (hp : p.ended = none) (hl : p.listening = true) (msg : Option Message) :
    ShutdownStep cfg now p (p.onMessage cfg now msg) := by
  unfold onMessage
  split
  · refine handleShutdown_step (send_keeps hp _) ?_ ?_ "IPC"
    · rw [send_ended, hp]
    · rw [send_listening, hl]
  · exact .kept _ (.refl hp)

/-- Every step is one of these, once a shutdown finds the listeners attached. -/
theorem act_shutdownStep (hp : p.ended = none)
    (hl : p.localShutdownInProgress = true → p.listening = true) (h : p.act cfg now a = some q) :
    ShutdownStep cfg now p q := by
  have hrefl : Keeps p p := .refl hp
  cases a with
  | run =>
    cases h
    split
    · rename_i hidle
      refine .kept _ { hrefl with listening := fun hs => ?_ }
      simp [listening, hidle] at hs
    · exact .kept _ hrefl
  | pluginsInstalled =>
    simp only [act] at h
    split at h
    · rename_i hphase
      cases h
      have hidle : p.localShutdownInProgress ≠ true := by
        intro hin
        simpa [listening, hphase] using hl hin
      unfold startWorkerReporting
      split
      · exact .kept _ { hrefl with listening := fun _ => rfl }
      · exact .kept _ { hrefl with
          listening := fun _ => rfl, silent := fun hin => absurd hin hidle }
    · cases h
  | pluginInstallFailed =>
    simp only [act] at h
    split at h
    · rename_i hphase
      cases h
      refine .kept _ { hrefl with listening := fun hs => ?_ }
      simp [listening, hphase] at hs
    · cases h
  | registerOnShutdown =>
    cases h
    exact .kept _ { hrefl with callbacks := Nat.le_succ _ }
  | setReady =>
    cases h
    split
    · exact .kept _ hrefl
    · rename_i hin
      exact .kept _ { hrefl with notReady := fun hin' => absurd hin' hin }
  | setNotReady =>
    cases h
    exact .kept _ { hrefl with notReady := fun _ _ => rfl }
  | applicationSends msg =>
    simp only [act] at h
    split at h
    · cases h
    · cases h
      exact .kept _ (send_keeps hp msg)
  | applicationEnds code =>
    cases h
    exact .kept _ (Keeps.ends p p.connected (by simp) (by simp))
  | message msg =>
    simp only [act] at h
    split at h
    · rename_i hguard
      cases h
      rw [Bool.and_eq_true] at hguard
      exact onMessage_step hp hguard.2 msg
    · cases h
  | signal signal =>
    cases h
    exact onSignal_step hp signal
  | disconnected asked =>
    simp only [act] at h
    split at h
    · cases h
      split
      · exact .kept _ { hrefl with }
      · exact .kept _ (Keeps.ends p false (by simp) (by simp))
    · cases h
  | report rss heapUsed => exact .kept _ (report_keeps hp rss heapUsed h)
  | callNext throws registers => exact callNext_step h
  | callsOver => exact callsOver_step h
  | callbackSettled => exact callbackSettled_step h
  | callbacksReturned => exact callbacksReturned_step h
  | exitElapsed => exact exitElapsed_step h

/-! ## The shutdown of one process -/

/-- The shutdown that `signal` began at `time`. -/
structure Begun (cfg : ResolvedConfig) (now : Nat) (signal : String) (time : Nat)
    (p : WorkerProcess) : Prop where
  inProgress : p.localShutdownInProgress = true
  listening : p.listening = true
  notReady : p.ready = false
  silent : p.reportTimer = none
  past : time ≤ now
  exitTimer : p.ended ≠ some .shutdownComplete →
    p.exitTimer = some (time + cfg.shutdown.timeoutMs)
  calls : p.calls = (List.range p.calls.length).map fun i => (i, signal)
  frame : p.frame = .calling signal p.calls.length ∨ p.frame = .awaiting signal p.calls.length ∨
    p.frame = .returned
  registered : p.calls.length ≤ p.shutdownCallbacks
  through : p.ended = some .shutdownComplete → p.frame = .returned
  forced : p.ended = some .forcedExit → time + cfg.shutdown.timeoutMs ≤ now

/-- No shutdown began. -/
structure Unbegun (p : WorkerProcess) : Prop where
  inProgress : p.localShutdownInProgress = false
  frame : p.frame = .idle
  calls : p.calls = []
  exitTimer : p.exitTimer = none
  completed : p.ended ≠ some .shutdownComplete
  forced : p.ended ≠ some .forcedExit

/-- Either no shutdown began, or one did. -/
def Sound (cfg : ResolvedConfig) (now : Nat) (p : WorkerProcess) : Prop :=
  match p.began with
  | none => p.Unbegun
  | some (signal, time) => p.Begun cfg now signal time

theorem Sound.unbegun (h : Sound cfg now p) (hb : p.began = none) : p.Unbegun := by
  simpa [Sound, hb] using h

theorem Sound.begun (h : Sound cfg now p) {signal : String} {time : Nat}
    (hb : p.began = some (signal, time)) : p.Begun cfg now signal time := by
  simpa [Sound, hb] using h

theorem Sound.initial : Sound cfg now {} :=
  { inProgress := rfl, frame := rfl, calls := rfl, exitTimer := rfl, completed := by simp,
    forced := by simp }

theorem Sound.later (h : Sound cfg now p) {later : Nat} (hle : now ≤ later) :
    Sound cfg later p := by
  unfold Sound at h ⊢
  split at h
  · exact h
  · exact { h with past := h.past.trans hle, forced := fun hf => (h.forced hf).trans hle }

theorem Sound.listening (h : Sound cfg now p) (hin : p.localShutdownInProgress = true) :
    p.listening = true := by
  unfold Sound at h
  split at h
  · rw [h.inProgress] at hin
    cases hin
  · exact h.listening

theorem Unbegun.keeps (h : p.Unbegun) (hk : Keeps p q) : q.Unbegun where
  inProgress := hk.inProgress.trans h.inProgress
  frame := hk.frame.trans h.frame
  calls := hk.calls.trans h.calls
  exitTimer := hk.exitTimer.trans h.exitTimer
  completed := hk.completed
  forced := hk.forced

theorem Begun.keeps {signal : String} {time : Nat} (h : p.Begun cfg now signal time)
    (hp : p.ended = none) (hk : Keeps p q) : q.Begun cfg now signal time where
  inProgress := hk.inProgress.trans h.inProgress
  listening := hk.listening h.listening
  notReady := hk.notReady h.inProgress h.notReady
  silent := hk.silent h.inProgress h.silent
  past := h.past
  exitTimer _ := hk.exitTimer.trans (h.exitTimer (by simp [hp]))
  calls := by rw [hk.calls]; exact h.calls
  frame := by rw [hk.frame, hk.calls]; exact h.frame
  registered := by rw [hk.calls]; exact h.registered.trans hk.callbacks
  through hc := absurd hc hk.completed
  forced hf := absurd hf hk.forced

theorem Sound.keeps (h : Sound cfg now p) (hp : p.ended = none) (hk : Keeps p q) :
    Sound cfg now q := by
  unfold Sound at h ⊢
  rw [hk.began]
  split
  · rename_i hb
    rw [hb] at h
    exact h.keeps hk
  · rename_i hb
    rw [hb] at h
    exact h.keeps hp hk

/-- The first call of `handleShutdown` begins the shutdown. -/
theorem Unbegun.handleShutdown (h : p.Unbegun) (hp : p.ended = none) (hl : p.listening = true)
    (signal : String) :
    (p.handleShutdown cfg now signal).began = some (signal, now) ∧
      (p.handleShutdown cfg now signal).Begun cfg now signal now := by
  have heq : p.handleShutdown cfg now signal =
      { p.stopWorkerReporting with
        localShutdownInProgress := true
        ready := false
        exitTimer := some (now + cfg.shutdown.timeoutMs)
        frame := .calling signal 0
        began := some (signal, now) } := by
    have hin : p.stopWorkerReporting.localShutdownInProgress = false := h.inProgress
    simp only [WorkerProcess.handleShutdown, hin]
    rfl
  have hcalls : p.calls = [] := h.calls
  rw [heq]
  refine ⟨rfl, ?_⟩
  constructor
  case inProgress => rfl
  case listening => exact hl
  case notReady => rfl
  case silent => rfl
  case past => exact le_rfl
  case exitTimer => exact fun _ => rfl
  case calls => simp [stopWorkerReporting, hcalls]
  case frame => simp [stopWorkerReporting, hcalls]
  case registered => simp [stopWorkerReporting, hcalls]
  case through => simp [stopWorkerReporting, hp]
  case forced => simp [stopWorkerReporting, hp]

/-- The next callback is called with the signal that began the shutdown. -/
theorem Begun.called {signal : String} {time : Nat} (h : p.Begun cfg now signal time)
    (hp : p.ended = none) {signal' : String} {next registers : Nat} {frame : WorkerFrame}
    (hf : p.frame = .calling signal' next) (hn : next < p.shutdownCallbacks)
    (hframe : frame = .calling signal' (next + 1) ∨ frame = .awaiting signal' (next + 1)) :
    Begun cfg now signal time { p with
      shutdownCallbacks := p.shutdownCallbacks + registers
      calls := p.calls ++ [(next, signal')], frame := frame } := by
  obtain ⟨hsignal, hnext⟩ : signal' = signal ∧ next = p.calls.length := by
    rcases h.frame with hframe | hframe | hframe <;> rw [hf] at hframe <;> cases hframe
    exact ⟨rfl, rfl⟩
  subst signal' next
  have hlength : (p.calls ++ [(p.calls.length, signal)]).length = p.calls.length + 1 := by simp
  refine { h with calls := ?_, frame := ?_, registered := ?_, through := ?_, forced := h.forced }
  · have hcalls := h.calls
    show p.calls ++ [(p.calls.length, signal)] = _
    rw [hlength, List.range_succ, List.map_append, ← hcalls]
    rfl
  · show frame = _ ∨ frame = _ ∨ _
    rw [hlength]
    rcases hframe with hframe | hframe
    · exact .inl hframe
    · exact .inr (.inl hframe)
  · show (p.calls ++ [(p.calls.length, signal)]).length ≤ p.shutdownCallbacks + registers
    rw [hlength]
    omega
  · intro hc
    exact absurd (hp.symm.trans hc) (by simp)

theorem Begun.sound {signal : String} {time : Nat} (h : p.Begun cfg now signal time)
    (hb : p.began = some (signal, time)) : Sound cfg now p := by
  unfold Sound
  rw [hb]
  exact h

theorem Sound.exists_begun (h : Sound cfg now p) (hne : ¬ p.Unbegun) :
    ∃ signal time, p.began = some (signal, time) ∧ p.Begun cfg now signal time := by
  cases hb : p.began with
  | none => exact absurd (h.unbegun hb) hne
  | some b => exact ⟨b.1, b.2, rfl, h.begun hb⟩

theorem Sound.step (h : Sound cfg now p) (hp : p.ended = none) (hs : ShutdownStep cfg now p q) :
    Sound cfg now q := by
  have hout : p.ended ≠ some .shutdownComplete := by simp [hp]
  have hframe (hne : p.frame ≠ .idle) := h.exists_begun fun hu => hne hu.frame
  cases hs with
  | kept q hk => exact h.keeps hp hk
  | begins m signal hk hm hl hin =>
    have hmid : Sound cfg now m := h.keeps hp hk
    cases hb : m.began with
    | none =>
      obtain ⟨hbegan, hbegun⟩ := (hmid.unbegun hb).handleShutdown hm hl signal
      exact hbegun.sound hbegan
    | some b =>
      have hbegun : m.Begun cfg now b.1 b.2 := hmid.begun hb
      rw [hbegun.inProgress] at hin
      cases hin
  | called signal next registers frame hf hn hnext =>
    obtain ⟨signal', time, hb, hbegun⟩ := hframe (by simp [hf])
    exact (hbegun.called hp hf hn hnext).sound hb
  | finished signal next hf hn =>
    obtain ⟨signal', time, hb, hbegun⟩ := hframe (by simp [hf])
    have hnew : Begun cfg now signal' time { p with frame := .returned } :=
      { hbegun with frame := .inr (.inr rfl), through := fun _ => rfl }
    exact hnew.sound hb
  | settled signal next hf =>
    obtain ⟨signal', time, hb, hbegun⟩ := hframe (by simp [hf])
    have hcalling : WorkerFrame.calling signal next = .calling signal' p.calls.length := by
      rcases hbegun.frame with hframe | hframe | hframe <;> rw [hf] at hframe <;> cases hframe
      rfl
    have hnew : Begun cfg now signal' time { p with frame := .calling signal next } :=
      { hbegun with frame := .inl hcalling, through := fun hc => absurd hc hout }
    exact hnew.sound hb
  | through hf =>
    obtain ⟨signal, time, hb, hbegun⟩ := hframe (by simp [hf])
    have hnew : Begun cfg now signal time
        { p with exitTimer := none, ended := some .shutdownComplete } :=
      { hbegun with
        exitTimer := fun hne => absurd rfl hne, through := fun _ => hf, forced := by simp }
    exact hnew.sound hb
  | forced deadline ht hd =>
    obtain ⟨signal, time, hb, hbegun⟩ := h.exists_begun fun hu => by simp [hu.exitTimer] at ht
    have hdeadline := hbegun.exitTimer hout
    rw [ht, Option.some.injEq] at hdeadline
    have hnew : Begun cfg now signal time { p with ended := some .forcedExit } :=
      { hbegun with
        exitTimer := fun _ => by rw [← hdeadline, ← ht]
        through := by simp
        forced := fun _ => by omega }
    exact hnew.sound hb

end WorkerProcess

/-! ## Runs of one process -/

namespace ClockedWorker

variable {cfg : ResolvedConfig} {x y : ClockedWorker} {i : WorkerInput}

def Sound (cfg : ResolvedConfig) (x : ClockedWorker) : Prop := x.process.Sound cfg x.now

theorem Sound.step (h : x.Sound cfg) (hs : (workerProcess cfg).step x i = some y) :
    y.Sound cfg := by
  cases i with
  | tick ms =>
    cases hs
    exact WorkerProcess.Sound.later h (Nat.le_add_right _ _)
  | act a =>
    obtain ⟨q, hq, rfl⟩ := Option.map_eq_some_iff.mp hs
    obtain ⟨hended, -, hact⟩ := WorkerProcess.step_act hq
    exact WorkerProcess.Sound.step h hended
      (WorkerProcess.act_shutdownStep hended (WorkerProcess.Sound.listening h) hact)

theorem sound_of_reachable (h : (workerProcess cfg).Reachable x) : x.Sound cfg :=
  h.induct .initial fun _ _ _ hx hs => hx.step hs

/-- The inversion lemma for a step of the process in a run. -/
theorem Sound.shutdownStep (h : x.Sound cfg) {a : WorkerAction}
    (hs : (workerProcess cfg).step x (.act a) = some y) :
    x.process.ended = none ∧ y.now = x.now ∧
      x.process.ShutdownStep cfg x.now y.process := by
  obtain ⟨q, hq, rfl⟩ := Option.map_eq_some_iff.mp hs
  obtain ⟨hended, -, hact⟩ := WorkerProcess.step_act hq
  exact ⟨hended, rfl, WorkerProcess.act_shutdownStep hended (WorkerProcess.Sound.listening h) hact⟩

end ClockedWorker

end ClusterKit
