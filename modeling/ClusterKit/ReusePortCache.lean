import ClusterKit.ReusePort

/-! One probe at a time and one answer for good. Whatever order the events of sockets,
timers, detections and callers come in, the first definitive outcome is the last probe's. -/

namespace ClusterKit

/-! ## A probe settles once -/

namespace Probe

/-- What a step of `p` makes of it: an outcome only if there was none. -/
def SettlesOnce (p : Probe) (result : Probe × Option ProbeOutcome) : Prop :=
  result.2 = none ∧ result.1.settled = p.settled ∨
    ∃ outcome, result.2 = some outcome ∧ p.settled = false ∧ result.1.settled = true

variable {p q : Probe}

theorem settle_once (hq : q.settled = p.settled) (outcome : ProbeOutcome) :
    SettlesOnce p (q.settle outcome) := by
  unfold settle
  split
  · exact .inl ⟨rfl, hq⟩
  · rename_i hopen
    rw [hq, Bool.not_eq_true] at hopen
    exact .inr ⟨outcome, rfl, hopen, rfl⟩

theorem ignore_once (hq : q.settled = p.settled) : SettlesOnce p (q, none) := .inl ⟨rfl, hq⟩

theorem listener_once {listening : Bool} {result : Probe × Option ProbeOutcome}
    (h : SettlesOnce p result) : SettlesOnce p (if listening then result else (p, none)) := by
  cases listening with
  | true => exact h
  | false => exact ignore_once rfl

/-- **Spec of `handle`.** -/
theorem handle_once (p : Probe) (event : ProbeEvent) : SettlesOnce p (p.handle event) := by
  cases event with
  | firstError => exact listener_once (settle_once rfl _)
  | secondError => exact listener_once (settle_once rfl _)
  | firstListening port throws =>
    refine listener_once ?_
    cases port with
    | false => exact settle_once rfl _
    | true =>
      cases throws with
      | false => exact ignore_once rfl
      | true => exact settle_once rfl _
  | secondListening => exact listener_once (settle_once rfl _)
  | timer => exact listener_once (settle_once rfl _)

end Probe

theorem Probe.start_settled (fault : Option ProbeFault) :
    (Probe.start fault).2.isSome = (Probe.start fault).1.settled := by
  cases fault with
  | none => rfl
  | some fault => cases fault <;> rfl

theorem ProbeOutcome.answer_of_definitive {outcome : ProbeOutcome} {supported : Bool}
    (h : outcome.definitive = some supported) : outcome.answer = supported := by
  cases outcome with
  | resolved b => exact Option.some.inj h
  | timeout => cases h
  | error => exact Option.some.inj h

namespace ReusePort

variable {e : PlatformInfo} {s t : ReusePort}

/-! ## The invariant -/

/-- The call gets what was known when it was made. -/
def Informed (s : ReusePort) (call : DetectCall) : Prop :=
  ∀ supported ∈ call.known, ∃ detection ∈ call.detection, ∃ outcome,
    s.outcomes detection = some outcome ∧ outcome.definitive = some supported

/-- A first outcome leaves those of the other detections. -/
theorem noteOutcome_kept {job other : Nat} {o : ProbeOutcome} (hnew : s.outcomes job = none)
    (ho : s.outcomes other = some o) (outcome : ProbeOutcome) :
    (s.noteOutcome job outcome).outcomes other = some o := by
  rw [noteOutcome_outcomes_of_ne, ho]
  rintro rfl
  rw [hnew] at ho
  cases ho

theorem Informed.noteOutcome {call : DetectCall} (h : s.Informed call) {job : Nat}
    (hnew : s.outcomes job = none) (outcome : ProbeOutcome) :
    (s.noteOutcome job outcome).Informed call := by
  intro supported hknown
  obtain ⟨other, hother, o, ho, hdefinitive⟩ := h supported hknown
  exact ⟨other, hother, o, noteOutcome_kept hnew ho outcome, hdefinitive⟩

theorem noteOutcome_first (hfirst : s.first = none) (job : Nat) (outcome : ProbeOutcome) :
    (s.noteOutcome job outcome).first = outcome.definitive := by
  show s.first.or outcome.definitive = outcome.definitive
  rw [hfirst, Option.none_or]

/-- A promise settles once. -/
theorem finish_kept {job other : Nat} {answer : Bool} (hnew : s.promises job = none)
    (hp : s.promises other = some answer) (outcome : ProbeOutcome) :
    (s.finish job outcome).promises other = some answer := by
  rw [finish_promises_of_ne, hp]
  rintro rfl
  rw [hnew] at hp
  cases hp

structure Sound (s : ReusePort) : Prop where
  single : Flight.Single 0 s.flight
  unsettled : ∀ job ∈ s.flight.running, s.outcomes job = none
  active : ∀ job p, s.probes job = some p → p.settled = false → job ∈ s.flight.running
  future : ∀ job, s.flight.started ≤ job →
    s.probes job = none ∧ s.outcomes job = none ∧ s.promises job = none
  unpromised : ∀ job ∈ s.flight.pending, s.promises job = none
  promised : ∀ job answer, s.promises job = some answer →
    ∃ outcome, s.outcomes job = some outcome ∧ outcome.answer = answer
  /-- There is at most one definitive outcome. -/
  decided : ∀ job outcome supported, s.outcomes job = some outcome →
    outcome.definitive = some supported → s.first = some supported
  quiet : s.cachedReusePortSupport ≠ none → s.flight.pending = []
  cached : ∀ supported ∈ s.cachedReusePortSupport, s.first = some supported
  /-- Until it is cached, its detection still has to go on. -/
  uncached : ∀ supported ∈ s.first, s.cachedReusePortSupport = none →
    ∃ job ∈ s.flight.settled, ∃ outcome,
      s.outcomes job = some outcome ∧ outcome.definitive = some supported
  informed : ∀ call ∈ s.waiting, s.Informed call
  kept : ∀ reply ∈ s.replies, ∀ job ∈ reply.call.detection, s.promises job = some reply.answer
  right : ∀ reply ∈ s.replies, ∀ supported ∈ reply.call.known, reply.answer = supported

theorem new_sound : Sound {} where
  single := Flight.single_new
  unsettled := List.forall_mem_nil _
  active := by
    intro job p hp
    cases hp
  future := fun _ _ => ⟨rfl, rfl, rfl⟩
  unpromised := List.forall_mem_nil _
  promised := by
    intro job answer hp
    cases hp
  decided := by
    intro job outcome supported ho
    cases ho
  quiet := fun _ => rfl
  cached := by
    intro supported hc
    cases hc
  uncached := by
    intro supported hf
    cases hf
  informed := List.forall_mem_nil _
  kept := List.forall_mem_nil _
  right := List.forall_mem_nil _

namespace Sound

/-- Nothing is cached while a detection has to go on. -/
theorem cache_of_pending (h : Sound s) {job : Nat} (hpending : job ∈ s.flight.pending) :
    s.cachedReusePortSupport = none := by
  by_contra hne
  rw [h.quiet hne] at hpending
  cases hpending

/-- While a probe runs nothing is known. -/
theorem first_of_running (h : Sound s) {job : Nat} (hrun : job ∈ s.flight.running) :
    s.first = none ∧ s.cachedReusePortSupport = none := by
  have hpending : job ∈ s.flight.pending := Flight.mem_pending.mpr (.inl hrun)
  have hcache := h.cache_of_pending hpending
  refine ⟨?_, hcache⟩
  cases hfirst : s.first with
  | none => rfl
  | some supported =>
    obtain ⟨other, hother, outcome, ho, -⟩ := h.uncached supported hfirst hcache
    have hslot := h.single.only job hpending (Nat.zero_le _)
    rw [h.single.slot_of_settled hother (Nat.zero_le _), Option.some.injEq] at hslot
    rw [hslot, h.unsettled job hrun] at ho
    cases ho

/-- With an empty slot and no cache nothing is known. -/
theorem first_of_empty (h : Sound s) (hslot : s.flight.slot = none)
    (hcache : s.cachedReusePortSupport = none) : s.first = none := by
  cases hfirst : s.first with
  | none => rfl
  | some supported =>
    obtain ⟨other, hother, -⟩ := h.uncached supported hfirst hcache
    have htaken := h.single.slot_of_settled hother (Nat.zero_le _)
    rw [hslot] at htaken
    cases htaken

/-- The only pending detection. -/
theorem eq_of_pending (h : Sound s) {job other : Nat} (hjob : job ∈ s.flight.pending)
    (hother : other ∈ s.flight.pending) : job = other := by
  have hslot := h.single.only job hjob (Nat.zero_le _)
  rw [h.single.only other hother (Nat.zero_le _), Option.some.injEq] at hslot
  exact hslot.symm

/-- The first definitive outcome is the only one. -/
theorem noteOutcome_decided (h : Sound s) (hfirst : s.first = none) {job other : Nat}
    {o outcome : ProbeOutcome} {supported : Bool}
    (ho : (s.noteOutcome job outcome).outcomes other = some o)
    (hdefinitive : o.definitive = some supported) :
    (s.noteOutcome job outcome).first = some supported := by
  by_cases heq : other = job
  · rw [heq, noteOutcome_outcomes_self, Option.some.injEq] at ho
    rw [noteOutcome_first hfirst, ho, hdefinitive]
  · rw [noteOutcome_outcomes_of_ne heq] at ho
    have hsome := h.decided other o supported ho hdefinitive
    rw [hfirst] at hsome
    cases hsome

theorem storeProbe (h : Sound s) {job : Nat} (hknown : job < s.flight.started) {p : Probe}
    (hactive : p.settled = false → job ∈ s.flight.running) :
    Sound { s with probes := Function.update s.probes job (some p) } := by
  refine ⟨h.single, h.unsettled, ?_, ?_, h.unpromised, h.promised, h.decided, h.quiet, h.cached,
    h.uncached, h.informed, h.kept, h.right⟩
  · intro other q hq hopen
    by_cases heq : other = job
    · subst heq
      simp only [Function.update_self, Option.some.injEq] at hq
      exact hactive (hq ▸ hopen)
    · simp only [Function.update_of_ne heq] at hq
      exact h.active other q hq hopen
  · intro other hlater
    obtain ⟨hp, hrest⟩ := h.future other hlater
    have hne : other ≠ job := by
      rintro rfl
      exact absurd hknown (Nat.not_lt_of_le hlater)
    refine ⟨?_, hrest⟩
    simp only [Function.update_of_ne hne]
    exact hp

theorem probeSettled (h : Sound s) {job : Nat} (hrun : job ∈ s.flight.running)
    (hover : ∀ p, s.probes job = some p → p.settled = true) (outcome : ProbeOutcome) :
    Sound (s.probeSettled job outcome) := by
  obtain ⟨hfirst, hcache⟩ := h.first_of_running hrun
  have hpending : job ∈ s.flight.pending := Flight.mem_pending.mpr (.inl hrun)
  have hnone := h.unsettled job hrun
  have hperm := Flight.pending_settle hrun
  have hfirst' : (s.probeSettled job outcome).first = outcome.definitive :=
    noteOutcome_first hfirst job outcome
  have hgone : job ∉ (s.probeSettled job outcome).flight.running := by
    have hnodup : s.flight.running.Nodup := (List.nodup_append.mp h.single.nodup).1
    exact hnodup.not_mem_erase
  refine ⟨h.single.settle hrun, ?_, ?_, ?_, ?_, ?_, ?_, ?_, ?_, ?_, ?_, h.kept, h.right⟩
  · intro other hother
    have hne : other ≠ job := by
      rintro rfl
      exact hgone hother
    exact (noteOutcome_outcomes_of_ne hne ..).trans
      (h.unsettled other (List.mem_of_mem_erase hother))
  · intro other p hp hopen
    have hne : other ≠ job := by
      rintro rfl
      rw [hover p hp] at hopen
      cases hopen
    exact (List.mem_erase_of_ne hne).mpr (h.active other p hp hopen)
  · intro other hlater
    obtain ⟨hp, ho, hpromise⟩ := h.future other hlater
    have hne : other ≠ job := by
      rintro rfl
      exact absurd (h.single.known other hpending) (Nat.not_lt_of_le hlater)
    exact ⟨hp, (noteOutcome_outcomes_of_ne hne ..).trans ho, hpromise⟩
  · exact fun other hother => h.unpromised other (hperm.subset hother)
  · intro other answer hpromise
    obtain ⟨o, ho, hanswer⟩ := h.promised other answer hpromise
    exact ⟨o, noteOutcome_kept hnone ho outcome, hanswer⟩
  · intro other o supported ho hdefinitive
    exact h.noteOutcome_decided hfirst ho hdefinitive
  · intro hcached
    exact absurd hcache hcached
  · intro supported hcached
    rw [show (s.probeSettled job outcome).cachedReusePortSupport = s.cachedReusePortSupport
      from rfl, hcache] at hcached
    cases hcached
  · intro supported hknown _
    rw [hfirst'] at hknown
    exact ⟨job, List.mem_cons_self, outcome, noteOutcome_outcomes_self .., hknown⟩
  · exact fun call hcall => (h.informed call hcall).noteOutcome hnone outcome

/-- **Spec of `probeMoves`.** -/
theorem probeMoves (h : Sound s) {job : Nat} (hknown : job < s.flight.started)
    {result : Probe × Option ProbeOutcome}
    (hopen : result.1.settled = false → job ∈ s.flight.running)
    (hsome : ∀ outcome, result.2 = some outcome →
      job ∈ s.flight.running ∧ result.1.settled = true) :
    Sound (s.probeMoves job result) := by
  have hstored := h.storeProbe hknown hopen
  unfold ReusePort.probeMoves
  cases hresult : result.2 with
  | none => exact hstored
  | some outcome =>
    obtain ⟨hrun, hsettled⟩ := hsome outcome hresult
    refine hstored.probeSettled hrun ?_ outcome
    intro p hp
    rw [show ({ s with probes := Function.update s.probes job (some result.1) } :
      ReusePort).probes job = some result.1 from Function.update_self .., Option.some.injEq] at hp
    rw [← hp]
    exact hsettled

theorem startFlight (h : Sound s) (hslot : s.flight.slot = none)
    (hcache : s.cachedReusePortSupport = none) : Sound { s with flight := s.flight.start } := by
  obtain ⟨hprobe, houtcome, hpromise⟩ := h.future s.flight.started (Nat.le_refl _)
  have hfirst := h.first_of_empty hslot hcache
  refine ⟨h.single.start hslot, ?_, ?_, ?_, ?_, h.promised, h.decided, ?_, h.cached, ?_,
    h.informed, h.kept, h.right⟩
  · exact List.forall_mem_cons.mpr ⟨houtcome, h.unsettled⟩
  · intro job p hp hopen
    exact List.mem_cons_of_mem _ (h.active job p hp hopen)
  · exact fun job hlater => h.future job (Nat.le_of_succ_le hlater)
  · rw [Flight.pending_start]
    exact List.forall_mem_cons.mpr ⟨hpromise, h.unpromised⟩
  · intro hne
    exact absurd hcache hne
  · intro supported hknown
    rw [show ({ s with flight := s.flight.start } : ReusePort).first = s.first from rfl,
      hfirst] at hknown
    cases hknown

/-- A platform that needs no probe. -/
theorem answerAtOnce (h : Sound s) (hslot : s.flight.slot = none)
    (hcache : s.cachedReusePortSupport = none) : Sound s.answerAtOnce := by
  obtain ⟨-, houtcome, hpromise⟩ := h.future s.flight.started (Nat.le_refl _)
  have hfirst := h.first_of_empty hslot hcache
  have hfirst' : s.answerAtOnce.first = some false :=
    noteOutcome_first hfirst s.flight.started (.resolved false)
  have hpending : s.answerAtOnce.flight.pending = [] := h.single.pending_of_empty hslot
  have hrunning : s.answerAtOnce.flight.running = [] := (List.append_eq_nil_iff.mp hpending).1
  have hpromises : s.answerAtOnce.promises s.flight.started = some false :=
    finish_promises_self ..
  have hpother : ∀ {job : Nat}, job ≠ s.flight.started →
      s.answerAtOnce.promises job = s.promises job :=
    fun hne => finish_promises_of_ne hne ..
  refine ⟨⟨Nat.zero_le _, ?_, ?_, fun _ _ => Nat.zero_le _, h.single.nodup⟩, ?_, ?_, ?_, ?_, ?_, ?_,
    fun _ => hpending, ?_, ?_, ?_, ?_, h.right⟩
  · exact fun job hjob => Nat.lt_succ_of_lt (h.single.known job hjob)
  · rw [hpending]
    exact List.forall_mem_nil _
  · rw [hrunning]
    exact List.forall_mem_nil _
  · exact fun job p hp hopen => h.active job p hp hopen
  · intro job hlater
    obtain ⟨hp, ho, hpromises⟩ := h.future job (Nat.le_of_succ_le hlater)
    have hne : job ≠ s.flight.started := Nat.ne_of_gt hlater
    exact ⟨hp, (noteOutcome_outcomes_of_ne hne ..).trans ho, (hpother hne).trans hpromises⟩
  · rw [hpending]
    exact List.forall_mem_nil _
  · intro job answer hp
    by_cases heq : job = s.flight.started
    · rw [heq, hpromises, Option.some.injEq] at hp
      exact ⟨.resolved false, heq ▸ noteOutcome_outcomes_self .., hp⟩
    · rw [hpother heq] at hp
      obtain ⟨o, ho, hanswer⟩ := h.promised job answer hp
      exact ⟨o, noteOutcome_kept houtcome ho _, hanswer⟩
  · intro job o supported ho hdefinitive
    exact h.noteOutcome_decided hfirst ho hdefinitive
  · intro supported hcached
    exact hfirst'.trans hcached
  · intro supported _ hnone
    cases hnone
  · exact fun call hcall => (h.informed call hcall).noteOutcome houtcome _
  · intro reply hreply job hjob
    exact finish_kept hpromise (h.kept reply hreply job hjob) _

/-- A new detection. -/
theorem begin (h : Sound s) (hslot : s.flight.slot = none)
    (hcache : s.cachedReusePortSupport = none) (fault : Option ProbeFault) :
    Sound (s.begin e fault) := by
  unfold ReusePort.begin
  split
  · exact h.answerAtOnce hslot hcache
  · have hrun : s.flight.started ∈ s.flight.start.running := List.mem_cons_self
    refine (h.startFlight hslot hcache).probeMoves (Nat.lt_succ_self _) (fun _ => hrun) ?_
    intro outcome hresult
    refine ⟨hrun, ?_⟩
    rw [← Probe.start_settled, hresult]
    rfl

/-- A caller waits. -/
theorem wait (h : Sound s) {call : DetectCall} (hcall : s.Informed call) (calls : Nat) :
    Sound { s with calls := calls, waiting := call :: s.waiting } :=
  ⟨h.single, h.unsettled, h.active, h.future, h.unpromised, h.promised, h.decided, h.quiet,
    h.cached, h.uncached, List.forall_mem_cons.mpr ⟨hcall, h.informed⟩, h.kept, h.right⟩

theorem detect (h : Sound s) (fault : Option ProbeFault) : Sound (s.detect e fault) := by
  unfold ReusePort.detect
  split
  · rename_i supported hcache
    have hfirst := h.cached supported hcache
    refine ⟨h.single, h.unsettled, h.active, h.future, h.unpromised, h.promised, h.decided, h.quiet,
      h.cached, h.uncached, h.informed, ?_, ?_⟩
    · refine List.forall_mem_cons.mpr ⟨?_, h.kept⟩
      intro job hjob
      cases hjob
    · refine List.forall_mem_cons.mpr ⟨?_, h.right⟩
      intro known hknown
      exact Option.some.inj (hfirst.symm.trans hknown)
  · rename_i hcache
    split
    · rename_i detection hslot
      refine h.wait ?_ _
      intro supported hknown
      obtain ⟨job, hsettled, o, ho, hdefinitive⟩ := h.uncached supported hknown hcache
      rw [h.single.slot_of_settled hsettled (Nat.zero_le _)] at hslot
      exact ⟨job, hslot.symm, o, ho, hdefinitive⟩
    · rename_i hslot
      have hfirst := h.first_of_empty hslot hcache
      refine (h.begin hslot hcache fault).wait ?_ _
      intro supported hknown
      rw [show (s.newCall (some s.flight.started)).known = s.first from rfl, hfirst] at hknown
      cases hknown

/-- A detection goes on after its probe. -/
theorem proceed (h : Sound s) {job : Nat} (hjob : job ∈ s.flight.settled)
    {outcome : ProbeOutcome} (ho : s.outcomes job = some outcome) :
    Sound { s.finish job outcome with flight := s.flight.release job } := by
  have hpending : job ∈ s.flight.pending := Flight.mem_pending.mpr (.inr hjob)
  have hslot := h.single.slot_of_settled hjob (Nat.zero_le _)
  have hsingle := h.single.release hjob (.inl hslot)
  have hcache := h.cache_of_pending hpending
  have hempty : (s.flight.release job).pending = [] := hsingle.pending_of_empty rfl
  have hrunning : (s.flight.release job).running = [] := (List.append_eq_nil_iff.mp hempty).1
  have hunpromised := h.unpromised job hpending
  have hcached : (s.finish job outcome).cachedReusePortSupport = outcome.definitive := by
    show outcome.definitive.or s.cachedReusePortSupport = outcome.definitive
    rw [hcache, Option.or_none]
  refine ⟨hsingle, ?_, ?_, ?_, ?_, ?_, h.decided, fun _ => hempty, ?_, ?_, h.informed, ?_, h.right⟩
  · rw [hrunning]
    exact List.forall_mem_nil _
  · exact fun other p hp hopen => h.active other p hp hopen
  · intro other hlater
    obtain ⟨hp, hout, hpromise⟩ := h.future other hlater
    refine ⟨hp, hout, ?_⟩
    show (s.finish job outcome).promises other = none
    rw [finish_promises_of_ne, hpromise]
    rintro rfl
    rw [hout] at ho
    cases ho
  · rw [hempty]
    exact List.forall_mem_nil _
  · intro other answer hp
    by_cases heq : other = job
    · subst heq
      have hanswer := (finish_promises_self other outcome s).symm.trans hp
      exact ⟨outcome, ho, Option.some.inj hanswer⟩
    · exact h.promised other answer ((finish_promises_of_ne heq outcome s).symm.trans hp)
  · intro supported hin
    exact h.decided job outcome supported ho (hcached.symm.trans hin)
  · intro supported hknown hnone
    obtain ⟨other, hsettled, o, hout, hdefinitive⟩ := h.uncached supported hknown hcache
    have heq := h.eq_of_pending (Flight.mem_pending.mpr (.inr hsettled)) hpending
    rw [heq, ho, Option.some.injEq] at hout
    have hopen : outcome.definitive = none := hcached.symm.trans hnone
    rw [hout, hdefinitive] at hopen
    cases hopen
  · intro reply hreply other hin
    exact finish_kept hunpromised (h.kept reply hreply other hin) outcome

/-- A caller receives the promise it waits for. -/
theorem reply (h : Sound s) {call : DetectCall} (hcall : call ∈ s.waiting) {answer : Bool}
    (hp : call.detection.bind s.promises = some answer) :
    Sound { s with waiting := s.waiting.erase call, replies := ⟨call, answer⟩ :: s.replies } := by
  obtain ⟨job, hjob, hpromise⟩ := Option.bind_eq_some_iff.mp hp
  refine ⟨h.single, h.unsettled, h.active, h.future, h.unpromised, h.promised, h.decided, h.quiet,
    h.cached, h.uncached, ?_, ?_, ?_⟩
  · exact fun other hother => h.informed other (List.mem_of_mem_erase hother)
  · refine List.forall_mem_cons.mpr ⟨?_, h.kept⟩
    intro other hother
    rw [Option.some.inj (hother.symm.trans hjob)]
    exact hpromise
  · refine List.forall_mem_cons.mpr ⟨?_, h.right⟩
    intro supported hknown
    obtain ⟨other, hother, o, hout, hdefinitive⟩ := h.informed call hcall supported hknown
    obtain ⟨o', hout', hanswer⟩ := h.promised job answer hpromise
    rw [Option.some.inj (hother.symm.trans hjob), hout', Option.some.injEq] at hout
    rw [← hanswer, hout]
    exact ProbeOutcome.answer_of_definitive hdefinitive

/-- **Step lemma.** -/
theorem step (h : Sound s) {a : DetectAction} (hs : s.act e a = some t) : Sound t := by
  cases a with
  | detect fault =>
    cases hs
    exact h.detect fault
  | probe detection event =>
    obtain ⟨p, hp, rfl⟩ := Option.map_eq_some_iff.mp hs
    have hknown : detection < s.flight.started := by
      by_contra hlater
      rw [(h.future detection (Nat.le_of_not_lt hlater)).1] at hp
      cases hp
    have hactive := h.active detection p hp
    obtain ⟨hnone, hsame⟩ | ⟨outcome, hsome, hopen, hover⟩ := p.handle_once event
    · refine h.probeMoves hknown ?_ ?_
      · intro hopen
        exact hactive (hsame.symm.trans hopen)
      · intro outcome hsome
        rw [hnone] at hsome
        cases hsome
    · refine h.probeMoves hknown ?_ ?_
      · intro _
        exact hactive hopen
      · intro _ _
        exact ⟨hactive hopen, hover⟩
  | proceed detection =>
    simp only [act, Option.ite_none_right_eq_some] at hs
    obtain ⟨hjob, hs⟩ := hs
    obtain ⟨outcome, ho, rfl⟩ := Option.map_eq_some_iff.mp hs
    exact h.proceed hjob ho
  | reply call =>
    simp only [act, Option.ite_none_right_eq_some] at hs
    obtain ⟨hcall, hs⟩ := hs
    obtain ⟨answer, hp, rfl⟩ := Option.map_eq_some_iff.mp hs
    exact h.reply hcall hp

end Sound

theorem reachable_sound (h : (reusePort e).Reachable s) : Sound s :=
  h.induct new_sound fun _ _ _ hx hs => hx.step hs

/-- The probe of the detection waits for its sockets. -/
def Probing (s : ReusePort) (detection : Nat) : Prop :=
  ∃ p, s.probes detection = some p ∧ p.settled = false

/-- Nothing more is probed once the first definitive outcome is there. -/
theorem Sound.detect_started (h : Sound s) {supported : Bool} (hfirst : s.first = some supported)
    (fault : Option ProbeFault) : (s.detect e fault).probes = s.probes := by
  unfold ReusePort.detect
  split
  · rfl
  · rename_i hcache
    split
    · rfl
    · rename_i hslot
      rw [h.first_of_empty hslot hcache] at hfirst
      cases hfirst

/-- On every platform and in every order of calls and probe events: one probe is under way at
most; callers of one detection receive one answer; the first definitive outcome is what every
later call receives, without another probe; and nothing else, no timeout, is cached. -/
theorem one_probe_one_answer (e : PlatformInfo) {s : ReusePort} (h : (reusePort e).Reachable s) :
    (∀ i j, s.Probing i → s.Probing j → i = j) ∧
      (∀ r ∈ s.replies, ∀ r' ∈ s.replies, ∀ detection, r.call.detection = some detection →
        r'.call.detection = some detection → r.answer = r'.answer) ∧
      (∀ supported, s.first = some supported →
        ∀ fault, (s.detect e fault).probes = s.probes) ∧
      (∀ r ∈ s.replies, ∀ supported, r.call.known = some supported → r.answer = supported) ∧
      ∀ supported, s.cachedReusePortSupport = some supported → s.first = some supported := by
  have hsound := reachable_sound h
  refine ⟨?_, ?_, ?_, hsound.right, hsound.cached⟩
  · rintro i j ⟨p, hp, hopen⟩ ⟨q, hq, hopen'⟩
    exact hsound.eq_of_pending (Flight.mem_pending.mpr (.inl (hsound.active i p hp hopen)))
      (Flight.mem_pending.mpr (.inl (hsound.active j q hq hopen')))
  · intro r hr r' hr' detection hd hd'
    have hanswer := hsound.kept r hr detection hd
    rw [hsound.kept r' hr' detection hd', Option.some.injEq] at hanswer
    exact hanswer.symm
  · intro supported hfirst fault
    exact hsound.detect_started hfirst fault

/-- A probe that times out, a late event of its sockets, and a probe that succeeds. -/
def probedTwice : List DetectAction :=
  [.detect none, .probe 0 .timer, .proceed 0, .detect none, .probe 0 .secondListening,
    .probe 1 (.firstListening true false), .probe 1 .secondListening, .detect none, .proceed 1,
    .reply ⟨2, some true, some 1⟩, .reply ⟨0, none, some 0⟩, .detect none]

theorem one_probe_one_answer_twice :
    ∃ s, (reusePort ⟨.linux, "5.10.0".toList⟩).Reachable s ∧
      s.replies = [⟨⟨3, some true, none⟩, true⟩, ⟨⟨0, none, some 0⟩, false⟩,
        ⟨⟨2, some true, some 1⟩, true⟩] ∧
      (∀ i j, s.Probing i → s.Probing j → i = j) ∧
      ∀ supported, s.cachedReusePortSupport = some supported → s.first = some supported := by
  obtain ⟨s, hs, htest⟩ := StepSystem.exists_reachable_of_any
    (reusePort ⟨.linux, "5.10.0".toList⟩) probedTwice
    (fun s => decide (s.replies = [⟨⟨3, some true, none⟩, true⟩, ⟨⟨0, none, some 0⟩, false⟩,
        ⟨⟨2, some true, some 1⟩, true⟩])) (by decide)
  obtain ⟨hone, -, -, -, hcached⟩ := one_probe_one_answer ⟨.linux, "5.10.0".toList⟩ hs
  exact ⟨s, hs, of_decide_eq_true htest, hone, hcached⟩

end ReusePort

end ClusterKit
