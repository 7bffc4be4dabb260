import ClusterKit.Lib.StepSystem
import Mathlib.Data.List.Sublists

/-! The plugins of an orchestrator: the install loop of `run()` with its rollback, and the
uninstall pass of `shutdownPrimary()`. Both are async loops over the same list, and each
may take its turns while the other one is suspended at an `await`. -/

namespace ClusterKit

/-- An `OrchestratorPlugin`; `uninstall` is optional. -/
structure Plugin where
  name : String
  hasUninstall : Bool := true
  deriving DecidableEq

/-- Where `runPrimary` is. -/
inductive RunFrame where
  | idle
  /-- Awaiting the install of the plugin after these. -/
  | installing (installed : List Plugin)
  /-- `installPlugins` returned, the continuation of `runPrimary` is queued. -/
  | installed
  /-- Awaiting an uninstall of the rollback; these are still to come. -/
  | rollingBack (rest : List Plugin)
  | started
  | rejected
  deriving DecidableEq

/-- Where `shutdownPrimary` is, as far as plugins are concerned. -/
inductive PassFrame where
  | idle
  /-- The workers are shut down and the callbacks run. -/
  | initiated
  /-- Awaiting an uninstall of `uninstallPlugins`. -/
  | uninstalling
  | done
  deriving DecidableEq

structure PluginState where
  plugins : List Plugin := []
  run : RunFrame := .idle
  pass : PassFrame := .idle
  /-- How far the `for` loop of `uninstallPlugins` got in `plugins`. -/
  reached : Nat := 0
  /-- *History*: the installs that succeeded, and the calls of `uninstall`, in order. -/
  installs : List Plugin := []
  uninstalls : List Plugin := []

inductive PluginAction where
  | use (plugin : Plugin)
  | run
  | installSettled (ok : Bool)
  /-- The awaited uninstall of the rollback settled; a failure is caught. -/
  | rollbackSettled
  /-- `startPrimary` returned or threw. -/
  | startPrimary (ok : Bool)
  | shutdownPrimary
  | callbacksDone
  /-- The awaited uninstall of `uninstallPlugins` settled; a failure is caught. -/
  | uninstallSettled

namespace PluginState

/-- `plugin.uninstall?.(this)` -/
def callUninstall (plugin : Plugin) (s : PluginState) : PluginState :=
  if plugin.hasUninstall then { s with uninstalls := s.uninstalls ++ [plugin] } else s

/-- The loop of `rollbackInstalledPlugins`, then the throw of `installPlugins`. -/
def rollbackInstalledPlugins : List Plugin → PluginState → PluginState
  | [], s => { s with run := .rejected }
  | done :: rest, s => { s.callUninstall done with run := .rollingBack rest }

/-- The loop of `installPlugins` takes its next plugin. -/
def installPlugins (installed : List Plugin) (s : PluginState) : PluginState :=
  match s.plugins[installed.length]? with
  | some _ => { s with run := .installing installed }
  | none => { s with run := .installed }

/-- The loop of `uninstallPlugins` takes its next plugin. -/
def uninstallPlugins (s : PluginState) : PluginState :=
  match s.plugins[s.reached]? with
  | some plugin => { s.callUninstall plugin with pass := .uninstalling, reached := s.reached + 1 }
  | none => { s with pass := .done }

/-- `use(plugin)`; a call that throws changes nothing. -/
def use (plugin : Plugin) (s : PluginState) : PluginState :=
  if s.run = .idle then { s with plugins := s.plugins ++ [plugin] } else s

/-- `runPrimary()` up to its suspension; a second call throws and changes nothing. -/
def runPrimary (s : PluginState) : PluginState :=
  if s.run = .idle then s.installPlugins [] else s

def shutdownPrimary (s : PluginState) : PluginState :=
  if s.pass = .idle then { s with pass := .initiated } else s

/-- The awaited install of a plugin settled. -/
def installSettled (ok : Bool) (s : PluginState) : Option PluginState :=
  match s.run with
  | .installing installed =>
    match s.plugins[installed.length]? with
    | some plugin =>
      if ok then
        some ({ s with installs := s.installs ++ [plugin] }.installPlugins (installed ++ [plugin]))
      else some (s.rollbackInstalledPlugins installed)
    | none => none
  | _ => none

def act (s : PluginState) : PluginAction → Option PluginState
  | .use plugin => some (s.use plugin)
  | .run => some s.runPrimary
  | .installSettled ok => s.installSettled ok
  | .rollbackSettled =>
    match s.run with
    | .rollingBack rest => some (s.rollbackInstalledPlugins rest)
    | _ => none
  | .startPrimary ok =>
    if s.run = .installed then some { s with run := if ok then .started else .rejected } else none
  | .shutdownPrimary => some s.shutdownPrimary
  | .callbacksDone => if s.pass = .initiated then some s.uninstallPlugins else none
  | .uninstallSettled => if s.pass = .uninstalling then some s.uninstallPlugins else none

end PluginState

/-- The plugin side of one primary. -/
def pluginLifecycle : StepSystem PluginState PluginAction where
  init := {}
  step := PluginState.act

namespace PluginState

variable {s t : PluginState}

theorem callUninstall_fields (p : Plugin) (s : PluginState) :
    (s.callUninstall p).installs = s.installs ∧ (s.callUninstall p).plugins = s.plugins ∧
      (s.callUninstall p).run = s.run := by
  rw [callUninstall]
  split <;> exact ⟨rfl, rfl, rfl⟩

/-! ## The pairing -/

/-- Every uninstall follows an install of its own that succeeded, and after a failed `run()`
none of those is missing. -/
structure Paired (s : PluginState) : Prop where
  once : ∀ p, s.uninstalls.count p ≤ s.installs.count p
  clean : s.run = .rejected → ∀ p, p.hasUninstall = true → s.installs.count p ≤ s.uninstalls.count p

/-- How many plugins are installed, counted from the front of the list. -/
def installedCount (s : PluginState) : Nat :=
  match s.run with
  | .installing installed => installed.length
  | .installed => s.plugins.length
  | .started => s.plugins.length
  | _ => 0

/-- The branches that keep install and uninstall paired: the uninstall pass reaches a plugin
when `run()` has installed it and has not failed; no install fails once the pass has
uninstalled a plugin; `startPrimary` throws only if the pass has left nothing to uninstall. -/
def keepsPairing (s : PluginState) : PluginAction → Bool
  | .callbacksDone | .uninstallSettled =>
    match s.plugins[s.reached]? with
    | some plugin => !plugin.hasUninstall || decide (s.reached < s.installedCount)
    | none => true
  | .installSettled false => (s.plugins.take s.reached).all fun p => !p.hasUninstall
  | .startPrimary false => (s.plugins.drop s.reached).all fun p => !p.hasUninstall
  | _ => true

/-- The plugins of a list that have an `uninstall`. -/
def hooked (ps : List Plugin) : List Plugin := ps.filter Plugin.hasUninstall

/-- What the histories are, given where the two loops are. -/
inductive Tracked (s : PluginState) : Prop
  | running (hr : s.reached ≤ s.plugins.length) (hrej : s.run ≠ .rejected)
      (hback : ∀ rest, s.run ≠ .rollingBack rest)
      (hloop : ∀ installed, s.run = .installing installed →
        installed = s.plugins.take installed.length ∧ installed.length < s.plugins.length)
      (hi : s.installs = s.plugins.take s.installedCount)
      (hu : s.uninstalls = hooked (s.plugins.take s.reached))
      (hs : s.uninstalls.Sublist (s.plugins.take (min s.reached s.installedCount)))
  | failing (done rest : List Plugin) (hrun : s.run = .rollingBack rest)
      (hi : s.installs = done ++ rest) (hu : s.uninstalls = hooked done)
  | failed (hrun : s.run = .rejected) (hu : s.uninstalls = hooked s.installs)

theorem Tracked.paired (h : s.Tracked) : s.Paired := by
  cases h with
  | running hr hrej hback hloop hi hu hs =>
    refine ⟨fun p => ?_, fun hrun => absurd hrun hrej⟩
    rw [hi]
    exact (hs.trans (List.take_sublist_take_left (Nat.min_le_right _ _))).count_le p
  | failing done rest hrun hi hu =>
    refine ⟨fun p => ?_, fun h => by rw [hrun] at h; cases h⟩
    rw [hi, hu]
    exact (List.filter_sublist.trans (List.sublist_append_left done rest)).count_le p
  | failed hrun hu =>
    refine ⟨fun p => ?_, fun _ p hp => ?_⟩
    · rw [hu]
      exact List.filter_sublist.count_le p
    · rw [hu, hooked, List.count_filter hp]

/-! ## Steps -/

theorem hooked_append (ps qs : List Plugin) : hooked (ps ++ qs) = hooked ps ++ hooked qs :=
  List.filter_append ps qs

theorem hooked_singleton (p : Plugin) : hooked [p] = if p.hasUninstall then [p] else [] := by
  cases h : p.hasUninstall <;> simp [hooked, h]

theorem hooked_eq_nil {ps : List Plugin} (h : ps.all (fun p => !p.hasUninstall) = true) :
    hooked ps = [] := by
  rw [hooked, List.filter_eq_nil_iff]
  intro p hp
  simpa using List.all_eq_true.mp h p hp

theorem uninstalls_callUninstall (p : Plugin) (s : PluginState) :
    (s.callUninstall p).uninstalls = s.uninstalls ++ hooked [p] := by
  rw [callUninstall, hooked_singleton]
  split
  · rfl
  · exact (List.append_nil _).symm

/-- The rollback goes on: `done` is behind it. -/
theorem rollback_tracked {done rest : List Plugin} (hi : s.installs = done ++ rest)
    (hu : s.uninstalls = hooked done) : (s.rollbackInstalledPlugins rest).Tracked := by
  cases rest with
  | nil =>
    rw [List.append_nil] at hi
    exact .failed rfl (by rw [rollbackInstalledPlugins, hu, hi])
  | cons p rest =>
    refine .failing (done ++ [p]) rest rfl ?_ ?_
    · rw [List.append_assoc]
      exact (callUninstall_fields p s).1.trans hi
    · rw [hooked_append, ← hu]
      exact uninstalls_callUninstall p s

/-- The install loop goes on: these plugins are installed. -/
theorem install_tracked {installed : List Plugin} (hr : s.reached ≤ s.plugins.length)
    (hloop : installed = s.plugins.take installed.length)
    (hle : installed.length ≤ s.plugins.length) (hi : s.installs = installed)
    (hu : s.uninstalls = hooked (s.plugins.take s.reached))
    (hs : s.uninstalls.Sublist (s.plugins.take (min s.reached installed.length))) :
    (s.installPlugins installed).Tracked := by
  rw [installPlugins]
  split
  · rename_i p hp
    have hlt : installed.length < s.plugins.length := (List.getElem?_eq_some_iff.mp hp).1
    refine .running hr (by simp) (by simp) ?_ (hi.trans hloop) hu hs
    rintro _ ⟨⟩
    exact ⟨hloop, hlt⟩
  · rename_i hp
    have heq : installed.length = s.plugins.length :=
      Nat.le_antisymm hle (List.getElem?_eq_none_iff.mp hp)
    refine .running hr (by simp) (by simp) (by simp) ?_ hu ?_
    · show s.installs = s.plugins.take s.plugins.length
      rw [hi, hloop, heq]
    · show s.uninstalls.Sublist (s.plugins.take (min s.reached s.plugins.length))
      rwa [← heq]

/-- The frame of the pass is not tracked. -/
theorem Tracked.setPass (h : s.Tracked) (pass : PassFrame) :
    Tracked { s with pass := pass } := by
  cases h with
  | running hr hrej hback hloop hi hu hs => exact .running hr hrej hback hloop hi hu hs
  | failing done rest hrun hi hu => exact .failing done rest hrun hi hu
  | failed hrun hu => exact .failed hrun hu

theorem Tracked.reached_succ (h : s.Tracked) {p : Plugin} (hp : s.plugins[s.reached]? = some p)
    (hok : p.hasUninstall = true → s.reached < s.installedCount) :
    Tracked { s.callUninstall p with reached := s.reached + 1 } := by
  obtain ⟨hi', hp', hrun'⟩ := callUninstall_fields p s
  have hu' := uninstalls_callUninstall p s
  have skip (hc : s.installedCount = 0) : (s.callUninstall p).uninstalls = s.uninstalls := by
    have hh : p.hasUninstall = false := by
      cases hh : p.hasUninstall with
      | false => rfl
      | true => exact absurd (hok hh) (by omega)
    rw [hu', hooked_singleton, hh]
    exact List.append_nil _
  cases h with
  | running hr hrej hback hloop hi hu hs =>
    have hlt : s.reached < s.plugins.length := (List.getElem?_eq_some_iff.mp hp).1
    have htake : s.plugins.take (s.reached + 1) = s.plugins.take s.reached ++ [p] := by
      rw [List.take_add_one, hp]
      rfl
    have hcount : installedCount { s.callUninstall p with reached := s.reached + 1 } =
        s.installedCount := by
      unfold installedCount
      dsimp only
      rw [hrun', hp']
    refine .running ?_ (hrun' ▸ hrej) (hrun' ▸ hback) ?_ ?_ ?_ ?_
    · show s.reached + 1 ≤ (s.callUninstall p).plugins.length
      rw [hp']
      exact hlt
    · show ∀ installed, (s.callUninstall p).run = _ → _ = (s.callUninstall p).plugins.take _ ∧
        _ < (s.callUninstall p).plugins.length
      rw [hrun', hp']
      exact hloop
    · rw [hcount]
      show (s.callUninstall p).installs = (s.callUninstall p).plugins.take _
      rw [hi', hp', hi]
    · show (s.callUninstall p).uninstalls = hooked ((s.callUninstall p).plugins.take (s.reached + 1))
      rw [hu', hp', htake, hooked_append, hu]
    · rw [hcount]
      show (s.callUninstall p).uninstalls.Sublist
        ((s.callUninstall p).plugins.take (min (s.reached + 1) s.installedCount))
      rw [hu', hp', hooked_singleton]
      cases hh : p.hasUninstall with
      | false =>
        rw [if_neg Bool.false_ne_true, List.append_nil]
        exact hs.trans (List.take_sublist_take_left (by omega))
      | true =>
        have hc := hok hh
        rw [Nat.min_eq_left (by omega)] at hs
        rw [if_pos rfl, Nat.min_eq_left (by omega), htake]
        exact hs.append (List.Sublist.refl [p])
  | failing done rest hrun hi hu =>
    have hc : s.installedCount = 0 := by rw [installedCount, hrun]
    exact .failing done rest (hrun'.trans hrun) (hi'.trans hi) ((skip hc).trans hu)
  | failed hrun hu =>
    have hc : s.installedCount = 0 := by rw [installedCount, hrun]
    refine .failed (hrun'.trans hrun) ?_
    show (s.callUninstall p).uninstalls = hooked (s.callUninstall p).installs
    rw [skip hc, hi', hu]

/-- The uninstall pass takes its next plugin. -/
theorem uninstallPlugins_tracked (h : s.Tracked)
    (hok : (match s.plugins[s.reached]? with
      | some plugin => !plugin.hasUninstall || decide (s.reached < s.installedCount)
      | none => true) = true) : s.uninstallPlugins.Tracked := by
  rw [uninstallPlugins]
  split
  · rename_i p hp
    rw [hp] at hok
    refine (h.reached_succ hp fun hh => ?_).setPass .uninstalling
    simpa [hh] using hok
  · exact h.setPass .done

theorem use_tracked (h : s.Tracked) (p : Plugin) : (s.use p).Tracked := by
  rw [use]
  split
  · rename_i hidle
    cases h with
    | running hr hrej hback hloop hi hu hs =>
      have hc : s.installedCount = 0 := by rw [installedCount, hidle]
      have hc' : installedCount { s with plugins := s.plugins ++ [p] } = 0 := by
        rw [installedCount]
        dsimp only
        rw [hidle]
      refine .running ?_ hrej hback ?_ ?_ ?_ ?_
      · show s.reached ≤ (s.plugins ++ [p]).length
        rw [List.length_append]
        omega
      · intro installed hrun
        rw [show s.run = _ from hrun] at hidle
        cases hidle
      · rw [hc']
        rw [hc] at hi
        exact hi
      · show s.uninstalls = hooked ((s.plugins ++ [p]).take s.reached)
        rwa [List.take_append_of_le_length hr]
      · rw [hc']
        rw [hc] at hs
        show s.uninstalls.Sublist ((s.plugins ++ [p]).take (min s.reached 0))
        rw [Nat.min_zero] at hs ⊢
        exact hs
    | failing done rest hrun => rw [hrun] at hidle; cases hidle
    | failed hrun => rw [hrun] at hidle; cases hidle
  · exact h

theorem runPrimary_tracked (h : s.Tracked) : s.runPrimary.Tracked := by
  rw [runPrimary]
  split
  · rename_i hidle
    cases h with
    | running hr hrej hback hloop hi hu hs =>
      have hc : s.installedCount = 0 := by rw [installedCount, hidle]
      rw [hc] at hi hs
      exact install_tracked hr rfl (Nat.zero_le _) hi hu hs
    | failing done rest hrun => rw [hrun] at hidle; cases hidle
    | failed hrun => rw [hrun] at hidle; cases hidle
  · exact h

theorem installSettled_tracked {ok : Bool} (h : s.Tracked)
    (hok : s.keepsPairing (.installSettled ok) = true) (hact : s.installSettled ok = some t) :
    t.Tracked := by
  rw [installSettled] at hact
  split at hact
  · rename_i installed hrun
    cases h with
    | running hr hrej hback hloop hi hu hs =>
      obtain ⟨hpre, hlt⟩ := hloop installed hrun
      have hc : s.installedCount = installed.length := by rw [installedCount, hrun]
      rw [hc] at hi hs
      split at hact
      · rename_i p hp
        split at hact
        · obtain rfl := Option.some.inj hact
          have hlen : (installed ++ [p]).length = installed.length + 1 := by simp
          have htake : s.plugins.take (installed ++ [p]).length = installed ++ [p] := by
            rw [hlen, List.take_add_one, hp, ← hpre]
            rfl
          refine install_tracked (s := { s with installs := s.installs ++ [p] }) hr htake.symm
            (by rw [hlen]; exact hlt) ?_ hu ?_
          · show s.installs ++ [p] = installed ++ [p]
            rw [hi, ← hpre]
          · rw [hlen]
            show s.uninstalls.Sublist (s.plugins.take (min s.reached (installed.length + 1)))
            exact hs.trans (List.take_sublist_take_left (by omega))
        · rename_i hno
          obtain rfl := Option.some.inj hact
          obtain rfl := Bool.eq_false_iff.mpr hno
          have hnil : s.uninstalls = hooked [] := by
            rw [hu]
            exact hooked_eq_nil hok
          have hall : s.installs = [] ++ installed := by
            rw [hi, ← hpre]
            rfl
          exact rollback_tracked hall hnil
      · cases hact
    | failing done rest hrun' => rw [hrun'] at hrun; cases hrun
    | failed hrun' => rw [hrun'] at hrun; cases hrun
  · cases hact

theorem startPrimary_tracked {ok : Bool} (h : s.Tracked) (hrun : s.run = .installed)
    (hok : s.keepsPairing (.startPrimary ok) = true) :
    Tracked { s with run := if ok then .started else .rejected } := by
  cases h with
  | running hr hrej hback hloop hi hu hs =>
    have hc : s.installedCount = s.plugins.length := by rw [installedCount, hrun]
    rw [hc] at hi hs
    cases ok with
    | true => exact .running hr (by simp) (by simp) (by simp) hi hu hs
    | false =>
      refine .failed rfl ?_
      show s.uninstalls = hooked s.installs
      have hsplit : hooked s.plugins = hooked (s.plugins.take s.reached) ++
          hooked (s.plugins.drop s.reached) := by
        rw [← hooked_append, List.take_append_drop]
      have hdrop : hooked (s.plugins.drop s.reached) = [] := hooked_eq_nil hok
      rw [hi, hu, List.take_length, hsplit, hdrop, List.append_nil]
  | failing done rest hrun' => rw [hrun'] at hrun; cases hrun
  | failed hrun' => rw [hrun'] at hrun; cases hrun

/-- **Step lemma.** -/
theorem act_tracked {a : PluginAction} (h : s.Tracked) (hok : s.keepsPairing a = true)
    (hact : s.act a = some t) : t.Tracked := by
  cases a with
  | use p => exact Option.some.inj hact ▸ use_tracked h p
  | run => exact Option.some.inj hact ▸ runPrimary_tracked h
  | installSettled ok => exact installSettled_tracked h hok hact
  | rollbackSettled =>
    rw [act] at hact
    split at hact
    · rename_i rest hrun
      obtain rfl := Option.some.inj hact
      cases h with
      | running hr hrej hback => exact absurd hrun (hback rest)
      | failing done rest' hrun' hi hu =>
        rw [hrun'] at hrun
        cases hrun
        exact rollback_tracked hi hu
      | failed hrun' => rw [hrun'] at hrun; cases hrun
    · cases hact
  | startPrimary ok =>
    rw [act] at hact
    split at hact
    · rename_i hrun
      exact Option.some.inj hact ▸ startPrimary_tracked h hrun hok
    · cases hact
  | shutdownPrimary =>
    obtain rfl := Option.some.inj hact
    rw [shutdownPrimary]
    split
    · exact h.setPass .initiated
    · exact h
  | callbacksDone =>
    rw [act] at hact
    split at hact
    · exact Option.some.inj hact ▸ uninstallPlugins_tracked h hok
    · cases hact
  | uninstallSettled =>
    rw [act] at hact
    split at hact
    · exact Option.some.inj hact ▸ uninstallPlugins_tracked h hok
    · cases hact

/-- **Install and uninstall stay paired** in every run whose steps take the branches that
keep them so. -/
theorem plugins_paired (s : PluginState)
    (h : pluginLifecycle.Run (fun s a => s.keepsPairing a = true) pluginLifecycle.init s) :
    s.Paired := by
  apply Tracked.paired
  apply h.preserves (P := Tracked)
  · intro x a y hx hok hs
    exact act_tracked hx hok hs
  · exact .running (Nat.le_refl 0) (by simp [pluginLifecycle]) (by simp [pluginLifecycle])
      (by simp [pluginLifecycle]) rfl rfl (List.Sublist.refl [])

/-- Two plugins, the second fails to install, the first is rolled back; a shutdown then finds
a plugin that has nothing to uninstall. -/
theorem plugins_paired_rollback :
    ∃ s : PluginState, s.run = .rejected ∧ s.uninstalls = [⟨"good", true⟩] ∧ s.Paired := by
  have hrun := StepSystem.exists_run_of_any pluginLifecycle pluginLifecycle.init
    (fun s a => s.keepsPairing a)
    [.use ⟨"good", true⟩, .use ⟨"bad", false⟩, .run, .installSettled true, .installSettled false,
      .shutdownPrimary, .rollbackSettled]
    (fun s => decide (s.run = .rejected) && decide (s.uninstalls = [⟨"good", true⟩])) (by decide)
  obtain ⟨s, hrun, hq⟩ := hrun
  simp only [Bool.and_eq_true, decide_eq_true_eq] at hq
  exact ⟨s, hq.1, hq.2, plugins_paired s hrun⟩

/-- A shutdown while the first install is awaited: its plugin is uninstalled all the same. -/
theorem uninstall_before_install :
    ¬ ∀ s : PluginState, pluginLifecycle.Reachable s → s.Paired := by
  intro h
  have hrun := StepSystem.exists_reachable_of_any pluginLifecycle
    [.use ⟨"db", true⟩, .run, .shutdownPrimary, .callbacksDone]
    (fun s => decide (s.installs = []) && decide (s.uninstalls = [⟨"db", true⟩])) (by decide)
  obtain ⟨s, hreach, hq⟩ := hrun
  simp only [Bool.and_eq_true, decide_eq_true_eq] at hq
  have hcount := (h s hreach).once ⟨"db", true⟩
  rw [hq.1, hq.2] at hcount
  exact absurd hcount (by decide)

end PluginState

end ClusterKit
