import Korserver.Enablement
import Korserver.WatchCore

/-!
Runs of the `upstream_watch` loop: when it recovers the connection, and what it dials before there
has been a connection.
-/

namespace Korserver

open PythonText PythonValue Effects Doubles

def Branch.failed : Branch → Bool
  | .settling | .counting | .recovering => true
  | .disabled | .unselected | .healthy | .waiting => false

def Branch.restarts : Branch → Bool
  | .disabled | .unselected | .healthy | .recovering => true
  | .waiting | .settling | .counting => false

def TickRecord.takes (record : TickRecord) (kind : Branch → Bool) : Bool :=
  match record.branch with
  | .ok branch => kind branch
  | .error _ => false

/-- `recover` was called, and returned `True`. -/
def TickRecord.recovered (record : TickRecord) : Bool :=
  record.takes (· == .recovering) &&
    match (recover record.tick.config record.tick.recovering record.before).result with
    | .ok found => found
    | .error _ => false

section

variable (arithmetic : Arithmetic)

def TickRecord.settled (record : TickRecord) : ℚ :=
  arithmetic.plus record.tick.recoveredAt record.tick.config.upstream.checkSettleSeconds

def settlingAt (earlier : List TickRecord) (time : ℚ) : Bool :=
  earlier.any fun record => record.recovered && decide (time < record.settled arithmetic)

/-- How many unhealthy ticks there were since the last restart, without those that were settling. -/
def countedFailures : List TickRecord → Nat
  | [] => 0
  | record :: earlier =>
      if record.takes Branch.restarts then 0
      else countedFailures earlier +
        if record.takes Branch.failed && !settlingAt arithmetic earlier record.tick.checkedAt then 1 else 0

/-- A tick that is not settling itself has enough failures behind it, with its own. -/
structure Debounced (earlier : List TickRecord) (record : TickRecord) : Prop where
  counts : settlingAt arithmetic earlier record.tick.checkedAt = false
  enough : record.tick.config.upstream.checkThreshold ≤ countedFailures arithmetic earlier + 1

end

section

variable {tick : Tick} {watch next : WatchState} {state : Runtime} {branch : Branch}

theorem tickBranch_unhealthy (taken : tickBranch tick watch state = .ok branch) :
    branch = .disabled ∨ branch = .unselected ∨ branch = .healthy ∨
      branch = unhealthyBranch tick watch := by
  unfold tickBranch at taken
  split at taken
  · obtain ⟨selected, -, taken⟩ := bind_ok.mp taken
    cases selected with
    | some profile =>
        obtain ⟨healthy, -, taken⟩ := bind_ok.mp taken
        cases healthy with
        | true => exact Or.inr (Or.inr (Or.inl (pure_ok.mp taken).symm))
        | false => exact Or.inr (Or.inr (Or.inr (pure_ok.mp taken).symm))
    | none => exact Or.inr (Or.inl (pure_ok.mp taken).symm)
  · exact Or.inl (Except.ok.inj taken).symm

theorem tickBranch_failed (taken : tickBranch tick watch state = .ok branch)
    (failed : branch.failed = true) :
    (branch = .settling ∧ tick.checkedAt < watch.settledUntil) ∨
      (watch.settledUntil ≤ tick.checkedAt ∧ (branch = .counting ∨ (branch = .recovering ∧
        tick.config.upstream.checkThreshold ≤ watch.consecutiveFailures + 1))) := by
  rcases tickBranch_unhealthy taken with rfl | rfl | rfl | rfl
  · simp [Branch.failed] at failed
  · simp [Branch.failed] at failed
  · simp [Branch.failed] at failed
  · revert failed
    unfold unhealthyBranch
    split
    · simp [Branch.failed]
    · split
      · rename_i early
        exact fun _ => Or.inl ⟨rfl, early⟩
      · rename_i late
        split
        · rename_i enough
          exact fun _ => Or.inr ⟨not_lt.mp late, Or.inr ⟨rfl, enough⟩⟩
        · exact fun _ => Or.inr ⟨not_lt.mp late, Or.inl rfl⟩

theorem watchTick_ok (ended : (watchTick tick watch state).result = .ok next) :
    ∃ branch, tickBranch tick watch state = .ok branch ∧
      (branch.run tick watch state).result = .ok next := by
  obtain ⟨branch, taken, ended⟩ := Program.bind_result_ok ended
  obtain ⟨other, ran, ended⟩ := Program.bind_result_ok ended
  obtain ⟨-, -, ended⟩ := Program.bind_result_ok ended
  obtain rfl := Except.ok.inj ended
  exact ⟨branch, taken, ran⟩

theorem recovering_ok (ran : (Branch.recovering.run tick watch state).result = .ok next) :
    ∃ found, (recover tick.config tick.recovering state).result = .ok found ∧
      watch.afterRecovery tick found = .ok next := by
  obtain ⟨found, recovered, ended⟩ := Program.bind_result_ok ran
  exact ⟨found, recovered, ended⟩

theorem afterRecovery_true (ended : watch.afterRecovery tick true = .ok next) :
    next.consecutiveFailures = 0 ∧
      next.settledUntil = plus tick.recoveredAt tick.config.upstream.checkSettleSeconds := by
  obtain ⟨deadline, fits, ended⟩ := bind_ok.mp ended
  obtain rfl := pure_ok.mp ended
  refine ⟨rfl, ?_⟩
  unfold Tick.settleDeadline at fits
  split at fits
  · cases fits
  · exact (Except.ok.inj fits).symm

theorem healthy_ok (ran : (Branch.healthy.run tick watch state).result = .ok next) :
    next = { watch with consecutiveFailures := 0, everConnected := true } := by
  obtain ⟨-, -, ended⟩ := Program.bind_result_ok ran
  exact (Except.ok.inj ended).symm

end

structure Remembers (watch : WatchState) (earlier : List TickRecord) : Prop where
  failures : watch.consecutiveFailures ≤ countedFailures rounded earlier
  settled : ∀ record ∈ earlier, record.recovered = true → record.settled rounded ≤ watch.settledUntil

section

variable {tick : Tick} {watch next : WatchState} {state : Runtime} {earlier : List TickRecord}

theorem Remembers.late (remembers : Remembers watch earlier) {time : ℚ}
    (late : watch.settledUntil ≤ time) : settlingAt rounded earlier time = false := by
  refine List.any_eq_false.mpr fun record member => ?_
  simp only [Bool.and_eq_true, decide_eq_true_eq, not_and, not_lt]
  exact fun recovered => (remembers.settled record member recovered).trans late

theorem Remembers.keep {record : TickRecord} (remembers : Remembers watch earlier)
    (unrecovered : record.recovered = false) (same : next.settledUntil = watch.settledUntil)
    (failures : next.consecutiveFailures ≤ countedFailures rounded (record :: earlier)) :
    Remembers next (record :: earlier) where
  failures := failures
  settled := by
    intro other member recovered
    rw [same]
    rcases List.mem_cons.mp member with rfl | inEarlier
    · simp [unrecovered] at recovered
    · exact remembers.settled other inEarlier recovered

theorem remembers_tick (remembers : Remembers watch earlier) (clock : tick.checkedAt ≤ tick.recoveredAt)
    (ended : (recordTick watch state tick).outcome.result = .ok next) :
    Remembers next (recordTick watch state tick :: earlier) := by
  obtain ⟨branch, taken, ran⟩ := watchTick_ok ended
  have isBranch : (recordTick watch state tick).branch = .ok branch := taken
  have unrecovered (other : branch ≠ .recovering) : (recordTick watch state tick).recovered = false := by
    simp [TickRecord.recovered, TickRecord.takes, isBranch, other]
  have zero {value : WatchState} (none : value.consecutiveFailures = 0) :
      value.consecutiveFailures ≤ countedFailures rounded (recordTick watch state tick :: earlier) := by
    omega
  cases branch with
  | disabled =>
      obtain rfl := Except.ok.inj ran
      exact remembers.keep (unrecovered (by simp)) rfl (zero rfl)
  | unselected =>
      obtain rfl := Except.ok.inj ran
      exact remembers.keep (unrecovered (by simp)) rfl (zero rfl)
  | waiting =>
      obtain rfl := Except.ok.inj ran
      exact remembers.keep (unrecovered (by simp)) rfl (zero rfl)
  | healthy =>
      obtain rfl := healthy_ok ran
      exact remembers.keep (unrecovered (by simp)) rfl (zero rfl)
  | settling =>
      obtain rfl := Except.ok.inj ran
      refine remembers.keep (unrecovered (by simp)) rfl ?_
      simp only [countedFailures, TickRecord.takes, isBranch, Branch.restarts, Bool.false_eq_true, if_false]
      exact remembers.failures.trans (Nat.le_add_right _ _)
  | counting =>
      obtain rfl := Except.ok.inj ran
      obtain ⟨settling, -⟩ | ⟨late, -⟩ := tickBranch_failed taken rfl
      · simp at settling
      refine remembers.keep (unrecovered (by simp)) rfl ?_
      have counts : settlingAt rounded earlier (recordTick watch state tick).tick.checkedAt = false :=
        remembers.late late
      simp only [countedFailures, TickRecord.takes, isBranch, Branch.restarts, Branch.failed, counts,
        Bool.false_eq_true, if_false, Bool.not_false, Bool.and_self, if_true]
      exact Nat.add_le_add_right remembers.failures 1
  | recovering =>
      obtain ⟨settling, -⟩ | ⟨late, -⟩ := tickBranch_failed taken rfl
      · simp at settling
      obtain ⟨found, recovered, ended⟩ := recovering_ok ran
      cases found with
      | false =>
          obtain rfl := Except.ok.inj ended
          refine remembers.keep ?_ rfl (zero rfl)
          have returned : (recover (recordTick watch state tick).tick.config
              (recordTick watch state tick).tick.recovering
              (recordTick watch state tick).before).result = .ok false := recovered
          rw [TickRecord.recovered, returned, Bool.and_false]
      | true =>
          obtain ⟨none, deadline⟩ := afterRecovery_true ended
          refine ⟨zero none, fun record member _ => ?_⟩
          rw [deadline]
          rcases List.mem_cons.mp member with rfl | inEarlier
          · exact le_rfl
          · -- the earlier deadline is a double, so the later one is not rounded below it
            have before := (remembers.settled record inEarlier ‹_›).trans (late.trans clock)
            exact le_plus (toDouble_plus _ _) before (Int.natCast_nonneg _)

theorem Remembers.debounced (remembers : Remembers watch earlier)
    (called : (recordTick watch state tick).branch = .ok .recovering) :
    Debounced rounded earlier (recordTick watch state tick) := by
  obtain ⟨settling, -⟩ | ⟨late, counting | ⟨-, enough⟩⟩ :=
    tickBranch_failed (called : tickBranch tick watch (tick.meanwhile state) = _) rfl
  · simp at settling
  · simp at counting
  · exact ⟨remembers.late late, enough.trans (Nat.add_le_add_right remembers.failures 1)⟩

end

theorem watchTrace_ok {watch next : WatchState} {start : Runtime} {tick : Tick}
    (ended : (recordTick watch start tick).outcome.result = .ok next) (rest : List Tick) :
    watchTrace watch start (tick :: rest) =
      recordTick watch start tick :: watchTrace next (recordTick watch start tick).outcome.state rest := by
  rw [watchTrace]
  simp only [ended]

theorem watchTrace_last (watch : WatchState) (start : Runtime) (tick : Tick) :
    watchTrace watch start [tick] = [recordTick watch start tick] := by
  cases ended : (recordTick watch start tick).outcome.result with
  | ok next => rw [watchTrace_ok ended, watchTrace]
  | error error =>
      rw [watchTrace]
      simp only [ended]

theorem watchTrace_split {invariant : WatchState → List TickRecord → Prop} {ticks : List Tick}
    (kept : ∀ watch earlier state next, ∀ tick ∈ ticks, invariant watch earlier →
      (recordTick watch state tick).outcome.result = .ok next →
      invariant next (recordTick watch state tick :: earlier))
    {watch : WatchState} {earlier front back : List TickRecord} {record : TickRecord} {start : Runtime}
    (initial : invariant watch earlier)
    (split : watchTrace watch start ticks = front ++ record :: back) :
    invariant record.watch (front.reverse ++ earlier) ∧
      ∃ state, ∃ tick ∈ ticks, record = recordTick record.watch state tick := by
  induction ticks generalizing watch earlier start front with
  | nil => simp [watchTrace] at split
  | cons tick rest ih =>
      rw [watchTrace] at split
      cases front with
      | nil =>
          obtain ⟨rfl, -⟩ := List.cons.inj split
          exact ⟨initial, start, tick, by simp, rfl⟩
      | cons first front =>
          obtain ⟨rfl, later⟩ := List.cons.inj split
          cases ended : (recordTick watch start tick).outcome.result with
          | error error =>
              simp only [ended] at later
              simp at later
          | ok next =>
              simp only [ended] at later
              have keptRest := fun watch earlier state next other member =>
                kept watch earlier state next other (List.mem_cons_of_mem _ member)
              obtain ⟨holds, state, other, member, same⟩ :=
                ih keptRest (kept watch earlier start next tick (by simp) initial ended) later
              refine ⟨?_, state, other, List.mem_cons_of_mem _ member, same⟩
              simpa using holds

/-- Every call of `recover` is debounced. -/
theorem recoveries_debounced (start : Runtime) (ticks : List Tick)
    (clock : ∀ tick ∈ ticks, tick.checkedAt ≤ tick.recoveredAt) (front back : List TickRecord)
    (record : TickRecord) (split : watchTrace {} start ticks = front ++ record :: back)
    (called : record.branch = .ok .recovering) : Debounced rounded front.reverse record := by
  have initial : Remembers {} [] := ⟨Nat.le_refl _, by simp⟩
  obtain ⟨remembers, state, tick, -, same⟩ := watchTrace_split
    (fun watch earlier state next tick member remembers ended =>
      remembers_tick remembers (clock tick member) ended) initial split
  rw [List.append_nil] at remembers
  rw [same] at called ⊢
  exact remembers.debounced called

def downTick : Tick where
  config := { upstream := { enabled := true, checkThreshold := 2, profiles := [plainProfile "first"] } }
  healing := tunnelsOnly
  recovering := refusingEnvironment
  enforcing := refusingEnvironment
  refreshing := tunnelsOnly

def firstDown : TickRecord := recordTick {} {} downTick

def secondDown : TickRecord := recordTick { consecutiveFailures := 1 } firstDown.outcome.state downTick

theorem recoveries_debounced_sample : Debounced rounded [firstDown] secondDown :=
  recoveries_debounced {} [downTick, downTick] (by simp [downTick]) [firstDown] [] secondDown rfl rfl

def recoveringTick (time : ℚ) : Tick where
  config := { upstream := { enabled := true, checkThreshold := 1, profiles := [plainProfile "first"] } }
  meanwhile state := { state with connected := fun _ => false }
  checkedAt := time
  recoveredAt := time
  healing := tunnelsOnly
  recovering := quietEnvironment
  enforcing := quietEnvironment
  refreshing := tunnelsOnly

/-- 0.1 and 15.1 as the clock gives them. -/
def earlyTick : Tick := recoveringTick (3602879701896397 / 2 ^ 55)

def lateTick : Tick := recoveringTick (8500544296661811 / 2 ^ 49)

def earlyRecord : TickRecord := recordTick {} {} earlyTick

def afterEarly : WatchState := { settledUntil := lateTick.checkedAt, everConnected := true }

def lateRecord : TickRecord := recordTick afterEarly earlyRecord.outcome.state lateTick

theorem early_ends : earlyRecord.outcome.result = .ok afterEarly := by decide +kernel

theorem watchTrace_early : watchTrace {} {} [earlyTick, lateTick] = [earlyRecord, lateRecord] := by
  have first : watchTrace {} {} [earlyTick, lateTick] =
      earlyRecord :: watchTrace afterEarly earlyRecord.outcome.state [lateTick] := watchTrace_ok early_ends [lateTick]
  rw [first, watchTrace_last]
  rfl

theorem recoveries_rounded :
    ¬∀ (start : Runtime) (ticks : List Tick),
      (∀ tick ∈ ticks, toDouble tick.checkedAt = tick.checkedAt ∧
        toDouble tick.recoveredAt = tick.recoveredAt) →
      (ticks.flatMap fun tick => [tick.checkedAt, tick.recoveredAt]).Pairwise (· ≤ ·) →
      ∀ front back record, watchTrace {} start ticks = front ++ record :: back →
        record.branch = .ok .recovering → Debounced exactly front.reverse record := by
  intro debounced
  have doubles : ∀ tick ∈ [earlyTick, lateTick],
      toDouble tick.checkedAt = tick.checkedAt ∧ toDouble tick.recoveredAt = tick.recoveredAt := by
    have first : toDouble earlyTick.checkedAt = earlyTick.checkedAt := by decide +kernel
    have second : toDouble lateTick.checkedAt = lateTick.checkedAt := by decide +kernel
    simp only [List.mem_cons, List.not_mem_nil, or_false, forall_eq_or_imp, forall_eq]
    exact ⟨⟨first, first⟩, second, second⟩
  have inside : settlingAt exactly [earlyRecord] lateRecord.tick.checkedAt = true := by decide +kernel
  have called : lateRecord.branch = .ok .recovering := by decide +kernel
  have holds := debounced {} [earlyTick, lateTick] doubles (by decide +kernel) [earlyRecord] [] lateRecord
    watchTrace_early called
  exact absurd (inside.symm.trans holds.counts) (by simp)

def TickRecord.Undialing (record : TickRecord) : Prop :=
  record.outcome.state.attempts = record.before.attempts

/-- No profile but the active one is enabled and down, unless a raising teardown comes before it. -/
def TickRecord.NothingToDial (record : TickRecord) : Prop :=
  record.tick.config.upstream.enabled = true →
    ∀ active, runtimeProfile record.tick.config record.before.marker = .ok active →
      NoStandby record.tick.config record.tick.enforcing (active.map (·.name)) record.before.connected

def BeforeHealthy (front : List TickRecord) (record : TickRecord) : Prop :=
  ∀ other ∈ front ++ [record], other.branch ≠ .ok .healthy

section

variable {tick : Tick} {watch next : WatchState} {state : Runtime} {branch : Branch}

theorem tickBranch_boot (off : tick.config.upstream.connectOnBoot = false)
    (never : watch.everConnected = false) (taken : tickBranch tick watch state = .ok branch)
    (unhealthy : branch ≠ .healthy) :
    branch = .disabled ∨ branch = .unselected ∨ branch = .waiting := by
  rcases tickBranch_unhealthy taken with rfl | rfl | rfl | rfl
  · exact Or.inl rfl
  · exact Or.inr (Or.inl rfl)
  · exact absurd rfl unhealthy
  · refine Or.inr (Or.inr ?_)
    simp [unhealthyBranch, off, never]

theorem refreshServerRoutes_quiet : Quiet (refreshServerRoutes tick) :=
  Quiet.bind (Quiet.succeeds (applyServerRouting_quiet _ _)) fun _ => Quiet.pure

theorem tickBranch_readable {active : Option UpstreamProfileConfig}
    (enabled : tick.config.upstream.enabled = true)
    (readable : runtimeProfile tick.config state.marker = .ok active) :
    ∃ branch, tickBranch tick watch state = .ok branch := by
  unfold tickBranch isHealthy
  rw [if_pos enabled, readable]
  cases active with
  | none => exact ⟨_, rfl⟩
  | some profile => exact ⟨_, rfl⟩

theorem watchTick_enforces (off : tick.config.upstream.connectOnBoot = false)
    (never : watch.everConnected = false) (taken : tickBranch tick watch state = .ok branch)
    (unhealthy : branch ≠ .healthy) :
    (watchTick tick watch state).state.attempts =
      if tick.config.upstream.enabled then
        (enforceProfileEnablement tick.config tick.enforcing state).state.attempts
      else state.attempts := by
  have enforced : Triple (fun _ => True) (fun other => other = state) (watchTick tick watch)
      (fun _ after => after.attempts = if tick.config.upstream.enabled then
        (enforceProfileEnablement tick.config tick.enforcing state).state.attempts else state.attempts)
      (fun after => after.attempts = if tick.config.upstream.enabled then
        (enforceProfileEnablement tick.config tick.enforcing state).state.attempts
        else state.attempts) := by
    refine Triple.bind (Triple.fromExcept_cases ?_ ?_ :
      Triple _ _ _ (fun found other => other = state ∧ found = branch) _) fun found => Triple.fact ?_
    · rintro other found rfl ended
      exact ⟨rfl, Except.ok.inj (ended.symm.trans taken)⟩
    · rintro other error rfl failed
      exact absurd (taken.symm.trans failed) (by simp)
    rintro rfl
    have runs : found.run tick watch = pure { watch with consecutiveFailures := 0 } := by
      rcases tickBranch_boot off never taken unhealthy with rfl | rfl | rfl <;> rfl
    rw [runs]
    refine Triple.bind (Triple.pure fun _ same => same :
      Triple _ _ _ (fun _ other => other = state) _) fun next => ?_
    refine Triple.bind (Triple.when ?_ ?_ : Triple _ _ _ (fun _ after => after.attempts = _) _) fun _ =>
      Triple.pure fun _ => id
    · intro enabled
      rw [if_pos enabled]
      refine Triple.bind ((Triple.final.weaken (fun _ => id) fun _ after same => ?_).relax ?_) fun _ =>
        refreshServerRoutes_quiet fun links => links.attempts =
          (enforceProfileEnablement tick.config tick.enforcing state).state.attempts
      · rw [same]
        rfl
      · intro after same
        rw [same]
    · rintro disabled other rfl
      rw [if_neg (by simp [disabled])]
  have ended := enforced.ends rfl
  cases result : (watchTick tick watch state).result with
  | ok value =>
      rw [result] at ended
      exact ended
  | error error =>
      rw [result] at ended
      exact ended

theorem undialing_iff (valid : tick.config.Valid) (off : tick.config.upstream.connectOnBoot = false)
    (never : watch.everConnected = false)
    (unhealthy : (recordTick watch state tick).branch ≠ .ok .healthy) :
    (recordTick watch state tick).Undialing ↔ (recordTick watch state tick).NothingToDial := by
  cases taken : tickBranch tick watch (tick.meanwhile state) with
  | error error =>
      have raised : watchTick tick watch (tick.meanwhile state) =
          ⟨.error error, tick.meanwhile state, []⟩ := by
        change Program.andThen (Program.fromExcept (tickBranch tick watch)) _ (tick.meanwhile state) = _
        simp only [Program.andThen, Program.fromExcept, taken]
      refine iff_of_true ?_ fun enabled active readable => ?_
      · change (watchTick tick watch (tick.meanwhile state)).state.attempts = _
        rw [raised]
        rfl
      · obtain ⟨branch, found⟩ := @tickBranch_readable tick watch _ active enabled readable
        exact absurd (found.symm.trans taken) (by simp)
  | ok branch =>
      have notHealthy : branch ≠ .healthy := by
        rintro rfl
        exact unhealthy taken
      have dials := watchTick_enforces off never taken notHealthy
      change (watchTick tick watch (tick.meanwhile state)).state.attempts =
        (tick.meanwhile state).attempts ↔ _
      rw [dials]
      cases enabled : tick.config.upstream.enabled with
      | false =>
          refine iff_of_true rfl fun isEnabled => ?_
          exact absurd (enabled.symm.trans isEnabled) (by simp)
      | true =>
          rw [if_pos rfl]
          have readable : ∃ active,
              runtimeProfile tick.config (tick.meanwhile state).marker = .ok active := by
            unfold tickBranch at taken
            rw [if_pos enabled] at taken
            obtain ⟨active, readable, -⟩ := bind_ok.mp taken
            exact ⟨active, readable⟩
          obtain ⟨active, readable⟩ := readable
          rw [noStandby_iff valid.facts readable]
          constructor
          · intro none _ other found
            obtain rfl := Except.ok.inj (readable.symm.trans found)
            exact none
          · exact fun nothing => nothing enabled active readable

/-- As long as no connection was found healthy, the loop remembers none. -/
def BootState (watch : WatchState) (earlier : List TickRecord) : Prop :=
  (∀ other ∈ earlier, other.branch ≠ .ok .healthy) → watch.everConnected = false

theorem bootState_tick {earlier : List TickRecord} (off : tick.config.upstream.connectOnBoot = false)
    (boot : BootState watch earlier) (ended : (recordTick watch state tick).outcome.result = .ok next) :
    BootState next (recordTick watch state tick :: earlier) := by
  intro unhealthy
  have never := boot fun other inEarlier => unhealthy other (List.mem_cons_of_mem _ inEarlier)
  obtain ⟨branch, taken, ran⟩ := watchTick_ok ended
  have notHealthy : branch ≠ .healthy := by
    rintro rfl
    exact unhealthy (recordTick watch state tick) (by simp) taken
  rcases tickBranch_boot off never taken notHealthy with rfl | rfl | rfl
  all_goals
    obtain rfl := Except.ok.inj ran
    exact never

end

/-- Without a connection on boot, and before there has been a connection, nobody is dialed exactly
when nobody but the active profile is enabled and down. -/
theorem respectsConnectOnBoot_iff (start : Runtime) (ticks : List Tick)
    (valid : ∀ tick ∈ ticks, tick.config.Valid)
    (off : ∀ tick ∈ ticks, tick.config.upstream.connectOnBoot = false) :
    (∀ front record back, watchTrace {} start ticks = front ++ record :: back →
        BeforeHealthy front record → record.Undialing) ↔
      ∀ front record back, watchTrace {} start ticks = front ++ record :: back →
        BeforeHealthy front record → record.NothingToDial := by
  refine forall_congr' fun front => forall_congr' fun record => forall_congr' fun back =>
    forall_congr' fun split => forall_congr' fun before => ?_
  have initial : BootState {} [] := fun _ => rfl
  obtain ⟨boot, state, tick, member, same⟩ := watchTrace_split
    (fun watch earlier state next tick member boot ended => bootState_tick (off tick member) boot ended)
    initial split
  have never : record.watch.everConnected = false := by
    refine boot fun other inFront => before other ?_
    simpa using Or.inl inFront
  have unhealthy : record.branch ≠ .ok .healthy := before record (by simp)
  rw [same] at unhealthy ⊢
  exact undialing_iff (valid tick member) (off tick member) never unhealthy

def bootConfig : AppConfig where
  upstream := {
    enabled := true
    connectOnBoot := false
    profiles := [plainProfile "first", plainProfile "second"] }

def bootTick : Tick where
  config := bootConfig
  healing := tunnelsOnly
  recovering := quietEnvironment
  enforcing := quietEnvironment
  refreshing := tunnelsOnly

theorem bootConfig_valid : bootConfig.Valid := ⟨fun _ => false, by decide⟩

theorem respectsConnectOnBoot_iff_sample :
    (∀ front record back, watchTrace {} {} [bootTick] = front ++ record :: back →
        BeforeHealthy front record → record.Undialing) ↔
      ∀ front record back, watchTrace {} {} [bootTick] = front ++ record :: back →
        BeforeHealthy front record → record.NothingToDial :=
  respectsConnectOnBoot_iff {} [bootTick] (by simp [bootTick, bootConfig_valid]) (by simp [bootTick, bootConfig])

theorem boot_dialsStandby :
    bootConfig.Valid ∧ bootConfig.upstream.connectOnBoot = false ∧
      watchTrace {} {} [bootTick] = [recordTick {} {} bootTick] ∧
      BeforeHealthy [] (recordTick {} {} bootTick) ∧
      ¬(recordTick {} {} bootTick).Undialing := by
  refine ⟨bootConfig_valid, rfl, watchTrace_last {} {} bootTick, ?_, ?_⟩
  · intro other member
    obtain rfl := List.mem_singleton.mp member
    have waiting : (recordTick {} {} bootTick).branch = .ok .waiting := rfl
    rw [waiting]
    simp
  · have dialed : (recordTick {} {} bootTick).outcome.state.attempts = ["second"] := rfl
    have before : (recordTick {} {} bootTick).before.attempts = [] := rfl
    rw [TickRecord.Undialing, dialed, before]
    simp

end Korserver
