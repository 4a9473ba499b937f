import RoleLookup.Health.Cadence

/-!
# When checks start

A reporter keeps to the multiples of its period, as long as the period is longer than the tolerance.

* `scheduledStart`, when each check starts, and `scheduledRound`, what comes of it;
* `next_eq`, after a tick of the schedule comes the next multiple of the period;
* `OnSchedule`, a reporter that has made some rounds of the schedule, with `OnSchedule.after`;
* `start?`, `next?` and `roundsBefore?`, a reporter that stops where an interval would be of length
  zero or a time cannot be computed, and `roundsBefore?_eq_some`, no reporter does;
* `reporter_keeps_schedule`, the rounds of every reporter, and what follows for checks and
  publications.
-/

namespace RoleLookup.Health

variable {period limit fuel n m : Nat} {check sink : Nat → Nat} {r : Reporter}

/-! ### The schedule -/

/-- When checks start: the first one at once, and each other one at the first multiple of the period
after the start of the one before it, or when that has been published. -/
def scheduledStart (period : Nat) (check sink : Nat → Nat) : Nat → Nat
  | 0 => 0
  | n + 1 =>
    let s := scheduledStart period check sink n
    max (s + check n + sink n) ((s / period + 1) * period)

/-- A check of the schedule and its publication. -/
def scheduledRound (period : Nat) (check sink : Nat → Nat) (n : Nat) : Round :=
  let s := scheduledStart period check sink n
  ⟨n, s, s + check n, s + check n + sink n⟩

theorem finish_le_start_succ (period : Nat) (check sink : Nat → Nat) (n : Nat) :
    (scheduledRound period check sink n).finish ≤ scheduledStart period check sink (n + 1) :=
  Nat.le_max_left ..

/-- Each check starts in a later period than the one before it. -/
theorem slot_lt_succ (h : 0 < period) (check sink : Nat → Nat) (n : Nat) :
    scheduledStart period check sink n / period <
      scheduledStart period check sink (n + 1) / period := by
  rw [← Nat.succ_le_iff, Nat.le_div_iff_mul_le h]
  exact Nat.le_max_right ..

theorem slot_add_le (h : 0 < period) (check sink : Nat → Nat) (m k : Nat) :
    scheduledStart period check sink m / period + k ≤
      scheduledStart period check sink (m + k) / period := by
  induction k with
  | zero => exact Nat.le_refl _
  | succ k ih => exact Nat.le_trans (Nat.succ_le_succ ih) (slot_lt_succ h check sink (m + k))

theorem le_start (h : 0 < period) (check sink : Nat → Nat) (n : Nat) :
    n ≤ scheduledStart period check sink n := by
  have hslot := slot_add_le h check sink 0 n
  rw [Nat.zero_add] at hslot
  exact Nat.le_trans (Nat.le_add_left ..) (Nat.le_trans hslot (Nat.div_le_self ..))

/-- A round is over before the check of a later one starts. -/
theorem finish_le_start (period : Nat) (check sink : Nat → Nat) (h : m < n) :
    (scheduledRound period check sink m).finish ≤ scheduledStart period check sink n := by
  obtain ⟨k, rfl⟩ := Nat.exists_eq_add_of_lt h
  induction k with
  | zero => exact finish_le_start_succ period check sink m
  | succ k ih =>
    have hnext := finish_le_start_succ period check sink (m + k + 1)
    simp only [scheduledRound] at hnext ih ⊢
    have := ih (by omega)
    simp only [Nat.add_assoc] at *
    omega

theorem start_mono (period : Nat) (check sink : Nat → Nat) (h : m ≤ n) :
    scheduledStart period check sink m ≤ scheduledStart period check sink n := by
  rcases Nat.eq_or_lt_of_le h with rfl | h
  · exact Nat.le_refl _
  · have := finish_le_start period check sink h
    simp only [scheduledRound] at this
    omega

/-! ### Reporters on schedule -/

theorem roundsBefore_of_le (check sink : Nat → Nat) (h : limit ≤ r.start) (fuel : Nat) :
    r.roundsBefore check sink limit fuel = [] := by
  cases fuel with
  | zero => rfl
  | succ fuel => exact if_pos h

theorem roundsBefore_of_lt (check sink : Nat → Nat) (h : r.start < limit) (fuel : Nat) :
    r.roundsBefore check sink limit (fuel + 1) = r.round check sink ::
      (r.after (r.round check sink)).roundsBefore check sink limit fuel :=
  if_neg (Nat.not_le.2 h)

/-- Behind a tick that was due at a multiple of the period, the next multiple is due. -/
theorem next_eq {j s : Nat} (long : Cadence.tolerance < period) (hs : j * period ≤ s) :
    Cadence.next period (j * period) s = (s / period + 1) * period := by
  have hdiv := Nat.div_add_mod s period
  rw [Nat.mul_comm] at hdiv
  rw [Cadence.next, Nat.add_mul, Nat.one_mul]
  split
  · have hmod : (s - j * period) % period = s % period := by
      rw [Nat.mul_comm j] at hs ⊢
      exact Nat.sub_mul_mod hs
    omega
  · have hslot : s / period = j := Nat.div_eq_of_lt_le hs (by rw [Nat.add_mul]; omega)
    rw [hslot]

/-- A reporter that has made some rounds of the schedule. -/
structure OnSchedule (period : Nat) (check sink : Nat → Nat) (n : Nat) (r : Reporter) : Prop where
  number : r.number = n
  aligned : ∃ j, r.deadline = j * period
  keeps : r.period = period
  start : r.start = scheduledStart period check sink n

namespace OnSchedule

theorem ofPeriod (long : Cadence.tolerance < period) :
    OnSchedule period check sink 0 (.ofPeriod period) where
  number := rfl
  aligned := ⟨0, (Nat.zero_mul _).symm⟩
  keeps := Nat.max_eq_left (Nat.lt_of_le_of_lt (Nat.zero_le _) long)
  start := rfl

theorem round (h : OnSchedule period check sink n r) :
    r.round check sink = scheduledRound period check sink n := by
  simp only [Reporter.round, scheduledRound, h.number, h.start]

theorem after (h : OnSchedule period check sink n r) (long : Cadence.tolerance < period) :
    OnSchedule period check sink (n + 1) (r.after (r.round check sink)) := by
  obtain ⟨j, hj⟩ := h.aligned
  have hle : j * period ≤ scheduledStart period check sink n := by
    rw [← h.start, ← hj]
    exact Nat.le_max_right ..
  have hdeadline : (r.after (r.round check sink)).deadline =
      (scheduledStart period check sink n / period + 1) * period := by
    rw [h.round]
    simp only [Reporter.after, h.keeps, hj]
    exact next_eq long hle
  refine ⟨congrArg (· + 1) h.number, ⟨_, hdeadline⟩, h.keeps, ?_⟩
  rw [Reporter.start, hdeadline, h.round]
  rfl

/-- The rounds that start before a time, from a reporter on, if there is enough fuel. -/
theorem roundsBefore (h : OnSchedule period check sink n r) (long : Cadence.tolerance < period)
    (enough : limit ≤ n + fuel) :
    ∃ k, r.roundsBefore check sink limit fuel =
        (List.range' n k).map (scheduledRound period check sink) ∧
      ∀ m, n ≤ m → (m < n + k ↔ scheduledStart period check sink m < limit) := by
  induction fuel generalizing n r with
  | zero =>
    refine ⟨0, rfl, fun m hm => ?_⟩
    have := le_start (Nat.zero_lt_of_lt long) check sink m
    omega
  | succ fuel ih =>
    rcases Nat.lt_or_ge r.start limit with early | late
    · obtain ⟨k, hk, hiff⟩ := ih (h.after long) (by omega)
      refine ⟨k + 1, ?_, fun m hm => ?_⟩
      · rw [roundsBefore_of_lt check sink early, hk, h.round, List.range'_succ, List.map_cons]
      · rw [h.start] at early
        rcases Nat.eq_or_lt_of_le hm with rfl | hm
        · omega
        · have := hiff m hm
          omega
    · refine ⟨0, roundsBefore_of_le check sink late _, fun m hm => ?_⟩
      have := start_mono period check sink hm
      rw [h.start] at late
      omega

end OnSchedule

/-! ### Nothing is undefined -/

/-- A reporter that starts, unless its ticks would have no time in between. -/
def Reporter.start? (period : Nat) : Option Reporter := if period = 0 then none else some { period }

/-- The tick after one, unless it cannot be told: that takes a remainder, which there is none of by
zero, and two differences, which must not be negative. -/
def Cadence.next? (period deadline now : Nat) : Option Nat :=
  if deadline + tolerance < now then
    if period ≠ 0 ∧ deadline ≤ now ∧ (now - deadline) % period ≤ now + period then
      some (now + period - (now - deadline) % period)
    else none
  else some (deadline + period)

/-- The rounds that start before a time, unless the tick after one of them cannot be told. -/
def Reporter.roundsBefore? (r : Reporter) (check sink : Nat → Nat) (limit : Nat) :
    Nat → Option (List Round)
  | 0 => some []
  | fuel + 1 =>
    if limit ≤ r.start then some []
    else
      let round := r.round check sink
      (Cadence.next? r.period r.deadline round.start).bind fun deadline =>
        ({ r with number := r.number + 1, now := round.finish, deadline }.roundsBefore?
          check sink limit fuel).map (round :: ·)

theorem next?_eq_some (h : 0 < period) (deadline now : Nat) :
    Cadence.next? period deadline now = some (Cadence.next period deadline now) := by
  unfold Cadence.next? Cadence.next
  split
  · have hmod := Nat.mod_lt (now - deadline) h
    rw [if_pos ⟨by omega, by omega, by omega⟩]
  · rfl

theorem roundsBefore?_eq_some (h : 0 < r.period) (check sink : Nat → Nat) (limit fuel : Nat) :
    r.roundsBefore? check sink limit fuel = some (r.roundsBefore check sink limit fuel) := by
  induction fuel generalizing r with
  | zero => rfl
  | succ fuel ih =>
    rw [Reporter.roundsBefore?, Reporter.roundsBefore]
    split
    · rfl
    · simp only [next?_eq_some h, Option.bind_some]
      exact congrArg (Option.map _) (ih (r := r.after (r.round check sink)) h)

theorem start?_effective (period : Nat) :
    Reporter.start? (Cadence.effective period) = some (.ofPeriod period) := by
  have hpos : 0 < Cadence.effective period := Nat.lt_of_lt_of_le Nat.one_pos (Nat.le_max_right ..)
  exact if_neg (Nat.ne_of_gt hpos)

/-! ### All rounds -/

theorem rounds_eq (long : Cadence.tolerance < period) (check sink : Nat → Nat) (limit : Nat) :
    ∃ k, (Reporter.ofPeriod period).rounds check sink limit =
        (List.range k).map (scheduledRound period check sink) ∧
      ∀ n, n < k ↔ scheduledStart period check sink n < limit := by
  have onSchedule : OnSchedule period check sink 0 (.ofPeriod period) := .ofPeriod long
  have enough : limit ≤ 0 + limit := Nat.le_add_left ..
  obtain ⟨k, hk, hiff⟩ := onSchedule.roundsBefore long enough
  refine ⟨k, ?_, fun n => ?_⟩
  · rw [List.range_eq_range']
    exact hk
  · have := hiff n (Nat.zero_le n)
    rwa [Nat.zero_add] at this

/-- Of the rounds whose check starts before a time, all but the last are published by then. -/
theorem published_eq (period : Nat) (check sink : Nat → Nat) {k : Nat}
    (h : ∀ n, n < k → scheduledStart period check sink n < limit) :
    ∃ j, ((List.range k).map (scheduledRound period check sink)).filter (·.publish < limit) =
      (List.range j).map (scheduledRound period check sink) ∧ j ≤ k ∧ k ≤ j + 1 := by
  cases k with
  | zero => exact ⟨0, rfl, Nat.le_refl 0, Nat.zero_le 1⟩
  | succ k =>
    have hpublished : ∀ n ∈ List.range k, (scheduledRound period check sink n).publish < limit := by
      intro n hn
      have hfinish := finish_le_start period check sink (List.mem_range.1 hn)
      have hstart := h k (Nat.lt_succ_self k)
      simp only [scheduledRound] at hfinish ⊢
      omega
    have hall : ((List.range k).map (scheduledRound period check sink)).filter
        (·.publish < limit) = (List.range k).map (scheduledRound period check sink) := by
      rw [List.filter_eq_self]
      simpa using hpublished
    rw [List.range_succ, List.map_append, List.filter_append, hall]
    by_cases hlast : (scheduledRound period check sink k).publish < limit
    · exact ⟨k + 1, by simp [hlast, List.range_succ], by omega, by omega⟩
    · exact ⟨k, by simp [hlast], by omega, by omega⟩

/-- **Reporters keep to their schedule.** With a period longer than the tolerance, the rounds of a
reporter are those of the schedule: the first check starts at once, and each other one when the one
before it has been published, but not before the next multiple of the period. So no check starts
before what came before it is published, there is no more than one in each period, however late
they are, and all but the last have been published, in order. With any period, the reporter never
comes to a tick that it cannot tell. -/
theorem reporter_keeps_schedule (long : Cadence.tolerance < period) (check sink : Nat → Nat) :
    let start := scheduledStart period check sink
    let round := scheduledRound period check sink
    (start 0 = 0 ∧ ∀ n, start (n + 1) =
      max (round n).finish ((start n / period + 1) * period)) ∧
    (∀ limit, let rounds := (Reporter.ofPeriod period).rounds check sink limit
      ∃ k j, rounds = (List.range k).map round ∧ (∀ n, n < k ↔ start n < limit) ∧
        rounds.filter (·.publish < limit) = (List.range j).map round ∧ j ≤ k ∧ k ≤ j + 1) ∧
    (∀ m n, m < n → (round m).finish ≤ start n ∧
      start m / period + (n - m) ≤ start n / period) ∧
    ∀ (requested : Nat) (check sink : Nat → Nat) (limit fuel : Nat),
      ((Reporter.start? (Cadence.effective requested)).bind
        (·.roundsBefore? check sink limit fuel)) =
      some ((Reporter.ofPeriod requested).roundsBefore check sink limit fuel) := by
  intro start round
  refine ⟨⟨rfl, fun n => rfl⟩, fun limit => ?_, fun m n h => ⟨?_, ?_⟩, ?_⟩
  · obtain ⟨k, hk, hiff⟩ := rounds_eq long check sink limit
    obtain ⟨j, hj, hle, hle'⟩ := published_eq period check sink fun n => (hiff n).1
    exact ⟨k, j, hk, hiff, by rw [hk, hj], hle, hle'⟩
  · exact finish_le_start period check sink h
  · have hslot := slot_add_le (Nat.zero_lt_of_lt long) check sink m (n - m)
    rwa [Nat.add_sub_cancel' (Nat.le_of_lt h)] at hslot
  · intro requested check sink limit fuel
    rw [start?_effective, Option.bind_some]
    exact roundsBefore?_eq_some
      (Nat.lt_of_lt_of_le Nat.one_pos (Nat.le_max_right requested 1)) check sink limit fuel

/-- The first check and its publication take almost three of the shortest periods. -/
theorem reporter_keeps_schedule_six :
    let check := fun n => if n = 0 then 13 else 0
    let sink := fun n => if n = 0 then 4 else 0
    Cadence.tolerance < 6 ∧ (Reporter.ofPeriod 6).rounds check sink 20 =
      [⟨0, 0, 13, 17⟩, ⟨1, 17, 17, 17⟩, ⟨2, 18, 18, 18⟩] := by
  intro check sink
  have long : Cadence.tolerance < 6 := by decide
  obtain ⟨k, -, hrounds, hiff, -⟩ := (reporter_keeps_schedule long check sink).2.1 20
  have hk : k = 3 := by
    have hlast : 2 < k := (hiff 2).2 (by decide)
    have hover : ¬ 3 < k := fun h => absurd ((hiff 3).1 h) (by decide)
    omega
  rw [hrounds, hk]
  exact ⟨long, by decide⟩

/-- With a period of the tolerance, a tick can come just in time and the next one with it. -/
example : ((Reporter.ofPeriod 5).rounds (fun n => if n = 0 then 10 else 0) (fun _ => 0) 12).map
    (·.start) = [0, 10, 10] := by decide

end RoleLookup.Health
