import RoleLookup.Proofs.Pool.Initialisation
import RoleLookup.Proofs.Pool.Lending

/-!
# Acquires come to an end

An acquire goes on in turns of its own. What others do takes no turn away from it, and at most
lengthens its way by a connection that it finds at rest.

* `isTurn`, the steps in which an acquire goes on, and `exists_turn`, there is one for everybody who
  does not wait for the pool to be opened;
* `ahead`, how many turns an acquire has ahead of it at most, with `ahead_step`;
* `ahead_run`, enough turns bring an acquire to its end.
-/

namespace RoleLookup.Directory
namespace Pool

variable {p : Pool} {s : Step} {ss : List Step} {a b c : Nat} {phase : Phase} {cs : List Nat}
  {stage : Stage}

/-! ### Turns -/

/-- Whether an acquire goes on in a step. -/
def isTurn (p : Pool) (a : Nat) (s : Step) : Bool :=
  match p.phase? a, s with
  | some .started, .enter b => b == a && (p.isInitialised || !p.isInitialising)
  | some (.opening _ stage), s => stage.isAnswer a s
  | some .queued, .grant b => b == a && 0 < p.permits
  | some .queued, .expire b => b == a && p.permits == 0
  | some .permitted, .take b => b == a
  | _, _ => false

/-- How many turns an acquire has in a run. -/
def turns (p : Pool) (a : Nat) : List Step → Nat
  | [] => 0
  | s :: ss => (p.isTurn a s).toNat + (p.step s).turns a ss

/-- Whether a connection may come back in a step. -/
def Step.returns : Step → Bool
  | .giveBack _ => true
  | _ => false

/-- Somebody else opens the pool, and an acquire that has started waits for it. -/
def Waits (p : Pool) (a : Nat) : Prop :=
  p.phase? a = some .started ∧ p.isInitialised = false ∧ p.isInitialising = true

theorem isInitialising_eq_true : p.isInitialising = true ↔
    ∃ b phase, p.phase? b = some phase ∧ phase.isInitialising = true := by
  rw [isInitialising, List.any_eq_true]
  constructor
  · rintro ⟨k, hk, hopens⟩
    obtain ⟨b, hb⟩ := List.mem_iff_getElem?.1 hk
    exact ⟨b, k.phase, by rw [phase?, hb, Option.map_some], hopens⟩
  · rintro ⟨b, phase, hb, hopens⟩
    obtain ⟨k, hk, rfl⟩ := Option.map_eq_some_iff.1 hb
    exact ⟨k, List.mem_of_getElem? hk, hopens⟩

theorem Stage.exists_answer (a : Nat) (stage : Stage) : ∃ s, stage.isAnswer a s = true := by
  cases stage with
  | connecting => exact ⟨.connected a (.ok ()), by simp [Stage.isAnswer]⟩
  | binding => exact ⟨.bound a (.error .timeout), by simp [Stage.isAnswer]⟩
  | unbinding => exact ⟨.unbound a, by simp [Stage.isAnswer]⟩

/-- Who is not over and does not wait has a turn. -/
theorem exists_turn (ha : p.phase? a = some phase) (pending : phase.IsPending)
    (busy : ¬ p.Waits a) : ∃ s, p.isTurn a s = true := by
  cases phase with
  | started =>
    refine ⟨.enter a, ?_⟩
    simp only [Waits, ha, true_and, not_and] at busy
    cases hinit : p.isInitialised <;> simp_all [isTurn]
  | opening purpose stage =>
    obtain ⟨s, hs⟩ := stage.exists_answer a
    exact ⟨s, by simpa [isTurn, ha] using hs⟩
  | queued =>
    rcases Nat.eq_zero_or_pos p.permits with none | free
    · exact ⟨.expire a, by simp [isTurn, ha, none]⟩
    · exact ⟨.grant a, by simp [isTurn, ha, free]⟩
  | permitted => exact ⟨.take a, by simp [isTurn, ha]⟩
  | _ => exact pending.elim

/-! ### The way of an acquire -/

/-- How many connections an acquire finds at rest at most. -/
def resting (p : Pool) : Nat := if p.isInitialised then p.idle.length else p.size

/-- How many turns an acquire in some phase has ahead of it at most. -/
def aheadOf (p : Pool) : Phase → Nat
  -- two answers for each connection that is still to be made, a look at each that is then at rest
  | .started => if p.isInitialised then p.idle.length + 6 else 3 * p.size + 6
  | .opening (.initial cs) .connecting => 2 * (p.size - cs.length) + p.size + 5
  | .opening (.initial cs) (.binding _) => 2 * (p.size - cs.length) + p.size + 4
  | .opening (.initial cs) (.unbinding ..) => cs.length + 6
  | .opening .loan stage => stage.rank
  | .queued => p.resting + 5
  | .permitted => p.resting + 4
  | _ => 0

/-- How many turns an acquire has ahead of it at most. -/
def ahead (p : Pool) (a : Nat) : Nat := ((p.phase? a).map p.aheadOf).getD 0

theorem ahead_of_phase (ha : p.phase? a = some phase) : p.ahead a = p.aheadOf phase := by
  simp [ahead, ha]

/-- An acquire has turns ahead of it until it is over or has a connection. -/
theorem aheadOf_pos : 0 < p.aheadOf phase ↔ phase.IsPending := by
  cases phase with
  | opening purpose stage =>
    cases purpose with
    | initial => cases stage <;> simp [aheadOf, Phase.IsPending]
    | loan => simpa [aheadOf, Phase.IsPending] using stage.rank_pos
  | started =>
    simp only [aheadOf, Phase.IsPending]
    split <;> simp
  | _ => simp [aheadOf, Phase.IsPending]

/-- An acquire has no more turns ahead of it than this when it starts. -/
theorem aheadOf_started_le (p : Pool) : p.aheadOf .started ≤ 3 * p.size + p.idle.length + 6 := by
  simp only [aheadOf]
  split <;> omega

/-! ### What others do -/

/-- One connection at most comes to rest in a step, and then it is given back. -/
theorem idle_step (balanced : p.Balanced) (ready : p.isInitialised = true) (s : Step) :
    (p.step s).idle.length ≤ p.idle.length + s.returns.toNat := by
  have same {b : Books} (hb : (p.step s).books = b) (h : b.idle.length ≤ p.idle.length) :
      (p.step s).idle.length ≤ p.idle.length + s.returns.toNat := by
    have hidle : (p.step s).idle = b.idle := congrArg Books.idle hb
    rw [hidle]
    omega
  -- Nobody opens a pool that is open, so none is filled here.
  have fresh {phase : Phase} {a : Nat} (ha : p.phase? a = some phase)
      (hphase : phase.isInitialising = true) : False := by
    rw [balanced.fresh_of_isInitialising ha hphase] at ready
    cases ready
  cases (step_fires p s).counts with
  | same _ hb | start _ _ hb => exact same hb (Nat.le_refl _)
  | @move a phase phase' b ha m hacquires hb =>
    cases m with
    | fill | settle => exact (fresh ha rfl).elim
    | drop top | reuse top => exact same hb (by simp [top])
    | @keep c =>
      have hphase : (p.step s).phase? a = some .returned :=
        (phase?_congr hacquires a).trans (phase?_setPhase_self ha)
      obtain ⟨ph, hph, hgoes⟩ := phase?_step ha s
      obtain rfl : ph = .returned := Option.some_inj.1 (hph.symm.trans hphase)
      rcases hgoes with heq | g
      · cases heq
      · cases g
        have hidle : (p.step (.giveBack a)).idle = c :: p.idle := congrArg Books.idle hb
        simp [hidle, Step.returns]
    | _ => exact same hb (Nat.le_refl _)

theorem idle_le_size (balanced : p.Balanced) : p.idle.length ≤ p.size := by
  have hroom := balanced.room
  unfold limit at hroom
  split at hroom <;> omega

/-- Nobody's way gets longer by more than a connection that is given back. -/
theorem aheadOf_step (balanced : p.Balanced) (s : Step) (phase : Phase) :
    (p.step s).aheadOf phase ≤ p.aheadOf phase + s.returns.toNat := by
  have hsize := size_step p s
  have hroom := idle_le_size (balanced.step s)
  have hresting : (p.step s).resting ≤ p.resting + s.returns.toNat := by
    unfold resting
    cases ready : p.isInitialised with
    | true =>
      rw [isInitialised_step ready s]
      simpa using idle_step balanced ready s
    | false =>
      -- Should it be opened in this step, it has been reckoned with a full pool.
      split
      · simp only [Bool.false_eq_true, if_false]
        omega
      · simp
  cases phase with
  | started =>
    unfold aheadOf
    cases ready : p.isInitialised with
    | true =>
      have hidle := idle_step balanced ready s
      rw [isInitialised_step ready s]
      simp only [if_true]
      omega
    | false =>
      simp only [Bool.false_eq_true, if_false]
      split <;> omega
  | opening purpose stage =>
    cases purpose with
    | initial => cases stage <;> simp only [aheadOf, hsize] <;> omega
    | loan => simp [aheadOf]
  | queued | permitted =>
    simp only [aheadOf]
    omega
  | _ => simp [aheadOf]

/-! ### What an acquire does -/

theorem initialised_of_permitted (balanced : p.Balanced) (ha : p.phase? a = some .permitted) :
    p.isInitialised = true := by
  by_contra fresh
  have hpermits := balanced.permits
  have hle := le_total Phase.permits ha
  rw [limit_of_fresh (by simpa using fresh)] at hpermits
  simp only [Phase.permits] at hle
  omega

/-- A loan ends with a connection or with an error. -/
theorem loan_ends (ha : p.phase? a = some (.opening .loan stage))
    (h : stage.Fails a s ∨ ∃ c, stage.Succeeds p a s c) :
    ∃ phase', (p.step s).phase? a = some phase' ∧ ¬ phase'.IsPending := by
  rcases h with h | ⟨c, h⟩
  · cases h with
    | refused =>
      simp only [step, connected, ha]
      exact ⟨_, phase?_setPhase_self (p := { p.note a _ with permits := _ }) ha, id⟩
    | unbound =>
      simp only [step, Pool.unbound, ha]
      exact ⟨_, phase?_setPhase_self (p := { p with permits := _ }) ha, id⟩
  · cases h with
    | greet nobody =>
      rw [step, connected_ok ha, greet, if_pos nobody]
      exact ⟨_, phase?_setPhase_self (p := p.extend.refresh p.opened) ha, id⟩
    | accept ok =>
      simp only [step, bound, ha, note_connector, ok]
      exact ⟨_, phase?_setPhase_self (p := p.refresh c) ha, id⟩

theorem ahead_eq_zero {phase' : Phase} (ha : p.phase? a = some phase')
    (ended : ¬ phase'.IsPending) : p.ahead a = 0 := by
  rw [ahead_of_phase ha]
  have := (aheadOf_pos (p := p)).not.2 ended
  omega

/-- An answer brings an acquire that opens the pool further. -/
theorem ahead_of_initial_answer (balanced : p.Balanced)
    (ha : p.phase? a = some (.opening (.initial cs) stage)) (h : stage.isAnswer a s = true) :
    (p.step s).ahead a < p.ahead a := by
  have hfilling := balanced.filling ha
  have hsize := size_step p s
  rw [ahead_of_phase ha]
  have opened {ds : List Nat} (hq : (p.step s).phase? a = some .queued)
      (hopen : (p.step s).OpenWith ds) : (p.step s).ahead a = ds.length + 5 := by
    rw [ahead_of_phase hq, aheadOf, resting, if_pos hopen.isInitialised, hopen.idle]
  rcases answer_cases p h with fails | ⟨c, succeeds⟩ | ⟨stage', proceeds⟩
  · by_cases hcs : cs = []
    · subst hcs
      obtain ⟨e, hacquires, -⟩ := failed_of_fails ha fails
      have hq := (phase?_congr hacquires a).trans (phase?_setPhase_self ha)
      rw [ahead_eq_zero hq id, aheadOf_pos]
      trivial
    · obtain ⟨hq, hopen⟩ := opens_of_fails balanced ha fails hcs
      rw [opened hq hopen]
      cases fails <;> simp only [aheadOf] <;> omega
  · rcases keeps_of_succeeds balanced ha succeeds with ⟨room, hq⟩ | ⟨full, hq, hopen⟩
    · rw [ahead_of_phase hq]
      cases succeeds <;> simp only [aheadOf, hsize, List.length_cons] <;> omega
    · rw [opened hq hopen]
      cases succeeds <;> simp only [aheadOf, List.length_cons] <;> omega
  · rw [ahead_of_phase (phase?_of_proceeds ha proceeds)]
    cases proceeds <;> simp only [aheadOf, hsize] <;> omega

/-- An acquire that looks at a connection at rest takes it or has fewer of them ahead of it. -/
theorem ahead_of_take (balanced : p.Balanced) (ha : p.phase? a = some .permitted) :
    (p.step (.take a)).ahead a < p.ahead a := by
  rw [ahead_of_phase ha]
  cases top : p.idle with
  | nil =>
    have hq : (p.step (.take a)).phase? a = some (.opening .loan .connecting) := by
      simp only [step, take, ha, top]
      exact phase?_setPhase_self ha
    rw [ahead_of_phase hq]
    simp only [aheadOf, Stage.rank]
    omega
  | cons c idle =>
    by_cases fit : p.isAlive c = true ∧ p.isExpired c = false
    · have halive : isAlive { p with idle } c = true := fit.1
      have hexpired : isExpired { p with idle } c = false := fit.2
      have hq : (p.step (.take a)).phase? a = some (.holding c) := by
        simp only [step, take, ha, top, halive, hexpired]
        exact phase?_setPhase_self (p := { p with idle }) ha
      rw [ahead_eq_zero hq id, aheadOf_pos]
      trivial
    · obtain ⟨hacquires, hbooks, -⟩ := take_of_unfit ha top fit
      have ready := initialised_of_permitted balanced ha
      have hready : (p.take a).isInitialised = true :=
        (congrArg Books.isInitialised hbooks).trans ready
      have hidle : (p.take a).idle = idle := congrArg Books.idle hbooks
      have hq : (p.take a).phase? a = some .permitted := (phase?_congr hacquires a).trans ha
      change (p.take a).ahead a < _
      rw [ahead_of_phase hq]
      simp [aheadOf, resting, hready, ready, hidle, top]

/-- An answer brings a loan further. -/
theorem ahead_of_loan_answer (ha : p.phase? a = some (.opening .loan stage))
    (h : stage.isAnswer a s = true) : (p.step s).ahead a < p.ahead a := by
  have ends (h : stage.Fails a s ∨ ∃ c, stage.Succeeds p a s c) :
      (p.step s).ahead a < p.ahead a := by
    obtain ⟨phase', hq, ended⟩ := loan_ends ha h
    rw [ahead_eq_zero hq ended, ahead_of_phase ha]
    exact stage.rank_pos
  rcases answer_cases p h with fails | succeeds | ⟨stage', proceeds⟩
  · exact ends (.inl fails)
  · exact ends (.inr succeeds)
  · rw [ahead_of_phase (phase?_of_proceeds ha proceeds), ahead_of_phase ha]
    exact proceeds.rank_lt

/-- An acquire that enters opens the pool or waits for a permit. -/
theorem ahead_of_enter (balanced : p.Balanced) (ha : p.phase? a = some .started)
    (h : p.isInitialised = true ∨ p.isInitialising = false) :
    (p.step (.enter a)).ahead a < p.ahead a := by
  rw [ahead_of_phase ha]
  cases ready : p.isInitialised with
  | true =>
    have hq : (p.step (.enter a)).phase? a = some .queued := by
      simp only [step, enter, ha, ready]
      exact phase?_setPhase_self ha
    have hready := isInitialised_step ready (.enter a)
    have hidle := idle_step balanced ready (.enter a)
    rw [ahead_of_phase hq]
    simp only [aheadOf, resting, hready, ready, if_true, Step.returns, Bool.toNat_false]
      at hidle ⊢
    omega
  | false =>
    have alone : p.isInitialising = false := by simpa [ready] using h
    have hq : (p.step (.enter a)).phase? a = some (.opening (.initial []) .connecting) := by
      simp only [step, enter, ha, ready, alone]
      exact phase?_setPhase_self ha
    rw [ahead_of_phase hq]
    simp only [aheadOf, ready, size_step, List.length_nil, Bool.false_eq_true, if_false]
    omega

/-- A permit brings an acquire further, and leaves the connections at rest to it. -/
theorem ahead_of_grant (ha : p.phase? a = some .queued) (free : 0 < p.permits) :
    (p.step (.grant a)).ahead a < p.ahead a := by
  have hq : (p.step (.grant a)).phase? a = some .permitted := by
    simp only [step, grant, ha, Nat.ne_of_gt free]
    exact phase?_setPhase_self (p := { p with permits := p.permits - 1 }) ha
  have hresting : (p.step (.grant a)).resting = p.resting := by
    simp [step, grant, ha, Nat.ne_of_gt free, resting]
  rw [ahead_of_phase hq, ahead_of_phase ha]
  simp only [aheadOf, hresting]
  omega

/-- An acquire that has waited too long is over. -/
theorem ahead_of_expire (ha : p.phase? a = some .queued) (taken : p.permits = 0) :
    (p.step (.expire a)).ahead a < p.ahead a := by
  have hq : (p.step (.expire a)).phase? a =
      some (.failed (.poolExhausted (.ofMillis p.checkoutTimeout))) := by
    simp only [step, expire, ha, taken]
    exact phase?_setPhase_self ha
  rw [ahead_eq_zero hq id, ahead_of_phase ha, aheadOf_pos]
  trivial

/-- In its turn an acquire gets further. -/
theorem ahead_of_turn (balanced : p.Balanced) (turn : p.isTurn a s = true) :
    (p.step s).ahead a < p.ahead a := by
  unfold isTurn at turn
  split at turn
  · rename_i b ha
    simp only [Bool.and_eq_true, beq_iff_eq, Bool.or_eq_true, Bool.not_eq_true'] at turn
    obtain ⟨rfl, turn⟩ := turn
    exact ahead_of_enter balanced ha turn
  · rename_i purpose stage ha
    cases purpose with
    | initial => exact ahead_of_initial_answer balanced ha turn
    | loan => exact ahead_of_loan_answer ha turn
  · rename_i b ha
    simp only [Bool.and_eq_true, beq_iff_eq, decide_eq_true_eq] at turn
    obtain ⟨rfl, free⟩ := turn
    exact ahead_of_grant ha free
  · rename_i b ha
    simp only [Bool.and_eq_true, beq_iff_eq] at turn
    obtain ⟨rfl, taken⟩ := turn
    exact ahead_of_expire ha taken
  · rename_i b ha
    obtain rfl : b = a := by simpa using turn
    exact ahead_of_take balanced ha
  · cases turn

theorem exists_phase (h : a < p.acquires.length) : ∃ phase, p.phase? a = some phase :=
  ⟨(p.acquires[a]).phase, by rw [phase?, List.getElem?_eq_getElem h, Option.map_some]⟩

/-- Each step brings an acquire further if it is its turn, and does not throw it back by more than
a connection that comes back. -/
theorem ahead_step (balanced : p.Balanced) (known : a < p.acquires.length)
    (stays : s ≠ .abandon a) :
    (p.step s).ahead a + (p.isTurn a s).toNat ≤ p.ahead a + s.returns.toNat := by
  cases turn : p.isTurn a s with
  | true =>
    have := ahead_of_turn balanced turn
    simp only [Bool.toNat_true]
    omega
  | false =>
    -- Out of turn it stays where it is, or gives back what it has.
    obtain ⟨phase, ha⟩ := exists_phase known
    obtain ⟨phase', hq, rfl | g⟩ := phase?_step ha s
    · rw [ahead_of_phase ha, ahead_of_phase hq]
      simpa using aheadOf_step balanced s phase'
    · cases g with
      | giveBack | free => simp [ahead_eq_zero hq id]
      | abandon => exact absurd rfl stays
      | queue ready => simp [isTurn, ha, ready] at turn
      | begin fresh alone => simp [isTurn, ha, alone] at turn
      | grant free => simp [isTurn, ha, Nat.ne_of_gt free] at turn
      | expire none => simp [isTurn, ha, none] at turn
      | _ => simp [isTurn, ha, Stage.isAnswer] at turn

/-- Turns bring an acquire further, whatever others do meanwhile. -/
theorem ahead_run (balanced : p.Balanced) (known : a < p.acquires.length)
    (stays : .abandon a ∉ ss) :
    (p.run ss).ahead a + p.turns a ss ≤ p.ahead a + ss.countP Step.returns := by
  induction ss generalizing p with
  | nil => simp [turns]
  | cons s ss ih =>
    rw [List.mem_cons, not_or] at stays
    have hstep := ahead_step balanced known (Ne.symm stays.1)
    have hrest := ih (balanced.step s)
      (Nat.lt_of_lt_of_le known (length_acquires_step p s)) stays.2
    rw [run_cons, turns, List.countP_cons]
    cases hreturns : s.returns <;> simp [hreturns] at hstep ⊢ <;> omega

end Pool
end RoleLookup.Directory
