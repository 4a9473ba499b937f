import RoleLookup.Directory.Network
import RoleLookup.Proofs.Pool.Progress
import RoleLookup.Proofs.Pool.Requests

/-!
# The course of one acquire

When nobody else acts, an acquire gets to its end in the moments that it is given, changes nothing
about the others, and finds a permit if one is free.

* `Step.Serves`, the steps of such a course, and `serves_run`, what they leave as it is;
* `next_turn`, each moment has a turn of the acquire;
* `courseFor_ends`, the fuel of a course is enough;
* `not_isExhausted_run`, a permit is found if one is free.
-/

namespace RoleLookup.Directory
namespace Pool

variable {p q : Pool} {s : Step} {ss : List Step} {a b c : Nat} {phase phase' : Phase}

/-! ### Steps for one acquire -/

/-- A step that acts for an acquire or for nobody. -/
inductive Step.Serves (a : Nat) : Step → Prop
  | enter : Serves a (.enter a)
  | connected (answer : Except RequestError Unit) : Serves a (.connected a answer)
  | bound (answer : Except RequestError Result) : Serves a (.bound a answer)
  | unbound : Serves a (.unbound a)
  | grant : Serves a (.grant a)
  | expire : Serves a (.expire a)
  | take : Serves a (.take a)
  | close (c : Nat) : Serves a (.close c)
  | advance (millis : Nat) : Serves a (.advance millis)

theorem Fires.length_acquires (f : Fires p s q) (h : ∀ spans, s ≠ .start spans) :
    q.acquires.length = p.acquires.length := by
  cases f with
  | start spans => exact absurd rfl (h spans)
  | refused events ha hq | giveUp ha hq => cases hq <;> simp [setPhase, initialise]
  | anonymous events ha nobody hq | accepted events ha ok hq =>
    cases hq <;> simp [setPhase, initialise, refresh, extend]
  | _ => simp [setPhase, extend]

namespace Step.Serves

theorem ne_abandon (h : s.Serves a) : s ≠ .abandon b := by
  rintro rfl
  cases h

theorem returns (h : s.Serves a) : s.returns = false := by
  cases h <;> rfl

theorem length_acquires (h : s.Serves a) (p : Pool) :
    (p.step s).acquires.length = p.acquires.length :=
  (step_fires p s).length_acquires fun spans hs => by
    subst hs
    cases h

/-- No other acquire goes on. -/
theorem phase?_of_other (h : s.Serves a) (p : Pool) (hb : b ≠ a) :
    (p.step s).phase? b = p.phase? b := by
  cases hphase : p.phase? b with
  | none =>
    rw [phase?, Option.map_eq_none_iff, List.getElem?_eq_none_iff] at hphase ⊢
    rwa [h.length_acquires]
  | some phase =>
    obtain ⟨phase', hq, rfl | g⟩ := phase?_step hphase s
    · exact hq
    · cases h <;> cases g <;> exact absurd rfl hb

end Step.Serves

/-- What the acquires have changes with the one that goes on. -/
theorem total_of_others (w : Phase → Nat) (ha : p.phase? a = some phase)
    (hq : q.phase? a = some phase') (others : ∀ b, b ≠ a → q.phase? b = p.phase? b) :
    q.total w + w phase = p.total w + w phase' := by
  -- The sum knows the acquires by their phases only.
  have hacquires : q.acquires.map (·.phase) = (p.setPhase a phase').acquires.map (·.phase) := by
    apply List.ext_getElem?
    intro b
    rw [List.getElem?_map, List.getElem?_map]
    change q.phase? b = (p.setPhase a phase').phase? b
    by_cases hb : b = a
    · subst hb
      rw [hq, phase?_setPhase_self ha]
    · rw [others b hb, phase?_setPhase]
      simp [Ne.symm hb]
  have htotal : q.total w = (p.setPhase a phase').total w := by
    have := congrArg (fun phases => (phases.map w).sum) hacquires
    simpa [total, Function.comp_def] using this
  rw [htotal]
  exact total_of_move w ha rfl

/-- What a run for one acquire leaves as it is. -/
structure Serves (p : Pool) (a : Nat) (q : Pool) : Prop where
  length : q.acquires.length = p.acquires.length
  others : ∀ b, b ≠ a → q.phase? b = p.phase? b
  searches : q.searches = p.searches
  initialised : p.isInitialised = true → q.isInitialised = true
  size : q.size = p.size

theorem serves_run (h : ∀ s ∈ ss, s.Serves a) : p.Serves a (p.run ss) := by
  refine run_induction (P := fun q => p.Serves a q) ?_ ⟨rfl, fun _ _ => rfl, rfl, id, rfl⟩
  intro q s hs hq
  have hserves := h s hs
  refine ⟨?_, ?_, ?_, ?_, (size_step q s).trans hq.size⟩
  · rw [hserves.length_acquires, hq.length]
  · intro b hb
    rw [hserves.phase?_of_other q hb, hq.others b hb]
  · rw [searches_step q fun b query hsearch => ?_, hq.searches]
    subst hsearch
    cases hserves
  · exact fun ready => isInitialised_step (hq.initialised ready) s

/-! ### Moments -/

/-- Nobody else opens the pool. -/
def Unhindered (p : Pool) (a : Nat) : Prop :=
  p.isInitialised = true ∨
    ∀ b phase, b ≠ a → p.phase? b = some phase → phase.isInitialising = false

theorem Unhindered.serves (h : p.Unhindered a) (hq : p.Serves a q) : q.Unhindered a := by
  rcases h with ready | alone
  · exact .inl (hq.initialised ready)
  · exact .inr fun b phase hb hphase => alone b phase hb (hq.others b hb ▸ hphase)

theorem Unhindered.not_waits (h : p.Unhindered a) : ¬ p.Waits a := by
  rintro ⟨ha, fresh, opening⟩
  rcases h with ready | alone
  · rw [ready] at fresh
    cases fresh
  · obtain ⟨b, phase, hphase, hopens⟩ := isInitialising_eq_true.1 opening
    by_cases hab : b = a
    · subst hab
      rw [ha, Option.some.injEq] at hphase
      rw [← hphase] at hopens
      cases hopens
    · rw [alone b phase hab hphase] at hopens
      cases hopens

variable {ν : Type} {net : Network ν} {n : ν}

theorem turns_append (p : Pool) (a : Nat) (ss ts : List Step) :
    p.turns a (ss ++ ts) = p.turns a ss + (p.run ss).turns a ts := by
  induction ss generalizing p with
  | nil => simp [turns]
  | cons s ss ih => simp [turns, ih, Nat.add_assoc]

/-- The steps that come with a reply leave all acquires where they are. -/
theorem phase?_replySteps {α : Type} (p : Pool) (k : Nat) (r : Reply α) (b : Nat) :
    (p.run (replySteps k r)).phase? b = p.phase? b := by
  unfold replySteps
  split
  · exact phase?_congr (acquires_setFate (p := { p with now := p.now + r.elapsed }) _) b
  · rfl

theorem serves_replySteps {α : Type} (a k : Nat) (r : Reply α) :
    ∀ s ∈ replySteps k r, s.Serves a := by
  unfold replySteps
  intro s hs
  split at hs
  · rcases List.mem_cons.1 hs with rfl | hs
    · exact .advance _
    · rw [List.mem_singleton.1 hs]
      exact .close _
  · rw [List.mem_singleton.1 hs]
    exact .advance _

theorem turns_singleton (p : Pool) (a : Nat) (s : Step) : p.turns a [s] = (p.isTurn a s).toNat := by
  simp [turns]

theorem isTurn_answer {purpose : Purpose} {stage : Stage}
    (ha : p.phase? a = some (.opening purpose stage)) (h : stage.isAnswer a s = true) :
    p.isTurn a s = true := by
  simpa [isTurn, ha] using h

theorem isTurn_expire (ha : p.phase? a = some .queued) (none : p.permits = 0) :
    p.isTurn a (.expire a) = true := by
  simp [isTurn, ha, none]

/-- An acquire has a turn in each of its moments. -/
theorem next_turn (ha : p.phase? a = some phase) (pending : phase.IsPending)
    (free : p.Unhindered a) (net : Network ν) (n : ν) :
    (∀ s ∈ (p.next net a n).1, s.Serves a) ∧ 0 < p.turns a (p.next net a n).1 := by
  -- In each moment the turn comes last, after time has passed and connections have been closed.
  have last (ss : List Step) {s : Step} (hs : (p.run ss).isTurn a s = true) :
      0 < p.turns a (ss ++ [s]) := by
    rw [turns_append, turns_singleton, hs, Bool.toNat_true]
    omega
  cases phase with
  | started =>
    have hturn : p.isTurn a (.enter a) = true := by
      have := free.not_waits
      simp only [Waits, ha, true_and, not_and] at this
      cases hinit : p.isInitialised <;> simp_all [isTurn]
    simp only [next, ha]
    exact ⟨by simpa using .enter, last [] hturn⟩
  | opening purpose stage =>
    cases stage with
    | connecting =>
      simp only [next, ha]
      refine ⟨by simpa using ⟨.advance _, .connected _⟩, last [.advance _] ?_⟩
      exact isTurn_answer (p := p.run [.advance _]) ha (by simp [Stage.isAnswer])
    | binding c =>
      simp only [next, ha]
      refine ⟨List.forall_mem_append.2 ⟨serves_replySteps a c _, by simpa using .bound _⟩,
        last _ ?_⟩
      exact isTurn_answer ((phase?_replySteps ..).trans ha) (by simp [Stage.isAnswer])
    | unbinding =>
      simp only [next, ha]
      exact ⟨by simpa using .unbound,
        last [] (isTurn_answer ha (by simp [Stage.isAnswer]))⟩
  | queued =>
    simp only [next, ha]
    split
    · rename_i none
      refine ⟨by simpa using ⟨.advance _, .expire⟩, last [.advance _] ?_⟩
      exact isTurn_expire (p := p.run [.advance _]) ha none
    · rename_i free
      exact ⟨by simpa using .grant, last []
        (by simp [isTurn, ha, Nat.pos_of_ne_zero free])⟩
  | permitted =>
    simp only [next, ha]
    exact ⟨by simpa using .take, last [] (by simp [isTurn, ha])⟩
  | _ => exact pending.elim

theorem lt_of_phase (ha : p.phase? a = some phase) : a < p.acquires.length := by
  obtain ⟨k, hk, -⟩ := Option.map_eq_some_iff.1 ha
  exact (List.getElem?_eq_some_iff.1 hk).1

theorem next_of_ended (ha : p.phase? a = some phase) (ended : ¬ phase.IsPending) (net : Network ν)
    (n : ν) : p.next net a n = ([], n) := by
  cases phase with
  | started | opening | queued | permitted => exact absurd trivial ended
  | _ => simp only [next, ha]

/-- The fuel of a course is enough: it serves its acquire and brings it to its end. -/
theorem courseFor_ends (balanced : p.Balanced) (known : a < p.acquires.length)
    (free : p.Unhindered a) (net : Network ν) {fuel : Nat} (enough : p.ahead a ≤ fuel) (n : ν) :
    (∀ s ∈ (courseFor net a fuel p n).1, s.Serves a) ∧
      (p.run (courseFor net a fuel p n).1).ahead a = 0 := by
  induction fuel generalizing p n with
  | zero => exact ⟨by simp [courseFor], Nat.le_zero.1 enough⟩
  | succ fuel ih =>
    obtain ⟨phase, ha⟩ := exists_phase known
    by_cases pending : phase.IsPending
    · -- A moment takes one of the fuel, and one turn at least of what is ahead.
      obtain ⟨hserves, hturn⟩ := next_turn ha pending free net n
      rcases hnext : p.next net a n with ⟨_ | ⟨s, ss⟩, n'⟩ <;> rw [hnext] at hserves hturn
      · exact absurd hturn (by simp [turns])
      · have hrun := serves_run (p := p) hserves
        have hahead := ahead_run balanced known fun hmem : .abandon a ∈ s :: ss =>
          (hserves _ hmem).ne_abandon rfl
        have hquiet : (s :: ss).countP Step.returns = 0 :=
          List.countP_eq_zero.2 fun t ht => by simp [(hserves t ht).returns]
        obtain ⟨hmore, hend⟩ := ih (balanced.run (s :: ss)) (hrun.length.symm ▸ known)
          (free.serves hrun) (by simp only at hturn; omega) n'
        simp only [courseFor, hnext]
        refine ⟨List.forall_mem_append.2 ⟨hserves, hmore⟩, ?_⟩
        rw [run_append]
        exact hend
    · rw [courseFor, next_of_ended ha pending]
      exact ⟨by simp, ahead_eq_zero ha pending⟩

/-! ### Free permits -/

/-- An acquire says that it has found no permit, or is about to. -/
inductive Phase.IsExhausted : Phase → Prop
  | failed (d) : IsExhausted (.failed (.poolExhausted d))
  | unbinding (purpose c d) : IsExhausted (.opening purpose (.unbinding c (.poolExhausted d)))

theorem bindError?_ne_poolExhausted {bindDn : String} {answer : Except RequestError Result}
    {e : Error} (h : bindError? bindDn answer = some e) (d : Duration) : e ≠ .poolExhausted d := by
  rintro rfl
  unfold bindError? at h
  repeat' split at h
  all_goals cases h

theorem initialisationError_ne_poolExhausted {e : Error} {d : Duration}
    (h : e ≠ .poolExhausted d) : initialisationError e ≠ .poolExhausted d := by
  unfold initialisationError
  split
  · nofun
  · exact h

theorem exists_of_isExhausted {e : Error} (h : (Phase.failed e).IsExhausted) :
    ∃ d, e = .poolExhausted d := by
  cases h with
  | failed d => exact ⟨d, rfl⟩

theorem Misses.not_isExhausted {e : Error} {purpose : Purpose} (h : Misses e purpose phase)
    (plain : ∀ d, e ≠ .poolExhausted d) : ¬ phase.IsExhausted := by
  intro exhausted
  cases h with
  | loan =>
    obtain ⟨d, hd⟩ := exists_of_isExhausted exhausted
    exact plain d hd
  | first =>
    obtain ⟨d, hd⟩ := exists_of_isExhausted exhausted
    exact initialisationError_ne_poolExhausted (plain d) hd
  | later => cases exhausted

/-- An acquire runs out of permits only while it waits and none is free. -/
theorem Goes.not_isExhausted (g : Goes p a s phase phase') (h : ¬ phase.IsExhausted)
    (free : phase = .queued → p.permits ≠ 0) : ¬ phase'.IsExhausted := by
  cases g with
  | refuse m => exact m.not_isExhausted nofun
  | giveUp m =>
    refine m.not_isExhausted ?_
    rintro d rfl
    exact h (.unbinding ..)
  | reject bad =>
    rintro ⟨⟩
    exact bindError?_ne_poolExhausted bad _ rfl
  | expire none => exact absurd none (free rfl)
  | greet _ r | accept _ r => cases r <;> nofun
  | _ => nofun

theorem Moves.ready_of_queued {k : Books} (m : Moves p phase .queued k) :
    k.isInitialised = true := by
  cases m with
  | queue ready => exact ready
  | fill | settle => rfl

/-- Whoever waits for a permit waits in a pool that has been opened. -/
theorem queued_step (h : p.phase? a = some .queued → p.isInitialised = true) (s : Step)
    (hq : (p.step s).phase? a = some .queued) : (p.step s).isInitialised = true := by
  rcases (step_fires p s).counts.phase?_cases hq with hp | hstarted | ⟨ph, -, m⟩
  · exact isInitialised_step (h hp) s
  · cases hstarted
  · exact m.ready_of_queued

/-- An acquire that nobody disturbs finds a permit, if not all of them are with others. -/
theorem not_isExhausted_run (balanced : p.Balanced) (ha : p.phase? a = some .started)
    (spare : p.total Phase.permits < p.size) (serves : ∀ s ∈ ss, s.Serves a)
    (hq : (p.run ss).phase? a = some phase) : ¬ phase.IsExhausted := by
  induction ss using List.reverseRecOn generalizing phase with
  | nil =>
    rw [run_nil, ha] at hq
    cases hq
    nofun
  | append_singleton ss s ih =>
    rw [List.forall_mem_append] at serves
    rw [run_concat] at hq
    have hrun := serves_run (p := p) serves.1
    obtain ⟨ph, hph⟩ := exists_phase (p := p.run ss) (a := a) (by
      rw [hrun.length]
      exact lt_of_phase ha)
    obtain ⟨ph', hph', hgoes⟩ := phase?_step hph s
    obtain rfl : ph' = phase := Option.some_inj.1 (hph'.symm.trans hq)
    have hbefore := ih serves.1 hph
    rcases hgoes with rfl | g
    · exact hbefore
    · -- While it waits, a permit is free: the pool is open, and others do not have all of them.
      refine g.not_isExhausted hbefore ?_
      rintro rfl
      have ready : (p.run ss).isInitialised = true := by
        refine run_induction (P := fun q => q.phase? a = some .queued → q.isInitialised = true)
          (fun q s _ h => queued_step h s) ?_ hph
        rw [ha]
        nofun
      have htotal := total_of_others Phase.permits ha hph hrun.others
      have hpermits := (balanced.run ss).permits
      rw [limit_of_initialised ready, size_run] at hpermits
      simp only [Phase.permits] at htotal
      omega

end Pool
end RoleLookup.Directory
