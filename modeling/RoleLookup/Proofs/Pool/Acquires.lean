import RoleLookup.Proofs.Pool.Books

/-!
# One acquire in one step

The list of what a step can do, read off for one acquire.

* `Reaches`, `Misses`, where an acquire gets to with a connection that it has opened, and without
  one;
* `Goes`, how an acquire goes on, with `phase?_step` and `phase?_of_step`;
* `phase?_of_other`, what the borrower of another acquire does is nothing to it, and `held?_step`,
  only the borrower gives a connection back;
* `Candid`, the errors that acquires fail with, and `Candid.step`.
-/

namespace RoleLookup.Directory
namespace Pool

/-- Where an acquire gets to with a connection that it has opened. -/
inductive Reaches (p : Pool) (c : Nat) : Purpose → Phase → Prop
  | lend : Reaches p c .loan (.holding c)
  | more {cs} (room : cs.length + 1 < p.size) :
      Reaches p c (.initial cs) (.opening (.initial (c :: cs)) .connecting)
  | full {cs} (full : p.size ≤ cs.length + 1) : Reaches p c (.initial cs) .queued

/-- Where an acquire gets to when it could not open a connection. -/
inductive Misses (e : Error) : Purpose → Phase → Prop
  | loan : Misses e .loan (.failed e)
  | first : Misses e (.initial []) (.failed (initialisationError e))
  | later {cs} (hcs : cs ≠ []) : Misses e (.initial cs) .queued

/-- Its caller can give up on an acquire in this phase. -/
def Phase.IsPending : Phase → Prop
  | .started | .queued | .permitted | .opening .. => True
  | _ => False

/-- How an acquire goes on in a step. -/
inductive Goes (p : Pool) (a : Nat) : Step → Phase → Phase → Prop
  | queue (ready : p.isInitialised = true) : Goes p a (.enter a) .started .queued
  | begin (fresh : p.isInitialised = false) (alone : p.isInitialising = false) :
      Goes p a (.enter a) .started (.opening (.initial []) .connecting)
  | refuse {purpose cause phase} (h : Misses (.connect p.connector.url.text cause) purpose phase) :
      Goes p a (.connected a (.error cause)) (.opening purpose .connecting) phase
  | greet {purpose phase} (nobody : p.connector.bindDn.isEmpty = true)
      (h : p.Reaches p.opened purpose phase) :
      Goes p a (.connected a (.ok ())) (.opening purpose .connecting) phase
  | bind {purpose} (somebody : p.connector.bindDn.isEmpty = false) :
      Goes p a (.connected a (.ok ())) (.opening purpose .connecting)
        (.opening purpose (.binding p.opened))
  | accept {purpose c answer phase} (ok : bindError? p.connector.bindDn answer = none)
      (h : p.Reaches c purpose phase) :
      Goes p a (.bound a answer) (.opening purpose (.binding c)) phase
  | reject {purpose c answer e} (bad : bindError? p.connector.bindDn answer = some e) :
      Goes p a (.bound a answer) (.opening purpose (.binding c)) (.opening purpose (.unbinding c e))
  | giveUp {purpose c e phase} (h : Misses e purpose phase) :
      Goes p a (.unbound a) (.opening purpose (.unbinding c e)) phase
  | grant (free : 0 < p.permits) : Goes p a (.grant a) .queued .permitted
  | expire (none : p.permits = 0) : Goes p a (.expire a) .queued
      (.failed (.poolExhausted (.ofMillis p.checkoutTimeout)))
  | dial (none : p.idle = []) : Goes p a (.take a) .permitted (.opening .loan .connecting)
  | reuse {c idle} (top : p.idle = c :: idle) (alive : p.isAlive c = true)
      (young : p.isExpired c = false) : Goes p a (.take a) .permitted (.holding c)
  | giveBack {c} : Goes p a (.giveBack a) (.holding c) .returned
  | free : Goes p a (.free a) .returned .released
  | abandon {phase} (hp : phase.IsPending) : Goes p a (.abandon a) phase .abandoned

variable {p q r : Pool} {s : Step} {a b c : Nat} {phase phase' : Phase}

theorem phase?_congr (h : q.acquires = p.acquires) (a : Nat) : q.phase? a = p.phase? a := by
  rw [phase?, phase?, h]

@[simp] theorem phase?_note (p : Pool) (a b : Nat) (events : List Log.Event) :
    (p.note a events).phase? b = p.phase? b := rfl

theorem phase?_setPhase_self (h : p.phase? a = some phase) :
    (p.setPhase a phase').phase? a = some phase' := by
  simp [phase?_setPhase, h]

/-- An acquire put into another phase, seen from any acquire. -/
theorem goes_setPhase {ph : Phase} (hr : r.acquires = p.acquires) (ha : p.phase? a = some phase)
    (g : Goes p a s phase phase') (hb : p.phase? b = some ph) :
    ∃ ph', (r.setPhase a phase').phase? b = some ph' ∧ (ph' = ph ∨ Goes p b s ph ph') := by
  rw [phase?_setPhase, phase?_congr hr, hb]
  by_cases h : a = b
  · subst h
    rw [ha] at hb
    cases hb
    exact ⟨phase', by simp, .inr g⟩
  · exact ⟨ph, by simp [h], .inl rfl⟩

/-- An acquire that has opened a connection, seen from any acquire. -/
theorem Readies.goes {purpose : Purpose} {stage : Stage} (h : Readies r a c purpose q)
    (ha : p.phase? a = some (.opening purpose stage)) (hr : r.acquires = p.acquires)
    (hs : r.size = p.size)
    (g : ∀ {phase}, p.Reaches c purpose phase → Goes p a s (.opening purpose stage) phase)
    (hb : p.phase? b = some phase) :
    ∃ ph, q.phase? b = some ph ∧ (ph = phase ∨ Goes p b s phase ph) := by
  cases h with
  | lend => exact goes_setPhase hr ha (g .lend) hb
  | more events room => exact goes_setPhase hr ha (g (.more (hs ▸ room))) hb
  | full full => exact goes_setPhase hr ha (g (.full (hs ▸ full))) hb

/-- An acquire that could not open one, seen from any acquire. -/
theorem GivesUp.goes {purpose : Purpose} {stage : Stage} {e : Error} (h : GivesUp r a e purpose q)
    (ha : p.phase? a = some (.opening purpose stage)) (hr : r.acquires = p.acquires)
    (g : ∀ {phase}, Misses e purpose phase → Goes p a s (.opening purpose stage) phase)
    (hb : p.phase? b = some phase) :
    ∃ ph, q.phase? b = some ph ∧ (ph = phase ∨ Goes p b s phase ph) := by
  cases h with
  | loan => exact goes_setPhase hr ha (g .loan) hb
  | first => exact goes_setPhase hr ha (g .first) hb
  | later events hcs => exact goes_setPhase hr ha (g (.later hcs)) hb

theorem Fires.goes (f : Fires p s q) (hb : p.phase? b = some phase) :
    ∃ ph, q.phase? b = some ph ∧ (ph = phase ∨ Goes p b s phase ph) := by
  have same {q : Pool} (hq : q.acquires = p.acquires) :
      ∃ ph, q.phase? b = some ph ∧ (ph = phase ∨ Goes p b s phase ph) :=
    ⟨phase, by rw [phase?_congr hq, hb], .inl rfl⟩
  cases f with
  | idle => exact same rfl
  | start spans =>
    obtain ⟨k, hk, rfl⟩ := Option.map_eq_some_iff.1 hb
    have hlt : b < p.acquires.length := (List.getElem?_eq_some_iff.1 hk).1
    exact ⟨k.phase, by rw [phase?, List.getElem?_append_left hlt, hk, Option.map_some], .inl rfl⟩
  | queue ha ready => exact goes_setPhase rfl ha (.queue ready) hb
  | begin events ha fresh alone => exact goes_setPhase rfl ha (.begin fresh alone) hb
  | refused events ha hq => exact hq.goes ha rfl .refuse hb
  | anonymous events ha nobody hq => exact hq.goes ha rfl rfl (.greet nobody) hb
  | bind events ha somebody => exact goes_setPhase rfl ha (.bind somebody) hb
  | accepted events ha ok hq => exact hq.goes ha rfl rfl (.accept ok) hb
  | rejected events ha bad => exact goes_setPhase (acquires_unbind ..) ha (.reject bad) hb
  | giveUp ha hq => exact hq.goes ha rfl .giveUp hb
  | grant ha free => exact goes_setPhase rfl ha (.grant free) hb
  | expire events ha none => exact goes_setPhase rfl ha (.expire none) hb
  | dial events ha none => exact goes_setPhase rfl ha (.dial none) hb
  | dropClosed => exact same rfl
  | dropExpired => exact same (acquires_unbind ..)
  | reuse ha top alive young => exact goes_setPhase rfl ha (.reuse top alive young) hb
  | search => exact same rfl
  | forget events ha dead => exact goes_setPhase (r := p) rfl ha .giveBack hb
  | retire ha alive unfit =>
    rw [phase?_congr (acquires_unbind ..)]
    exact goes_setPhase (r := p) rfl ha .giveBack hb
  | keep ha alive kept young => exact goes_setPhase (r := p) rfl ha .giveBack hb
  | free ha => exact goes_setPhase rfl ha .free hb
  | leave ha hp =>
    refine goes_setPhase rfl ha (.abandon ?_) hb
    rcases hp with rfl | rfl <;> trivial
  | cede ha => exact goes_setPhase rfl ha (.abandon trivial) hb
  | loseInitial ha => exact goes_setPhase (acquires_lose ..) ha (.abandon trivial) hb
  | loseLoan ha => exact goes_setPhase (acquires_lose ..) ha (.abandon trivial) hb
  | close c => exact same (acquires_setFate _)
  | advance => exact same rfl

/-- An acquire stays. -/
theorem phase?_step (hb : p.phase? b = some phase) (s : Step) :
    ∃ ph, (p.step s).phase? b = some ph ∧ (ph = phase ∨ Goes p b s phase ph) :=
  (step_fires p s).goes hb

theorem Counts.phase?_new (h : Counts p q) (hb : p.phase? b = none) (hq : q.phase? b = some phase) :
    phase = .started ∧ b = p.acquires.length := by
  cases h with
  | same ha => simp [phase?_congr ha, hb] at hq
  | start spans ha =>
    have hle : p.acquires.length ≤ b := by simpa [phase?] using hb
    rw [phase?, ha, List.getElem?_append_right hle, List.getElem?_singleton] at hq
    split at hq
    · cases hq
      exact ⟨rfl, by omega⟩
    · cases hq
  | move hp m ha => simp [phase?_congr ha, phase?_setPhase, hb] at hq

/-- An acquire was there before, in the same phase or in one from which it has gone on, or has just
started. -/
theorem phase?_of_step (hq : (p.step s).phase? b = some phase) :
    (∃ ph, p.phase? b = some ph ∧ (phase = ph ∨ Goes p b s ph phase)) ∨
      (phase = .started ∧ b = p.acquires.length) := by
  cases hp : p.phase? b with
  | none => exact .inr ((step_fires p s).counts.phase?_new hp hq)
  | some ph =>
    obtain ⟨ph', hph', g⟩ := phase?_step hp s
    rw [hq] at hph'
    cases hph'
    exact .inl ⟨ph, rfl, g⟩

theorem length_acquires_step (p : Pool) (s : Step) :
    p.acquires.length ≤ (p.step s).acquires.length := by
  cases (step_fires p s).counts with
  | same ha => rw [ha]
  | start spans ha => simp [ha]
  | move _ _ ha => simp [ha, setPhase]

/-- Only its borrower gives a connection back. -/
theorem held?_step (h : p.held? a = some c) (hs : s ≠ .giveBack a) :
    (p.step s).held? a = some c := by
  rw [held?_eq_some] at h ⊢
  obtain ⟨ph, hph, rfl | g⟩ := phase?_step h s
  · exact hph
  · cases g with
    | giveBack => exact absurd rfl hs
    | abandon hp => exact hp.elim

/-- What the borrower of another acquire does is nothing to an acquire. -/
theorem phase?_of_other (h : p.phase? a = some phase)
    (hs : s = .giveBack b ∨ s = .free b ∨ s = .abandon b ∨ ∃ query, s = .search b query)
    (hab : a ≠ b) : (p.step s).phase? a = some phase := by
  obtain ⟨ph, hph, rfl | g⟩ := phase?_step h s
  · exact hph
  · rcases hs with rfl | rfl | rfl | ⟨query, rfl⟩ <;> cases g <;> exact absurd rfl hab

/-! ### Why acquires fail -/

/-- An acquire says that its pool could not be opened only for a bind of its first connection that
is known to have failed. -/
structure Candid (p : Pool) (known : Nat → Error → Prop) : Prop where
  unbinding : ∀ {a purpose c e}, p.phase? a = some (.opening purpose (.unbinding c e)) →
    (∀ cause, e ≠ .poolInitialisation cause) ∧ (purpose = .initial [] → known a e)
  failed : ∀ {a cause}, p.phase? a = some (.failed (.poolInitialisation cause)) →
    cause.isBindFailure = true ∧ known a cause

theorem candid_ofSettings (s : Settings) (connector : Connector) (known : Nat → Error → Prop) :
    (ofSettings s connector).Candid known := by
  constructor <;> simp [ofSettings, phase?]

theorem Candid.mono {known known' : Nat → Error → Prop} (h : p.Candid known)
    (hk : ∀ {a e}, known a e → known' a e) : p.Candid known' where
  unbinding ha := ⟨(h.unbinding ha).1, fun hp => hk ((h.unbinding ha).2 hp)⟩
  failed ha := ⟨(h.failed ha).1, hk (h.failed ha).2⟩

theorem bindError?_ne_poolInitialisation {bindDn : String} {answer : Except RequestError Result}
    {e : Error} (h : bindError? bindDn answer = some e) (cause : Error) :
    e ≠ .poolInitialisation cause := by
  rintro rfl
  unfold bindError? at h
  repeat' split at h
  all_goals cases h

theorem isBindFailure_of_initialisationError {e cause : Error}
    (plain : ∀ cause, e ≠ .poolInitialisation cause)
    (h : initialisationError e = .poolInitialisation cause) :
    cause = e ∧ cause.isBindFailure = true := by
  unfold initialisationError at h
  split at h
  · rename_i failure
    cases h
    exact ⟨rfl, failure⟩
  · exact absurd h (plain cause)

theorem Misses.candid {e cause : Error} {purpose : Purpose}
    (h : Misses e purpose (.failed (.poolInitialisation cause)))
    (plain : ∀ cause, e ≠ .poolInitialisation cause) :
    purpose = .initial [] ∧ cause = e ∧ cause.isBindFailure = true := by
  generalize hphase : Phase.failed (.poolInitialisation cause) = phase at h
  cases h with
  | loan =>
    cases hphase
    exact absurd rfl (plain cause)
  | first =>
    injection hphase with hcause
    exact ⟨rfl, isBindFailure_of_initialisationError plain hcause.symm⟩
  | later => cases hphase

theorem Candid.step {known : Nat → Error → Prop} (h : p.Candid known) (s : Step)
    (hs : ∀ {a c answer e}, s = .bound a answer →
      p.phase? a = some (.opening (.initial []) (.binding c)) →
      bindError? p.connector.bindDn answer = some e → known a e) :
    (p.step s).Candid known where
  unbinding {a purpose c e} ha := by
    obtain ⟨ph, hph, rfl | g⟩ | ⟨hstarted, -⟩ := phase?_of_step ha
    · exact h.unbinding hph
    · cases g with
      | refuse h | greet _ h | accept _ h | giveUp h => cases h
      | reject bad =>
        exact ⟨bindError?_ne_poolInitialisation bad, fun hp => hs rfl (hp ▸ hph) bad⟩
    · cases hstarted
  failed {a cause} ha := by
    obtain ⟨ph, hph, rfl | g⟩ | ⟨hstarted, -⟩ := phase?_of_step ha
    · exact h.failed hph
    · cases g with
      | greet _ h | accept _ h => cases h
      | refuse m =>
        obtain ⟨-, rfl, failure⟩ := m.candid nofun
        cases failure
      | giveUp m =>
        obtain ⟨hpurpose, rfl, failure⟩ := m.candid (h.unbinding hph).1
        exact ⟨failure, (h.unbinding hph).2 hpurpose⟩
    · cases hstarted

end Pool
end RoleLookup.Directory
