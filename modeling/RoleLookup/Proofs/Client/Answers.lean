import RoleLookup.Proofs.Client.Outcomes

/-!
# Roles come from answers

* `Unanswered`, a lookup has given no roles, and `Unanswered.run`, only an answer changes that;
* `lookup_means`, one lookup when nobody else acts gives the roles that an answer of the network
  means, and no others.
-/

namespace RoleLookup.Directory.Client

variable {ν : Type} {c d : Client} {s : Step} {ss : List Step} {l m : Nat} {user : String}
  {roles : RoleSet}

/-- A lookup of a user that has given no roles. -/
def Unanswered (c : Client) (l : Nat) (user : String) : Prop :=
  ∃ a phase, c.lookups[l]? = some ⟨user, a, phase⟩ ∧ ∀ roles, phase ≠ .finished (.ok roles)

namespace Unanswered

theorem setPhase (h : c.Unanswered l user) {phase : Phase}
    (none : ∀ roles, m = l → phase ≠ .finished (.ok roles)) :
    (c.setPhase m phase).Unanswered l user := by
  obtain ⟨a, before, hl, hbefore⟩ := h
  by_cases hml : m = l
  · exact ⟨a, phase, by simp [getElem?_setPhase, hl, hml], fun roles => none roles hml⟩
  · exact ⟨a, before, by simp [getElem?_setPhase, hl, hml], hbefore⟩

/-- A lookup that starts has given none. -/
theorem of_start (c : Client) (user : String) :
    (c.step (.lookup user)).Unanswered c.lookups.length user :=
  ⟨c.pool.acquires.length, .acquiring, by simp [step], nofun⟩

theorem fires (h : c.Unanswered l user) (f : Fires c s d)
    (quiet : ∀ answer, s ≠ .answer l answer) : d.Unanswered l user := by
  cases f with
  | idle | pool | check | connected | unconnected => exact h
  | lookup =>
    obtain ⟨a, phase, hl, hphase⟩ := h
    refine ⟨a, phase, ?_, hphase⟩
    rw [List.getElem?_append_left (List.getElem?_eq_some_iff.1 hl).1]
    exact hl
  | answer =>
    refine setPhase h fun _ hm => ?_
    subst hm
    exact absurd rfl (quiet _)
  | search | refuse | fail | leave | giveUp => exact setPhase h nofun

/-- Only an answer gives it roles. -/
theorem run (h : c.Unanswered l user) (quiet : ∀ s ∈ ss, ∀ answer, s ≠ .answer l answer) :
    (c.run ss).Unanswered l user := by
  induction ss generalizing c with
  | nil => exact h
  | cons s ss ih =>
    obtain ⟨hs, hss⟩ := List.forall_mem_cons.1 quiet
    exact ih (h.fires (step_fires c s) hs) hss

theorem outcome?_ne (h : c.Unanswered l user) (roles : RoleSet) :
    c.outcome? l ≠ some (.ok roles) := by
  obtain ⟨a, phase, hl, hphase⟩ := h
  intro ho
  obtain ⟨user', a', hl'⟩ := lookups_of_outcome? ho
  cases hl.symm.trans hl'
  exact hphase roles rfl

theorem searching (h : c.Unanswered l user) {k : Nat} {query : Query}
    (hawaited : c.awaited? l = some (k, query)) :
    ∃ a, c.lookups[l]? = some ⟨user, a, .searching⟩ ∧ c.settings.query? user = some query := by
  obtain ⟨a, phase, hl, -⟩ := h
  cases phase with
  | searching =>
    refine ⟨a, hl, ?_⟩
    simp only [awaited?, hl] at hawaited
    obtain ⟨k', -, hquery⟩ := Option.bind_eq_some_iff.1 hawaited
    obtain ⟨query', hquery, hsame⟩ := Option.bind_eq_some_iff.1 hquery
    cases hsame
    exact hquery
  | _ => simp [awaited?, hl] at hawaited

end Unanswered

theorem lookup_of_pool {j : Lookup} (hl : c.lookups[l]? = some j) (ts : List Pool.Step) :
    (c.run (ts.map .pool)).lookups[l]? = some j := by
  induction ts generalizing c with
  | nil => exact hl
  | cons t ts ih => exact ih ((step_fires c (.pool t)).lookup_of_others hl nofun)

/-- A reply comes with steps of the pool, and then its answer ends the lookup. -/
theorem outcome?_of_reply {a : Nat} (hl : c.lookups[l]? = some ⟨user, a, .searching⟩)
    (ts : List Pool.Step) (answer : SearchAnswer) :
    (c.run (ts.map .pool ++ [.answer l answer])).outcome? l =
      some (c.settings.verdict user answer) := by
  rw [run_append, run_cons, run_nil, outcome?, lookup_answer (lookup_of_pool hl ts),
    settings_run]

/-- **Roles come from an answer.** If one lookup gives roles when nobody else acts, then a search
for the user has been sent over the network, and the roles are what the answer to it means. -/
theorem lookup_means {net : Network ν} {n : ν}
    (h : (c.lookup net user n).2.2 = some (.ok roles)) :
    ∃ k query m, c.settings.query? user = some query ∧
      c.settings.Means user (net.search k query m).2.answer (.ok roles) := by
  have acquired : ((c.step (.lookup user)).acquire net c.pool.acquires.length n).1.Unanswered
      c.lookups.length user := (Unanswered.of_start c user).run (by simp)
  have hsettings :
      ((c.step (.lookup user)).acquire net c.pool.acquires.length n).1.settings = c.settings :=
    (settings_run _ _).trans (step_fires c (.lookup user)).settings
  have asked : (run _ [.search c.lookups.length, .fail c.lookups.length]).Unanswered
      c.lookups.length user := acquired.run (by simp)
  simp only [lookup] at h
  split at h
  · exact absurd h (asked.outcome?_ne roles)
  · rename_i k query hawaited
    obtain ⟨a, hl, hquery⟩ := asked.searching hawaited
    simp only [outcome?_of_reply hl, settings_run, hsettings, Option.some_inj] at h
    rw [settings_run, hsettings] at hquery
    exact ⟨k, query, _, hquery, h ▸ c.settings.verdict_means user _⟩

end RoleLookup.Directory.Client
