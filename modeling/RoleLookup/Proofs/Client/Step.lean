import RoleLookup.Directory.Client
import RoleLookup.Proofs.Pool.Step

/-!
# What one step of the client can do

`Fires` lists what a step can do, with its guards and up to the events that it logs. `step_fires`
says that the list is complete, so that no other module has to open the steps.

* `verdict`, what a lookup makes of the answer to its search;
* `run_induction`, a property that every step keeps holds after a run;
* `run_concat`, a run with one more step;
* `note_nil`, `note_note`, events that are logged one after another.
-/

namespace RoleLookup.Directory

/-- What a lookup makes of the answer to its search. -/
def Settings.verdict (s : Settings) (user : String) (answer : SearchAnswer) :
    Except LookupError RoleSet :=
  match answer.entries with
  | .error cause => .error (Error.search cause).toLookupError
  | .ok raw => s.rolesOf user (raw.map RawEntry.decode)

namespace Client

/-! ### Everything a step can do -/

/-- What a step of the client can do, up to the events that it logs. -/
inductive Fires (c : Client) : Step → Client → Prop
  /-- The step does not apply. -/
  | idle {s} : Fires c s c
  | pool {s} (free : ∀ a, s.borrower? = some a → c.owns a = false) : Fires c (.pool s) (c.onPool s)
  | lookup (user) : Fires c (.lookup user) { c.onPool (.start [lookupSpan user]) with
      lookups := c.lookups ++ [{ user, acquire := c.pool.acquires.length : Lookup }] }
  | search {l user a k query} (events) (hl : c.lookups[l]? = some ⟨user, a, .acquiring⟩)
      (held : c.pool.held? a = some k) (hq : c.settings.query? user = some query) :
      Fires c (.search l) (((c.note a events).onPool (.search a query)).setPhase l .searching)
  /-- There is no search for the user. -/
  | refuse {l user a k} (events) (hl : c.lookups[l]? = some ⟨user, a, .acquiring⟩)
      (held : c.pool.held? a = some k) (hq : c.settings.query? user = none) :
      Fires c (.search l) (((c.note a events).release a).setPhase l
        (.finished (.error (Error.search .filter).toLookupError)))
  | answer {l user a answer} (before after) (hl : c.lookups[l]? = some ⟨user, a, .searching⟩) :
      Fires c (.answer l answer) ((((c.note a before).release a).note a after).setPhase l
        (.finished (c.settings.verdict user answer)))
  | fail {l user a e} (hl : c.lookups[l]? = some ⟨user, a, .acquiring⟩)
      (he : c.pool.error? a = some e) :
      Fires c (.fail l) (c.setPhase l (.finished (.error e.toLookupError)))
  | leave {l user a} (hl : c.lookups[l]? = some ⟨user, a, .acquiring⟩) :
      Fires c (.abandon l) (((c.onPool (.abandon a)).release a).setPhase l .abandoned)
  | giveUp {l user a} (hl : c.lookups[l]? = some ⟨user, a, .searching⟩) :
      Fires c (.abandon l) ((c.release a).setPhase l .abandoned)
  | check (spans) : Fires c (.check spans) { c.onPool (.start spans) with
      checks := c.checks ++ [{ acquire := c.pool.acquires.length : Check }] }
  | connected {h a k} (record) (hh : c.checks[h]? = some ⟨a, none⟩)
      (held : c.pool.held? a = some k) :
      Fires c (.conclude h) ((c.release a).setRecord h record)
  | unconnected {h a e} (events record) (hh : c.checks[h]? = some ⟨a, none⟩)
      (he : c.pool.error? a = some e) :
      Fires c (.conclude h) ((c.note a events).setRecord h record)

variable {c d : Client} {s : Step} {ss : List Step} {l a k : Nat} {user : String}

/-! ### Runs -/

/-- A property that every step keeps is kept by a run. -/
theorem run_induction {P : Client → Prop} (keep : ∀ c s, P c → P (c.step s)) (h : P c)
    (ss : List Step) : P (c.run ss) := by
  induction ss generalizing c with
  | nil => exact h
  | cons s ss ih => exact ih (keep c s h)

theorem run_concat (c : Client) (ss : List Step) (s : Step) :
    c.run (ss ++ [s]) = (c.run ss).step s := by
  rw [run_append, run_cons, run_nil]

/-! ### Events -/

@[simp] theorem note_settings (events : List Log.Event) :
    (c.note a events).settings = c.settings := rfl

theorem note_nil (c : Client) (a : Nat) : c.note a [] = c := by
  simp [note, Pool.note]

theorem note_note (events more : List Log.Event) :
    (c.note a events).note a more = c.note a (events ++ more) := by
  simp [note, Pool.note_note]

theorem searchFailed_note (events : List Log.Event) (cause : RequestError) :
    ∃ all, (c.note a events).searchFailed l a cause = ((c.note a all).release a).setPhase l
      (.finished (.error (Error.search cause).toLookupError)) := by
  unfold searchFailed
  simp only [note_note]
  exact ⟨_, rfl⟩

/-! ### The list is complete -/

theorem search_fires (c : Client) (l : Nat) : Fires c (.search l) (c.search l) := by
  unfold search
  split
  · rename_i hl
    split
    · exact .idle
    · rename_i held
      simp only [note_settings]
      split
      · rename_i hq
        exact .search _ hl held hq
      · rename_i hq
        obtain ⟨all, hall⟩ := searchFailed_note (c := c) (l := l) _ .filter
        rw [hall]
        exact .refuse all hl held hq
  · exact .idle

/-- An answer ends the lookup that waits for it. -/
theorem answer_of_searching (hl : c.lookups[l]? = some ⟨user, a, .searching⟩)
    (answer : SearchAnswer) : ∃ before after, c.answer l answer =
      (((c.note a before).release a).note a after).setPhase l
        (.finished (c.settings.verdict user answer)) := by
  simp only [Client.answer, hl]
  cases hentries : answer.entries with
  | error cause =>
    have hverdict : c.settings.verdict user answer = .error (Error.search cause).toLookupError := by
      simp [Settings.verdict, hentries]
    rw [hverdict]
    exact ⟨_, [], by rw [note_nil]; rfl⟩
  | ok raw =>
    have hverdict : c.settings.verdict user answer =
        c.settings.rolesOf user (raw.map RawEntry.decode) := by
      simp [Settings.verdict, hentries]
    rw [hverdict]
    exact ⟨[], c.settings.entryEvents (raw.map RawEntry.decode), by rw [note_nil]⟩

theorem answer_fires (c : Client) (l : Nat) (answer : SearchAnswer) :
    Fires c (.answer l answer) (c.answer l answer) := by
  by_cases hsearching : ∃ user a, c.lookups[l]? = some ⟨user, a, .searching⟩
  · obtain ⟨user, a, hl⟩ := hsearching
    obtain ⟨before, after, h⟩ := answer_of_searching hl answer
    rw [h]
    exact .answer before after hl
  · have hidle : c.answer l answer = c := by
      unfold Client.answer
      split
      · rename_i hl
        exact absurd ⟨_, _, hl⟩ hsearching
      · rfl
    rw [hidle]
    exact .idle

theorem fail_fires (c : Client) (l : Nat) : Fires c (.fail l) (c.fail l) := by
  unfold fail
  split
  · rename_i hl
    split
    · rename_i he
      exact .fail hl he
    · exact .idle
  · exact .idle

theorem abandon_fires (c : Client) (l : Nat) : Fires c (.abandon l) (c.abandon l) := by
  unfold abandon
  split
  · rename_i hl
    exact .leave hl
  · rename_i hl
    exact .giveUp hl
  · exact .idle

theorem conclude_fires (c : Client) (h : Nat) : Fires c (.conclude h) (c.conclude h) := by
  unfold conclude
  split
  · rename_i hh
    simp only
    split
    · rename_i held
      exact .connected _ hh held
    · rename_i he
      exact .unconnected _ _ hh he
    · exact .idle
  · exact .idle

theorem pool_fires (c : Client) (s : Pool.Step) : Fires c (.pool s) (c.step (.pool s)) := by
  cases hs : s.borrower? with
  | none =>
    have hstep : c.step (.pool s) = c.onPool s := by simp only [step, hs]
    rw [hstep]
    exact .pool fun a ha => by simp [hs] at ha
  | some a =>
    have hstep : c.step (.pool s) = if c.owns a then c else c.onPool s := by simp only [step, hs]
    rw [hstep]
    split
    · exact .idle
    · rename_i free
      refine .pool fun b hb => ?_
      rw [hs] at hb
      cases hb
      simpa using free

/-- Each step does one of the things listed. -/
theorem step_fires (c : Client) (s : Step) : Fires c s (c.step s) := by
  cases s with
  | pool s => exact pool_fires c s
  | lookup user => exact .lookup user
  | search l => exact search_fires c l
  | answer l answer => exact answer_fires c l answer
  | fail l => exact fail_fires c l
  | abandon l => exact abandon_fires c l
  | check spans => exact .check spans
  | conclude h => exact conclude_fires c h

end Client
end RoleLookup.Directory
