import RoleLookup.Proofs.Client.Step
import RoleLookup.Proofs.Pool.Acquires

/-!
# Lookups, checks and their acquires

* `pool_induction`, what the steps and the events of a pool keep holds of the pool of a client;
* `Linked`, lookups and checks have acquires of their own, with `linked_run`;
* `lookup_answer`, an answer is what ends a lookup that is searching;
* `acquire_of_owner`, an acquire that a step does not act for goes on by itself at most;
* `lookup_of_others`, `acquire_of_others`, what others do leaves a lookup where it is, and its
  acquire goes on by itself at most; once it holds a connection or has failed, it stays so by
  `over_of_others`.
-/

namespace RoleLookup.Directory
namespace Client

variable {c d : Client} {s : Step} {ss : List Step} {l m a b k h : Nat} {user : String}

/-! ### The pool of a client -/

theorem pool_release (c : Client) (a : Nat) :
    (c.release a).pool = (c.pool.step (.giveBack a)).step (.free a) := rfl

/-- What the steps and the events of a pool keep is kept by the steps of a client. Binds are
answered only in steps of the pool itself. -/
theorem Fires.pool_induction {P : Pool → Prop} (f : Fires c s d)
    (keep : ∀ p t, (∀ a answer, t ≠ .bound a answer) → P p → P (p.step t))
    (pool : ∀ t, s = .pool t → P (c.pool.step t))
    (quiet : ∀ p a events, P p → P (p.note a events)) (hp : P c.pool) : P d.pool := by
  have release {c : Client} (a : Nat) (hp : P c.pool) : P (c.release a).pool := by
    rw [pool_release]
    exact keep _ _ nofun (keep _ _ nofun hp)
  cases f with
  | idle | fail => exact hp
  | pool => exact pool _ rfl
  | lookup user => exact keep _ (.start [lookupSpan user]) nofun hp
  | check spans => exact keep _ (.start spans) nofun hp
  | @search _ _ _ _ query events => exact keep _ (.search _ query) nofun (quiet _ _ events hp)
  | refuse events => exact release (c := c.note _ events) _ (quiet _ _ _ hp)
  | answer before after =>
    exact quiet _ _ after (release (c := c.note _ before) _ (quiet _ _ _ hp))
  | @leave _ _ a => exact release (c := c.onPool (.abandon a)) _ (keep _ (.abandon a) nofun hp)
  | giveUp | connected => exact release _ hp
  | unconnected events => exact quiet _ _ events hp

theorem Fires.settings (f : Fires c s d) : d.settings = c.settings := by
  cases f <;> rfl

theorem settings_run (c : Client) (ss : List Step) : (c.run ss).settings = c.settings :=
  run_induction (P := fun d => d.settings = c.settings)
    (fun d s h => (step_fires d s).settings.trans h) rfl ss

/-! ### Who owns an acquire -/

/-- The acquires of the lookups and of the checks. -/
def owners (c : Client) : List Nat := c.lookups.map (·.acquire) ++ c.checks.map (·.acquire)

theorem owns_eq_true : c.owns a = true ↔ a ∈ c.owners := by
  simp [owns, owners]

/-- Lookups and checks have acquires of their own. -/
structure Linked (c : Client) : Prop where
  nodup : c.owners.Nodup
  known : ∀ a ∈ c.owners, a < c.pool.acquires.length

theorem linked_ofSettings (settings : Settings) (connector : Connector) :
    (ofSettings settings connector).Linked := by
  constructor <;> simp [ofSettings, owners]

theorem map_acquire_modify (ks : List Lookup) (l : Nat) (phase : Phase) :
    (ks.modify l fun k => { k with phase }).map (·.acquire) = ks.map (·.acquire) := by
  apply List.ext_getElem?
  intro m
  rw [List.getElem?_map, List.getElem?_map, List.getElem?_modify]
  by_cases hlm : l = m <;> cases ks[m]? <;> simp [hlm]

theorem owners_setPhase (c : Client) (l : Nat) (phase : Phase) :
    (c.setPhase l phase).owners = c.owners := by
  simp only [owners, setPhase, map_acquire_modify]

theorem owners_setRecord (c : Client) (h : Nat) (record : Health.Record) :
    (c.setRecord h record).owners = c.owners := by
  have hmap : (c.checks.modify h fun k => { k with record := some record }).map (·.acquire) =
      c.checks.map (·.acquire) := by
    apply List.ext_getElem?
    intro m
    rw [List.getElem?_map, List.getElem?_map, List.getElem?_modify]
    by_cases hhm : h = m <;> cases c.checks[m]? <;> simp [hhm]
  simp only [owners, setRecord, hmap]

theorem Fires.length_acquires (f : Fires c s d) :
    c.pool.acquires.length ≤ d.pool.acquires.length :=
  f.pool_induction (P := fun p => c.pool.acquires.length ≤ p.acquires.length)
    (fun p t _ hp => hp.trans (Pool.length_acquires_step p t))
    (fun t _ => Pool.length_acquires_step c.pool t) (fun _ _ _ hp => hp) (Nat.le_refl _)

namespace Linked

theorem of_owners (h : c.Linked) (ho : d.owners = c.owners)
    (hlength : c.pool.acquires.length ≤ d.pool.acquires.length) : d.Linked where
  nodup := ho ▸ h.nodup
  known a ha := Nat.lt_of_lt_of_le (h.known a (ho ▸ ha)) hlength

/-- A lookup or check starts with a new acquire. -/
theorem of_new (h : c.Linked) (ho : d.owners.Perm (c.pool.acquires.length :: c.owners))
    (hlength : c.pool.acquires.length < d.pool.acquires.length) : d.Linked where
  nodup := by
    rw [ho.nodup_iff, List.nodup_cons]
    exact ⟨fun hn => Nat.lt_irrefl _ (h.known _ hn), h.nodup⟩
  known a ha := by
    rcases List.mem_cons.1 (ho.mem_iff.1 ha) with rfl | ha
    · exact hlength
    · exact (h.known a ha).trans hlength

theorem fires (h : c.Linked) (f : Fires c s d) : d.Linked := by
  have hlength := f.length_acquires
  cases f with
  | idle => exact h
  | pool => exact h.of_owners rfl hlength
  | lookup user =>
    refine h.of_new ?_ (by simp [onPool, Pool.step])
    simp [owners, onPool, List.perm_middle]
  | check spans =>
    refine h.of_new ?_ (by simp [onPool, Pool.step])
    simp only [owners, onPool, List.map_append, List.map_cons, List.map_nil, ← List.append_assoc]
    exact List.perm_append_singleton ..
  | connected | unconnected => exact h.of_owners (owners_setRecord ..) hlength
  | _ => exact h.of_owners (owners_setPhase ..) hlength

/-- No two lookups have the same acquire. -/
theorem lookup_apart (h : c.Linked) {j k : Lookup} (hl : c.lookups[l]? = some j)
    (hm : c.lookups[m]? = some k) (hjk : j.acquire = k.acquire) : l = m := by
  have hnodup := (List.nodup_append.1 h.nodup).1
  have hlength : l < (c.lookups.map (·.acquire)).length := by
    rw [List.length_map]
    exact (List.getElem?_eq_some_iff.1 hl).1
  refine (List.getElem?_inj hlength hnodup).1 ?_
  simp [hl, hm, hjk]

/-- Nor have a lookup and a check. -/
theorem check_apart (h : c.Linked) {j : Lookup} {k : Check} (hl : c.lookups[l]? = some j)
    (hh : c.checks[m]? = some k) : j.acquire ≠ k.acquire :=
  (List.nodup_append.1 h.nodup).2.2 _ (List.mem_map_of_mem (List.mem_of_getElem? hl)) _
    (List.mem_map_of_mem (List.mem_of_getElem? hh))

end Linked

theorem linked_run (settings : Settings) (connector : Connector) (ss : List Step) :
    ((ofSettings settings connector).run ss).Linked :=
  run_induction (fun c s h => h.fires (step_fires c s)) (linked_ofSettings settings connector) ss

/-! ### What others do -/

/-- The lookup that a step acts for. -/
def Step.lookup? : Step → Option Nat
  | .search l | .answer l _ | .fail l | .abandon l => some l
  | _ => none

theorem getElem?_setPhase (c : Client) (l : Nat) (phase : Phase) (m : Nat) :
    (c.setPhase l phase).lookups[m]? =
      (c.lookups[m]?).map fun k => if l = m then { k with phase } else k := by
  rw [setPhase, List.getElem?_modify]
  by_cases hlm : l = m <;> simp [hlm]

/-- An answer tells a lookup that waits for it how it ends. -/
theorem lookup_answer (hl : c.lookups[l]? = some ⟨user, a, .searching⟩) (answer : SearchAnswer) :
    (c.step (.answer l answer)).lookups[l]? =
      some ⟨user, a, .finished (c.settings.verdict user answer)⟩ := by
  obtain ⟨before, after, h⟩ := answer_of_searching hl answer
  rw [step, h, getElem?_setPhase]
  change Option.map _ (c.lookups[l]?) = _
  simp [hl]

/-- What others do leaves a lookup where it is. -/
theorem Fires.lookup_of_others (f : Fires c s d) {j : Lookup} (hl : c.lookups[l]? = some j)
    (hs : s.lookup? ≠ some l) : d.lookups[l]? = some j := by
  have other {d : Client} {m : Nat} {phase : Phase} (hd : d.lookups = c.lookups)
      (hm : m ≠ l) : (d.setPhase m phase).lookups[l]? = some j := by
    simp [getElem?_setPhase, hd, hl, hm]
  cases f with
  | idle | pool | check | connected | unconnected => exact hl
  | lookup =>
    rw [List.getElem?_append_left (List.getElem?_eq_some_iff.1 hl).1]
    exact hl
  | _ => exact other rfl fun hm => hs (congrArg some hm)

theorem phase?_release_of_other {phase : Pool.Phase} (ha : c.pool.phase? a = some phase)
    (hab : a ≠ b) : (c.release b).pool.phase? a = some phase :=
  Pool.phase?_of_other (Pool.phase?_of_other ha (.inl rfl) hab) (.inr (.inl rfl)) hab

/-- The acquire of the lookup or the check that a step acts for. -/
def borrower? (c : Client) : Step → Option Nat
  | .search l | .answer l _ | .fail l | .abandon l => (c.lookups[l]?).map (·.acquire)
  | .conclude h => (c.checks[h]?).map (·.acquire)
  | _ => none

/-- An acquire that a step does not act for goes on by itself at most. -/
theorem Fires.acquire_of_owner (f : Fires c s d) (owned : a ∈ c.owners)
    (hs : c.borrower? s ≠ some a) {phase : Pool.Phase} (ha : c.pool.phase? a = some phase) :
    ∃ phase', d.pool.phase? a = some phase' ∧ (phase' = phase ∨
      ∃ t : Pool.Step, t.borrower? ≠ some a ∧ c.pool.Goes a t phase phase') := by
  have still {d : Client} (hd : d.pool.phase? a = some phase) :
      ∃ phase', d.pool.phase? a = some phase' ∧ (phase' = phase ∨
        ∃ t : Pool.Step, t.borrower? ≠ some a ∧ c.pool.Goes a t phase phase') :=
    ⟨phase, hd, .inl rfl⟩
  have apart {b : Nat} {t : Step} (hb : c.borrower? t = some b) (ht : c.borrower? t ≠ some a) :
      a ≠ b := fun h => ht (h ▸ hb)
  cases f with
  | idle | fail | unconnected => exact still ha
  | @pool t free =>
    obtain ⟨phase', ha', h⟩ := Pool.phase?_step ha t
    refine ⟨phase', ha', h.imp_right fun g => ⟨t, fun ht => ?_, g⟩⟩
    have hfree := free a ht
    rw [owns_eq_true.2 owned] at hfree
    cases hfree
  | lookup user =>
    obtain ⟨phase', ha', h⟩ := Pool.phase?_step ha (.start [lookupSpan user])
    exact ⟨phase', ha', h.imp_right fun g => ⟨_, by simp [Pool.Step.borrower?], g⟩⟩
  | check spans =>
    obtain ⟨phase', ha', h⟩ := Pool.phase?_step ha (.start spans)
    exact ⟨phase', ha', h.imp_right fun g => ⟨_, by simp [Pool.Step.borrower?], g⟩⟩
  | @search _ _ b _ query events hl =>
    have hab : a ≠ b := apart (by simp [borrower?, hl]) hs
    exact still (Pool.phase?_of_other (p := c.pool.note b events) ha
      (.inr (.inr (.inr ⟨query, rfl⟩))) hab)
  | @refuse _ _ b _ events hl =>
    have hab : a ≠ b := apart (by simp [borrower?, hl]) hs
    exact still (phase?_release_of_other (c := c.note b events) ha hab)
  | @answer _ _ b _ before after hl =>
    have hab : a ≠ b := apart (by simp [borrower?, hl]) hs
    exact still (phase?_release_of_other (c := c.note b before) ha hab)
  | @leave _ _ b hl =>
    have hab : a ≠ b := apart (by simp [borrower?, hl]) hs
    exact still (phase?_release_of_other (c := c.onPool (.abandon b))
      (Pool.phase?_of_other ha (.inr (.inr (.inl rfl))) hab) hab)
  | @giveUp _ _ b hl =>
    have hab : a ≠ b := apart (by simp [borrower?, hl]) hs
    exact still (phase?_release_of_other ha hab)
  | @connected _ b _ record hh =>
    have hab : a ≠ b := apart (by simp [borrower?, hh]) hs
    exact still (phase?_release_of_other ha hab)

theorem mem_owners_of_lookup {j : Lookup} (hl : c.lookups[l]? = some j) : j.acquire ∈ c.owners :=
  List.mem_append_left _ (List.mem_map_of_mem (List.mem_of_getElem? hl))

theorem mem_owners_of_check {j : Check} (hh : c.checks[h]? = some j) : j.acquire ∈ c.owners :=
  List.mem_append_right _ (List.mem_map_of_mem (List.mem_of_getElem? hh))

/-- No step acts for the acquire of a lookup but those for the lookup. -/
theorem Linked.borrower?_ne_lookup (linked : c.Linked) {j : Lookup} (hl : c.lookups[l]? = some j)
    (hs : s.lookup? ≠ some l) : c.borrower? s ≠ some j.acquire := by
  have lookups (m : Nat) (hm : m ≠ l) : (c.lookups[m]?).map (·.acquire) ≠ some j.acquire := by
    intro heq
    obtain ⟨k, hk, hacquire⟩ := Option.map_eq_some_iff.1 heq
    exact hm (linked.lookup_apart hl hk hacquire.symm).symm
  cases s with
  | search m | answer m | fail m | abandon m => exact lookups m fun hm => hs (congrArg some hm)
  | conclude m =>
    intro heq
    obtain ⟨k, hk, hacquire⟩ := Option.map_eq_some_iff.1 heq
    exact linked.check_apart hl hk hacquire.symm
  | _ => nofun

/-- Its acquire goes on by itself at most. -/
theorem Fires.acquire_of_others (f : Fires c s d) (linked : c.Linked) {j : Lookup}
    (hl : c.lookups[l]? = some j) (hs : s.lookup? ≠ some l) {phase : Pool.Phase}
    (ha : c.pool.phase? j.acquire = some phase) :
    ∃ phase', d.pool.phase? j.acquire = some phase' ∧ (phase' = phase ∨
      ∃ t : Pool.Step, t.borrower? ≠ some j.acquire ∧ c.pool.Goes j.acquire t phase phase') :=
  f.acquire_of_owner (mem_owners_of_lookup hl) (linked.borrower?_ne_lookup hl hs) ha

/-- Others neither give its connection back nor help an acquire that failed. -/
theorem Fires.over_of_others (f : Fires c s d) (linked : c.Linked) {j : Lookup}
    (hl : c.lookups[l]? = some j) (hs : s.lookup? ≠ some l) {phase : Pool.Phase}
    (ha : c.pool.phase? j.acquire = some phase)
    (hphase : (∃ k, phase = .holding k) ∨ ∃ e, phase = .failed e) :
    d.pool.phase? j.acquire = some phase := by
  obtain ⟨phase', ha', rfl | ⟨t, ht, g⟩⟩ := f.acquire_of_others linked hl hs ha
  · exact ha'
  · rcases hphase with ⟨k, rfl⟩ | ⟨e, rfl⟩
    · cases g with
      | giveBack => exact absurd rfl ht
      | abandon hp => exact hp.elim
    · cases g with
      | abandon hp => exact hp.elim

end Client
end RoleLookup.Directory
