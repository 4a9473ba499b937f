import RoleLookup.Proofs.Client.Step
import RoleLookup.Proofs.Pool.Passwords

/-!
# Clients that differ in secrets

Neither password of a directory makes a difference to a client but in the binds that it sends.

* `Secrets`, the two passwords, and `withSecrets`, settings or a client with others;
* `step_withSecrets`, `run_withSecrets`, steps and runs do the same with either secrets;
* `Alike`, two clients in front of networks that nothing but passwords tells apart;
* `lookup_alike`, `check_alike`, lookups and checks keep them alike and end alike.
-/

namespace RoleLookup.Directory

/-- The passwords of a directory. -/
structure Secrets where
  bindPassword : Option String
  trustStorePassword : Option String

/-- The password to bind with. -/
def Secrets.password (x : Secrets) : String := x.bindPassword.getD ""

/-- The settings with other secrets. -/
def Settings.withSecrets (s : Settings) (x : Secrets) : Settings :=
  { s with bindPassword := x.bindPassword, trustStorePassword := x.trustStorePassword }

namespace Client

/-- The client with other secrets, as if all its binds had been sent with them. -/
def withSecrets (c : Client) (x : Secrets) : Client :=
  { c with settings := c.settings.withSecrets x, pool := c.pool.withPassword x.password }

variable (c : Client) (x : Secrets) (l a h : Nat)

/-! ### What does not see the secrets -/

@[simp] theorem withSecrets_lookups : (c.withSecrets x).lookups = c.lookups := rfl
@[simp] theorem withSecrets_checks : (c.withSecrets x).checks = c.checks := rfl
@[simp] theorem held?_withSecrets : (c.withSecrets x).pool.held? a = c.pool.held? a := rfl
@[simp] theorem error?_withSecrets : (c.withSecrets x).pool.error? a = c.pool.error? a := rfl
@[simp] theorem log_withSecrets : (c.withSecrets x).pool.log = c.pool.log := rfl
@[simp] theorem sent_withSecrets :
    (c.withSecrets x).pool.sent = c.pool.sent.map (·.withPassword x.password) := rfl
@[simp] theorem now_withSecrets : (c.withSecrets x).pool.now = c.pool.now := rfl
@[simp] theorem owns_withSecrets : (c.withSecrets x).owns a = c.owns a := rfl

theorem note_withSecrets (events : List Log.Event) :
    (c.note a events).withSecrets x = (c.withSecrets x).note a events := rfl

theorem setPhase_withSecrets (phase : Phase) :
    (c.setPhase l phase).withSecrets x = (c.withSecrets x).setPhase l phase := rfl

theorem setRecord_withSecrets (record : Health.Record) :
    (c.setRecord h record).withSecrets x = (c.withSecrets x).setRecord h record := rfl

theorem onPool_withSecrets (s : Pool.Step) :
    (c.onPool s).withSecrets x = (c.withSecrets x).onPool s := by
  simp only [onPool, withSecrets, Pool.step_withPassword]

theorem release_withSecrets : (c.release a).withSecrets x = (c.withSecrets x).release a := by
  simp only [release, withSecrets, Pool.run_withPassword]

theorem searchFailed_withSecrets (cause : RequestError) :
    (c.searchFailed l a cause).withSecrets x = (c.withSecrets x).searchFailed l a cause := by
  simp only [searchFailed]
  rw [setPhase_withSecrets, release_withSecrets, note_withSecrets]

/-! ### Steps -/

theorem search_withSecrets : (c.search l).withSecrets x = (c.withSecrets x).search l := by
  unfold search
  rw [withSecrets_lookups]
  split
  · rename_i user a _
    rw [held?_withSecrets]
    split
    · rfl
    · have hquery : (c.withSecrets x).settings.query? user = c.settings.query? user := rfl
      simp only [note_settings, hquery]
      split
      · rw [setPhase_withSecrets, onPool_withSecrets]
        rfl
      · exact searchFailed_withSecrets ..
  · rfl

theorem answer_withSecrets (answer : SearchAnswer) :
    (c.answer l answer).withSecrets x = (c.withSecrets x).answer l answer := by
  unfold Client.answer
  rw [withSecrets_lookups]
  split
  · split
    · exact searchFailed_withSecrets ..
    · simp only
      rw [setPhase_withSecrets, note_withSecrets, release_withSecrets]
      rfl
  · rfl

theorem fail_withSecrets : (c.fail l).withSecrets x = (c.withSecrets x).fail l := by
  unfold fail
  rw [withSecrets_lookups]
  split
  · rw [error?_withSecrets]
    split <;> rfl
  · rfl

theorem abandon_withSecrets : (c.abandon l).withSecrets x = (c.withSecrets x).abandon l := by
  unfold abandon
  rw [withSecrets_lookups]
  split
  · rw [setPhase_withSecrets, release_withSecrets, onPool_withSecrets]
  · rw [setPhase_withSecrets, release_withSecrets]
  · rfl

theorem conclude_withSecrets : (c.conclude h).withSecrets x = (c.withSecrets x).conclude h := by
  unfold conclude
  rw [withSecrets_checks]
  split
  · simp only [held?_withSecrets, error?_withSecrets]
    split
    · rw [setRecord_withSecrets, release_withSecrets]
      rfl
    · rfl
    · rfl
  · rfl

theorem step_withSecrets (s : Step) : (c.step s).withSecrets x = (c.withSecrets x).step s := by
  cases s with
  | pool s =>
    simp only [step]
    split
    · rw [owns_withSecrets]
      split
      · rfl
      · exact onPool_withSecrets ..
    · exact onPool_withSecrets ..
  | lookup user => rfl
  | search l => exact search_withSecrets ..
  | answer l answer => exact answer_withSecrets ..
  | fail l => exact fail_withSecrets ..
  | abandon l => exact abandon_withSecrets ..
  | check spans => rfl
  | conclude h => exact conclude_withSecrets ..

/-- A run does the same with either secrets. -/
theorem run_withSecrets (ss : List Step) :
    (c.run ss).withSecrets x = (c.withSecrets x).run ss := by
  induction ss generalizing c with
  | nil => rfl
  | cons s ss ih => rw [run_cons, ih, step_withSecrets, run_cons]

/-! ### One lookup or check at a time -/

variable {ν : Type} {net : Network ν} {R : ν → ν → Prop} {n n' : ν}

/-- Clients and states of their networks between which nothing but secrets tells. -/
def Alike (R : ν → ν → Prop) (x : Secrets) (d d' : Client × ν) : Prop :=
  d'.1 = d.1.withSecrets x ∧ R d.2 d'.2

/-- After the same step, the acquires of both clients end alike. -/
theorem exists_acquire (blind : net.Blind R) (hn : R n n') (s : Step) :
    ∃ d m m', (c.step s).acquire net a n = (d, m) ∧
      ((c.withSecrets x).step s).acquire net a n' = (d.withSecrets x, m') ∧ R m m' := by
  obtain ⟨hsteps, hstates⟩ := Pool.course_withPassword blind hn (c.step s).pool x.password a
  refine ⟨(c.step s).run (((c.step s).pool.course net a n).1.map .pool),
    ((c.step s).pool.course net a n).2,
    (((c.step s).pool.withPassword x.password).course net a n').2, rfl, ?_, hstates⟩
  have hcourse : ((c.step s).withSecrets x).pool.course net a n' =
      ((c.step s).pool.withPassword x.password).course net a n' := rfl
  simp only [acquire, ← step_withSecrets, hcourse, hsteps, run_withSecrets]

@[simp] theorem awaited?_withSecrets : (c.withSecrets x).awaited? l = c.awaited? l := rfl
@[simp] theorem record?_withSecrets : (c.withSecrets x).record? h = c.record? h := rfl

theorem lookup_alike (blind : net.Blind R) (hn : R n n') (user : String) :
    let r := c.lookup net user n
    let r' := (c.withSecrets x).lookup net user n'
    Alike R x (r.1, r.2.1) (r'.1, r'.2.1) ∧ r'.2.2 = r.2.2 := by
  obtain ⟨d, m, m', hd, hd', hm⟩ :=
    exists_acquire c x c.pool.acquires.length blind hn (.lookup user)
  have hpool : (c.withSecrets x).pool.acquires.length = c.pool.acquires.length := rfl
  simp only [lookup, hpool, withSecrets_lookups, hd, hd']
  rw [← run_withSecrets, awaited?_withSecrets]
  split
  · exact ⟨⟨rfl, hm⟩, rfl⟩
  · rename_i k query _
    obtain ⟨hreply, hstates⟩ := blind.search hm k query
    simp only [hreply]
    rw [← run_withSecrets]
    exact ⟨⟨rfl, hstates⟩, rfl⟩

theorem check_alike (blind : net.Blind R) (hn : R n n') (spans : List Log.Span) :
    let r := c.check net spans n
    let r' := (c.withSecrets x).check net spans n'
    Alike R x (r.1, r.2.1) (r'.1, r'.2.1) ∧ r'.2.2 = r.2.2 := by
  obtain ⟨d, m, m', hd, hd', hm⟩ :=
    exists_acquire c x c.pool.acquires.length blind hn (.check spans)
  have hpool : (c.withSecrets x).pool.acquires.length = c.pool.acquires.length := rfl
  simp only [check, hpool, withSecrets_checks, hd, hd']
  rw [← step_withSecrets, record?_withSecrets]
  exact ⟨⟨rfl, hm⟩, rfl⟩

end Client
end RoleLookup.Directory
