import RoleLookup.Directory.Network
import RoleLookup.Proofs.Pool.Restart

/-!
# Pools that differ in the password

The password of a connector goes into the binds that are sent and nowhere else.

* `withPassword`, a connector, a request or a pool with another password;
* `step_withPassword`, `run_withPassword`, steps and runs do the same with either password;
* `Network.Blind`, a network whose replies do not depend on the password;
* `course_withPassword`, on such a network an acquire takes the same steps with either password.
-/

namespace RoleLookup.Directory

/-- The connector with another password. -/
def Connector.withPassword (c : Connector) (w : String) : Connector := { c with bindPassword := w }

namespace Pool

/-- The request with another password, if it is a bind. -/
def Request.withPassword (w : String) : Request → Request
  | .bind c bindDn _ => .bind c bindDn w
  | r => r

/-- The pool with another password, as if all its binds had been sent with it. -/
def withPassword (p : Pool) (w : String) : Pool :=
  { p with connector := p.connector.withPassword w, sent := p.sent.map (·.withPassword w) }

section Password

variable (p : Pool) (w : String) (a c : Nat)

/-! ### What does not see the password -/

@[simp] theorem withPassword_connector :
    (p.withPassword w).connector = p.connector.withPassword w := rfl
@[simp] theorem withPassword_bindDn :
    (p.connector.withPassword w).bindDn = p.connector.bindDn := rfl
@[simp] theorem withPassword_size : (p.withPassword w).size = p.size := rfl
@[simp] theorem withPassword_isInitialised :
    (p.withPassword w).isInitialised = p.isInitialised := rfl
@[simp] theorem withPassword_isInitialising :
    (p.withPassword w).isInitialising = p.isInitialising := rfl
@[simp] theorem withPassword_idle : (p.withPassword w).idle = p.idle := rfl
@[simp] theorem withPassword_permits : (p.withPassword w).permits = p.permits := rfl
@[simp] theorem phase?_withPassword : (p.withPassword w).phase? a = p.phase? a := rfl
@[simp] theorem isAlive_withPassword : (p.withPassword w).isAlive c = p.isAlive c := rfl

/-! ### Parts of steps -/

theorem send_withPassword (r : Request) :
    (p.send r).withPassword w = (p.withPassword w).send (r.withPassword w) := by
  simp [send, withPassword]

theorem setPhase_withPassword (phase : Phase) :
    (p.setPhase a phase).withPassword w = (p.withPassword w).setPhase a phase := rfl

theorem note_withPassword (events : List Log.Event) :
    (p.note a events).withPassword w = (p.withPassword w).note a events := rfl

theorem setFate_withPassword (fate : Fate) :
    (p.setFate c fate).withPassword w = (p.withPassword w).setFate c fate := by
  unfold setFate
  rw [isAlive_withPassword]
  split <;> rfl

theorem unbind_withPassword : (p.unbind c).withPassword w = (p.withPassword w).unbind c := by
  unfold unbind
  rw [isAlive_withPassword]
  split
  · rw [setFate_withPassword, send_withPassword]
    rfl
  · rfl

theorem lose_withPassword (cs : List Nat) :
    (p.lose cs).withPassword w = (p.withPassword w).lose cs := by
  induction cs generalizing p with
  | nil => rfl
  | cons c cs ih =>
    rw [lose, List.foldl_cons, ← lose, ih, setFate_withPassword]
    rfl

/-! ### Opening connections -/

theorem ready_withPassword (purpose : Purpose) :
    (p.ready a purpose c).withPassword w = (p.withPassword w).ready a purpose c := by
  cases purpose with
  | loan => rfl
  | initial cs =>
    have hready (p : Pool) : p.ready a (.initial cs) c =
        if cs.length + 1 < p.size then (p.refresh c).connect a (.initial (c :: cs))
        else (p.refresh c).initialise a (c :: cs) := rfl
    rw [hready, hready, withPassword_size]
    split <;> rfl

theorem openingFailed_withPassword (purpose : Purpose) (e : Error) :
    (p.openingFailed a purpose e).withPassword w =
      (p.withPassword w).openingFailed a purpose e := by
  rcases purpose with (_ | ⟨c, cs⟩) | _ <;> rfl

theorem greet_withPassword (purpose : Purpose) :
    (p.greet a purpose).withPassword w = (p.withPassword w).greet a purpose := by
  unfold greet
  by_cases nobody : p.connector.bindDn.isEmpty = true
  · have nobody' : (p.withPassword w).connector.bindDn.isEmpty = true := nobody
    simp only [if_pos nobody, if_pos nobody']
    exact ready_withPassword ..
  · have somebody : ¬ (p.withPassword w).connector.bindDn.isEmpty = true := nobody
    simp only [if_neg nobody, if_neg somebody]
    rw [setPhase_withPassword, send_withPassword]
    rfl

theorem connected_withPassword (answer : Except RequestError Unit) :
    (p.connected a answer).withPassword w = (p.withPassword w).connected a answer := by
  unfold connected
  rw [phase?_withPassword]
  split
  · rename_i purpose _
    cases answer with
    | error cause => exact openingFailed_withPassword ..
    | ok => exact greet_withPassword p w a purpose
  · rfl

theorem bound_withPassword (answer : Except RequestError Result) :
    (p.bound a answer).withPassword w = (p.withPassword w).bound a answer := by
  unfold bound
  rw [phase?_withPassword]
  split
  · simp only [note_connector, withPassword_connector, withPassword_bindDn]
    split
    · exact ready_withPassword ..
    · rw [setPhase_withPassword, unbind_withPassword, note_withPassword]
  · rfl

theorem unbound_withPassword : (p.unbound a).withPassword w = (p.withPassword w).unbound a := by
  unfold unbound
  rw [phase?_withPassword]
  split
  · exact openingFailed_withPassword ..
  · rfl

/-! ### Borrowing and giving back -/

theorem enter_withPassword : (p.enter a).withPassword w = (p.withPassword w).enter a := by
  unfold enter
  rw [phase?_withPassword, withPassword_isInitialised, withPassword_isInitialising]
  split
  · split
    · rfl
    · split <;> rfl
  · rfl

theorem grant_withPassword : (p.grant a).withPassword w = (p.withPassword w).grant a := by
  unfold grant
  rw [phase?_withPassword, withPassword_permits]
  split
  · split <;> rfl
  · rfl

theorem expire_withPassword : (p.expire a).withPassword w = (p.withPassword w).expire a := by
  unfold expire
  rw [phase?_withPassword, withPassword_permits]
  split
  · split <;> rfl
  · rfl

theorem take_withPassword : (p.take a).withPassword w = (p.withPassword w).take a := by
  unfold take
  rw [phase?_withPassword, withPassword_idle]
  split
  · split
    · rfl
    · rename_i c idle _
      change withPassword (if !p.isAlive c then _ else if p.isExpired c then _ else _) w =
        if !p.isAlive c then _ else if p.isExpired c then _ else _
      split
      · rfl
      · split
        · exact unbind_withPassword ..
        · rfl
  · rfl

theorem search_withPassword (query : Query) :
    (p.search a query).withPassword w = (p.withPassword w).search a query := by
  unfold search
  rw [phase?_withPassword]
  split
  · exact send_withPassword ..
  · rfl

theorem giveBack_withPassword : (p.giveBack a).withPassword w = (p.withPassword w).giveBack a := by
  unfold giveBack
  rw [phase?_withPassword]
  split
  · rename_i c _
    change withPassword (if !p.isAlive c then _ else if !p.keepAlive || p.isExpired c then _ else _)
      w = if !p.isAlive c then _ else if !p.keepAlive || p.isExpired c then _ else _
    split
    · rfl
    · split
      · exact unbind_withPassword ..
      · rfl
  · rfl

theorem free_withPassword : (p.free a).withPassword w = (p.withPassword w).free a := by
  unfold free
  rw [phase?_withPassword]
  split <;> rfl

theorem abandon_withPassword : (p.abandon a).withPassword w = (p.withPassword w).abandon a := by
  unfold abandon
  rw [phase?_withPassword]
  split
  · rfl
  · rfl
  · rfl
  · rename_i purpose stage _
    have hlose := lose_withPassword p w (ownConnections purpose stage)
    unfold lose at hlose
    rw [← hlose]
    cases purpose <;> rfl
  · rfl

/-! ### The machine -/

theorem step_withPassword (s : Step) :
    (p.step s).withPassword w = (p.withPassword w).step s := by
  cases s with
  | start | advance => rfl
  | enter a => exact enter_withPassword ..
  | connected a answer => exact connected_withPassword ..
  | bound a answer => exact bound_withPassword ..
  | unbound a => exact unbound_withPassword ..
  | grant a => exact grant_withPassword ..
  | expire a => exact expire_withPassword ..
  | take a => exact take_withPassword ..
  | search a query => exact search_withPassword ..
  | giveBack a => exact giveBack_withPassword ..
  | free a => exact free_withPassword ..
  | abandon a => exact abandon_withPassword ..
  | close c => exact setFate_withPassword ..

/-- A run does the same with either password. -/
theorem run_withPassword (ss : List Step) :
    (p.run ss).withPassword w = (p.withPassword w).run ss := by
  induction ss generalizing p with
  | nil => rfl
  | cons s ss ih => rw [run_cons, ih, step_withPassword, run_cons]

end Password
end Pool

/-! ### The network -/

variable {ν : Type}

/-- A network whose replies do not depend on the password. States are related if nothing but
passwords that were sent tells them apart, and it is the same requests that come over them. -/
structure Network.Blind (net : Network ν) (R : ν → ν → Prop) : Prop where
  connect : ∀ {n n'}, R n n' → ∀ (c : Connector) (w : String),
    (net.connect (c.withPassword w) n').2 = (net.connect c n).2 ∧
      R (net.connect c n).1 (net.connect (c.withPassword w) n').1
  bind : ∀ {n n'}, R n n' → ∀ (k : Nat) (bindDn w w' : String),
    (net.bind k bindDn w' n').2 = (net.bind k bindDn w n).2 ∧
      R (net.bind k bindDn w n).1 (net.bind k bindDn w' n').1
  search : ∀ {n n'}, R n n' → ∀ (k : Nat) (query : Query),
    (net.search k query n').2 = (net.search k query n).2 ∧
      R (net.search k query n).1 (net.search k query n').1

namespace Pool

variable {net : Network ν} {R : ν → ν → Prop} {n n' : ν}

theorem next_withPassword (blind : net.Blind R) (h : R n n') (p : Pool) (w : String) (a : Nat) :
    ((p.withPassword w).next net a n').1 = (p.next net a n).1 ∧
      R (p.next net a n).2 ((p.withPassword w).next net a n').2 := by
  unfold next
  rw [phase?_withPassword]
  split
  · exact ⟨rfl, h⟩
  · obtain ⟨hreply, hstates⟩ := blind.connect h p.connector w
    refine ⟨?_, hstates⟩
    simp only [withPassword_connector, hreply]
  · rename_i c _
    obtain ⟨hreply, hstates⟩ := blind.bind h c p.connector.bindDn p.connector.bindPassword w
    refine ⟨?_, hstates⟩
    exact congrArg (fun r => replySteps c r ++ [.bound a r.answer]) hreply
  · exact ⟨rfl, h⟩
  · rw [withPassword_permits]
    split <;> exact ⟨rfl, h⟩
  · exact ⟨rfl, h⟩
  · exact ⟨rfl, h⟩

theorem courseFor_withPassword (blind : net.Blind R) (a : Nat) (w : String) (fuel : Nat)
    (h : R n n') (p : Pool) :
    (courseFor net a fuel (p.withPassword w) n').1 = (courseFor net a fuel p n).1 ∧
      R (courseFor net a fuel p n).2 (courseFor net a fuel (p.withPassword w) n').2 := by
  induction fuel generalizing p n n' with
  | zero => exact ⟨rfl, h⟩
  | succ fuel ih =>
    have hnext := next_withPassword blind h p w a
    rcases hp : p.next net a n with ⟨steps, m⟩
    rcases hp' : (p.withPassword w).next net a n' with ⟨steps', m'⟩
    rw [hp, hp'] at hnext
    obtain ⟨rfl, hstates⟩ : steps' = steps ∧ R m m' := hnext
    cases steps' with
    | nil =>
      simp only [courseFor, hp, hp']
      exact ⟨trivial, hstates⟩
    | cons s ss =>
      obtain ⟨hmore, hlast⟩ := ih hstates (p.run (s :: ss))
      rw [run_withPassword] at hmore hlast
      simp only [courseFor, hp, hp']
      exact ⟨congrArg (s :: ss ++ ·) hmore, hlast⟩

/-- An acquire takes the same steps with either password. -/
theorem course_withPassword (blind : net.Blind R) (h : R n n') (p : Pool) (w : String) (a : Nat) :
    ((p.withPassword w).course net a n').1 = (p.course net a n).1 ∧
      R (p.course net a n).2 ((p.withPassword w).course net a n').2 :=
  courseFor_withPassword blind a w p.mostMoments h p

end Pool
end RoleLookup.Directory
