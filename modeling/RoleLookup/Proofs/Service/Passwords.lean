import RoleLookup.Proofs.Client.Passwords
import RoleLookup.Service

/-!
# Services that differ in secrets

A lookup or a health check of a service goes through the provider, the client, the pool and the
network. None of them tells two services apart that differ in nothing but secrets.

* `Oblivious`, a function that answers alike in related states and leaves related states;
* the same of the provider and of health checks, over a directory and checks that are oblivious;
* `Service.Alike`, two services in front of networks that nothing but passwords tells apart;
* `lookup_alike`, `lookupTogether_alike`, `runHealth_alike`, `report_alike`, what services do keeps
  them alike and looks alike.
-/

namespace RoleLookup

open Directory (Client Network Secrets)

/-- A function of a state that cannot tell two related states apart. -/
def Oblivious {δ β : Type} (D : δ → δ → Prop) (f : δ → δ × β) : Prop :=
  ∀ ⦃d d'⦄, D d d' → (f d').2 = (f d).2 ∧ D (f d).1 (f d').1

section Oblivious

variable {δ β γ : Type} {D : δ → δ → Prop} {f : δ → δ × β}

theorem Oblivious.const (b : β) : Oblivious D fun d => (d, b) := fun _ _ h => ⟨rfl, h⟩

/-- What comes after an oblivious function is oblivious if it is for each of its answers. -/
theorem Oblivious.bind {g : β → δ → δ × γ} (hf : Oblivious D f) (hg : ∀ b, Oblivious D (g b)) :
    Oblivious D fun d => g (f d).2 (f d).1 := by
  intro d d' h
  obtain ⟨hanswer, hstates⟩ := hf h
  simp only [hanswer]
  exact hg _ hstates

theorem Oblivious.map (hf : Oblivious D f) (g : β → γ) : Oblivious D fun d => ((f d).1, g (f d).2) :=
  hf.bind fun b => .const (g b)

end Oblivious

/-! ### The provider -/

namespace Provider

variable {δ : Type} {D : δ → δ → Prop} {directory : Directory δ}

theorem complete_oblivious (hd : ∀ user, Oblivious D (directory user)) (c : Nat) (p : Provider) :
    Oblivious D fun d => (p.complete directory c d).swap := by
  unfold complete
  cases p.calls[c]? with
  | none => exact .const p
  | some k =>
    obtain ⟨user, _ | _ | _ | _⟩ := k
    · exact (hd user).map fun r =>
        { p with
          log := p.log ++
            (if p.coalescing then r.events
              else r.events.map fun e => Log.Event.withinAll e (p.spansOf user))
          }.run [.advance r.elapsed, .finish c r.outcome]
    all_goals exact .const p

theorem completeInTurn_oblivious (hd : ∀ user, Oblivious D (directory user)) (cs : List Nat)
    (p : Provider) : Oblivious D fun d => (p.completeInTurn directory cs d).swap := by
  induction cs generalizing p with
  | nil => exact .const p
  | cons c cs ih => exact (complete_oblivious hd c p).bind ih

theorem lookup_oblivious (hd : ∀ user, Oblivious D (directory user)) (user : String)
    (p : Provider) :
    Oblivious D fun d =>
      let r := p.lookup directory user d
      (r.2.1, r.1, r.2.2) := by
  cases hwaits : (p.launch user).awaited? p.lookups.length with
  | none =>
    simp only [lookup, hwaits]
    exact .const _
  | some c =>
    simp only [lookup, hwaits]
    exact (complete_oblivious hd c (p.launch user)).map fun q =>
      (q.step (.resume p.lookups.length),
        (q.step (.resume p.lookups.length)).outcome? p.lookups.length)

theorem lookupInTurn_oblivious (hd : ∀ user, Oblivious D (directory user)) (users : List String)
    (p : Provider) :
    Oblivious D fun d =>
      let r := p.lookupInTurn directory users d
      (r.2.1, r.1, r.2.2) := by
  induction users generalizing p with
  | nil => exact .const (p, [])
  | cons user users ih =>
    exact (lookup_oblivious hd user p).bind fun r => (ih r.1).map fun q => (q.1, r.2 :: q.2)

theorem lookupTogether_oblivious (hd : ∀ user, Oblivious D (directory user))
    (users : List String) (p : Provider) :
    Oblivious D fun d =>
      let r := p.lookupTogether directory users d
      (r.2.1, r.1, r.2.2) := by
  unfold lookupTogether
  split
  · let lookups := (List.range users.length).map (p.lookups.length + ·)
    exact (completeInTurn_oblivious hd _ (users.foldl launch p)).map fun q =>
      (q.run (lookups.map .resume), lookups.map (q.run (lookups.map .resume)).outcome?)
  · exact lookupInTurn_oblivious hd users p

end Provider

/-! ### Health -/

namespace Health

variable {σ : Type} {D : σ → σ → Prop}

theorem Check.execute_oblivious {c : Check σ} (hc : Oblivious D c.command) :
    Oblivious D c.execute :=
  hc.map fun r => (r.1.map fun e => Log.Event.within e c.span, (⟨c.name, r.2⟩ : Statement))

theorem executeAll_oblivious {cs : List (Check σ)} (hcs : ∀ c ∈ cs, Oblivious D c.command) :
    Oblivious D (executeAll cs) := by
  induction cs with
  | nil => exact .const _
  | cons c cs ih =>
    obtain ⟨hc, hrest⟩ := List.forall_mem_cons.mp hcs
    exact (Check.execute_oblivious hc).bind fun r => (ih hrest).map fun q =>
      (r.1 ++ q.1, r.2 :: q.2)

end Health

/-! ### The service -/

namespace Service

variable {ν : Type} {net : Network ν} {R : ν → ν → Prop} {x : Secrets}

/-- Services in front of their networks between which nothing but secrets tells. -/
structure Alike (R : ν → ν → Prop) (x : Secrets) (s s' : Service ν) : Prop where
  directoryName : s'.directoryName = s.directoryName
  health : s'.health = s.health
  provider : s'.provider = s.provider
  client : s'.client = s.client.withSecrets x
  network : R s.network s'.network

namespace Alike

variable {s s' : Service ν} {d d' : Client × ν}

theorem behind (h : Alike R x s s') :
    Client.Alike R x (s.client, s.network) (s'.client, s'.network) :=
  ⟨h.client, h.network⟩

theorem within (h : Alike R x s s') (spans : List Log.Span) :
    Alike R x (s.within spans) (s'.within spans) where
  directoryName := h.directoryName
  health := h.health
  provider := congrArg (fun p : Provider => { p with activities := spans }) h.provider
  client := h.client
  network := h.network

theorem afterLookups (h : Alike R x s s') (p : Provider) (hd : Client.Alike R x d d') :
    (s'.afterLookups p d').2 = (s.afterLookups p d).2 ∧
      Alike R x (s.afterLookups p d).1 (s'.afterLookups p d').1 :=
  ⟨congrArg (fun q : Provider => p.log.drop q.log.length) h.provider,
    h.directoryName, h.health, rfl, hd.1, hd.2⟩

theorem afterChecks (h : Alike R x s s') (hd : Client.Alike R x d d') :
    Alike R x (s.afterChecks d) (s'.afterChecks d') where
  directoryName := h.directoryName
  health := h.health
  provider := by
    have htime : d'.1.pool.now - s'.client.pool.now = d.1.pool.now - s.client.pool.now := by
      rw [hd.1, h.client]
      rfl
    simp only [Service.afterChecks, h.provider, htime]
  client := hd.1
  network := hd.2

theorem advance (h : Alike R x s s') (millis : Nat) :
    Alike R x (s.advance millis) (s'.advance millis) where
  directoryName := h.directoryName
  health := h.health
  provider := congrArg (·.step (.advance millis)) h.provider
  client := by
    simp only [Service.advance, h.client]
    exact (Client.step_withSecrets ..).symm
  network := h.network

end Alike

/-! ### What a service does -/

theorem directory_oblivious (blind : net.Blind R) (user : String) :
    Oblivious (Client.Alike R x) (directory net user) := by
  rintro ⟨c, n⟩ ⟨-, n'⟩ ⟨rfl, hn⟩
  have halike := c.lookup_alike x blind hn user
  rcases hr : c.lookup net user n with ⟨d, m, o⟩
  rcases hr' : (c.withSecrets x).lookup net user n' with ⟨d', m', o'⟩
  rw [hr, hr'] at halike
  obtain ⟨⟨rfl, hstates⟩, rfl⟩ : (d' = d.withSecrets x ∧ R m m') ∧ o' = o := halike
  simp only [directory, hr, hr', Client.log_withSecrets, Client.now_withSecrets]
  exact ⟨trivial, rfl, hstates⟩

theorem connectionCheck_oblivious (blind : net.Blind R) (name : String) (spans : List Log.Span) :
    Oblivious (Client.Alike R x) (connectionCheck net name spans).command := by
  rintro ⟨c, n⟩ ⟨-, n'⟩ ⟨rfl, hn⟩
  have halike := c.check_alike x blind hn spans
  rcases hr : c.check net spans n with ⟨d, m, record⟩
  rcases hr' : (c.withSecrets x).check net spans n' with ⟨d', m', record'⟩
  rw [hr, hr'] at halike
  obtain ⟨⟨rfl, hstates⟩, rfl⟩ : (d' = d.withSecrets x ∧ R m m') ∧ record' = record := halike
  simp only [connectionCheck, hr, hr', Client.log_withSecrets]
  exact ⟨trivial, rfl, hstates⟩

/-- The lookups of a provider, as those of the service. -/
theorem lookups_alike {β : Type} {f : Provider → Client × ν → Provider × (Client × ν) × β}
    (hf : ∀ p, Oblivious (Client.Alike R x) fun d =>
      let r := f p d
      (r.2.1, r.1, r.2.2)) :
    Oblivious (Alike R x) fun s =>
      let r := f s.provider (s.client, s.network)
      let after := s.afterLookups r.1 r.2.1
      (after.1, after.2, r.2.2) := by
  intro s s' h
  obtain ⟨hanswer, hbehind⟩ := hf s.provider h.behind
  obtain ⟨hprovider, hrest⟩ := Prod.mk.inj hanswer
  obtain ⟨hevents, hafter⟩ := h.afterLookups (f s.provider (s.client, s.network)).1 hbehind
  simp only [h.provider, hprovider, hrest]
  exact ⟨congrArg (·, _) hevents, hafter⟩

theorem lookup_alike (blind : net.Blind R) (user : String) :
    Oblivious (Alike R x) (lookup net user) :=
  lookups_alike fun p => Provider.lookup_oblivious (directory_oblivious blind) user p

theorem lookupTogether_alike (blind : net.Blind R) (users : List String) :
    Oblivious (Alike R x) (lookupTogether net users) :=
  lookups_alike fun p => Provider.lookupTogether_oblivious (directory_oblivious blind) users p

/-- Checks, as those of the service. -/
theorem checks_alike {β : Type} {f : Client × ν → (Client × ν) × β}
    (hf : Oblivious (Client.Alike R x) f) :
    Oblivious (Alike R x) fun s =>
      let r := f (s.client, s.network)
      (s.afterChecks r.1, r.2) := by
  intro s s' h
  obtain ⟨hanswer, hbehind⟩ := hf h.behind
  exact ⟨hanswer, h.afterChecks hbehind⟩

theorem runChecks_alike {cs : List (Health.Check (Client × ν))}
    (hcs : ∀ c ∈ cs, Oblivious (Client.Alike R x) c.command) :
    Oblivious (Alike R x) (runChecks cs) :=
  checks_alike (Health.executeAll_oblivious hcs)

theorem runHealth_alike (blind : net.Blind R) : Oblivious (Alike R x) (runHealth net) := by
  intro s s' h
  have hchecks : s'.checks net = s.checks net := by
    simp only [checks, directoryCheck, h.directoryName]
  have hall : ∀ c ∈ s.checks net, Oblivious (Client.Alike R x) c.command := by
    simp only [checks, List.forall_mem_cons]
    exact ⟨connectionCheck_oblivious blind _ _, connectionCheck_oblivious blind _ _,
      fun _ h => nomatch h⟩
  simp only [runHealth, hchecks]
  exact runChecks_alike hall h

/-! ### Reporters -/

/-- Reporters whose checks cannot tell two clients apart that differ in secrets. -/
def Unseeing (R : ν → ν → Prop) (x : Secrets) (rs : List (Reporting ν)) : Prop :=
  ∀ r ∈ rs, Oblivious (Client.Alike R x) r.check.command

theorem unseeing_reporters (blind : net.Blind R) (s : Service ν) :
    Unseeing R x (s.reporters net) := by
  simp only [Unseeing, reporters, List.forall_mem_cons]
  exact ⟨connectionCheck_oblivious blind _ _, connectionCheck_oblivious blind _ _,
    fun _ h => nomatch h⟩

/-- A round changes when its reporters are due, and not what they check. -/
theorem Unseeing.reportRound {rs : List (Reporting ν)} (h : Unseeing R x rs) (now : Nat)
    (s : Service ν) : Unseeing R x (s.reportRound now rs).1 := by
  induction rs generalizing s with
  | nil => exact h
  | cons r rs ih =>
    obtain ⟨hr, hrs⟩ := List.forall_mem_cons.mp h
    unfold Service.reportRound
    split
    · exact List.forall_mem_cons.mpr ⟨hr, ih hrs _⟩
    · exact List.forall_mem_cons.mpr ⟨hr, ih hrs _⟩

theorem reportRound_alike {rs : List (Reporting ν)} (h : Unseeing R x rs) (now : Nat) :
    Oblivious (Alike R x) fun s =>
      let r := s.reportRound now rs
      (r.2.1, r.1, r.2.2) := by
  induction rs with
  | nil => exact .const ([], [])
  | cons r rs ih =>
    obtain ⟨hr, hrs⟩ := List.forall_mem_cons.mp h
    by_cases hdue : r.reporter.isDue now = true
    · simp only [reportRound, if_pos hdue]
      exact (checks_alike (Health.Check.execute_oblivious hr)).bind fun told =>
        (ih hrs).map fun q =>
          ({ r with reporter := r.reporter.tick now } :: q.1,
            (⟨told.1, told.2⟩ : Publication) :: q.2)
    · simp only [reportRound, if_neg hdue]
      exact (ih hrs).map fun q => (r :: q.1, q.2)

theorem reportRounds_alike {rs : List (Reporting ν)} (h : Unseeing R x rs) (now : Nat)
    (delays : List Nat) : Oblivious (Alike R x) fun s => s.reportRounds now rs delays := by
  intro s s' hs
  induction delays generalizing s s' rs now with
  | nil =>
    obtain ⟨hanswer, hafter⟩ := reportRound_alike h now hs
    obtain ⟨-, hpublished⟩ := Prod.mk.inj hanswer
    exact ⟨congrArg ([·]) hpublished, hafter⟩
  | cons delay delays ih =>
    obtain ⟨hanswer, hafter⟩ := reportRound_alike h now hs
    obtain ⟨hreporters, hpublished⟩ := Prod.mk.inj hanswer
    obtain ⟨hrounds, hlast⟩ := ih (h.reportRound now s) (now + delay) (hafter.advance delay)
    simp only [reportRounds, hreporters, hpublished]
    exact ⟨congrArg (_ :: ·) hrounds, hlast⟩

theorem Alike.reporters {s s' : Service ν} (h : Alike R x s s') :
    s'.reporters net = s.reporters net := by
  simp only [Service.reporters, directoryCheck, h.directoryName, h.health]

theorem report_alike (blind : net.Blind R) (delays : List Nat) :
    Oblivious (Alike R x) (report net delays) := by
  intro s s' h
  simp only [report, h.reporters]
  exact reportRounds_alike (unseeing_reporters blind s) 0 delays h

end Service
end RoleLookup
