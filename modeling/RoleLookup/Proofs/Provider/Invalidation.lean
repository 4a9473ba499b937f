import RoleLookup.Proofs.Provider.Origins

/-!
# What an invalidation forgets

After an invalidation of a user, the roles of the user come from calls made since it began, or from
calls that were on their way when it began. The latter can come back into both regions.

* `Invalidation`, a run in which an invalidation of a user reaches one region after the other;
* `Pending`, a call whose roles can still be written or joined;
* `Leaves`, the calls that the roles of the user come from afterwards;
* `leaves_fresh_or_pending`, and `not_leaves_fresh`, three runs in which such roles come back.
-/

namespace RoleLookup
namespace Provider

/-- A call of a user is in flight, or a lookup of the user waits for it or is between the two writes
of its roles. -/
def Pending (p : Provider) (user : String) (c : Nat) : Prop :=
  p.inFlight? user = some c ∨ (∃ l : Nat, p.lookups[l]? = some ⟨user, .waiting c⟩) ∨
    ∃ (l : Nat) (e : Entry), p.lookups[l]? = some ⟨user, .storing c e⟩

/-- A run with an invalidation of a user, or of all users. Nothing else is ruled out, but that roles
of the user are put into the cache on their own after it has begun. -/
structure Invalidation where
  coalescing : Bool
  cache : Cache
  user : String
  before : List Step
  /-- The step by which the invalidation reaches the primary region. -/
  first : Step
  between : List Step
  /-- The step by which the invalidation reaches the fallback region. -/
  second : Step
  after : List Step
  first_forgets : first.Forgets .primary user
  second_forgets : second.Forgets .fallback user
  unput : ∀ s ∈ between ++ after, s.puts user = false

namespace Invalidation

variable (i : Invalidation)

/-- The provider with which the run starts. -/
def start : Provider := ofCache i.coalescing i.cache

/-- The steps from the beginning of the invalidation to its end. -/
def steps : List Step := i.first :: i.between ++ [i.second]

/-- The provider when the invalidation begins. -/
def begun : Provider := i.start.run i.before

/-- The provider when the invalidation is over. -/
def ended : Provider := i.begun.run i.steps

/-- The provider at the end of the run. -/
def last : Provider := i.ended.run i.after

/-- The calls that roles come from in the whole run. -/
def origins : Origins := ({} : Origins).run i.start (i.before ++ i.steps ++ i.after)

/-- At the end of the run, the roles of the user in the regions, and those returned by lookups that
started after the invalidation, come from calls of some kind. -/
structure Leaves (fresh : Nat → Prop) : Prop where
  held : ∀ t, i.last.HeldFrom i.origins fresh t i.user
  returned : i.last.ReturnedFrom i.origins fresh i.ended.lookups.length i.user

theorem Leaves.mono {i : Invalidation} {fresh fresh' : Nat → Prop} (h : i.Leaves fresh)
    (hf : ∀ c, fresh c → fresh' c) : i.Leaves fresh' where
  held t e he := by
    obtain ⟨c, hc, hfresh, hcall⟩ := h.held t e he
    exact ⟨c, hc, hf c hfresh, hcall⟩
  returned l roles hm hl := by
    obtain ⟨c, hc, hfresh, hcall⟩ := h.returned l roles hm hl
    exact ⟨c, hc, hf c hfresh, hcall⟩

theorem guarded_begun : i.begun.Guarded
    (fun c => i.begun.calls.length ≤ c ∨ i.begun.Pending i.user c) i.user where
  made _ hc := .inl hc
  inFlight _ hin := .inr (.inl hin)
  waiting l _ hl := .inr (.inr (.inl ⟨l, hl⟩))
  storing l _ e hl := .inr (.inr (.inr ⟨l, e, hl⟩))

end Invalidation

variable {p : Provider} {o : Origins} {s : Step} {ss : List Step} {fresh : Nat → Prop} {t : Tier}
  {user : String}

/-- A region that a step has just reached holds nothing. -/
theorem heldFrom_of_forgets (hs : s.Forgets t user) (p : Provider) (o : Origins) :
    (p.step s).HeldFrom o fresh t user := by
  intro e he
  rw [find?_of_forgets hs] at he
  cases he

/-- What a run keeps of the regions and of the lookups. -/
theorem heldFrom_run (h : p.Linked) (g : p.Guarded fresh user) (hh : p.HeldFrom o fresh t user)
    (unput : ∀ s ∈ ss, s.puts user = false) :
    (p.run ss).Linked ∧ (p.run ss).Guarded fresh user ∧
      (p.run ss).HeldFrom (o.run p ss) fresh t user :=
  Origins.run_induction
    (P := fun p o => p.Linked ∧ p.Guarded fresh user ∧ p.HeldFrom o fresh t user)
    (fun _ _ s hs ⟨h, g, hh⟩ => ⟨h.step s, g.step s, hh.step h g (unput s hs)⟩) ⟨h, g, hh⟩

theorem returnedFrom_run {m : Nat} (h : p.Linked) (g : p.Guarded fresh user)
    (hh : ∀ t, p.HeldFrom o fresh t user) (hr : p.ReturnedFrom o fresh m user)
    (unput : ∀ s ∈ ss, s.puts user = false) :
    (∀ t, (p.run ss).HeldFrom (o.run p ss) fresh t user) ∧
      (p.run ss).ReturnedFrom (o.run p ss) fresh m user := by
  have all : (p.run ss).Linked ∧ (p.run ss).Guarded fresh user ∧
      (∀ t, (p.run ss).HeldFrom (o.run p ss) fresh t user) ∧
      (p.run ss).ReturnedFrom (o.run p ss) fresh m user :=
    Origins.run_induction
      (P := fun p o => p.Linked ∧ p.Guarded fresh user ∧ (∀ t, p.HeldFrom o fresh t user) ∧
        p.ReturnedFrom o fresh m user)
      (fun _ _ s hs ⟨h, g, hh, hr⟩ =>
        ⟨h.step s, g.step s, fun t => (hh t).step h g (unput s hs), hr.step hh h g s⟩)
      ⟨h, g, hh, hr⟩
  exact all.2.2

theorem puts_of_forgets (hs : s.Forgets t user) (u : String) : s.puts u = false := by
  cases s with
  | erase | clear | invalidate | invalidateAll => rfl
  | _ => exact hs.elim

/-- An invalidation leaves neither region with anything but what pending calls have brought back. -/
theorem Invalidation.heldFrom_ended (i : Invalidation) (o : Origins)
    (g : i.begun.Guarded fresh i.user) : i.ended.Linked ∧ i.ended.Guarded fresh i.user ∧
      ∀ t, i.ended.HeldFrom (o.run i.begun i.steps) fresh t i.user := by
  have unput (s) (hs : s ∈ i.between) : s.puts i.user = false :=
    i.unput s (List.mem_append_left _ hs)
  have hbegun : i.begun.Linked := (linked_ofCache _ _).run _
  -- The primary region is clean from the first half on.
  have hfirst : (i.begun.step i.first).HeldFrom (o.step i.begun i.first) fresh .primary i.user :=
    heldFrom_of_forgets i.first_forgets _ _
  obtain ⟨h, g, hh⟩ := heldFrom_run (hbegun.step i.first) (g.step i.first) hfirst unput
  -- The fallback region is clean from the second half on.
  have hsecond : (((i.begun.step i.first).run i.between).step i.second).HeldFrom
      (((o.step i.begun i.first).run (i.begun.step i.first) i.between).step
        ((i.begun.step i.first).run i.between) i.second) fresh .fallback i.user :=
    heldFrom_of_forgets i.second_forgets _ _
  have hended : i.ended = ((i.begun.step i.first).run i.between).step i.second := by
    simp only [ended, steps, run_cons, run_append, List.cons_append, run_nil]
  have horigins : o.run i.begun i.steps =
      ((o.step i.begun i.first).run (i.begun.step i.first) i.between).step
        ((i.begun.step i.first).run i.between) i.second := by
    simp only [steps, Origins.run, Origins.run_append, List.cons_append]
  rw [hended, horigins]
  refine ⟨h.step _, g.step _, ?_⟩
  intro t
  cases t with
  | primary => exact hh.step h g (puts_of_forgets i.second_forgets _)
  | fallback => exact hsecond

/-- **What an invalidation leaves.** Once an invalidation of a user is over, the roles of the user
in either region, and those returned by lookups that start afterwards, come from calls made since it
began or pending when it began. -/
theorem leaves_fresh_or_pending (i : Invalidation) :
    i.Leaves fun c => i.begun.calls.length ≤ c ∨ i.begun.Pending i.user c := by
  obtain ⟨h, g, hh⟩ :=
    i.heldFrom_ended (({} : Origins).run i.start i.before) i.guarded_begun
  have hnone : i.ended.ReturnedFrom ((({} : Origins).run i.start i.before).run i.begun i.steps)
      (fun c => i.begun.calls.length ≤ c ∨ i.begun.Pending i.user c)
      i.ended.lookups.length i.user := by
    intro l roles hle hl
    have hlt := (List.getElem?_eq_some_iff.1 hl).1
    omega
  obtain ⟨hheld, hreturned⟩ := returnedFrom_run h g hh hnone
    fun s hs => i.unput s (List.mem_append_right _ hs)
  have horigins : i.origins =
      ((({} : Origins).run i.start i.before).run i.begun i.steps).run i.ended i.after := by
    simp only [Invalidation.origins, Origins.run_append, run_append]
    rfl
  rw [← horigins] at hheld hreturned
  exact ⟨hheld, hreturned⟩

/-! ### Roles that come back -/

namespace Invalidation

/-- An invalidation of alice that reaches the second region right after the first. -/
def ofAlice (coalescing : Bool) (before after : List Step)
    (unput : ∀ s ∈ after, s.puts "alice" = false) : Invalidation where
  coalescing
  cache := ⟨⟨1, some 100, []⟩, ⟨1, none, []⟩⟩
  user := "alice"
  before
  first := .erase .primary "alice"
  between := []
  second := .erase .fallback "alice"
  after
  first_forgets := ⟨rfl, rfl⟩
  second_forgets := ⟨rfl, rfl⟩
  unput := unput

variable {i : Invalidation}

theorem not_leaves_of_held (t : Tier) (c : Nat) (e : Entry)
    (he : (i.last.cache.region t).find? i.user = some e)
    (ho : i.origins.held t i.user = some c) (hc : ¬ fresh c) : ¬ i.Leaves fresh := by
  intro h
  obtain ⟨d, hd, hfresh, -⟩ := h.held t e he
  rw [ho] at hd
  cases hd
  exact hc hfresh

theorem not_leaves_of_returned (l c : Nat) (roles : RoleSet)
    (hm : i.ended.lookups.length ≤ l)
    (hl : i.last.lookups[l]? = some ⟨i.user, .finished (.roles roles)⟩)
    (ho : i.origins.returned l = some c) (hc : ¬ fresh c) : ¬ i.Leaves fresh := by
  intro h
  obtain ⟨d, hd, hfresh, -⟩ := h.returned l roles hm hl
  rw [ho] at hd
  cases hd
  exact hc hfresh

end Invalidation

/-- The directory has answered before the invalidation when alice is looked up again. -/
theorem leaves_fresh_or_pending_alice :
    let old : Outcome := .roles (RoleSet.ofList ["admins"])
    let new : Outcome := .roles (RoleSet.ofList ["devs"])
    let i := Invalidation.ofAlice true
      [.start "alice", .check 0, .ask 0, .finish 0 old, .resume 0]
      [.start "alice", .check 1, .ask 1, .finish 1 new, .resume 1] (by decide)
    i.last.outcome? 1 = some new ∧ i.Leaves fun c => 1 ≤ c := by
  intro old new i
  have hlookups : i.begun.lookups = [⟨"alice", .finished old⟩] := by decide
  have hnone : i.begun.inFlight? "alice" = none := by decide
  have hmade : i.begun.calls.length = 1 := by decide
  refine ⟨by decide, (leaves_fresh_or_pending i).mono ?_⟩
  rintro c (hc | hin | ⟨l, hl⟩ | ⟨l, e, hl⟩)
  · rwa [hmade] at hc
  · cases hnone.symm.trans hin
  · rw [hlookups, List.getElem?_singleton] at hl
    split at hl <;> cases hl
  · rw [hlookups, List.getElem?_singleton] at hl
    split at hl <;> cases hl

/-- Roles come back from calls made before the invalidation: by a lookup that writes them after it,
by a lookup that joins the call after it, and by a lookup between whose writes it takes place. -/
theorem not_leaves_fresh :
    let devs : Outcome := .roles (RoleSet.ofList ["devs"])
    let lateWrite := Invalidation.ofAlice false [.start "alice", .check 0, .ask 0]
      [.finish 0 devs, .resume 0] (by decide)
    let lateJoin := Invalidation.ofAlice true [.start "alice", .check 0, .ask 0, .abandon 0]
      [.start "alice", .check 1, .ask 1, .finish 0 devs, .resume 1] (by decide)
    let halfWritten := Invalidation.ofAlice false
      [.start "alice", .check 0, .ask 0, .finish 0 devs, .receive 0] [.store 0] (by decide)
    (¬ lateWrite.Leaves (lateWrite.begun.calls.length ≤ ·)) ∧
      (¬ lateJoin.Leaves (lateJoin.begun.calls.length ≤ ·)) ∧
      ¬ halfWritten.Leaves (halfWritten.begun.calls.length ≤ ·) := by
  intro devs lateWrite lateJoin halfWritten
  refine ⟨?_, ?_, ?_⟩
  · exact Invalidation.not_leaves_of_held .primary 0 ⟨"alice", RoleSet.ofList ["devs"], 0⟩
      (by decide) (by decide) (by decide)
  · exact Invalidation.not_leaves_of_returned 1 0 (RoleSet.ofList ["devs"])
      (by decide) (by decide) (by decide) (by decide)
  · exact Invalidation.not_leaves_of_held .fallback 0 ⟨"alice", RoleSet.ofList ["devs"], 0⟩
      (by decide) (by decide) (by decide)

end Provider
end RoleLookup
