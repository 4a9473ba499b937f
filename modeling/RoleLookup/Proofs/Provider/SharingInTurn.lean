import RoleLookup.Proofs.Provider.Sequential

/-!
# Sharing calls, with nobody to share them with

When every operation ends before the next one begins, a provider with coalescing makes the same
calls and gives the same results as one without it.

* `Turn`, `takeTurns`, operations on a provider and writes to its cache, one after another;
* `Twins`, what a provider with coalescing and one without it have in common between two turns;
* `Twins.lookup`, `Twins.takeTurns`, what a lookup and a run of turns keep;
* `sharing_unseen_in_turn`, for runs in which the directory does not crash.
-/

namespace RoleLookup

/-- Something done while nobody else acts: an operation, or a write to the cache. -/
inductive Turn
  | op (op : Operation)
  | put (user : String) (roles : RoleSet)
  deriving Repr

/-- Whether a turn is a lookup. -/
def Turn.isLookup : Turn → Bool
  | .op (.lookup _) => true
  | _ => false

namespace Provider

variable {δ : Type}

/-- One turn. Lookups have an outcome. -/
def takeTurn (directory : Directory δ) (p : Provider) (d : δ) :
    Turn → Provider × δ × Option Outcome
  | .op op => p.perform directory d op
  | .put user roles => (p.step (.put user roles), d, none)

/-- Turns in a row, with the outcome of each. -/
def takeTurns (directory : Directory δ) (p : Provider) (d : δ) :
    List Turn → Provider × δ × List (Option Outcome)
  | [] => (p, d, [])
  | turn :: turns =>
    let (p, d, outcome) := p.takeTurn directory d turn
    let (p, d, outcomes) := takeTurns directory p d turns
    (p, d, outcome :: outcomes)

theorem takeTurns_cons (directory : Directory δ) (p : Provider) (d : δ) (turn : Turn)
    (turns : List Turn) : p.takeTurns directory d (turn :: turns) =
      let first := p.takeTurn directory d turn
      let rest := first.1.takeTurns directory first.2.1 turns
      (rest.1, rest.2.1, first.2.2 :: rest.2.2) := rfl

/-- Of two providers only the first shares calls, none is in flight, and what they have come to is
the same. -/
structure Twins (p q : Provider) : Prop where
  shared : p.coalescing = true
  alone : q.coalescing = false
  idle : p.inFlight = []
  cache : p.cache = q.cache
  now : p.now = q.now
  calls : p.calls = q.calls
  lookups : p.lookups = q.lookups

variable {directory : Directory δ} {p q : Provider} {d : δ} {u : String}

/-- Whether calls are shared makes no difference to the answer of the directory. -/
theorem View.answer_shared (w : View) (shared : Bool) (u : String) (o : Outcome) :
    View.answer { w with coalescing := shared } u o =
      ({ (w.answer u o).1 with coalescing := shared }, (w.answer u o).2) := by
  cases o <;> rfl

/-- A call that crashes crashes its lookup. -/
theorem View.isCrash_answer {w : View} {o : Outcome} (ho : (w.answer u o).2.isCrash = false) :
    o.isCrash = false := by
  cases o with
  | roles | failed => rfl
  | crashed => exact ho

/-- A lookup ends alike for both. -/
theorem Twins.lookup (h : Twins p q)
    (calm : ∀ o ∈ (q.lookup directory u d).2.2, o.isCrash = false) :
    (p.lookup directory u d).2 = (q.lookup directory u d).2 ∧
      (p.lookup directory u d).2.2.isSome ∧
      Twins (p.lookup directory u d).1 (q.lookup directory u d).1 := by
  have hunshared : p.joined? u = none := by simp [joined?, inFlight?, h.idle]
  have hview : p.view = { q.view with coalescing := true } := by
    simp [view, h.shared, h.cache, h.now, h.calls]
  have hsame : p.cache.get? p.now u = q.cache.get? q.now u := by rw [h.cache, h.now]
  cases hc : q.cache.get? q.now u with
  | some roles =>
    obtain ⟨log₁, h₁⟩ := lookup_eq_of_hit directory (d := d) (hsame.trans hc)
    obtain ⟨log₂, h₂⟩ := lookup_eq_of_hit directory (d := d) hc
    rw [h₁, h₂]
    exact ⟨rfl, rfl, { h with lookups := congrArg (· ++ _) h.lookups }⟩
  | none =>
    obtain ⟨log₂, h₂⟩ := lookup_eq_of_miss directory (d := d) (by simp [joined?, h.alone]) hc
      (by simp [h.alone])
    rw [h₂] at calm ⊢
    -- If the directory had crashed, the lookup that does not share its call would have shown it.
    have hcalm := View.isCrash_answer (calm _ rfl)
    obtain ⟨log₁, h₁⟩ := lookup_eq_of_miss directory (d := d) hunshared (hsame.trans hc)
      fun _ => hcalm
    have hanswer := View.answer_shared { q.view with
      now := q.view.now + (directory u d).2.elapsed, asked := q.view.asked ++ [u] } true u
      (directory u d).2.outcome
    rw [h₁, hview, hanswer]
    refine ⟨rfl, rfl, h.shared, h.alone, ?_, rfl, ?_, ?_, ?_⟩
    · simp [h.idle]
    · exact congrArg (· + _) h.now
    · exact congrArg (· ++ _) h.calls
    · exact congrArg (· ++ _) h.lookups

theorem Twins.takeTurn (h : Twins p q) (turn : Turn)
    (calm : ∀ o ∈ (q.takeTurn directory d turn).2.2, o.isCrash = false) :
    (p.takeTurn directory d turn).2 = (q.takeTurn directory d turn).2 ∧
      (p.takeTurn directory d turn).2.2.isSome = turn.isLookup ∧
      Twins (p.takeTurn directory d turn).1 (q.takeTurn directory d turn).1 := by
  cases turn with
  | put user roles =>
    refine ⟨rfl, rfl, { h with cache := ?_ }⟩
    change p.cache.put p.now user roles = q.cache.put q.now user roles
    rw [h.cache, h.now]
  | op op =>
    cases op with
    | lookup user => exact h.lookup calm
    | invalidate user => exact ⟨rfl, rfl, { h with cache := congrArg (·.invalidate user) h.cache }⟩
    | invalidateAll => exact ⟨rfl, rfl, { h with cache := congrArg (·.invalidateAll) h.cache }⟩
    | advance millis => exact ⟨rfl, rfl, { h with now := congrArg (· + millis) h.now }⟩

theorem Twins.takeTurns (h : Twins p q) (turns : List Turn)
    (calm : ∀ o ∈ (q.takeTurns directory d turns).2.2, ∀ x ∈ o, x.isCrash = false) :
    (p.takeTurns directory d turns).2 = (q.takeTurns directory d turns).2 ∧
      (p.takeTurns directory d turns).2.2.map Option.isSome = turns.map Turn.isLookup ∧
      Twins (p.takeTurns directory d turns).1 (q.takeTurns directory d turns).1 := by
  induction turns generalizing p q d with
  | nil => exact ⟨rfl, rfl, h⟩
  | cons turn turns ih =>
    simp only [takeTurns_cons, List.forall_mem_cons] at calm ⊢
    obtain ⟨hfirst, hrest⟩ := calm
    obtain ⟨heq, hsome, htwins⟩ := h.takeTurn turn hfirst
    rw [heq] at hsome ⊢
    obtain ⟨heqs, hsomes, hlast⟩ := ih htwins hrest
    rw [heqs] at hsomes ⊢
    exact ⟨rfl, by rw [List.map_cons, List.map_cons, hsome, hsomes], hlast⟩

/-- **Nobody notices that calls are shared when nobody shares one.** While every operation ends
before the next one begins and the directory does not crash, a provider with coalescing and one
without it, with the same cache and the same directory, give the same outcomes to all lookups, make
the same calls in the same order, and are left with the same regions. No call stays in flight. -/
theorem sharing_unseen_in_turn (directory : Directory δ) (cache : Cache) (d : δ)
    (turns : List Turn)
    (calm : ∀ o ∈ ((ofCache false cache).takeTurns directory d turns).2.2,
      ∀ x ∈ o, x.isCrash = false) :
    let shared := (ofCache true cache).takeTurns directory d turns
    let plain := (ofCache false cache).takeTurns directory d turns
    shared.2 = plain.2 ∧ shared.2.2.map Option.isSome = turns.map Turn.isLookup ∧
      shared.1.calls = plain.1.calls ∧ shared.1.cache = plain.1.cache ∧
      shared.1.inFlight = [] := by
  intro shared plain
  have start : Twins (ofCache true cache) (ofCache false cache) :=
    ⟨rfl, rfl, rfl, rfl, rfl, rfl, rfl⟩
  obtain ⟨heq, hsome, htwins⟩ := start.takeTurns turns calm
  exact ⟨heq, hsome, htwins.calls, htwins.cache, htwins.idle⟩

/-- The directory is asked twice, and is down the second time. -/
theorem sharing_unseen_in_turn_onceUp :
    let cache : Cache := ⟨⟨2, some 100, []⟩, ⟨2, none, []⟩⟩
    let devs : RoleSet := RoleSet.ofList ["devs"]
    let ops : RoleSet := RoleSet.ofList ["ops"]
    let turns : List Turn := [.op (.lookup "alice"), .put "bob" ops, .op (.advance 150),
      .op (.lookup "bob"), .op (.invalidate "alice"), .op (.lookup "alice")]
    let shared := (ofCache true cache).takeTurns onceUp 0 turns
    let plain := (ofCache false cache).takeTurns onceUp 0 turns
    (∀ o ∈ plain.2.2, ∀ x ∈ o, x.isCrash = false) ∧
      shared.2.2 = [some (.roles devs), none, none, some (.roles ops), none,
        some (.failed .unavailable)] ∧
      shared.1.calls.map (·.user) = ["alice", "bob", "alice"] ∧
      shared.2 = plain.2 ∧ shared.2.2.map Option.isSome = turns.map Turn.isLookup ∧
      shared.1.calls = plain.1.calls ∧ shared.1.cache = plain.1.cache ∧
      shared.1.inFlight = [] := by
  intro cache devs ops turns
  have calm : ∀ o ∈ ((ofCache false cache).takeTurns onceUp 0 turns).2.2,
      ∀ x ∈ o, x.isCrash = false := by decide
  have hsame := sharing_unseen_in_turn onceUp cache 0 turns calm
  exact ⟨calm, by decide, by decide, hsame⟩

end Provider
end RoleLookup
