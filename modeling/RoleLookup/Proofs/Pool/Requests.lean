import RoleLookup.Proofs.Pool.Step

/-!
# The searches that a pool sends

* `searches`, the searches among the requests of a pool, with their connections;
* `searches_step`, no other step than a search sends one;
* `searches_search`, a search is sent over the connection that its borrower holds.
-/

namespace RoleLookup.Directory
namespace Pool

/-- The search that a request is. -/
def Request.search? : Request → Option (Nat × Query)
  | .search c query => some (c, query)
  | _ => none

/-- All searches so far. -/
def searches (p : Pool) : List (Nat × Query) := p.sent.filterMap Request.search?

variable {p q r : Pool} {s : Step} {a c : Nat}

theorem searches_setFate (p : Pool) (c : Nat) (fate : Fate) :
    (p.setFate c fate).searches = p.searches := by
  obtain ⟨connections, -, h⟩ := setFate_eq p c fate
  rw [h]
  rfl

theorem searches_unbind (p : Pool) (c : Nat) : (p.unbind c).searches = p.searches := by
  unfold unbind
  split
  · rw [searches_setFate]
    simp [searches, send, Request.search?]
  · rfl

theorem searches_lose (p : Pool) (cs : List Nat) : (p.lose cs).searches = p.searches := by
  obtain ⟨connections, -, h⟩ := lose_eq p cs
  rw [h]
  rfl

theorem Readies.searches {purpose : Purpose} (h : Readies r a c purpose q) :
    q.searches = r.searches := by
  cases h <;> rfl

theorem GivesUp.searches {purpose : Purpose} {e : Error} (h : GivesUp r a e purpose q) :
    q.searches = r.searches := by
  cases h <;> rfl

theorem Fires.searches (f : Fires p s q) (hs : ∀ a query, s ≠ .search a query) :
    q.searches = p.searches := by
  cases f with
  | refused events ha hq => exact hq.searches
  | anonymous events ha nobody hq => exact hq.searches
  | bind => simp [Pool.searches, send, setPhase, note, extend, Request.search?]
  | accepted events ha ok hq => exact hq.searches
  | rejected events => exact searches_unbind (p.note _ events) _
  | giveUp ha hq => exact hq.searches
  | dropExpired events => exact searches_unbind ({ p with idle := _ }.note _ events) _
  | search => exact absurd rfl (hs _ _)
  | retire => exact searches_unbind (p.setPhase _ .returned) _
  | loseInitial | loseLoan => exact searches_lose p _
  | close => exact searches_setFate ..
  | _ => rfl

theorem searches_step (p : Pool) (hs : ∀ a query, s ≠ .search a query) :
    (p.step s).searches = p.searches :=
  (step_fires p s).searches hs

theorem searches_search (h : p.held? a = some c) (query : Query) :
    (p.step (.search a query)).searches = p.searches ++ [(c, query)] := by
  rw [held?_eq_some] at h
  simp [step, search, h, searches, send, Request.search?]

end Pool
end RoleLookup.Directory
