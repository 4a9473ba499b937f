import RoleLookup.Proofs.Client.Links
import RoleLookup.Proofs.Pool.Requests

/-!
# The searches of lookups

What a lookup sends, what it hears and how it ends, in every run of a client.

* `searchesFor`, what is sent for a lookup in a run, and `sentIn_cases`, when something is sent;
* `HadConnection`, an acquire has held a connection, and `Heard`, a search has been answered;
* `Ended`, how a lookup ended, and `Tale`, what has happened to it so far, with `Tale.others` and
  `Tale.own`, one lemma for the steps of others and one for its own;
* `tale_run`, the history of every lookup.
-/

namespace RoleLookup.Directory
namespace Client

variable {c d : Client} {s : Step} {ss : List Step} {l a k : Nat} {user : String} {j : Lookup}

/-! ### What is sent for a lookup -/

/-- Whether a step acts for a lookup, or for the borrower of its acquire. -/
def isFor (c : Client) (l : Nat) : Step → Bool
  | .pool s => (c.lookups[l]?).any fun j => s.borrower? == some j.acquire
  | s => s.lookup? == some l

/-- The searches that a step sends for a lookup. -/
def sentIn (c : Client) (l : Nat) (s : Step) : List (Nat × Query) :=
  if c.isFor l s then (c.step s).pool.searches.drop c.pool.searches.length else []

/-- The searches that a run sends for a lookup, with their connections. -/
def searchesFor (c : Client) (l : Nat) : List Step → List (Nat × Query)
  | [] => []
  | s :: ss => c.sentIn l s ++ (c.step s).searchesFor l ss

theorem searchesFor_concat (c : Client) (l : Nat) (ss : List Step) (s : Step) :
    c.searchesFor l (ss ++ [s]) = c.searchesFor l ss ++ (c.run ss).sentIn l s := by
  induction ss generalizing c with
  | nil => simp [searchesFor]
  | cons t ss ih => simp [searchesFor, ih]

theorem searches_release (c : Client) (a : Nat) :
    (c.release a).pool.searches = c.pool.searches := by
  rw [pool_release, Pool.searches_step _ (by simp), Pool.searches_step _ (by simp)]

/-- Searches are sent by a lookup that goes on to search, and by borrowers outside the client. -/
theorem Fires.searches (f : Fires c s d) : d.pool.searches = c.pool.searches ∨
    (∃ t, s = .pool t ∧ ∀ a, t.borrower? = some a → c.owns a = false) ∨
    ∃ l user a k query, s = .search l ∧ c.lookups[l]? = some ⟨user, a, .acquiring⟩ ∧
      c.pool.held? a = some k ∧ c.settings.query? user = some query ∧
      d.pool.searches = c.pool.searches ++ [(k, query)] := by
  cases f with
  | idle | fail | unconnected => exact .inl rfl
  | pool free => exact .inr (.inl ⟨_, rfl, free⟩)
  | lookup | check => exact .inl (Pool.searches_step c.pool (by simp))
  | search events hl held hq =>
    exact .inr (.inr ⟨_, _, _, _, _, rfl, hl, held, hq,
      Pool.searches_search (p := c.pool.note _ events) held _⟩)
  | refuse events => exact .inl (searches_release (c.note _ events) _)
  | answer before after => exact .inl (searches_release (c.note _ before) _)
  | leave =>
    refine .inl ((searches_release (c.onPool (.abandon _)) _).trans ?_)
    exact Pool.searches_step c.pool (by simp)
  | giveUp | connected => exact .inl (searches_release c _)

/-- A step sends nothing for a lookup, or the search with which it goes on. -/
theorem sentIn_cases (c : Client) (l : Nat) (s : Step) : c.sentIn l s = [] ∨
    ∃ user a k query, s = .search l ∧ c.lookups[l]? = some ⟨user, a, .acquiring⟩ ∧
      c.pool.held? a = some k ∧ c.settings.query? user = some query ∧
      c.sentIn l s = [(k, query)] := by
  unfold sentIn
  split
  · rename_i hfor
    rcases (step_fires c s).searches with h | ⟨t, rfl, free⟩ | ⟨m, user, a, k, query, rfl, hl, held,
      hq, h⟩
    · exact .inl (by rw [h, List.drop_length])
    -- A step of the borrower of a lookup does not apply.
    · obtain ⟨j, hj, hborrower⟩ : ∃ j, c.lookups[l]? = some j ∧ t.borrower? = some j.acquire := by
        simpa [isFor, Option.any_eq_true] using hfor
      have howns : c.owns j.acquire = true := owns_eq_true.2
        (List.mem_append_left _ (List.mem_map_of_mem (List.mem_of_getElem? hj)))
      rw [free _ hborrower] at howns
      cases howns
    · obtain rfl : m = l := by simpa [isFor, Step.lookup?] using hfor
      exact .inr ⟨user, a, k, query, rfl, hl, held, hq, by rw [h, List.drop_left]⟩
  · exact .inl rfl

theorem sentIn_of_ne (hs : s ≠ .search l) : c.sentIn l s = [] := by
  rcases sentIn_cases c l s with h | ⟨_, _, _, _, rfl, -⟩
  · exact h
  · exact absurd rfl hs

theorem step_search {query : Query} (hl : c.lookups[l]? = some ⟨user, a, .acquiring⟩)
    (held : c.pool.held? a = some k) (hq : c.settings.query? user = some query) :
    ∃ events, c.step (.search l) =
      ((c.note a events).onPool (.search a query)).setPhase l .searching := by
  simp only [step, search, hl, held, note_settings, hq]
  exact ⟨_, rfl⟩

theorem sentIn_search {query : Query} (hl : c.lookups[l]? = some ⟨user, a, .acquiring⟩)
    (held : c.pool.held? a = some k) (hq : c.settings.query? user = some query) :
    c.sentIn l (.search l) = [(k, query)] := by
  obtain ⟨events, hstep⟩ := step_search hl held hq
  rw [sentIn, hstep, if_pos (by simp [isFor, Step.lookup?])]
  change List.drop _ ((c.note a events).pool.step (.search a query)).searches = _
  rw [Pool.searches_search (p := (c.note a events).pool) held]
  exact List.drop_left

/-! ### What a lookup has and hears -/

/-- An acquire has held a connection in a run. -/
def HadConnection (c : Client) (a : Nat) (ss : List Step) : Prop :=
  ∃ before after k, ss = before ++ after ∧ (c.run before).pool.held? a = some k

theorem hadConnection_concat : c.HadConnection a (ss ++ [s]) ↔
    c.HadConnection a ss ∨ ∃ k, ((c.run ss).step s).pool.held? a = some k := by
  constructor
  · rintro ⟨before, after, k, hss, held⟩
    rcases List.eq_nil_or_concat after with rfl | ⟨after, t, rfl⟩
    · rw [List.append_nil] at hss
      rw [← hss, run_concat] at held
      exact .inr ⟨k, held⟩
    · rw [List.concat_eq_append, ← List.append_assoc] at hss
      exact .inl ⟨before, after, k, (List.append_inj' hss rfl).1, held⟩
  · rintro (⟨before, after, k, rfl, held⟩ | ⟨k, held⟩)
    · exact ⟨before, after ++ [s], k, List.append_assoc .., held⟩
    · exact ⟨ss ++ [s], [], k, (List.append_nil _).symm, (run_concat c ss s).symm ▸ held⟩

theorem hadConnection_of_held (h : (c.run ss).pool.held? a = some k) : c.HadConnection a ss :=
  ⟨ss, [], k, (List.append_nil ss).symm, h⟩

/-- In a run, a search of a lookup has been answered. -/
def Heard (c : Client) (l : Nat) (ss : List Step) (search : Nat × Query) (answer : SearchAnswer) :
    Prop :=
  ∃ before after, ss = before ++ .answer l answer :: after ∧
    (c.run before).awaited? l = some search

theorem Heard.concat {search : Nat × Query} {answer : SearchAnswer}
    (h : c.Heard l ss search answer) (s : Step) : c.Heard l (ss ++ [s]) search answer := by
  obtain ⟨before, after, rfl, hawaited⟩ := h
  exact ⟨before, after ++ [s], by simp, hawaited⟩

/-! ### The tale of a lookup -/

/-- How a lookup with some acquire has ended. -/
inductive Ended (c : Client) (ss : List Step) (l : Nat) (user : String) (a : Nat) :
    Except LookupError RoleSet → Prop
  /-- It got no connection. -/
  | unconnected {e : Error} (never : ¬ c.HadConnection a ss) (silent : c.searchesFor l ss = [])
      (he : (c.run ss).pool.error? a = some e) : Ended c ss l user a (.error e.toLookupError)
  /-- There is no search for the user. -/
  | unasked (had : c.HadConnection a ss) (silent : c.searchesFor l ss = [])
      (hq : c.settings.query? user = none) :
      Ended c ss l user a (.error (Error.search .filter).toLookupError)
  | answered {k : Nat} {query : Query} {answer : SearchAnswer} (had : c.HadConnection a ss)
      (one : c.searchesFor l ss = [(k, query)]) (hq : c.settings.query? user = some query)
      (heard : c.Heard l ss (k, query) answer) :
      Ended c ss l user a (c.settings.verdict user answer)

/-- What has happened to a lookup so far. -/
inductive Tale (c : Client) (ss : List Step) (l : Nat) : Lookup → Prop
  | acquiring {user : String} {a : Nat} (silent : c.searchesFor l ss = [])
      (holds : c.HadConnection a ss → ∃ k, (c.run ss).pool.held? a = some k) :
      Tale c ss l ⟨user, a, .acquiring⟩
  | searching {user : String} {a k : Nat} {query : Query}
      (held : (c.run ss).pool.held? a = some k) (one : c.searchesFor l ss = [(k, query)])
      (hq : c.settings.query? user = some query) : Tale c ss l ⟨user, a, .searching⟩
  | finished {user : String} {a : Nat} {o : Except LookupError RoleSet}
      (h : Ended c ss l user a o) : Tale c ss l ⟨user, a, .finished o⟩
  | abandoned {user : String} {a : Nat} (few : (c.searchesFor l ss).length ≤ 1)
      (had : c.searchesFor l ss ≠ [] → c.HadConnection a ss) :
      Tale c ss l ⟨user, a, .abandoned⟩

/-- A step that sends nothing for a lookup and leaves its acquire alone adds nothing. -/
theorem Tale.stay (h : Tale c ss l j) (quiet : (c.run ss).sentIn l s = [])
    (lasts : ∀ phase, (c.run ss).pool.phase? j.acquire = some phase →
      (∃ k, phase = .holding k) ∨ (∃ e, phase = .failed e) →
      ((c.run ss).step s).pool.phase? j.acquire = some phase) :
    Tale c (ss ++ [s]) l j := by
  have hsent : c.searchesFor l (ss ++ [s]) = c.searchesFor l ss := by
    rw [searchesFor_concat, quiet, List.append_nil]
  have held {k : Nat} (hk : (c.run ss).pool.held? j.acquire = some k) :
      ((c.run ss).step s).pool.held? j.acquire = some k := by
    rw [Pool.held?_eq_some] at hk ⊢
    exact lasts _ hk (.inl ⟨k, rfl⟩)
  have later (had : c.HadConnection j.acquire ss) : c.HadConnection j.acquire (ss ++ [s]) :=
    hadConnection_concat.2 (.inl had)
  cases h with
  | acquiring silent holds =>
    refine .acquiring (hsent.trans silent) fun had => ?_
    rw [run_concat]
    rcases hadConnection_concat.1 had with had | now
    · obtain ⟨k, hk⟩ := holds had
      exact ⟨k, held hk⟩
    · exact now
  | searching hk one hq =>
    exact .searching (by rw [run_concat]; exact held hk) (hsent.trans one) hq
  | @finished _ a _ h =>
    refine .finished ?_
    cases h with
    | @unconnected e never silent he =>
      have he' : ((c.run ss).step s).pool.error? a = some e := by
        rw [Pool.error?_eq_some] at he ⊢
        exact lasts _ he (.inr ⟨e, rfl⟩)
      refine .unconnected (fun had => ?_) (hsent.trans silent) (by rw [run_concat]; exact he')
      rcases hadConnection_concat.1 had with had | ⟨k, hk⟩
      · exact never had
      · rw [Pool.held?_eq_some] at hk
        rw [Pool.error?_eq_some, hk] at he'
        cases he'
    | unasked had silent hq => exact .unasked (later had) (hsent.trans silent) hq
    | answered had one hq heard =>
      exact .answered (later had) (hsent.trans one) hq (heard.concat s)
  | abandoned few had =>
    rw [← hsent] at few had
    exact .abandoned few fun hne => later (had hne)

/-- What others do adds nothing. -/
theorem Tale.others (h : Tale c ss l j) (linked : (c.run ss).Linked)
    (hl : (c.run ss).lookups[l]? = some j) (hs : s.lookup? ≠ some l) :
    Tale c (ss ++ [s]) l j :=
  h.stay (sentIn_of_ne fun hsearch => hs (hsearch ▸ rfl)) fun _ =>
    (step_fires _ s).over_of_others linked hl hs

/-- What a step of its own adds. -/
theorem Tale.own (h : Tale c ss l j) (hl : (c.run ss).lookups[l]? = some j)
    (hs : s.lookup? = some l) :
    ∃ j', ((c.run ss).step s).lookups[l]? = some j' ∧ Tale c (ss ++ [s]) l j' := by
  have own {d : Client} {phase : Phase} (hd : d.lookups = (c.run ss).lookups) :
      (d.setPhase l phase).lookups[l]? = some { j with phase } := by
    simp [getElem?_setPhase, hd, hl]
  have quiet (hne : s ≠ .search l) : c.searchesFor l (ss ++ [s]) = c.searchesFor l ss := by
    rw [searchesFor_concat, sentIn_of_ne hne, List.append_nil]
  have later (had : c.HadConnection j.acquire ss) : c.HadConnection j.acquire (ss ++ [s]) :=
    hadConnection_concat.2 (.inl had)
  have hrun := run_concat c ss s
  have hsettings := settings_run c ss
  have f := step_fires (c.run ss) s
  generalize hd : (c.run ss).step s = d at f hrun ⊢
  cases f with
  | idle =>
    exact ⟨j, hl, h.stay (by simp [sentIn, hd]) fun phase hphase _ => hd.symm ▸ hphase⟩
  | pool | lookup | check | connected | unconnected => cases hs
  | @search m user a k query events hm held hq =>
    cases hs
    cases hl.symm.trans hm
    cases h with | acquiring silent holds =>
    have hheld : (c.run (ss ++ [.search l])).pool.held? a = some k := by
      rw [hrun]
      exact Pool.held?_step (p := ((c.run ss).note a events).pool) held nofun
    have hone : c.searchesFor l (ss ++ [.search l]) = [(k, query)] := by
      rw [searchesFor_concat, silent, sentIn_search hm held hq, List.nil_append]
    exact ⟨_, own rfl, .searching hheld hone (hsettings ▸ hq)⟩
  | @refuse m user a k events hm held hq =>
    cases hs
    cases hl.symm.trans hm
    cases h with | acquiring silent holds =>
    have had := later (hadConnection_of_held held)
    refine ⟨_, own rfl, .finished (.unasked had ?_ (hsettings ▸ hq))⟩
    rcases sentIn_cases (c.run ss) l (.search l) with hsent | ⟨_, _, _, _, -, hm', -, hq', -⟩
    · rw [searchesFor_concat, silent, hsent, List.append_nil]
    · cases hm.symm.trans hm'
      rw [hq] at hq'
      cases hq'
  | @answer m user a answer before after hm =>
    cases hs
    cases hl.symm.trans hm
    cases h with | searching held one hq =>
    refine ⟨_, own rfl, .finished ?_⟩
    rw [hsettings]
    refine .answered (later (hadConnection_of_held held)) ((quiet nofun).trans one) hq
      ⟨ss, [], rfl, ?_⟩
    simp [awaited?, hm, held, hsettings, hq]
  | @fail m user a e hm he =>
    cases hs
    cases hl.symm.trans hm
    cases h with | acquiring silent holds =>
    refine ⟨_, own rfl, .finished (.unconnected ?_ ((quiet nofun).trans silent) (hrun ▸ he))⟩
    have gone : (c.run ss).pool.held? a = none := by
      rw [Pool.error?_eq_some] at he
      simp [Pool.held?, he]
    rintro had
    rcases hadConnection_concat.1 had with had | ⟨k, hk⟩
    · obtain ⟨k, hk⟩ := holds had
      rw [gone] at hk
      cases hk
    · rw [hd] at hk
      change (c.run ss).pool.held? a = some k at hk
      rw [gone] at hk
      cases hk
  | @leave m user a hm =>
    cases hs
    cases hl.symm.trans hm
    cases h with | acquiring silent holds =>
    have silent := (quiet nofun).trans silent
    exact ⟨_, own rfl, .abandoned (by simp [silent]) fun hne => absurd silent hne⟩
  | @giveUp m user a hm =>
    cases hs
    cases hl.symm.trans hm
    cases h with | searching held one hq =>
    have one := (quiet nofun).trans one
    exact ⟨_, own rfl, .abandoned (by simp [one]) fun _ => later (hadConnection_of_held held)⟩

/-! ### Every lookup has its tale -/

theorem Fires.lookups_new (f : Fires c s d) (hl : c.lookups[l]? = none)
    (hj : d.lookups[l]? = some j) :
    s = .lookup j.user ∧ j = ⟨j.user, c.pool.acquires.length, .acquiring⟩ := by
  cases f with
  | idle | pool | check | connected | unconnected => exact nomatch hl.symm.trans hj
  | lookup user =>
    rw [List.getElem?_append_right (List.getElem?_eq_none_iff.1 hl),
      List.getElem?_singleton] at hj
    split at hj
    · cases hj
      exact ⟨rfl, rfl⟩
    · cases hj
  | _ =>
    rw [getElem?_setPhase] at hj
    change (c.lookups[l]?).map _ = _ at hj
    rw [hl] at hj
    cases hj

theorem Fires.length_lookups (f : Fires c s d) : c.lookups.length ≤ d.lookups.length := by
  cases f <;> simp [setPhase, setRecord, onPool, note, release]

/-- Nothing is sent for a lookup that has not started. -/
theorem searchesFor_of_none (hl : (c.run ss).lookups[l]? = none) : c.searchesFor l ss = [] := by
  induction ss using List.reverseRecOn with
  | nil => rfl
  | append_singleton ss s ih =>
    rw [run_concat, List.getElem?_eq_none_iff] at hl
    have hl : (c.run ss).lookups[l]? = none := List.getElem?_eq_none_iff.2
      ((step_fires (c.run ss) s).length_lookups.trans hl)
    rw [searchesFor_concat, ih hl, List.nil_append]
    rcases sentIn_cases (c.run ss) l s with h | ⟨_, _, _, _, -, hl', -⟩
    · exact h
    · rw [hl] at hl'
      cases hl'

theorem length_acquires_run (c : Client) (ss : List Step) :
    c.pool.acquires.length ≤ (c.run ss).pool.acquires.length :=
  run_induction (P := fun d => c.pool.acquires.length ≤ d.pool.acquires.length)
    (fun d s h => h.trans (step_fires d s).length_acquires) (Nat.le_refl _) ss

theorem HadConnection.lt (h : c.HadConnection a ss) : a < (c.run ss).pool.acquires.length := by
  obtain ⟨before, after, k, rfl, held⟩ := h
  rw [Pool.held?_eq_some] at held
  obtain ⟨x, hx, -⟩ := Option.map_eq_some_iff.1 held
  rw [run_append]
  exact (List.getElem?_eq_some_iff.1 hx).1.trans_le (length_acquires_run _ after)

/-- The tale of each lookup of a run. -/
theorem tale_run (settings : Settings) (connector : Connector) (ss : List Step)
    (hl : ((ofSettings settings connector).run ss).lookups[l]? = some j) :
    (ofSettings settings connector).Tale ss l j := by
  induction ss using List.reverseRecOn generalizing j with
  | nil => cases hl
  | append_singleton ss s ih =>
    set c := ofSettings settings connector
    rw [run_concat] at hl
    cases hbefore : (c.run ss).lookups[l]? with
    | none =>
      obtain ⟨rfl, hj⟩ := (step_fires (c.run ss) s).lookups_new hbefore hl
      rw [hj]
      refine .acquiring ?_ fun had => ?_
      · rw [searchesFor_concat, searchesFor_of_none hbefore, List.nil_append]
        exact sentIn_of_ne nofun
      -- No acquire before this lookup had its number.
      · rcases hadConnection_concat.1 had with had | now
        · exact absurd had.lt (Nat.lt_irrefl _)
        · rwa [run_concat]
    | some k =>
      by_cases hs : s.lookup? = some l
      · obtain ⟨j', hj', htale⟩ := (ih hbefore).own hbefore hs
        rw [hl] at hj'
        cases hj'
        exact htale
      · have hk := (step_fires (c.run ss) s).lookup_of_others hbefore hs
        rw [hl] at hk
        cases hk
        exact (ih hbefore).others (linked_run settings connector ss) hbefore hs

end Client
end RoleLookup.Directory
