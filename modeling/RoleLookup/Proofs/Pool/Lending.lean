import RoleLookup.Proofs.Pool.Acquires
import RoleLookup.Proofs.Pool.Connections
import RoleLookup.Proofs.Pool.Conservation

/-!
# What a pool lends

A connection that an acquire gets was opened for it, or was at rest and fit when it was taken. A
connection that was found unfit, or that was given back and not kept, is never lent again.

* `Lends`, a step in which an acquire gets a connection, with `Lends.cases`;
* `OpenedBy`, in a run an acquire opened a connection for itself, and `opened_of_binding`;
* `Spent`, a connection has no way to a borrower any more, with `Spent.step`;
* `NeverLent` and `Gone`, what follows from it for all that comes later;
* `lent_connections_are_new_or_fit`, the history of all connections.
-/

namespace RoleLookup.Directory
namespace Pool

/-- An acquire gets a connection in a step. -/
def Lends (p : Pool) (s : Step) (a c : Nat) : Prop :=
  p.held? a ≠ some c ∧ (p.step s).held? a = some c

/-- In a run, an acquire that has a permit and found none at rest opened a connection. -/
def OpenedBy (p : Pool) (ss : List Step) (a c : Nat) : Prop :=
  ∃ before after, ss = before ++ .connected a (.ok ()) :: after ∧
    (p.run before).phase? a = some (.opening .loan .connecting) ∧ (p.run before).opened = c

/-- No acquire gets a connection any more. -/
def NeverLent (p : Pool) (c : Nat) : Prop := ∀ ss s a, ¬ (p.run ss).Lends s a c

/-- A connection is closed, not at rest and with no borrower, and stays so. -/
def Gone (p : Pool) (c : Nat) : Prop := ∀ ss, (p.run ss).isAlive c = false ∧
  c ∉ (p.run ss).idle ∧ ∀ a, (p.run ss).held? a ≠ some c

variable {p q r : Pool} {s : Step} {ss : List Step} {a b c : Nat} {phase phase' : Phase}

/-! ### Where a lent connection comes from -/

/-- An acquire gets a connection that it has just opened or that was at rest and fit. -/
theorem Lends.cases (h : p.Lends s a c) :
    (s = .connected a (.ok ()) ∧ p.phase? a = some (.opening .loan .connecting) ∧ c = p.opened) ∨
    p.phase? a = some (.opening .loan (.binding c)) ∨
    (s = .take a ∧ p.idle.head? = some c ∧ p.isAlive c = true ∧ p.isExpired c = false) := by
  obtain ⟨hnot, hheld⟩ := h
  rw [Ne, held?_eq_some] at hnot
  rw [held?_eq_some] at hheld
  obtain ⟨ph, hph, rfl | g⟩ | ⟨hstarted, -⟩ := phase?_of_step hheld
  · exact absurd hph hnot
  · cases g with
    | refuse h | giveUp h => cases h
    | greet nobody h =>
      cases h
      exact .inl ⟨rfl, hph, rfl⟩
    | accept ok h =>
      cases h
      exact .inr (.inl hph)
    | reuse top alive young => exact .inr (.inr ⟨rfl, by rw [top]; rfl, alive, young⟩)
  · cases hstarted

/-- An acquire that binds a connection to be lent has opened it. -/
theorem opened_of_binding (s : Settings) (connector : Connector) {ss : List Step}
    (h : ((ofSettings s connector).run ss).phase? a = some (.opening .loan (.binding c))) :
    (ofSettings s connector).OpenedBy ss a c := by
  induction ss using List.reverseRecOn with
  | nil => simp [phase?, ofSettings] at h
  | append_singleton ss t ih =>
    rw [run_concat] at h
    obtain ⟨ph, hph, rfl | g⟩ | ⟨hstarted, -⟩ := phase?_of_step h
    · obtain ⟨before, after, rfl, hopening, hc⟩ := ih hph
      exact ⟨before, after ++ [t], by simp, hopening, hc⟩
    · cases g with
      | refuse h | greet _ h | accept _ h | giveUp h => cases h
      | bind => exact ⟨ss, [], rfl, hph, rfl⟩
    · cases hstarted

/-! ### What cannot be lent any more -/

/-- The connections that an acquire lends or brings to rest if it goes on. -/
def Phase.offers (kept : Bool) : Phase → List Nat
  | .opening purpose stage => ownConnections purpose stage
  | .holding c => if kept then [c] else []
  | _ => []

/-- A connection is neither at rest nor on its way there or to a borrower. -/
structure Spent (p : Pool) (c : Nat) : Prop where
  opened : c < p.opened
  idle : c ∉ p.idle
  acquires : ∀ a phase, p.phase? a = some phase → c ∉ phase.offers p.keepAlive

theorem Reaches.offers {purpose : Purpose} {k : Bool} (h : p.Reaches c purpose phase)
    (hb : b ∈ phase.offers k) : b = c ∨ b ∈ purpose.ready := by
  cases h with
  | lend =>
    simp only [Phase.offers, List.mem_ite_nil_right, List.mem_singleton] at hb
    exact .inl hb.2
  | more => exact List.mem_cons.1 hb
  | full => exact absurd hb List.not_mem_nil

theorem Misses.offers {e : Error} {purpose : Purpose} {k : Bool} (h : Misses e purpose phase) :
    phase.offers k = [] := by
  cases h <;> rfl

/-- What an acquire offers it has offered before, or it is new, or it was at rest. -/
theorem Goes.offers {k : Bool} (g : Goes p a s phase phase') (hc : c ∈ phase'.offers k) :
    c ∈ phase.offers k ∨ c = p.opened ∨ c ∈ p.idle := by
  cases g with
  | queue | grant | expire | giveBack | free | abandon => exact absurd hc List.not_mem_nil
  | begin | dial => exact absurd hc List.not_mem_nil
  | refuse h | giveUp h =>
    rw [h.offers] at hc
    exact absurd hc List.not_mem_nil
  | greet nobody h => exact (h.offers hc).elim (.inr <| .inl ·) .inl
  | accept ok h => exact .inl (List.mem_cons.2 (h.offers hc))
  | bind =>
    rcases List.mem_cons.1 hc with rfl | hc
    · exact .inr (.inl rfl)
    · exact .inl hc
  | reject => exact .inl hc
  | reuse top =>
    simp only [Phase.offers, List.mem_ite_nil_right, List.mem_singleton] at hc
    exact .inr (.inr (top ▸ hc.2 ▸ List.mem_cons_self))

theorem Readies.mem_idle {purpose : Purpose} (h : Readies r a c purpose q) (hb : b ∈ q.idle) :
    b ∈ r.idle ∨ b = c ∨ b ∈ purpose.ready := by
  cases h with
  | lend | more => exact .inl hb
  | full => exact .inr (List.mem_cons.1 hb)

theorem GivesUp.mem_idle {purpose : Purpose} {e : Error} (h : GivesUp r a e purpose q)
    (hb : b ∈ q.idle) : b ∈ r.idle ∨ b ∈ purpose.ready := by
  cases h with
  | loan | first => exact .inl hb
  | later => exact .inr hb

/-- What is at rest has been so before, or an acquire has offered it, or it is new. -/
theorem Fires.mem_idle (f : Fires p s q) (hc : c ∈ q.idle) : c ∈ p.idle ∨ c = p.opened ∨
    ∃ a phase, p.phase? a = some phase ∧ c ∈ phase.offers p.keepAlive := by
  have rests {q : Pool} (hq : q.books = p.books) (hc : c ∈ q.idle) : c ∈ p.idle := by
    have hidle : q.idle = p.idle := congrArg Books.idle hq
    exact hidle ▸ hc
  cases f with
  | refused events ha hq =>
    exact (hq.mem_idle hc).imp_right fun h => .inr ⟨_, _, ha, h⟩
  | anonymous events ha nobody hq =>
    rcases hq.mem_idle hc with h | h | h
    · exact .inl h
    · exact .inr (.inl h)
    · exact .inr (.inr ⟨_, _, ha, h⟩)
  | accepted events ha ok hq =>
    exact (hq.mem_idle hc).imp_right fun h => .inr ⟨_, _, ha, List.mem_cons.2 h⟩
  | giveUp ha hq =>
    exact (hq.mem_idle hc).imp_right fun h => .inr ⟨_, _, ha, List.mem_cons_of_mem _ h⟩
  | rejected events => exact .inl (rests (books_unbind (p := p.note _ events)) hc)
  | dropClosed events ha top => exact .inl (top ▸ List.mem_cons_of_mem _ hc)
  | dropExpired events ha top =>
    obtain ⟨connections, sent, -, hq⟩ := unbind_eq ({ p with idle := _ }.note _ events) _
    rw [hq] at hc
    exact .inl (top ▸ List.mem_cons_of_mem _ hc)
  | reuse ha top => exact .inl (top ▸ List.mem_cons_of_mem _ hc)
  | retire => exact .inl (rests (books_unbind (p := p.setPhase _ .returned)) hc)
  | keep ha alive kept =>
    rcases List.mem_cons.1 hc with rfl | hc
    · exact .inr (.inr ⟨_, _, ha, by simp [Phase.offers, kept]⟩)
    · exact .inl hc
  | loseInitial => exact .inl (rests (books_lose _) hc)
  | loseLoan =>
    obtain ⟨connections, -, hq⟩ := lose_eq p (ownConnections .loan _)
    rw [hq] at hc
    exact .inl hc
  | close => exact .inl (rests (books_setFate _) hc)
  | _ => exact .inl hc

theorem opened_step (p : Pool) (s : Step) : p.opened ≤ (p.step s).opened := by
  cases (step_fires p s).counts with
  | same _ hb | start _ _ hb => exact Nat.le_of_eq (congrArg Books.opened hb).symm
  | move _ m _ hb =>
    subst hb
    exact m.opened_le

namespace Spent

theorem step (h : p.Spent c) (s : Step) : (p.step s).Spent c := by
  have hnew : c ≠ p.opened := Nat.ne_of_lt h.opened
  refine ⟨Nat.lt_of_lt_of_le h.opened (opened_step p s), ?_, ?_⟩
  · intro hc
    rcases (step_fires p s).mem_idle hc with hc | hc | ⟨a, phase, ha, hc⟩
    · exact h.idle hc
    · exact hnew hc
    · exact h.acquires a phase ha hc
  · intro a phase ha hc
    rw [keepAlive_step] at hc
    rcases phase?_of_step ha with ⟨ph, hph, rfl | g⟩ | ⟨rfl, -⟩
    · exact h.acquires a phase hph hc
    · rcases g.offers hc with hc | hc | hc
      · exact h.acquires a ph hph hc
      · exact hnew hc
      · exact h.idle hc
    · exact absurd hc List.not_mem_nil

theorem run (h : p.Spent c) (ss : List Step) : (p.run ss).Spent c :=
  run_induction (P := (Spent · c)) (fun _ s _ hp => hp.step s) h

end Spent

theorem Spent.neverLent (h : p.Spent c) : p.NeverLent c := by
  intro ss s a hl
  have spent := h.run ss
  rcases hl.cases with ⟨-, -, rfl⟩ | ha | ⟨-, top, -⟩
  · exact Nat.lt_irrefl _ spent.opened
  · exact spent.acquires a _ ha List.mem_cons_self
  · exact spent.idle (List.mem_of_head? top)

/-- A connection that is closed and has no way to a borrower is gone, unless one holds it. -/
theorem Spent.gone (h : p.Spent c) (hdead : p.isAlive c = false)
    (hheld : ∀ a, p.held? a ≠ some c) : p.Gone c := by
  intro ss
  obtain ⟨fate, parted⟩ := parted_of_not_alive h.opened hdead
  refine ⟨(parted_run parted ss).isAlive, (h.run ss).idle, ?_⟩
  induction ss using List.reverseRecOn with
  | nil => exact hheld
  | append_singleton ss t ih =>
    intro a ha
    rw [run_concat] at ha
    exact h.neverLent ss t a ⟨ih a, ha⟩

/-! ### What is put away -/

theorem Phase.connections_of_offers {k : Bool} (hc : c ∈ phase.offers k) :
    c ∈ phase.connections := by
  cases phase with
  | opening => exact hc
  | holding d =>
    simp only [Phase.offers, List.mem_ite_nil_right] at hc
    exact hc.2
  | _ => exact absurd hc List.not_mem_nil

namespace Balanced

/-- A connection taken from those at rest is spent, unless the acquire gets it. -/
theorem spent_of_taken {idle : List Nat} (h : p.Balanced) (top : p.idle = c :: idle)
    (hb : q.books = { p.books with idle }) (ha : q.acquires = p.acquires) : q.Spent c := by
  have hc : c ∈ p.idle := top ▸ List.mem_cons_self
  have hcount := List.count_pos_iff.2 hc
  have hopened : q.opened = p.opened := congrArg Books.opened hb
  have hidle : q.idle = idle := congrArg Books.idle hb
  refine ⟨hopened ▸ h.lt_opened (by omega), ?_, ?_⟩
  · have hnodup := h.nodup_idle
    rw [top] at hnodup
    exact hidle ▸ (List.nodup_cons.1 hnodup).1
  · intro b phase hb hoffers
    rw [phase?_congr ha] at hb
    exact h.notMem_of_idle hc hb (Phase.connections_of_offers hoffers)

/-- A connection that is given back is spent, unless it comes to rest. -/
theorem spent_of_returned (h : p.Balanced) (ha : p.held? a = some c) (hb : q.books = p.books)
    (hq : q.acquires = (p.setPhase a .returned).acquires) :
    q.Spent c ∧ ∀ b, q.held? b ≠ some c := by
  have hopened : q.opened = p.opened := congrArg Books.opened hb
  have hidle : q.idle = p.idle := congrArg Books.idle hb
  have hlt := h.lt_opened_of_mem (held?_eq_some.1 ha) List.mem_cons_self
  have hothers {b phase} (hphase : q.phase? b = some phase) : c ∉ phase.connections := by
    rw [phase?_congr hq, phase?_setPhase] at hphase
    obtain ⟨ph, hph, rfl⟩ := Option.map_eq_some_iff.1 hphase
    split
    · exact List.not_mem_nil
    · rename_i hab
      exact h.notMem_of_held ha hab hph
  refine ⟨⟨hopened ▸ hlt, hidle ▸ (h.held_apart ha).1, ?_⟩, ?_⟩
  · intro b phase hphase hoffers
    exact hothers hphase (Phase.connections_of_offers hoffers)
  · intro b hheld
    exact hothers (held?_eq_some.1 hheld) List.mem_cons_self

/-- If connections are not kept, the one that an acquire holds is spent. -/
theorem spent_of_held (h : p.Balanced) (hkeep : p.keepAlive = false) (ha : p.held? a = some c) :
    p.Spent c := by
  refine ⟨h.lt_opened_of_mem (held?_eq_some.1 ha) List.mem_cons_self, (h.held_apart ha).1, ?_⟩
  intro b phase hb hoffers
  by_cases hab : a = b
  · subst hab
    rw [held?_eq_some.1 ha, Option.some.injEq] at hb
    simp [← hb, Phase.offers, hkeep] at hoffers
  · exact h.notMem_of_held ha hab hb (Phase.connections_of_offers hoffers)

end Balanced

/-- An acquire that looks at an unfit connection puts it away. -/
theorem take_of_unfit {idle : List Nat} (ha : p.phase? a = some .permitted)
    (top : p.idle = c :: idle) (unfit : ¬ (p.isAlive c = true ∧ p.isExpired c = false)) :
    (p.take a).acquires = p.acquires ∧ (p.take a).books = { p.books with idle } ∧
      (p.take a).isAlive c = false := by
  have halive : isAlive { p with idle } c = p.isAlive c := rfl
  have hexpired : isExpired { p with idle } c = p.isExpired c := rfl
  simp only [take, ha, top, halive, hexpired]
  cases alive : p.isAlive c with
  | false => exact ⟨rfl, rfl, alive⟩
  | true =>
    have old : p.isExpired c = true := by simpa [alive] using unfit
    rw [old]
    exact ⟨acquires_unbind, books_unbind, isAlive_unbind _ c⟩

/-- A borrower gives a connection back that is not to be kept. -/
theorem giveBack_of_unfit (ha : p.phase? a = some (.holding c))
    (unfit : ¬ (p.keepAlive = true ∧ p.isAlive c = true ∧ p.isExpired c = false)) :
    (p.giveBack a).acquires = (p.setPhase a .returned).acquires ∧
      (p.giveBack a).books = p.books ∧ (p.giveBack a).isAlive c = false := by
  have halive : (p.setPhase a .returned).isAlive c = p.isAlive c := rfl
  have hexpired : (p.setPhase a .returned).isExpired c = p.isExpired c := rfl
  have hkeep : (p.setPhase a .returned).keepAlive = p.keepAlive := rfl
  simp only [giveBack, ha, halive, hexpired, hkeep]
  cases alive : p.isAlive c with
  | false => exact ⟨rfl, rfl, alive⟩
  | true =>
    have hif : (!p.keepAlive || p.isExpired c) = true := by
      cases kept : p.keepAlive with
      | false => rfl
      | true => simpa [kept, alive] using unfit
    rw [hif]
    exact ⟨acquires_unbind, books_unbind, isAlive_unbind _ c⟩

/-- A borrower gives a connection back that is to be kept. -/
theorem giveBack_of_fit (ha : p.phase? a = some (.holding c)) (hkeep : p.keepAlive = true)
    (alive : p.isAlive c = true) (young : p.isExpired c = false) :
    (p.giveBack a).idle = c :: p.idle := by
  have halive : (p.setPhase a .returned).isAlive c = true := alive
  have hexpired : (p.setPhase a .returned).isExpired c = false := young
  have hkept : (p.setPhase a .returned).keepAlive = true := hkeep
  simp [giveBack, ha, halive, hexpired, hkept]

/-! ### The history of connections -/

/-- **No stale connection is lent.** In every run, an acquire gets a connection that it has opened
itself, or one from those at rest that is then neither closed nor too old. An unfit connection that
it meets is gone for good. If connections are not kept, none is lent twice; if they are, one that is
given back comes to rest exactly when it is neither closed nor too old, and is gone otherwise. -/
theorem lent_connections_are_new_or_fit (s : Settings) (connector : Connector) (ss : List Step) :
    let start := ofSettings s connector
    let p := start.run ss
    (∀ t a c, p.Lends t a c → start.OpenedBy (ss ++ [t]) a c ∨
      (t = .take a ∧ p.idle.head? = some c ∧ p.IsFit s.maxConnectionAge c)) ∧
    (∀ a c idle, p.phase? a = some .permitted → p.idle = c :: idle →
      ¬ p.IsFit s.maxConnectionAge c →
      let q := p.step (.take a)
      q.phase? a = some .permitted ∧ q.idle = idle ∧ q.Gone c) ∧
    (s.keepAlive = false → ∀ a c, p.held? a = some c →
      p.NeverLent c ∧ (p.step (.giveBack a)).Gone c) ∧
    (s.keepAlive = true → ∀ a c, p.held? a = some c →
      let q := p.step (.giveBack a)
      (p.IsFit s.maxConnectionAge c → q.idle = c :: p.idle) ∧
      (¬ p.IsFit s.maxConnectionAge c → q.idle = p.idle ∧ q.Gone c)) := by
  intro start p
  have balanced : p.Balanced := (balanced_ofSettings s connector).run ss
  have hage : p.maxAge = s.maxConnectionAge := maxAge_run start ss
  have hkeep : p.keepAlive = s.keepAlive := keepAlive_run start ss
  have hfit (c) : p.IsFit s.maxConnectionAge c ↔ p.isAlive c = true ∧ p.isExpired c = false :=
    hage ▸ (timely_run s connector ss).isFit_iff
  have hgone {a c} (ha : p.held? a = some c)
      (unfit : ¬ (p.keepAlive = true ∧ p.isAlive c = true ∧ p.isExpired c = false)) :
      (p.step (.giveBack a)).idle = p.idle ∧ (p.step (.giveBack a)).Gone c := by
    obtain ⟨hacquires, hbooks, hdead⟩ := giveBack_of_unfit (held?_eq_some.1 ha) unfit
    obtain ⟨spent, hheld⟩ := balanced.spent_of_returned ha hbooks hacquires
    exact ⟨congrArg Books.idle hbooks, spent.gone hdead hheld⟩
  refine ⟨?_, ?_, ?_, ?_⟩
  · intro t a c hl
    rcases hl.cases with ⟨rfl, hopening, rfl⟩ | hbinding | ⟨rfl, top, alive, young⟩
    · exact .inl ⟨ss, [], rfl, hopening, rfl⟩
    · obtain ⟨before, after, hss, hopening, hc⟩ := opened_of_binding s connector hbinding
      exact .inl ⟨before, after ++ [t], by simp [hss], hopening, hc⟩
    · exact .inr ⟨rfl, top, (hfit c).2 ⟨alive, young⟩⟩
  · intro a c idle ha top unfit
    rw [hfit] at unfit
    obtain ⟨hacquires, hbooks, hdead⟩ := take_of_unfit ha top unfit
    refine ⟨(phase?_congr hacquires a).trans ha, congrArg Books.idle hbooks, ?_⟩
    refine (balanced.spent_of_taken top hbooks hacquires).gone hdead ?_
    intro b hb
    rw [held?_eq_some, phase?_congr hacquires] at hb
    exact balanced.notMem_of_idle (top ▸ List.mem_cons_self) hb List.mem_cons_self
  · intro hnot a c ha
    refine ⟨(balanced.spent_of_held (hkeep.trans hnot) ha).neverLent, (hgone ha ?_).2⟩
    simp [hkeep, hnot]
  · intro hkept a c ha
    constructor
    · intro fit
      obtain ⟨alive, young⟩ := (hfit c).1 fit
      exact giveBack_of_fit (held?_eq_some.1 ha) (hkeep.trans hkept) alive young
    · intro unfit
      exact hgone ha fun h => unfit ((hfit c).2 h.2)

/-- A pool of one. A connection that is given back young comes to rest, and when it has become too
old the next acquire puts it away and opens another one. Without keeping, it is lent once. -/
theorem lent_connections_are_new_or_fit_aged :
    let settings : Settings :=
      { host := "ldap", port := 389, searchBase := "", poolSize := 1, maxConnectionAge := 100 }
    let connector : Connector :=
      ⟨⟨"ldap", none, "", none, none⟩, false, 3000, 3000, none, "", ""⟩
    let start := ofSettings settings connector
    let lent : List Step := [.start [], .enter 0, .connected 0 (.ok ()), .grant 0, .take 0]
    let aged := lent ++ [.giveBack 0, .free 0, .advance 100, .start [], .enter 1, .grant 1]
    let replaced := aged ++ [.take 1, .take 1]
    ((start.run lent).step (.giveBack 0)).idle = [0] ∧
    ((start.run aged).step (.take 1)).Gone 0 ∧
    start.OpenedBy (replaced ++ [.connected 1 (.ok ())]) 1 1 ∧
    ((ofSettings { settings with keepAlive := false } connector).run lent).NeverLent 0 := by
  intro settings connector start lent aged replaced
  obtain ⟨-, -, -, hkept⟩ := lent_connections_are_new_or_fit settings connector lent
  obtain ⟨-, hstale, -, -⟩ := lent_connections_are_new_or_fit settings connector aged
  obtain ⟨hnew, -, -, -⟩ := lent_connections_are_new_or_fit settings connector replaced
  obtain ⟨-, -, honce, -⟩ :=
    lent_connections_are_new_or_fit { settings with keepAlive := false } connector lent
  refine ⟨?_, ?_, ?_, ?_⟩
  · exact (hkept rfl 0 0 (by decide)).1 (by decide)
  · exact (hstale 1 0 [] (by decide) (by decide) (by decide)).2.2
  · rcases hnew (.connected 1 (.ok ())) 1 1 (by unfold Lends; decide) with hopened | ⟨hstep, -⟩
    · exact hopened
    · cases hstep
  · exact (honce rfl 0 0 (by decide)).1

end Pool
end RoleLookup.Directory
