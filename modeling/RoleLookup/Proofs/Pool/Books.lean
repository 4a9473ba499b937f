import Mathlib
import RoleLookup.Proofs.Pool.Step

/-!
# The books of the pool

What is counted of a pool: the connections at rest, the free permits, the connections opened so
far, and the acquires by their phase.

* `Books` and `Moves`, how a step changes the books while an acquire goes on;
* `Fires.counts`, each step does so, or starts an acquire, or changes neither;
* `terms`, what a pool is made with, and `terms_run`, a run leaves it as it is;
* `total`, `number`, what the acquires have or are, summed up, with `total_of_move` and
  `number_of_move` for an acquire that goes on.
-/

namespace RoleLookup.Directory
namespace Pool

/-- The books of a pool. -/
structure Books where
  isInitialised : Bool
  idle : List Nat
  permits : Nat
  opened : Nat

def books (p : Pool) : Books := ⟨p.isInitialised, p.idle, p.permits, p.opened⟩

/-- The books after a permit has come back. -/
def Books.freed (b : Books) : Books := { b with permits := b.permits + 1 }

/-- An opening that is about to end with a connection, and how many have been opened then. -/
inductive Yields (p : Pool) : Stage → Nat → Nat → Prop
  | connecting : Yields p .connecting p.opened (p.opened + 1)
  | binding {c} : Yields p (.binding c) c p.opened

/-- How an acquire goes on in a step, and the books after it. -/
inductive Moves (p : Pool) : Phase → Phase → Books → Prop
  | queue (ready : p.isInitialised = true) : Moves p .started .queued p.books
  | begin (fresh : p.isInitialised = false) (alone : p.isInitialising = false) :
      Moves p .started (.opening (.initial []) .connecting) p.books
  | bind {purpose} : Moves p (.opening purpose .connecting)
      (.opening purpose (.binding p.opened)) { p.books with opened := p.opened + 1 }
  | reject {purpose c e} :
      Moves p (.opening purpose (.binding c)) (.opening purpose (.unbinding c e)) p.books
  | lend {stage c n} (h : Yields p stage c n) :
      Moves p (.opening .loan stage) (.holding c) { p.books with opened := n }
  | more {cs stage c n} (h : Yields p stage c n) (room : cs.length + 1 < p.size) :
      Moves p (.opening (.initial cs) stage) (.opening (.initial (c :: cs)) .connecting)
        { p.books with opened := n }
  | fill {cs stage c n} (h : Yields p stage c n) :
      Moves p (.opening (.initial cs) stage) .queued ⟨true, c :: cs, p.size, n⟩
  | settle {cs stage} (hcs : cs ≠ []) :
      Moves p (.opening (.initial cs) stage) .queued ⟨true, cs, p.size, p.opened⟩
  | failInitial {stage e} : Moves p (.opening (.initial []) stage) (.failed e) p.books
  | failLoan {stage e} : Moves p (.opening .loan stage) (.failed e)
      p.books.freed
  | grant (free : 0 < p.permits) :
      Moves p .queued .permitted { p.books with permits := p.permits - 1 }
  | expire {e} : Moves p .queued (.failed e) p.books
  | dial (none : p.idle = []) : Moves p .permitted (.opening .loan .connecting) p.books
  | drop {c idle} (top : p.idle = c :: idle) :
      Moves p .permitted .permitted { p.books with idle }
  | reuse {c idle} (top : p.idle = c :: idle) :
      Moves p .permitted (.holding c) { p.books with idle }
  | forget {c} : Moves p (.holding c) .returned p.books
  | keep {c} : Moves p (.holding c) .returned { p.books with idle := c :: p.idle }
  | free : Moves p .returned .released p.books.freed
  | leave {phase} (hp : phase = .started ∨ phase = .queued) : Moves p phase .abandoned p.books
  | cede : Moves p .permitted .abandoned p.books.freed
  | loseInitial {cs stage} : Moves p (.opening (.initial cs) stage) .abandoned p.books
  | loseLoan {stage} : Moves p (.opening .loan stage) .abandoned
      p.books.freed

/-- How the acquires and the books change in a step. -/
inductive Counts (p q : Pool) : Prop
  | same (ha : q.acquires = p.acquires) (hb : q.books = p.books)
  | start (spans) (ha : q.acquires = p.acquires ++ [({ spans } : Acquire)]) (hb : q.books = p.books)
  | move {a phase phase' b} (hp : p.phase? a = some phase) (m : Moves p phase phase' b)
      (ha : q.acquires = (p.setPhase a phase').acquires) (hb : q.books = b)

variable {p q r : Pool} {s : Step} {a b c : Nat} {phase phase' : Phase}

/-! ### Each step keeps the books -/

theorem setPhase_self (h : p.phase? a = some phase) :
    (p.setPhase a phase).acquires = p.acquires := by
  apply List.ext_getElem?
  intro b
  simp only [setPhase, List.getElem?_modify]
  by_cases hb : a = b
  · subst hb
    cases ha : p.acquires[a]? with
    | none => rfl
    | some k =>
      simp only [phase?, ha, Option.map_some, Option.some.injEq] at h
      simp [← h]
  · simp [hb]

@[simp] theorem books_isInitialised (p : Pool) : p.books.isInitialised = p.isInitialised := rfl
@[simp] theorem books_idle (p : Pool) : p.books.idle = p.idle := rfl
@[simp] theorem books_permits (p : Pool) : p.books.permits = p.permits := rfl
@[simp] theorem books_opened (p : Pool) : p.books.opened = p.opened := rfl

@[simp] theorem books_note (events : List Log.Event) : (p.note a events).books = p.books := rfl

@[simp] theorem books_setPhase : (p.setPhase a phase).books = p.books := rfl

@[simp] theorem books_send (request : Request) : (p.send request).books = p.books := rfl

@[simp] theorem books_setFate (fate : Fate) : (p.setFate c fate).books = p.books := by
  obtain ⟨connections, hlength, h⟩ := setFate_eq p c fate
  simp [h, books, opened, hlength]

@[simp] theorem acquires_setFate (fate : Fate) : (p.setFate c fate).acquires = p.acquires := by
  obtain ⟨connections, -, h⟩ := setFate_eq p c fate
  rw [h]

@[simp] theorem books_unbind : (p.unbind c).books = p.books := by
  obtain ⟨connections, sent, hlength, h⟩ := unbind_eq p c
  simp [h, books, opened, hlength]

@[simp] theorem acquires_unbind : (p.unbind c).acquires = p.acquires := by
  obtain ⟨connections, sent, -, h⟩ := unbind_eq p c
  rw [h]

@[simp] theorem books_lose (cs : List Nat) : (p.lose cs).books = p.books := by
  obtain ⟨connections, hlength, h⟩ := lose_eq p cs
  simp [h, books, opened, hlength]

@[simp] theorem acquires_lose (cs : List Nat) : (p.lose cs).acquires = p.acquires := by
  obtain ⟨connections, -, h⟩ := lose_eq p cs
  rw [h]

@[simp] theorem books_refresh : (p.refresh c).books = p.books := by
  simp [refresh, books, opened]

@[simp] theorem books_extend : p.extend.books = { p.books with opened := p.opened + 1 } := by
  simp [extend, books, opened]

/-- An acquire goes on in a pool that differs from the one before in its books at most. -/
theorem counts_setPhase {b : Books} (hp : p.phase? a = some phase)
    (m : Moves p phase phase' b) (ha : r.acquires = p.acquires) (hb : r.books = b) :
    Counts p (r.setPhase a phase') :=
  .move hp m (by simp only [setPhase, ha]) hb

/-- An acquire goes on with a connection that it has opened. -/
theorem Readies.counts {purpose : Purpose} {stage : Stage} {n : Nat}
    (h : Readies r a c purpose q) (hp : p.phase? a = some (.opening purpose stage))
    (hy : Yields p stage c n) (ha : r.acquires = p.acquires)
    (hb : r.books = { p.books with opened := n }) (hs : r.size = p.size) : Counts p q := by
  cases h with
  | lend => exact counts_setPhase hp (.lend hy) ha hb
  | more events room => exact counts_setPhase hp (.more hy (hs ▸ room)) ha hb
  | full =>
    have hopened : r.opened = n := congrArg Books.opened hb
    exact counts_setPhase hp (.fill hy) ha (by rw [← hs, ← hopened]; rfl)

/-- An acquire gives up to open a connection. -/
theorem GivesUp.counts {purpose : Purpose} {stage : Stage} {e : Error}
    (h : GivesUp r a e purpose q) (hp : p.phase? a = some (.opening purpose stage))
    (ha : r.acquires = p.acquires) (hb : r.books = p.books) (hs : r.size = p.size) :
    Counts p q := by
  cases h with
  | loan => exact counts_setPhase hp .failLoan ha (congrArg Books.freed hb)
  | first => exact counts_setPhase hp .failInitial ha hb
  | later events hcs =>
    have hopened : r.opened = p.opened := congrArg Books.opened hb
    exact counts_setPhase hp (.settle hcs) ha (by rw [← hs, ← hopened]; rfl)

/-- Each step changes the acquires and the books in one of the ways listed. -/
theorem Fires.counts (f : Fires p s q) : Counts p q := by
  cases f with
  | idle => exact .same rfl rfl
  | start spans => exact .start spans rfl rfl
  | queue ha ready => exact counts_setPhase ha (.queue ready) rfl rfl
  | begin events ha fresh alone => exact counts_setPhase ha (.begin fresh alone) rfl rfl
  | refused events ha hq => exact hq.counts ha rfl rfl rfl
  | anonymous events ha nobody hq => exact hq.counts ha .connecting rfl (by simp) rfl
  | bind events ha somebody => exact counts_setPhase ha .bind rfl (by simp)
  | accepted events ha ok hq => exact hq.counts ha .binding rfl (by simp; rfl) rfl
  | rejected events ha bad => exact counts_setPhase ha .reject (by simp) (by simp)
  | giveUp ha hq => exact hq.counts ha rfl rfl rfl
  | grant ha free => exact counts_setPhase ha (.grant free) rfl rfl
  | expire events ha none => exact counts_setPhase ha .expire rfl rfl
  | dial events ha none => exact counts_setPhase ha (.dial none) rfl rfl
  | dropClosed events ha top dead =>
    exact .move ha (.drop top) (setPhase_self ha).symm rfl
  | dropExpired events ha top alive old =>
    refine .move ha (.drop top) ?_ (books_unbind ..)
    rw [acquires_unbind, setPhase_self ha]
    rfl
  | reuse ha top alive young => exact counts_setPhase ha (.reuse top) rfl rfl
  | search query ha => exact .same rfl rfl
  | forget events ha dead => exact .move ha .forget rfl rfl
  | retire ha alive unfit => exact .move ha .forget (acquires_unbind ..) (books_unbind ..)
  | keep ha alive kept young => exact .move ha .keep rfl rfl
  | free ha => exact counts_setPhase ha .free rfl rfl
  | leave ha hp => exact counts_setPhase ha (.leave hp) rfl rfl
  | cede ha => exact counts_setPhase ha .cede rfl rfl
  | loseInitial ha => exact counts_setPhase ha .loseInitial (by simp) (by simp)
  | loseLoan ha =>
    refine counts_setPhase ha .loseLoan ?_ ?_
    · exact acquires_lose _
    · exact congrArg Books.freed (books_lose _)
  | close c => exact .same (by simp) (by simp)
  | advance millis => exact .same rfl rfl

/-! ### The terms stay -/

/-- What a pool is made with. -/
structure Terms where
  connector : Connector
  size : Nat
  maxAge : Nat
  checkoutTimeout : Nat
  keepAlive : Bool

def terms (p : Pool) : Terms :=
  ⟨p.connector, p.size, p.maxAge, p.checkoutTimeout, p.keepAlive⟩

@[simp] theorem terms_setFate (fate : Fate) : (p.setFate c fate).terms = p.terms := by
  obtain ⟨connections, -, h⟩ := setFate_eq p c fate
  rw [h]
  rfl

@[simp] theorem terms_unbind : (p.unbind c).terms = p.terms := by
  obtain ⟨connections, sent, -, h⟩ := unbind_eq p c
  rw [h]
  rfl

@[simp] theorem terms_lose (cs : List Nat) : (p.lose cs).terms = p.terms := by
  obtain ⟨connections, -, h⟩ := lose_eq p cs
  rw [h]
  rfl

theorem Readies.terms {purpose : Purpose} (h : Readies r a c purpose q) : q.terms = r.terms := by
  cases h <;> rfl

theorem GivesUp.terms {purpose : Purpose} {e : Error} (h : GivesUp r a e purpose q) :
    q.terms = r.terms := by
  cases h <;> rfl

theorem Fires.terms (f : Fires p s q) : q.terms = p.terms := by
  cases f with
  | refused events ha hq => exact hq.terms
  | anonymous events ha nobody hq => exact hq.terms
  | accepted events ha ok hq => exact hq.terms
  | giveUp ha hq => exact hq.terms
  | rejected events => exact terms_unbind (p := p.note _ events)
  | dropExpired events => exact terms_unbind (p := { p with idle := _ }.note _ events)
  | retire => exact terms_unbind (p := p.setPhase _ .returned)
  | loseInitial | loseLoan => exact terms_lose _
  | close => exact terms_setFate _
  | _ => rfl

@[simp] theorem terms_step (p : Pool) (s : Step) : (p.step s).terms = p.terms :=
  (step_fires p s).terms

@[simp] theorem terms_run (p : Pool) (ss : List Step) : (p.run ss).terms = p.terms :=
  run_induction (P := fun q => q.terms = p.terms) (fun q s _ h => (terms_step q s).trans h) rfl

@[simp] theorem size_step (p : Pool) (s : Step) : (p.step s).size = p.size :=
  congrArg Terms.size (terms_step p s)

@[simp] theorem keepAlive_step (p : Pool) (s : Step) : (p.step s).keepAlive = p.keepAlive :=
  congrArg Terms.keepAlive (terms_step p s)

@[simp] theorem size_run (p : Pool) (ss : List Step) : (p.run ss).size = p.size :=
  congrArg Terms.size (terms_run p ss)

@[simp] theorem maxAge_run (p : Pool) (ss : List Step) : (p.run ss).maxAge = p.maxAge :=
  congrArg Terms.maxAge (terms_run p ss)

@[simp] theorem keepAlive_run (p : Pool) (ss : List Step) : (p.run ss).keepAlive = p.keepAlive :=
  congrArg Terms.keepAlive (terms_run p ss)

/-! ### Sums over the acquires -/

/-- What the acquires have, summed up. -/
def total (p : Pool) (w : Phase → Nat) : Nat := (p.acquires.map fun k => w k.phase).sum

/-- How many acquires are in a phase of a kind. -/
def number (p : Pool) (P : Phase → Bool) : Nat := p.acquires.countP (P ·.phase)

theorem sum_map_modify {α : Type} (g : α → Nat) (f : α → α) {xs : List α} {x : α}
    (h : xs[a]? = some x) : ((xs.modify a f).map g).sum + g x = (xs.map g).sum + g (f x) := by
  induction xs generalizing a with
  | nil => simp at h
  | cons y ys ih =>
    cases a with
    | zero =>
      simp only [List.getElem?_cons_zero, Option.some.injEq] at h
      subst h
      simp
      omega
    | succ a =>
      have := ih (by simpa using h)
      simp only [List.modify_succ_cons, List.map_cons, List.sum_cons]
      omega

/-- An acquire goes on: what it had is exchanged for what it has. -/
theorem total_of_move (w : Phase → Nat) (hp : p.phase? a = some phase)
    (ha : q.acquires = (p.setPhase a phase').acquires) :
    q.total w + w phase = p.total w + w phase' := by
  obtain ⟨k, hk, rfl⟩ := Option.map_eq_some_iff.1 hp
  rw [total, total, ha]
  exact sum_map_modify (fun k : Acquire => w k.phase) _ hk

theorem number_eq_total (P : Phase → Bool) : p.number P = p.total fun ph => (P ph).toNat := by
  unfold number total
  induction p.acquires with
  | nil => rfl
  | cons k ks ih => cases h : P k.phase <;> simp [h, ih, Nat.add_comm]

theorem number_of_move (P : Phase → Bool) (hp : p.phase? a = some phase)
    (ha : q.acquires = (p.setPhase a phase').acquires) :
    q.number P + (P phase).toNat = p.number P + (P phase').toNat := by
  simp only [number_eq_total]
  exact total_of_move (fun ph => (P ph).toNat) hp ha

theorem le_total (w : Phase → Nat) (hp : p.phase? a = some phase) : w phase ≤ p.total w := by
  obtain ⟨k, hk, rfl⟩ := Option.map_eq_some_iff.1 hp
  exact List.le_sum_of_mem (List.mem_map_of_mem (List.mem_of_getElem? hk))

/-- What two acquires have is part of the sum, if nothing is left to one that is abandoned. -/
theorem add_le_total {w : Phase → Nat} (hw : w .abandoned = 0) (hab : a ≠ b)
    (ha : p.phase? a = some phase) (hb : p.phase? b = some phase') :
    w phase + w phase' ≤ p.total w := by
  have hleft := total_of_move w (q := p.setPhase a .abandoned) ha rfl
  have hstill : (p.setPhase a .abandoned).phase? b = some phase' := by
    simp [phase?_setPhase, hb, hab]
  have := le_total w hstill
  omega

end Pool
end RoleLookup.Directory
