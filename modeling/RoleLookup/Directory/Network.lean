import RoleLookup.Directory.Entry
import RoleLookup.Directory.Pool.Basic

/-!
# Answers of a network

* `SearchAnswer`, what comes back from a search, and `SearchAnswer.entries`, its entries if the
  search is complete;
* `Network`, a network with a directory behind it, whose state may be of any type;
* `Pool.course`, the steps of one acquire when nobody else acts.
-/

namespace RoleLookup.Directory

/-! ### Answers -/

/-- One thing that a search finds: an entry, or the addresses of directories that know more. -/
inductive SearchItem
  | entry (e : RawEntry)
  | reference (addresses : List String)
  deriving DecidableEq, Repr

/-- What comes back from a search: what it finds, and how it ends. -/
structure SearchAnswer where
  items : List SearchItem
  ending : Except RequestError Result
  deriving Repr

/-- The entry among the things that a search finds. -/
def SearchItem.entry? : SearchItem → Option RawEntry
  | .entry e => some e
  | .reference _ => none

/-- The entries of a search that ends with success; references do not count. -/
def SearchAnswer.entries (a : SearchAnswer) : Except RequestError (List RawEntry) :=
  match a.ending with
  | .error cause => .error cause
  | .ok r => if r.code = 0 then .ok (a.items.filterMap SearchItem.entry?) else .error (.result r)

/-! ### The network -/

/-- A reply: how long it takes in milliseconds, and whether the connection is closed with it. -/
structure Reply (α : Type) where
  elapsed : Nat := 0
  closes : Bool := false
  answer : α
  deriving Repr

/-- A network with a directory behind it. Requests name the connection that they come over. -/
structure Network (ν : Type) where
  connect : Connector → ν → ν × Reply (Except RequestError Unit)
  bind : Nat → String → String → ν → ν × Reply (Except RequestError Result)
  search : Nat → Query → ν → ν × Reply SearchAnswer

/-- A network on which no connection can be made, for a given cause. -/
def Network.withoutRoute (cause : RequestError) : Network Unit where
  connect _ _ := ((), { answer := .error cause })
  bind _ _ _ _ := ((), { answer := .error .closed })
  search _ _ _ := ((), { answer := ⟨[], .error .endOfSearch⟩ })

/-! ### One acquire at a time -/

namespace Pool

variable {ν : Type}

/-- The steps that come with a reply on a connection, before its answer. -/
def replySteps {α : Type} (c : Nat) (r : Reply α) : List Step :=
  .advance r.elapsed :: if r.closes then [.close c] else []

/-- The next steps of an acquire when nobody else acts; none if it holds a connection or is over. -/
def next (net : Network ν) (p : Pool) (a : Nat) (n : ν) : List Step × ν :=
  match p.phase? a with
  | some .started => ([.enter a], n)
  | some (.opening _ .connecting) =>
    let (n, r) := net.connect p.connector n
    ([.advance r.elapsed, .connected a r.answer], n)
  | some (.opening _ (.binding c)) =>
    let (n, r) := net.bind c p.connector.bindDn p.connector.bindPassword n
    (replySteps c r ++ [.bound a r.answer], n)
  | some (.opening _ (.unbinding ..)) => ([.unbound a], n)
  | some .queued =>
    if p.permits = 0 then ([.advance (p.checkoutTimeout + 1), .expire a], n) else ([.grant a], n)
  | some .permitted => ([.take a], n)
  | _ => ([], n)

/-- The steps of an acquire until it holds a connection or is over, at most as many moments as the
fuel says. -/
def courseFor (net : Network ν) (a : Nat) : Nat → Pool → ν → List Step × ν
  | 0, _, n => ([], n)
  | fuel + 1, p, n =>
    match p.next net a n with
    | ([], n) => ([], n)
    | (steps, n) =>
      let (more, n) := courseFor net a fuel (p.run steps) n
      (steps ++ more, n)

/-- Most moments that an acquire takes when nobody else acts: a connection is opened in two, or not
opened in three, one at rest is looked at in one. -/
def mostMoments (p : Pool) : Nat := 3 * p.size + p.idle.length + 6

/-- The steps of an acquire until it holds a connection or is over. -/
def course (net : Network ν) (a : Nat) (p : Pool) (n : ν) : List Step × ν :=
  courseFor net a p.mostMoments p n

end Pool

end RoleLookup.Directory
