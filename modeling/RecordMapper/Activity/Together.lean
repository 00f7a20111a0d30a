import RecordMapper.Activity

/-!
Several activities on one state. Those that can go on stand in a queue; the first runs until it pauses or waits for
a lock, and a pause sends it to the end. A lock is given to those who wait for it in their order: one who comes while
others wait stands behind them even if the lock is free at that moment.
-/
namespace RecordMapper.Activity

variable {σ α : Type}

/-- A lock: whether it is taken, and who waits for it, the next one first. -/
structure LockState (σ α : Type) where
  taken : Bool
  waiting : List (Nat × Activity σ α)

/-- The state of the locks. -/
structure Locks (σ α : Type) where
  client : LockState σ α
  adapter : LockState σ α

namespace Locks

/-- All locks free and nobody waiting. -/
def free : Locks σ α := ⟨⟨false, []⟩, ⟨false, []⟩⟩

def get (ls : Locks σ α) : Lock → LockState σ α
  | .client => ls.client
  | .adapter => ls.adapter

def set (ls : Locks σ α) (l : Lock) (s : LockState σ α) : Locks σ α :=
  match l with
  | .client => { ls with client := s }
  | .adapter => { ls with adapter := s }

end Locks

/-- One who stands in the queue: a number, what is to be done, and the lock that has been handed over. -/
structure Ready (σ α : Type) where
  number : Nat
  granted : Option Lock
  activity : Activity σ α

/-- How far one turn of an activity went, with all that it left behind. -/
structure Turn (σ α : Type) where
  state : σ
  locks : Locks σ α
  woken : List (Ready σ α)
  result : Option α
  rest : Option (Activity σ α)

/-- Runs an activity until it is done, pauses or waits. -/
def turn (number : Nat) (locks : Locks σ α) (woken : List (Ready σ α)) : Activity σ α → σ → Turn σ α
  | done a, s => ⟨s, locks, woken, some a, none⟩
  | look next, s => turn number locks woken (next s) s
  | put s next, _ => turn number locks woken next s
  | pause next, s => ⟨s, locks, woken, none, some next⟩
  | acquire l next, s =>
    let lock := locks.get l
    if lock.taken || !lock.waiting.isEmpty then
      ⟨s, locks.set l ⟨lock.taken, lock.waiting ++ [(number, next)]⟩, woken, none, none⟩
    else turn number (locks.set l ⟨true, lock.waiting⟩) woken next s
  | release l next, s =>
    let lock := locks.get l
    let woken := match lock.waiting with
      | [] => woken
      | (n, a) :: _ => woken ++ [⟨n, some l, a⟩]
    turn number (locks.set l ⟨false, lock.waiting⟩) woken next s

/-- The locks when one to whom a lock was handed over goes on. -/
def Ready.enter (r : Ready σ α) (locks : Locks σ α) : Locks σ α :=
  match r.granted with
  | none => locks
  | some l => locks.set l ⟨true, (locks.get l).waiting.drop 1⟩

/-- Runs a queue; `fuel` bounds the turns. Results come with the numbers of their activities. -/
def runQueue : (fuel : Nat) → Locks σ α → List (Ready σ α) → σ → List (Nat × α) × σ
  | 0, _, _, s => ([], s)
  | _ + 1, _, [], s => ([], s)
  | fuel + 1, locks, r :: queue, s =>
    let t := turn r.number (r.enter locks) [] r.activity s
    let again := match t.rest with
      | some a => [⟨r.number, none, a⟩]
      | none => []
    let (results, s) := runQueue fuel t.locks (queue ++ t.woken ++ again) t.state
    match t.result with
    | some a => ((r.number, a) :: results, s)
    | none => (results, s)

/-- More turns than any activities of a client take. -/
def turnLimit : Nat := 1000000

/-- Runs activities together; each has a result unless it waits for ever. -/
def runTogether (activities : List (Activity σ α)) (s : σ) : List (Option α) × σ :=
  let queue := activities.zipIdx.map fun (a, n) => ⟨n, none, a⟩
  let (results, s) := runQueue turnLimit .free queue s
  ((List.range activities.length).map fun n => results.lookup n, s)

end RecordMapper.Activity
