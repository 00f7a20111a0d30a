import RecordMapper.Client.Health
import RecordMapper.Proofs.Operation

/-!
Runs of a client over any adapter: calls one after another, between which the store may turn to any other answers and
failures. Main statement: a property of systems that every call keeps, and that does not mind the store's turns, holds
at every point of a run.
-/
namespace RecordMapper

open Operation

/-! ### Calls and runs -/

/-- A call on a client. -/
inductive ClientCall where
  | connect
  | ensureConnected
  | disconnect
  | launch
  | shutdown
  | execute (sql : String) (params : List Value)
  | healthCheck
  | probe
  | reconnect

namespace ClientCall

/-- What a call does with any adapter, apart from the answer that it gives. -/
def through (a : AdapterCalls) : ClientCall → Operation Unit
  | connect => a.connectClient
  | ensureConnected => a.ensureConnected
  | disconnect => a.disconnectClient
  | launch => a.launch
  | shutdown => a.shutdown
  | execute sql params => discard (a.run sql params)
  | healthCheck => discard a.healthCheck
  | probe => a.probe
  | reconnect => a.reconnect

/-- What a call does with the adapters of the library. -/
abbrev operation : ClientCall → Operation Unit := through .library

end ClientCall

/-- What happens in a run: a call, or the store turns to other answers and failures. -/
inductive Move where
  | call (c : ClientCall)
  | turn (next : Store)

/-- The system with a store that will do what another one would; what has reached it stays. -/
def System.turnTo (next : Store) (s : System) : System := { s with store := { next with events := s.store.events } }

/-- The system after a move. -/
def Move.after (does : ClientCall → Operation Unit) (s : System) : Move → System
  | call c => ((does c).perform s).2
  | turn next => s.turnTo next

/-- The system after some moves. -/
def runMoves (does : ClientCall → Operation Unit) (moves : List Move) (s : System) : System :=
  moves.foldl (Move.after does) s

/-- What holds at first, and what no call and no turn of the store changes, holds at every point of a run. -/
theorem runMoves_keeps {does : ClientCall → Operation Unit} {I : System → Prop} (hcall : ∀ c, Keeps I (does c)) :
    ∀ {moves : List Move}, (∀ next, Move.turn next ∈ moves → ∀ s, I s → I (s.turnTo next)) →
    ∀ {s : System}, I s → I (runMoves does moves s)
  | [], _, _, hs => hs
  | .call c :: _, hturn, s, hs =>
    runMoves_keeps hcall (fun next hnext => hturn next (List.mem_cons_of_mem _ hnext)) (hcall c s hs)
  | .turn next :: _, hturn, s, hs =>
    runMoves_keeps hcall (fun other hother => hturn other (List.mem_cons_of_mem _ hother))
      (hturn next List.mem_cons_self s hs)

/-! ### How connecting fails -/

section
variable {P : Failure → Prop} (a : AdapterCalls)

/-- Whatever the adapter does, trying to connect fails with nothing but the fault of a connection. -/
theorem AdapterCalls.fails_tryConnect {c : Config}
    (hfault : ∀ reason cause, Fails P (Client.connectionFault c reason cause)) (url : String) (options : Row) :
    ∀ left : Nat, Fails P (a.tryConnect c url options left)
  | 0 => Fails.pure _
  | left + 1 => by
    refine Fails.bind (Fails.outcome _) fun r => ?_
    cases r with
    | ok _ => exact Fails.change _
    | error failure =>
      exact Fails.ite (hfault _ _) (Fails.bind (Fails.change _) fun _ => fails_tryConnect hfault url options left)

variable {I : System → Prop}
  (hfault : ∀ s, I s → ∀ reason cause, Fails P (Client.connectionFault s.client.config reason cause))
include hfault

theorem AdapterCalls.failsFrom_connectClient : FailsFrom I P a.connectClient := by
  refine FailsFrom.look fun s _ => FailsFrom.ite (Fails.pure _).failsFrom (FailsFrom.locked _ ?_)
  refine FailsFrom.look fun s hs => FailsFrom.ite (Fails.pure _).failsFrom ?_
  exact (fails_tryConnect a (hfault s hs) _ _ _).failsFrom

theorem AdapterCalls.failsFrom_disconnectClient : FailsFrom I P a.disconnectClient := by
  have hended (result : Except Failure Unit) (h : ∀ e, result = .error e → P e) :
      Fails P (changeClient (fun s => { s with connected := false }) >>= fun _ => ofResult result) :=
    Fails.bind (Fails.change _) fun _ => Fails.ofResult h
  refine FailsFrom.look fun s _ => FailsFrom.ite (Fails.pure _).failsFrom (FailsFrom.locked _ ?_)
  refine FailsFrom.look fun s hs => FailsFrom.ite (Fails.pure _).failsFrom (Fails.failsFrom ?_)
  refine Fails.bind (Fails.outcome _) fun r => ?_
  cases r with
  | ok _ => exact hended (.ok ()) fun e he => by cases he
  | error failure =>
    refine Fails.outcomeBind (hfault s hs _ _) (fun _ => ?_) fun e he => ?_
    · exact hended (.ok ()) fun e he => by cases he
    · exact hended (.error e) fun e' he' => Except.error.inj he' ▸ he

end

/-! ### What every call keeps -/

/-- A property of systems that connecting keeps, and that does not mind what the client notes, nor its waits. -/
structure AdapterCalls.KeepConnecting (a : AdapterCalls) (I : System → Prop) : Prop where
  connect : ∀ url options, Keeps I (a.connect url options)
  changeClient : ∀ f, Keeps I (changeClient f)
  sleep : ∀ delay, Keeps I (sleep delay)

/-- A property of systems that adapters keep, and that does not mind what the client notes, nor its waits. -/
structure AdapterCalls.Keep (a : AdapterCalls) (I : System → Prop) : Prop extends AdapterCalls.KeepConnecting a I where
  disconnect : Keeps I a.disconnect
  execute : ∀ sql params, Keeps I (a.execute sql params)
  ping : Keeps I a.ping
  poolStats : Keeps I a.poolStats

theorem Client.keeps_connectionFault {I : System → Prop} (c : Config) (reason : String) (cause : Error) :
    Keeps I (connectionFault c reason cause) :=
  Keeps.bind (Keeps.ofResult _) fun _ => Keeps.throw _

theorem Client.keeps_startKeepAlive {I : System → Prop}
    (hnote : Keeps I (changeClient fun c => { c with keepAlive := .starting })) : Keeps I startKeepAlive := by
  refine Keeps.bind Keeps.system fun s => Keeps.ite (Keeps.pure _) (Keeps.ite (Keeps.pure _) ?_)
  exact Keeps.bind hnote fun _ => Keeps.pure _

/-- A report keeps what probing and asking for the pool keep. -/
theorem AdapterCalls.keeps_healthCheck {a : AdapterCalls} {I : System → Prop} (hping : Keeps I a.ping)
    (hpool : Keeps I a.poolStats) : Keeps I a.healthCheck := by
  have hchecked : Keeps I a.checkedPing := Keeps.bind Keeps.system fun s => Keeps.ite hping (Keeps.throw _)
  exact Keeps.bind Keeps.system fun _ => Keeps.bind (Keeps.outcome hchecked) fun _ =>
    Keeps.bind Keeps.system fun _ => Keeps.bind (Keeps.outcome hpool) fun _ =>
      Keeps.bind Keeps.system fun _ => Keeps.bind (Keeps.ofResult _) fun _ => Keeps.pure _

namespace AdapterCalls.KeepConnecting

variable {a : AdapterCalls} {I : System → Prop} (hI : a.KeepConnecting I)
include hI

theorem tryConnect (c : Config) (url : String) (options : Row) : ∀ left : Nat,
    Keeps I (a.tryConnect c url options left)
  | 0 => Keeps.pure _
  | left + 1 => by
    refine Keeps.bind (Keeps.outcome (hI.connect url options)) fun r => ?_
    cases r with
    | ok _ => exact hI.changeClient _
    | error failure =>
      refine Keeps.ite (Client.keeps_connectionFault _ _ _) ?_
      exact Keeps.bind (hI.sleep _) fun _ => tryConnect c url options left

theorem connectClient : Keeps I a.connectClient := by
  refine Keeps.bind Keeps.system fun s => Keeps.ite (Keeps.pure _) (Keeps.locked _ ?_)
  exact Keeps.bind Keeps.system fun s => Keeps.ite (Keeps.pure _) (hI.tryConnect _ _ _ _)

theorem ensureConnected : Keeps I a.ensureConnected := by
  refine Keeps.bind Keeps.system fun s => Keeps.ite hI.connectClient (Keeps.ite ?_ (Keeps.pure _))
  exact Keeps.bind (hI.changeClient _) fun _ => hI.connectClient

section
variable {sql : String} {params : List Value} (hexecute : Keeps I (a.execute sql (some params)))
include hexecute

theorem attempt : Keeps I (a.attempt sql params) := Keeps.bind hI.ensureConnected fun _ => hexecute

theorem attempts (c : Config) : ∀ left n : Nat, Keeps I (a.attempts c sql params n left)
  | 0, n => by
    refine Keeps.bind (Keeps.outcome (hI.attempt hexecute)) fun r => ?_
    cases r with
    | ok answer => exact Keeps.pure _
    | error failure =>
      dsimp only
      cases Client.judge failure <;> exact Keeps.throw _
  | left + 1, n => by
    refine Keeps.bind (Keeps.outcome (hI.attempt hexecute)) fun r => ?_
    cases r with
    | ok answer => exact Keeps.pure _
    | error failure =>
      dsimp only
      cases Client.judge failure with
      | final e => exact Keeps.throw _
      | again e =>
        exact Keeps.bind (Keeps.ofResult _) fun _ => Keeps.bind (hI.sleep _) fun _ => attempts c left (n + 1)

/-- However often a statement is tried, it keeps what connecting and one try keep. -/
theorem run : Keeps I (a.run sql params) :=
  Keeps.bind Keeps.system fun _ => hI.attempts hexecute _ _ _

end

end AdapterCalls.KeepConnecting

namespace AdapterCalls.Keep

variable {a : AdapterCalls} {I : System → Prop} (hI : a.Keep I)
include hI

theorem disconnectClient : Keeps I a.disconnectClient := by
  refine Keeps.bind Keeps.system fun s => Keeps.ite (Keeps.pure _) (Keeps.locked _ ?_)
  refine Keeps.bind Keeps.system fun s => Keeps.ite (Keeps.pure _) ?_
  have hcleared (result : Except Failure Unit) :
      Keeps I (Operation.changeClient (fun s => { s with connected := false }) >>= fun _ => ofResult result) :=
    Keeps.bind (hI.changeClient _) fun _ => Keeps.ofResult _
  refine Keeps.bind (Keeps.outcome hI.disconnect) fun r => ?_
  cases r with
  | ok _ => exact Keeps.bind (Keeps.pure _) fun result => hcleared result
  | error failure =>
    exact Keeps.bind (Keeps.outcome (Client.keeps_connectionFault _ _ _)) fun result => hcleared result

theorem reconnect : Keeps I a.reconnect := by
  refine Keeps.bind (Keeps.locked _ ?_) fun _ => hI.connectClient
  exact Keeps.bind (Keeps.outcome hI.disconnect) fun _ => hI.changeClient _

/-- Every call keeps it. -/
theorem through (c : ClientCall) : Keeps I (c.through a) := by
  cases c with
  | connect => exact hI.connectClient
  | ensureConnected => exact hI.ensureConnected
  | disconnect => exact hI.disconnectClient
  | launch =>
    exact Keeps.bind hI.connectClient fun _ =>
      Keeps.bind (Client.keeps_startKeepAlive (hI.changeClient _)) fun _ => Keeps.pure _
  | shutdown => exact Keeps.bind (hI.changeClient _) fun _ => hI.disconnectClient
  | execute sql params => exact Keeps.bind (hI.run (hI.execute sql (some params))) fun _ => Keeps.pure _
  | healthCheck => exact Keeps.bind (keeps_healthCheck hI.ping hI.poolStats) fun _ => Keeps.pure _
  | probe =>
    refine Keeps.bind (Keeps.outcome hI.ping) fun r => ?_
    cases r with
    | ok _ => exact Keeps.pure _
    | error _ => exact hI.reconnect
  | reconnect => exact hI.reconnect

end AdapterCalls.Keep

end RecordMapper
