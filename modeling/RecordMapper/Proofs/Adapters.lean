import RecordMapper.Adapter.Operations
import RecordMapper.Proofs.Operation

/-!
What adapters leave alone. An adapter that runs a statement or probes only lets events through and takes what the store
has for it; one that connects or disconnects also changes itself, but for its kind. `UndisturbedByStatements` and
`Undisturbed` say of a property of systems that it survives each of these; so it survives what adapters do as a whole.
-/
namespace RecordMapper

open Operation

/-- A property of systems that no step of a statement disturbs, if the event of the step is one that passes. -/
structure UndisturbedByStatements (passes : Event → Prop) (I : System → Prop) : Prop where
  emit : ∀ {e : Event}, passes e → Keeps I (emit e)
  reply : Keeps I reply

/-- A property of systems that no step of an adapter disturbs, if the event of the step is one that passes. -/
structure Undisturbed (passes : Event → Prop) (I : System → Prop) : Prop
    extends UndisturbedByStatements passes I where
  nextConnect : Keeps I nextConnect
  changeAdapter : ∀ {f : Adapter → Adapter}, (∀ a, (f a).kind = a.kind) → Keeps I (changeAdapter f)

/-- The events of connecting. -/
def Event.IsOpening : Event → Prop
  | .connect _ _ | .createPool _ | .openFile _ _ => True
  | .execute sql params => sql = "PRAGMA foreign_keys=ON" ∧ params = none
  | _ => False

/-- The events of a statement. -/
def Event.IsStatement : Event → Prop
  | .execute _ _ | .commit | .cursorClose => True
  | _ => False

/-- The events of a probe. -/
def Event.IsProbe : Event → Prop
  | .ping | .execute _ _ | .cursorClose => True
  | _ => False

/-- The events of disconnecting. -/
def Event.IsClosing : Event → Prop
  | .disconnect | .poolClose | .poolWaitClosed | .close => True
  | _ => False

namespace Adapter

/-! ### Connections -/

section
variable {passes : Event → Prop} {I : System → Prop} (hI : Undisturbed passes I)
include hI

theorem keeps_connect (hopening : ∀ e : Event, e.IsOpening → passes e) (url : String) (options : Row) :
    Keeps I (connect url options) := by
  refine Keeps.bind Keeps.system fun s => ?_
  split
  · exact Keeps.bind (hI.emit (hopening _ trivial)) fun _ => Keeps.bind Keeps.yield fun _ =>
      Keeps.bind hI.nextConnect fun _ => hI.changeAdapter fun _ => rfl
  · refine Keeps.bind Keeps.system fun s => Keeps.ite (Keeps.pure _) ?_
    exact Keeps.bind (Keeps.ofResult _) fun _ => Keeps.bind (hI.emit (hopening _ trivial)) fun _ =>
      Keeps.bind Keeps.yield fun _ => Keeps.bind hI.nextConnect fun _ => hI.changeAdapter fun _ => rfl
  · refine Keeps.bind Keeps.system fun s => Keeps.ite (Keeps.pure _) (Keeps.locked _ ?_)
    refine Keeps.bind Keeps.system fun s => Keeps.ite (Keeps.pure _) ?_
    exact Keeps.bind (hI.emit (hopening _ trivial)) fun _ => Keeps.bind Keeps.yield fun _ =>
      Keeps.bind hI.nextConnect fun _ => Keeps.bind (hI.changeAdapter fun _ => rfl) fun _ =>
        Keeps.bind (hI.emit (hopening _ ⟨rfl, rfl⟩)) fun _ => hI.changeAdapter fun _ => rfl

theorem keeps_disconnect (hclosing : ∀ e : Event, e.IsClosing → passes e) : Keeps I disconnect := by
  refine Keeps.bind Keeps.system fun s => ?_
  split
  · exact Keeps.bind (hI.emit (hclosing _ trivial)) fun _ => Keeps.bind Keeps.yield fun _ =>
      Keeps.bind Keeps.system fun _ => Keeps.bind (Keeps.failWith? _) fun _ => hI.changeAdapter fun _ => rfl
  · refine Keeps.bind Keeps.system fun s => Keeps.ite (Keeps.pure _) (Keeps.ite ?_ (hI.changeAdapter fun _ => rfl))
    exact Keeps.bind (hI.emit (hclosing _ trivial)) fun _ => Keeps.bind (hI.emit (hclosing _ trivial)) fun _ =>
      Keeps.bind Keeps.yield fun _ => Keeps.bind Keeps.system fun _ => Keeps.bind (Keeps.failWith? _) fun _ =>
        Keeps.bind (hI.changeAdapter fun _ => rfl) fun _ => hI.changeAdapter fun _ => rfl
  · refine Keeps.bind Keeps.system fun s => Keeps.ite (Keeps.pure _) (Keeps.locked _ ?_)
    refine Keeps.bind Keeps.system fun s => Keeps.ite ?_ (hI.changeAdapter fun _ => rfl)
    exact Keeps.bind (hI.emit (hclosing _ trivial)) fun _ => Keeps.bind Keeps.yield fun _ =>
      Keeps.bind Keeps.system fun _ => Keeps.bind (Keeps.failWith? _) fun _ =>
        Keeps.bind (hI.changeAdapter fun _ => rfl) fun _ => hI.changeAdapter fun _ => rfl

end

/-! ### Cursors -/

/-- A cursor is used without a disturbance if its commit and its closing are none. -/
theorem keeps_use {I : System → Prop} (hcommit : Keeps I (emit .commit)) (hclose : Keeps I (emit .cursorClose))
    (c : FileCursor) : Keeps I c.use := by
  refine Keeps.ensuring ?_ (Keeps.bind hclose fun _ => Keeps.failWith? _)
  rw [FileCursor.finish]
  split
  · exact Keeps.bind (Keeps.ofResult _) fun _ => Keeps.pure _
  · exact Keeps.bind hcommit fun _ => Keeps.bind (Keeps.failWith? _) fun _ => Keeps.pure _

/-- The use of a cursor fails as one of the calls on it does. -/
theorem fails_use {P : Failure → Prop} {c : FileCursor} (hrows : ∀ e, c.rows = some (.error e) → P (.ofError e))
    (hcommit : ∀ e, c.commitError = some e → P (.ofError e)) (hclose : ∀ e, c.closeError = some e → P (.ofError e)) :
    Fails P c.use := by
  refine Fails.ensuring ?_ (Fails.bind (Fails.change _) fun _ => Fails.failWith? hclose)
  rw [FileCursor.finish]
  split
  · rename_i fetched hfetched
    refine Fails.bind (Fails.ofResult fun e he => ?_) fun _ => Fails.pure _
    cases fetched with
    | ok rows => cases he
    | error error =>
      cases he
      exact hrows error hfetched
  · exact Fails.bind (Fails.change _) fun _ => Fails.bind (Fails.failWith? hcommit) fun _ => Fails.pure _

/-! ### Statements -/

section
variable {passes : Event → Prop} {I : System → Prop} (hI : UndisturbedByStatements passes I)
include hI

theorem keeps_executeStub (hstatement : ∀ e : Event, e.IsStatement → passes e) (sql : String)
    (params : Option (List Value)) : Keeps I (executeStub sql params) := by
  refine Keeps.bind (hI.emit (hstatement _ trivial)) fun _ => Keeps.bind hI.reply fun r => ?_
  cases r with
  | fail e => exact Keeps.throw _
  | rows | count | value => exact Keeps.pure _

theorem keeps_executeServer (hstatement : ∀ e : Event, e.IsStatement → passes e) (sql : String)
    (params : Option (List Value)) : Keeps I (executeServer sql params) := by
  refine Keeps.bind Keeps.system fun s => Keeps.ite (Keeps.throwBind _ _) ?_
  refine Keeps.bind (Keeps.ofResult _) fun (sql, bindings) => Keeps.ite (Keeps.throwBind _ _) ?_
  refine Keeps.bind (hI.emit (hstatement _ trivial)) fun _ => Keeps.bind hI.reply fun r => ?_
  cases r with
  | fail e => exact Keeps.throw _
  | rows | count | value => exact Keeps.pure _

theorem keeps_executeFile (hstatement : ∀ e : Event, e.IsStatement → passes e) (sql : String)
    (params : Option (List Value)) : Keeps I (executeFile sql params) := by
  refine Keeps.bind Keeps.system fun s => Keeps.ite (Keeps.throwBind _ _) ?_
  refine Keeps.bind (Keeps.ofResult _) fun (sql, bindings) => Keeps.locked _ ?_
  refine Keeps.bind Keeps.system fun s => Keeps.ite (Keeps.throwBind _ _) ?_
  dsimp only
  rw [FileDriver.send_scripted]
  refine Keeps.bind (hI.emit (hstatement _ trivial)) fun _ => Keeps.bind hI.reply fun r => ?_
  split
  · exact Keeps.throw _
  · exact keeps_use (hI.emit (hstatement _ trivial)) (hI.emit (hstatement _ trivial)) _

theorem keeps_execute (hstatement : ∀ e : Event, e.IsStatement → passes e) (sql : String)
    (params : Option (List Value)) : Keeps I (execute sql params) := by
  refine Keeps.bind Keeps.system fun s => ?_
  split
  · exact keeps_executeStub hI hstatement sql params
  · exact keeps_executeServer hI hstatement sql params
  · exact keeps_executeFile hI hstatement sql params

/-- Probing does not disturb what does not mind the time either. -/
theorem keeps_ping (hprobe : ∀ e : Event, e.IsProbe → passes e)
    (htime : Keeps I (change fun s => { s with store := s.store.wait s.store.pingLatency })) : Keeps I ping := by
  have hprobed : Keeps I probe := by
    refine Keeps.bind (hI.emit (hprobe _ trivial)) fun _ => Keeps.bind hI.reply fun r => ?_
    cases r with
    | fail e => exact Keeps.throw _
    | rows | count | value => exact Keeps.pure _
  refine Keeps.bind Keeps.system fun s => ?_
  split
  · exact Keeps.bind (hI.emit (hprobe _ trivial)) fun _ => Keeps.bind htime fun _ =>
      Keeps.bind Keeps.system fun _ => Keeps.failWith? _
  · refine Keeps.bind Keeps.system fun s => Keeps.ite (Keeps.throwBind _ _) ?_
    exact Keeps.ite (Keeps.throwBind _ _) hprobed
  · refine Keeps.bind Keeps.system fun s => Keeps.ite (Keeps.throwBind _ _) (Keeps.locked _ ?_)
    refine Keeps.bind Keeps.system fun s => Keeps.ite (Keeps.throwBind _ _) ?_
    exact Keeps.bind hprobed fun _ => hI.emit (hprobe _ trivial)

end

theorem keeps_poolStats {I : System → Prop} : Keeps I poolStats := by
  refine Keeps.bind Keeps.system fun s => ?_
  split
  · exact Keeps.bind (Keeps.failWith? _) fun _ => Keeps.pure _
  · exact Keeps.pure _
  · exact Keeps.pure _

end Adapter

end RecordMapper
