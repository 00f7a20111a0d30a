import RecordMapper.Model.Rounds
import RecordMapper.Proofs.ClientRuns
import RecordMapper.Proofs.Requests

/-!
What a client lets through. `Sends kind P` says of a system that its adapter is of this kind and that every request
that has reached its store has the property `P`. Main statement: a client that runs a statement adds no request but
the one that its adapter makes of the statement and the one by which a file is opened, however often it tries and
whether or not it has to connect first. Readings in rounds add what their questions add.
-/
namespace RecordMapper

/-- The adapter is of a kind, and every request that has reached the store has a property. -/
structure Sends (kind : AdapterKind) (P : Request → Prop) (s : System) : Prop where
  kind : s.adapter.kind = kind
  requests : ∀ x ∈ s.store.requests, P x

/-- What is requested when a file is opened. -/
def openingRequest : Request := ("PRAGMA foreign_keys=ON", none)

variable {kind : AdapterKind} {P : Request → Prop}

theorem aboutRequests_sends : AboutRequests (Sends kind P) :=
  fun _ _ hkind hrequests hs => ⟨hkind.trans hs.kind, fun x hx => hs.requests x (hrequests ▸ hx)⟩

open Operation

/-- Adapters do not disturb it, if the requests among their events have the property. -/
theorem undisturbed_sends : Undisturbed (fun e => ∀ x, e.request? = some x → P x) (Sends kind P) where
  emit {e} he := by
    cases hrequest : e.request? with
    | none => exact aboutRequests_sends.undisturbed.emit hrequest
    | some x =>
      intro s hs
      refine ⟨hs.kind, fun y hy => ?_⟩
      rw [perform_emit, Store.requests_emit, List.mem_append, hrequest] at hy
      rcases hy with hy | hy
      · exact hs.requests y hy
      · rw [List.mem_singleton.1 hy]
        exact he x hrequest
  reply := aboutRequests_sends.undisturbed.reply
  nextConnect := aboutRequests_sends.undisturbed.nextConnect
  changeAdapter hf := aboutRequests_sends.undisturbed.changeAdapter hf

namespace Adapter

/-! ### Adapters -/

theorem sends_connect (hopen : P openingRequest) (url : String) (options : Row) :
    Keeps (Sends kind P) (connect url options) := by
  refine keeps_connect undisturbed_sends (fun e he x hx => ?_) url options
  cases e with
  | execute sql params =>
    obtain ⟨rfl, rfl⟩ := he
    cases hx
    exact hopen
  | _ => cases hx

theorem sends_execute {sql : String} {params : List Value} (hsent : ∀ x, kind.request sql params = .ok x → P x) :
    Keeps (Sends kind P) (execute sql (some params)) := by
  intro s hs
  obtain ⟨hkind, hrequests⟩ := perform_execute sql params s
  refine ⟨hkind.trans hs.kind, fun x hx => ?_⟩
  rw [hrequests, List.mem_append, hs.kind] at hx
  rcases hx with hx | hx
  · exact hs.requests x hx
  · refine hsent x ?_
    cases hr : kind.request sql params with
    | error e => simp [hr, Except.toOption] at hx
    | ok y =>
      split at hx
      · rw [hr] at hx
        rw [List.mem_singleton.1 hx]
      · cases hx

end Adapter

namespace Client

/-! ### Clients -/

/-- Connecting requests nothing but the opening of a file. -/
theorem keeps_connecting (hopen : P openingRequest) : AdapterCalls.library.KeepConnecting (Sends kind P) where
  connect := Adapter.sends_connect hopen
  changeClient _ := aboutRequests_sends.changeClient _
  sleep _ := aboutRequests_sends.undisturbed.emit rfl

/-- However often a statement is tried, nothing is requested but what the adapter makes of it, and the opening of a
file if the client has to connect first. -/
theorem keeps_execute (hopen : P openingRequest) {sql : String} {params : List Value}
    (hsent : ∀ x, kind.request sql params = .ok x → P x) : Keeps (Sends kind P) (execute sql params) :=
  (keeps_connecting hopen).run (Adapter.sends_execute hsent)

end Client

namespace Rounds

/-! ### Readings -/

/-- Every question that a reading may ask has a property, whatever the answers to the earlier ones are. -/
def Asks {α : Type} (Q : Question → Prop) : Rounds α → Prop
  | done _ => True
  | ask questions next => (∀ q ∈ questions, Q q) ∧ ∀ answers, Asks Q (next answers)

theorem keeps_askAll (hopen : P openingRequest) : ∀ questions : List Question,
    (∀ q ∈ questions, ∀ x, kind.request q.sql q.bindings = .ok x → P x) → Keeps (Sends kind P) (askAll questions)
  | [], _ => Keeps.pure _
  | q :: rest, h => by
    have hrest := keeps_askAll hopen rest fun p hp => h p (List.mem_cons_of_mem _ hp)
    exact Keeps.bind (Keeps.outcome (Client.keeps_execute hopen (h q List.mem_cons_self))) fun _ =>
      Keeps.bind hrest fun _ => Keeps.pure _

/-- A reading requests what the adapter makes of its questions, and the opening of a file. -/
theorem keeps_perform {α : Type} (hopen : P openingRequest) {Q : Question → Prop}
    (hsent : ∀ q, Q q → ∀ x, kind.request q.sql q.bindings = .ok x → P x) :
    ∀ p : Rounds α, p.Asks Q → Keeps (Sends kind P) p.perform
  | done _, _ => Keeps.pure _
  | ask questions next, h =>
    Keeps.bind (keeps_askAll hopen questions fun q hq => hsent q (h.1 q hq)) fun answers =>
      keeps_perform hopen hsent (next answers) (h.2 answers)

end Rounds

end RecordMapper
