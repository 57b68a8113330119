import SampleLoad.Proofs.Store.Exchange
import SampleLoad.Proofs.Web.OpenCalls

/-!
What goes out while a client is at work. However requests are answered, what the client sends are requests for
endpoints of its settings, made with these settings, and none of them is taken back. Main statement:
`WebApi.converse_adds`.
-/

namespace SampleLoad.WebApi

/-- Whatever went out before, the program adds some requests of one kind and comes to a result of one kind. -/
def Adds {α : Type} (Fits : Request → Prop) (Result : α → Prop) (prog : StateM (List Request) α) : Prop :=
  ∀ history, Result (prog.run history).1 ∧
    ∃ sent, (prog.run history).2 = history ++ sent ∧ ∀ r ∈ sent, Fits r

/-- The requests that settings lead to. -/
def Addresses (config : WebApiConfig) (r : Request) : Prop :=
  ∃ segments url method body?, config.endpoint segments = .ok url ∧ r = request config method url body?

/-- A client connects and, if it is taken, performs calls. -/
def Http.converse {m : Type → Type} [Monad m] (http : Http m) (config : WebApiConfig) (calls : List StoreCall) :
    m (Except StoreError (List Exchange)) := do
  match ← http.connect config with
  | .error e => pure (.error e)
  | .ok session =>
    let (exchanges, _) ← (performAll http.store calls).run session
    pure (.ok exchanges)

namespace Adds

variable {α β : Type} {Fits Fits' : Request → Prop} {Result : α → Prop} {After : β → Prop}

theorem pure {value : α} (h : Result value) : Adds Fits Result (Pure.pure value) := by
  intro history
  exact ⟨h, [], (List.append_nil history).symm, by simp⟩

theorem bind {prog : StateM (List Request) α} {next : α → StateM (List Request) β} (h : Adds Fits Result prog)
    (hnext : ∀ value, Result value → Adds Fits After (next value)) : Adds Fits After (prog >>= next) := by
  intro history
  obtain ⟨hresult, sent, hsent, hfits⟩ := h history
  obtain ⟨hafter, later, hlater, hlaterFits⟩ := hnext _ hresult (prog.run history).2
  rw [StateT.run_bind]
  refine ⟨hafter, sent ++ later, ?_, ?_⟩
  · rw [← List.append_assoc, ← hsent]
    exact hlater
  · intro r hr
    rcases List.mem_append.mp hr with hbefore | hbehind
    · exact hfits r hbefore
    · exact hlaterFits r hbehind

theorem mono {prog : StateM (List Request) α} (h : Adds Fits Result prog) (hfits : ∀ r, Fits r → Fits' r) :
    Adds Fits' Result prog := by
  intro history
  obtain ⟨hresult, sent, hsent, hsentFits⟩ := h history
  exact ⟨hresult, sent, hsent, fun r hr => hfits r (hsentFits r hr)⟩

end Adds

/-! ### Single calls -/

theorem Stands.addresses {config : WebApiConfig} {call : StoreCall} {r : Request} (h : Stands config call r) :
    Addresses config r := by
  cases h with
  | «exists» hr =>
      obtain ⟨url, hurl, rfl⟩ := hr
      exact ⟨_, url, .get, none, hurl, rfl⟩
  | create hr =>
      obtain ⟨url, hurl, rfl⟩ := hr
      exact ⟨_, url, .post, _, hurl, rfl⟩
  | drop hr =>
      obtain ⟨url, hurl, rfl⟩ := hr
      exact ⟨_, url, .delete, _, hurl, rfl⟩
  | write hone hfinite hr =>
      obtain ⟨url, arrays, hurl, -, rfl⟩ := hr
      exact ⟨_, url, .put, _, hurl, rfl⟩

section Client

variable (service : Service) {config : WebApiConfig}

theorem Service.http_adds (r : Request) : Adds (· = r) (fun _ => True) (service.http r) := by
  intro before
  refine ⟨trivial, ?_⟩
  rcases service.once r before with ⟨reply, hrun⟩ | ⟨text, hrun⟩ <;> rw [hrun]
  · exact ⟨[r], rfl, fun _ hmem => List.mem_singleton.mp hmem⟩
  · exact ⟨[], (List.append_nil before).symm, by simp⟩

theorem send_adds {r : Request} (hr : Addresses config r) :
    Adds (Addresses config) (fun _ => True) (service.http.send r) := by
  refine ((service.http_adds r).mono fun _ hsame => hsame ▸ hr).bind fun reply _ => ?_
  cases reply <;> exact .pure trivial

variable (config) in
theorem performOpen_adds (call : StoreCall) :
    Adds (Addresses config) (fun _ => True) (service.http.performOpen config call) := by
  rcases service.http.performOpen_eq config call with ⟨r, hr, hperform⟩ | ⟨answer, -, hperform⟩
  · rw [hperform, map_eq_pure_bind]
    exact ((service.http_adds r).mono fun _ hsame => hsame ▸ hr.addresses).bind fun reply _ => .pure trivial
  · rw [hperform]
    exact .pure trivial

/-! ### Sessions -/

/-- A call leaves the settings of its session alone. -/
theorem perform_adds (call : StoreCall) {session : Session} (hsession : session.config = config) :
    Adds (Addresses config) (fun result => result.2.config = config)
      ((service.http.store.perform call).run session) := by
  show Adds _ _ (service.http.perform call session)
  unfold Http.perform
  split
  · exact .pure hsession
  · rw [hsession]
    exact (performOpen_adds service config call).bind fun answer _ => .pure rfl

theorem performAll_adds (calls : List StoreCall) {session : Session} (hsession : session.config = config) :
    Adds (Addresses config) (fun result => result.2.config = config)
      ((performAll service.http.store calls).run session) := by
  induction calls generalizing session with
  | nil => exact .pure hsession
  | cons call rest ih =>
      rw [performAll, StateT.run_bind]
      refine (perform_adds service call hsession).bind fun result hresult => ?_
      rw [StateT.run_bind]
      exact (ih hresult).bind fun later hlater => .pure hlater

variable (config) in
/-- A session that is opened has the settings. -/
theorem connect_adds :
    Adds (Addresses config) (fun result => ∀ session, result = .ok session → session.config = config)
      (service.http.connect config) := by
  have hfailed (e : StoreError) (session : Session) :
      (.error e : Except StoreError Session) = .ok session → session.config = config := by
    intro h
    cases h
  rw [Http.connect]
  cases hurl : config.endpoint ["checkConnection"] with
  | error e => exact .pure (hfailed e)
  | ok url =>
      refine (send_adds service ⟨_, url, .get, none, hurl, rfl⟩).bind fun reply _ => ?_
      cases reply with
      | error e => exact .pure (hfailed e)
      | ok response =>
          dsimp only
          cases accepted response with
          | error e => exact .pure (hfailed _)
          | ok checked =>
              refine .pure fun session h => ?_
              cases h
              rfl

/-- Everything that goes out is a request for an endpoint of the settings. -/
theorem converse_adds (config : WebApiConfig) (calls : List StoreCall) :
    Adds (Addresses config) (fun _ => True) (service.http.converse config calls) := by
  refine (connect_adds service config).bind fun reply hreply => ?_
  cases reply with
  | error e => exact .pure trivial
  | ok session => exact (performAll_adds service calls (hreply session rfl)).bind fun _ _ => .pure trivial

end Client

end SampleLoad.WebApi
