import SampleLoad.Web.Client

/-!
Where requests go. All endpoints of a session lie below one base, and names of the interface itself stand in
paths as they are. Whether a request can be sent depends on the length of its URL, so an endpoint can be reached
if one with a longer last name can. Main statement: `WebApi.Reachable.replaceLast`.
-/

namespace SampleLoad

namespace UrlPath

/-- The last names of endpoints. -/
def endpointNames : List String := ["checkConnection", "containers", "info", "rows"]

/-- In URLs of the web, names of endpoints are added as they are. -/
theorem push_endpointName {name : String} (hname : name ∈ endpointNames) (path : List String) :
    push .special path name = (if path = [""] then [] else path) ++ [name] := by
  simp only [endpointNames, List.mem_cons, List.not_mem_nil, or_false] at hname
  rcases hname with rfl | rfl | rfl | rfl <;> rfl

theorem text_append (path : List String) (segment : String) :
    text (path ++ [segment]) = text path ++ ("/" ++ segment) := by
  simp [text]

end UrlPath

namespace WebApi

/-- Nothing but its length decides between URLs that differ in their paths. -/
theorem isSendable_path_iff {u : Url} {other : List String} (h : isSendable { u with path? := some other } = true)
    (path : List String) :
    isSendable { u with path? := some path } = true ↔
      ({ u with path? := some path } : Url).text.utf8ByteSize ≤ 65534 := by
  simp only [isSendable, Bool.and_eq_true, decide_eq_true_iff] at h ⊢
  exact ⟨fun hpath => hpath.1.2, fun hlength => ⟨⟨h.1.1, hlength⟩, h.2⟩⟩

theorem isSendable_of_shorter {u : Url} {path longer : List String}
    (hshorter : (UrlPath.text path).utf8ByteSize ≤ (UrlPath.text longer).utf8ByteSize)
    (h : isSendable { u with path? := some longer } = true) : isSendable { u with path? := some path } = true := by
  have hlength := (isSendable_path_iff h longer).mp h
  rw [isSendable_path_iff h]
  simp only [Url.text, Url.authorityText, Url.userinfoText, Url.pathText, Url.queryText, Url.fragmentText,
    String.utf8ByteSize_append] at hlength ⊢
  omega

theorem path_le_text (u : Url) (path : List String) :
    (UrlPath.text path).utf8ByteSize ≤ ({ u with path? := some path } : Url).text.utf8ByteSize := by
  simp only [Url.text, Url.pathText, String.utf8ByteSize_append]
  omega

/-- Taking credentials out of a URL leaves its path alone. -/
theorem takeCredentials_path (u : Url) (path : List String) :
    (takeCredentials { u with path? := some path }).2 = { (takeCredentials u).2 with path? := some path } := by
  unfold takeCredentials
  dsimp only
  split
  · rfl
  · split <;> rfl

theorem takeCredentials_scheme (u : Url) : (takeCredentials u).2.scheme = u.scheme := by
  unfold takeCredentials
  split
  · rfl
  · dsimp only
    split <;> rfl

theorem kind_of_isSendable {u : Url} (h : isSendable u = true) : u.kind = .special := by
  simp only [isSendable, Bool.and_eq_true, Bool.or_eq_true, decide_eq_true_iff] at h
  rcases h.1.1.2 with hscheme | hscheme <;> rw [Url.kind, hscheme] <;> rfl

end WebApi

/-- All endpoints of the settings lie below one base, and differ from the URL of the settings in the path only. -/
theorem WebApiConfig.exists_base {config : WebApiConfig} {segments : List String} {url : Url}
    (h : config.endpoint segments = .ok url) :
    ∃ (u : Url) (base : List String), Url.parse config.url = .ok u ∧ ∀ below,
      config.endpoint below = .ok { u with path? := some (below.foldl (UrlPath.push u.kind) base) } := by
  cases hparse : Url.parse config.url with
  | error e =>
      rw [endpoint, hparse] at h
      cases h
  | ok u =>
      cases hpath : u.path? with
      | none =>
          simp only [endpoint, hparse, Url.extend?, hpath] at h
          cases h
      | some path =>
          refine ⟨u, ["griddb", "v2", config.cluster, "dbs", config.database].foldl (UrlPath.push u.kind)
            (UrlPath.popIfEmpty path), rfl, fun below => ?_⟩
          simp only [endpoint, hparse, Url.extend?, hpath, Option.map_some, List.foldl_append]

namespace WebApi

/-- There is an endpoint for everything. -/
def HasEndpoints (config : WebApiConfig) : Prop := ∀ segments, ∃ url, config.endpoint segments = .ok url

theorem hasEndpoints_of_ok {config : WebApiConfig} {segments : List String} {url : Url}
    (h : config.endpoint segments = .ok url) : HasEndpoints config := by
  obtain ⟨u, base, -, hbelow⟩ := WebApiConfig.exists_base h
  exact fun below => ⟨_, hbelow below⟩

theorem not_hasEndpoints {config : WebApiConfig} {segments : List String} {e : StoreError}
    (h : config.endpoint segments = .error e) : ¬HasEndpoints config := by
  intro hends
  obtain ⟨url, hurl⟩ := hends segments
  cases h.symm.trans hurl

/-- Requests can be sent to an endpoint. -/
def Reachable (config : WebApiConfig) (segments : List String) : Prop :=
  ∃ url, config.endpoint segments = .ok url ∧ isSendable (takeCredentials url).2 = true

theorem Reachable.hasEndpoints {config : WebApiConfig} {segments : List String} (h : Reachable config segments) :
    HasEndpoints config := by
  obtain ⟨url, hurl, -⟩ := h
  exact hasEndpoints_of_ok hurl

/-- If one endpoint can be reached, only their lengths decide about the others. -/
theorem Reachable.isSendable_iff {config : WebApiConfig} {segments below : List String} {url : Url}
    (h : Reachable config segments) (hurl : config.endpoint below = .ok url) :
    isSendable (takeCredentials url).2 = true ↔ (takeCredentials url).2.text.utf8ByteSize ≤ 65534 := by
  obtain ⟨known, hknown, hsendable⟩ := h
  obtain ⟨u, base, -, hbelow⟩ := WebApiConfig.exists_base hurl
  cases hurl.symm.trans (hbelow below)
  cases hknown.symm.trans (hbelow segments)
  rw [takeCredentials_path] at hsendable ⊢
  exact isSendable_path_iff hsendable _

/-- An endpoint with a shorter last name can be reached as well. -/
theorem Reachable.replaceLast {config : WebApiConfig} {before : List String} {last other : String}
    (h : Reachable config (before ++ [last])) (hlast : last ∈ UrlPath.endpointNames)
    (hother : other ∈ UrlPath.endpointNames) (hshorter : other.utf8ByteSize ≤ last.utf8ByteSize) :
    Reachable config (before ++ [other]) := by
  obtain ⟨url, hurl, hsendable⟩ := h
  obtain ⟨u, base, -, hbelow⟩ := WebApiConfig.exists_base hurl
  have hkind : u.kind = .special := by
    have hspecial := kind_of_isSendable hsendable
    rw [hbelow] at hurl
    cases hurl
    rw [takeCredentials_path, Url.kind] at hspecial
    rw [Url.kind, ← takeCredentials_scheme]
    exact hspecial
  refine ⟨_, hbelow (before ++ [other]), ?_⟩
  rw [hbelow] at hurl
  cases hurl
  rw [takeCredentials_path, List.foldl_append, hkind] at hsendable ⊢
  refine isSendable_of_shorter ?_ hsendable
  simp only [List.foldl_cons, List.foldl_nil, UrlPath.push_endpointName hlast, UrlPath.push_endpointName hother,
    UrlPath.text_append, String.utf8ByteSize_append]
  omega

end WebApi

end SampleLoad
