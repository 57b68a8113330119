import SampleLoad.Proofs.Url.Basic
import SampleLoad.Proofs.Url.Path
import SampleLoad.Proofs.Web.Endpoint

/-!
Names in endpoints. The endpoint of the rows of a container has the path of the base, and behind it eight segments
that spell the names on the way to the container, as long as cluster, database and container have plain names and
the path of the base is not two empty segments. Then different containers have different endpoints. A name that is
not plain is not spelled by any segment. Main statement: `WebApiConfig.endpoint_spells_names`.
-/

namespace SampleLoad

namespace UrlPath

/-- A path without the empty segment at its end. -/
def withoutLastEmpty (path : List String) : List String := if path.getLast? = some "" then path.dropLast else path

/-- Where the first name is added to a path. -/
def start (path : List String) : List String := if popIfEmpty path = [""] then [] else popIfEmpty path

theorem popIfEmpty_of_two (first second : String) (rest : List String) :
    popIfEmpty (first :: second :: rest) = withoutLastEmpty (first :: second :: rest) := by
  simp [popIfEmpty, withoutLastEmpty]

/-- Names are added behind the path, unless it is two empty segments, of which none stays. -/
theorem start_eq {path : List String} (hpath : path ≠ ["", ""]) : start path = withoutLastEmpty path := by
  match path with
  | [] => rfl
  | [segment] =>
    by_cases hempty : segment = ""
    · subst hempty
      rfl
    · simp [start, popIfEmpty, withoutLastEmpty, hempty]
  | first :: second :: rest =>
    rw [start, popIfEmpty_of_two, if_neg]
    intro hshort
    unfold withoutLastEmpty at hshort
    split at hshort
    · rename_i hlast
      cases rest with
      | nil =>
          obtain rfl : first = "" := (List.cons.inj hshort).1
          obtain rfl : second = "" := Option.some.inj hlast
          exact hpath rfl
      | cons third rest => simp at hshort
    · simp at hshort

theorem start_head {path : List String} (h : IsFilePath path) : (start path).head? ≠ some "" := by
  rcases h with rfl | hhead
  · decide
  match path, hhead with
  | [], _ => decide
  | [segment], hhead =>
    have hempty : segment ≠ "" := fun hempty => hhead (congrArg some hempty)
    simp [start, popIfEmpty, hempty]
  | first :: second :: rest, hhead =>
    have hempty : first ≠ "" := fun hempty => hhead (congrArg some hempty)
    obtain ⟨tail, htail⟩ : ∃ tail, withoutLastEmpty (first :: second :: rest) = first :: tail := by
      unfold withoutLastEmpty
      split
      · exact ⟨_, List.dropLast_cons_cons⟩
      · exact ⟨_, rfl⟩
    rw [start, popIfEmpty_of_two, htail, if_neg fun hshort => hempty (List.cons.inj hshort).1]
    exact hhead

theorem start_append_head {path : List String} (h : IsFilePath path) {name : String} (hname : name ≠ "")
    (rest : List String) : (start path ++ name :: rest).head? ≠ some "" := by
  have hhead := start_head h
  cases hstart : start path with
  | nil => exact fun hempty => hname (Option.some.inj hempty)
  | cons first others =>
      rw [hstart] at hhead
      exact hhead

theorem settled_start {kind : SchemeKind} {path : List String} (h : kind = .file → IsFilePath path) :
    Settled kind (start path ++ ["griddb", "v2"]) := by
  refine ⟨?_, fun hfile => start_append_head (h hfile) (by decide) _⟩
  rw [List.length_append]
  exact Nat.le_add_left 2 _

/-- The first names of an endpoint. They are no dots and no drive letters, so that it makes no difference to them
whether there is a segment before. -/
theorem add_firstName {name : String} (hname : name ∈ ["griddb", "v2"]) (kind : SchemeKind) (before : List String) :
    add kind before name.toList true = before ++ [name] := by
  simp only [List.mem_cons, List.not_mem_nil, or_false] at hname
  rcases hname with rfl | rfl <;> cases kind <;> cases before <;> rfl

theorem encode_firstName : ∀ name ∈ ["griddb", "v2"], ∀ kind : SchemeKind,
    Percent.encode (reserved kind) (kept name) = name.toList := by
  intro name hname kind
  simp only [List.mem_cons, List.not_mem_nil, or_false] at hname
  rcases hname with rfl | rfl <;> cases kind <;> decide

theorem push_firstName {name : String} (hname : name ∈ ["griddb", "v2"]) (kind : SchemeKind) (path : List String) :
    push kind path name = withoutEmptyStart kind ((if path = [""] then [] else path) ++ [name]) := by
  have hdot : ¬(name = "." ∨ name = "..") := by
    rintro (rfl | rfl) <;> exact absurd hname (by decide)
  rw [push_eq hdot, encode_firstName name hname, add_firstName hname]

/-- The first names stand as they are, on the way to a path that is settled. -/
theorem foldl_push_firstNames {kind : SchemeKind} {path : List String} (h : kind = .file → IsFilePath path) :
    ["griddb", "v2"].foldl (push kind) (popIfEmpty path) = start path ++ ["griddb", "v2"] := by
  have hgriddb : push kind (popIfEmpty path) "griddb" = start path ++ ["griddb"] := by
    rw [push_firstName (by decide)]
    exact withoutEmptyStart_of_head (fun hfile => start_append_head (h hfile) (by decide) [])
      (List.append_ne_nil_of_right_ne_nil _ (List.cons_ne_nil _ _))
  have hsome : start path ++ ["griddb"] ≠ [""] := by
    cases start path with
    | nil => decide
    | cons first rest => simp
  rw [List.foldl_cons, List.foldl_cons, List.foldl_nil, hgriddb, push_firstName (by decide), if_neg hsome,
    List.append_assoc]
  exact (settled_start h).withoutEmptyStart

theorem push_dot {name : String} (h : name = "." ∨ name = "..") (kind : SchemeKind) (path : List String) :
    push kind path name = path := by
  rcases h with rfl | rfl <;> rfl

theorem push_congr {name other : String} (hname : ¬(name = "." ∨ name = ".."))
    (hother : ¬(other = "." ∨ other = ".."))
    (hkept : kept other = kept name) (kind : SchemeKind) (path : List String) :
    push kind path other = push kind path name := by
  rw [push_eq hname, push_eq hother, hkept]

end UrlPath

namespace WebApiConfig

open UrlPath

/-- The names on the way to the rows of a container. -/
def rowsNames (c : WebApiConfig) (name : String) : List String :=
  ["griddb", "v2", c.cluster, "dbs", c.database, "containers", name, "rows"]

variable (c : WebApiConfig)

/-- An endpoint has the path of the base, with the names added to it. -/
theorem endpoint_eq_ok {segments : List String} {url : Url} (h : c.endpoint segments = .ok url) :
    ∃ u path, Url.parse c.url = .ok u ∧ u.path? = some path ∧ (u.kind = .file → IsFilePath path) ∧
      ∀ below, c.endpoint below = .ok { u with
        path? := some ((c.cluster :: "dbs" :: c.database :: below).foldl (push u.kind)
          (start path ++ ["griddb", "v2"])) } := by
  cases hparse : Url.parse c.url with
  | error e =>
      rw [endpoint, hparse] at h
      cases h
  | ok u =>
      cases hpath : u.path? with
      | none =>
          simp only [endpoint, hparse, Url.extend?, hpath] at h
          cases h
      | some path =>
          have hfile : u.kind = .file → IsFilePath path := by
            intro hkind
            obtain ⟨_, hsame, hstart⟩ := Url.hasFilePath_of_parse hparse hkind
            rw [hpath] at hsame
            cases hsame
            exact hstart
          refine ⟨u, path, rfl, hpath, hfile, fun below => ?_⟩
          have hnames : ["griddb", "v2", c.cluster, "dbs", c.database] ++ below =
              ["griddb", "v2"] ++ (c.cluster :: "dbs" :: c.database :: below) := rfl
          simp only [endpoint, hparse, Url.extend?, hpath, Option.map_some, hnames, List.foldl_append,
            foldl_push_firstNames hfile]

/-- A request for a container has a URL no shorter than the name. -/
theorem utf8ByteSize_le_endpoint {name last : String} {url : Url} (h : c.endpoint ["containers", name, last] = .ok url)
    (hname : Plain name) (hlast : Plain last) :
    name.utf8ByteSize ≤ (WebApi.takeCredentials url).2.text.utf8ByteSize := by
  obtain ⟨u, path, -, -, hfile, hbelow⟩ := c.endpoint_eq_ok h
  cases h.symm.trans (hbelow _)
  have hsettled := (settled_start hfile).foldl_push [c.cluster, "dbs", c.database, "containers"]
  obtain ⟨segments, hfold, hspells⟩ := (hsettled.foldl_push_spells_iff [name, last]).mpr (by simp [hname, hlast])
  obtain ⟨segment, rest, hsegment, -, rfl⟩ := List.forall₂_cons_right_iff.mp hspells
  have hmem : segment ∈ [name, last].foldl (push u.kind) _ := hfold ▸ List.mem_append_right _ List.mem_cons_self
  rw [WebApi.takeCredentials_path]
  exact hsegment.utf8ByteSize_le.trans ((utf8ByteSize_le_text hmem).trans (WebApi.path_le_text _ _))

/-- Names of the interface are plain, so that it depends on the others whether all are. -/
theorem forall_plain_iff (name : String) :
    (∀ n ∈ [c.cluster, "dbs", c.database, "containers", name, "rows"], Plain n) ↔
      Plain c.cluster ∧ Plain c.database ∧ Plain name := by
  have hdbs : Plain "dbs" := by decide
  have hcontainers : Plain "containers" := by decide
  have hrows : Plain "rows" := by decide
  simp [hdbs, hcontainers, hrows]

/-- The names are spelled behind a path exactly if they are plain and the path is where the first name is added. -/
theorem spelled_iff {kind : SchemeKind} {path : List String} (hfile : kind = .file → IsFilePath path)
    (name : String) :
    (∃ segments, [c.cluster, "dbs", c.database, "containers", name, "rows"].foldl (push kind)
        (start path ++ ["griddb", "v2"]) = withoutLastEmpty path ++ segments ∧
      List.Forall₂ Spells segments (c.rowsNames name)) ↔
      (Plain c.cluster ∧ Plain c.database ∧ Plain name) ∧ path ≠ ["", ""] := by
  have hsettled := settled_start hfile
  rw [← c.forall_plain_iff name, ← hsettled.foldl_push_spells_iff]
  constructor
  · rintro ⟨segments, hfold, hspells⟩
    have hlength := congrArg List.length hfold
    rw [List.length_append, hspells.length_eq] at hlength
    have hbound := hsettled.foldl_push_length_le [c.cluster, "dbs", c.database, "containers", name, "rows"]
    rw [hlength, List.length_append] at hbound
    have hpath : path ≠ ["", ""] := by
      rintro rfl
      exact absurd (show 9 ≤ 8 from hbound) (by decide)
    rw [start_eq hpath] at hsettled hfold hlength ⊢
    have hprefix := hsettled.prefix_foldl_push (by rw [hlength, List.length_append]; rfl)
    obtain ⟨griddb, _, -, hbehind, rfl⟩ := List.forall₂_cons_right_iff.mp hspells
    obtain ⟨v2, rest, -, hrest, rfl⟩ := List.forall₂_cons_right_iff.mp hbehind
    rw [hfold, List.prefix_append_right_inj, List.cons_prefix_cons, List.cons_prefix_cons] at hprefix
    obtain ⟨rfl, rfl, -⟩ := hprefix
    refine ⟨⟨rest, ?_, hrest⟩, hpath⟩
    rw [hfold, List.append_assoc]
    rfl
  · rintro ⟨⟨segments, hfold, hspells⟩, hpath⟩
    refine ⟨"griddb" :: "v2" :: segments, ?_, ?_⟩
    · rw [hfold, start_eq hpath, List.append_assoc]
      rfl
    · have hgriddb : Spells "griddb" "griddb" := ⟨rfl, by decide⟩
      have hv2 : Spells "v2" "v2" := ⟨rfl, by decide⟩
      exact .cons hgriddb (.cons hv2 hspells)

/-- The endpoint for the rows of a container, over a base that has a path. Behind that path, less one empty segment
at its end, eight segments spell the names on the way to the container, exactly if cluster, database and container
have plain names and the path is not two empty segments. Containers with plain names have different endpoints. A dot
or a double dot is left out of the way, and other names with tabs or line breaks share the endpoint of the name
without them. Everything else of the endpoint is that of the base. -/
theorem endpoint_spells_names {name : String} {url : Url} (h : c.endpoint ["containers", name, "rows"] = .ok url) :
    ∃ u path full, Url.parse c.url = .ok u ∧ u.path? = some path ∧ url = { u with path? := some full } ∧
      ((∃ segments, full = withoutLastEmpty path ++ segments ∧ List.Forall₂ Spells segments (c.rowsNames name)) ↔
        (Plain c.cluster ∧ Plain c.database ∧ Plain name) ∧ path ≠ ["", ""]) ∧
      (∀ other, Plain name → Plain other → c.endpoint ["containers", other, "rows"] = .ok url → other = name) ∧
      (name = "." ∨ name = ".." → c.endpoint ["containers", "rows"] = .ok url) ∧
      ∀ other, ¬(name = "." ∨ name = "..") → ¬(other = "." ∨ other = "..") → kept other = kept name →
        c.endpoint ["containers", other, "rows"] = .ok url := by
  obtain ⟨u, path, hparse, hpath, hfile, hbelow⟩ := c.endpoint_eq_ok h
  rw [hbelow] at h
  cases h
  refine ⟨u, path, _, hparse, hpath, rfl, c.spelled_iff hfile name, ?_, ?_, ?_⟩
  · intro other hname hother hsame
    rw [hbelow] at hsame
    have hpaths := Option.some.inj (congrArg Url.path? (Except.ok.inj hsame))
    have hsettled := (settled_start hfile).foldl_push [c.cluster, "dbs", c.database, "containers"]
    have hrows : Plain "rows" := by decide
    have hnames := hsettled.foldl_push_injective [name, "rows"] [other, "rows"]
      (by simp [hname, hrows]) (by simp [hother, hrows]) (by simpa only [List.foldl_cons, List.foldl_nil] using hpaths)
    exact (List.cons.inj hnames).1
  · intro hdot
    rw [hbelow]
    simp only [List.foldl_cons, push_dot hdot]
  · intro other hname hother hkept
    rw [hbelow]
    simp only [List.foldl_cons, push_congr hname hother hkept]

/-- A URL below the default base. -/
def localhost (path : List String) : Url where
  scheme := "http"
  host? := some (.name "localhost")
  port? := some 8080
  path? := some path

/-- A slash does not split a name. -/
theorem endpoint_spells_names_slash :
    ∃ url, ({} : WebApiConfig).endpoint ["containers", "a b/c", "rows"] = .ok url ∧
      (∃ path segments, url.path? = some (withoutLastEmpty path ++ segments) ∧
        List.Forall₂ Spells segments (rowsNames {} "a b/c")) ∧
      ∀ other, Plain other → ({} : WebApiConfig).endpoint ["containers", other, "rows"] = .ok url →
        other = "a b/c" := by
  have hurl : ({} : WebApiConfig).endpoint ["containers", "a b/c", "rows"] = .ok (localhost
      ["griddb", "v2", "myCluster", "dbs", "public", "containers", "a%20b%2Fc", "rows"]) := by
    decide +kernel
  obtain ⟨u, path, full, hparse, hpath, hfull, hspelled, hdistinct, -⟩ := endpoint_spells_names {} hurl
  have hbase : ({} : WebApiConfig).url = "http://localhost:8080" := rfl
  have hpath : path ≠ ["", ""] := by
    rintro rfl
    have hroot : (Url.parse "http://localhost:8080").toOption.bind Url.path? = some [""] := by decide +kernel
    rw [← hbase, hparse] at hroot
    exact absurd (hpath.symm.trans hroot) (by decide)
  obtain ⟨segments, hsegments, hspells⟩ := hspelled.mpr ⟨by decide, hpath⟩
  refine ⟨_, hurl, ⟨path, segments, ?_, hspells⟩, fun other => hdistinct other (by decide)⟩
  rw [hfull, hsegments]

/-- A tab is lost, so that two containers have the same endpoint, and that of one of them does not spell its name. -/
theorem endpoint_drops_tab :
    ∃ url, ({} : WebApiConfig).endpoint ["containers", "a\tb", "rows"] = .ok url ∧
      ({} : WebApiConfig).endpoint ["containers", "ab", "rows"] = .ok url ∧
      ¬∃ segments, url.path? = some segments ∧ List.Forall₂ Spells segments (rowsNames {} "a\tb") := by
  refine ⟨localhost ["griddb", "v2", "myCluster", "dbs", "public", "containers", "ab", "rows"],
    by decide +kernel, by decide +kernel, ?_⟩
  rintro ⟨_, ⟨⟩, hspells⟩
  have hname := List.Forall₂.get hspells (i := 6) (by decide) (by decide)
  have hsame : "ab" = "a\tb" := (spells_encode_iff .special ['a', 'b'] _).mp hname
  exact absurd hsame (by decide)

end WebApiConfig

end SampleLoad
