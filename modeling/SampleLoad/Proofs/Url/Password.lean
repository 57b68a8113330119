import Mathlib.Data.List.TakeWhile
import SampleLoad.Proofs.Url.Basic

/-!
The password in the text of a URL. It stands between the first colon and the last `@` of the authority. Texts that
differ in nothing but such passwords are read as URLs that differ in nothing but the password, and there is no other way
for a URL to have one. Main statements: `Url.Login.parse_text`, `Url.login_of_parse`.
-/

namespace SampleLoad

/-! ### Splitting -/

theorem splitAll_eq_splitOn (separator : Char) (cs : List Char) : splitAll separator cs = cs.splitOn separator := by
  induction cs with
  | nil => rfl
  | cons c cs ih =>
      rw [splitAll, List.splitOn_cons_eq_if_modifyHead, ih]
      by_cases hc : c = separator
      · rw [if_pos hc, if_pos (beq_iff_eq.mpr hc)]
      · rw [if_neg hc, if_neg fun h => hc (beq_iff_eq.mp h)]
        cases hsplit : cs.splitOn separator with
        | nil => exact absurd hsplit (List.splitOn_ne_nil _ _)
        | cons first others => rfl

theorem splitAll_ne_nil (separator : Char) (cs : List Char) : splitAll separator cs ≠ [] := by
  rw [splitAll_eq_splitOn]
  exact List.splitOn_ne_nil _ _

namespace Url

/-- A text is split at its last separator. -/
theorem splitLast?_append {separator : Char} {after : List Char} (h : separator ∉ after) (before : List Char) :
    splitLast? separator (before ++ separator :: after) = some (before, after) := by
  have hsplit : splitAll separator (before ++ separator :: after) = splitAll separator before ++ [after] := by
    rw [splitAll_eq_splitOn, splitAll_eq_splitOn, List.splitOn_append_cons_self, List.splitOn_eq_singleton h]
  have hjoin : [separator].intercalate (splitAll separator before) = before := by
    rw [splitAll_eq_splitOn, List.intercalate_splitOn]
  obtain ⟨first, others, hfirst⟩ := List.exists_cons_of_ne_nil (splitAll_ne_nil separator before)
  have hseveral : ∀ part, splitAll separator before ++ [after] ≠ [part] := by
    intro part hpart
    have hlength := congrArg List.length hpart
    rw [hfirst] at hlength
    simp at hlength
  rw [splitLast?, hsplit]
  split
  · rename_i hnil
    exact absurd hnil (List.append_ne_nil_of_right_ne_nil _ (List.cons_ne_nil _ _))
  · rename_i hpart
    exact absurd hpart (hseveral _)
  · rw [List.dropLast_concat, hjoin, List.getLastD_concat]

theorem splitLast?_eq_some {separator : Char} {cs before after : List Char}
    (h : splitLast? separator cs = some (before, after)) : cs = before ++ separator :: after ∧ separator ∉ after := by
  by_cases hmem : separator ∈ cs
  · obtain ⟨after', before', hcs, hlast⟩ := List.eq_append_cons_of_mem (List.mem_reverse.mpr hmem)
    have hcs : cs = before'.reverse ++ separator :: after'.reverse := by
      rw [← List.reverse_reverse cs, hcs]
      simp
    have hlast : separator ∉ after'.reverse := fun h => hlast (List.mem_reverse.mp h)
    rw [hcs, splitLast?_append hlast] at h
    cases h
    exact ⟨hcs, hlast⟩
  · rw [splitLast?, splitAll_eq_splitOn, List.splitOn_eq_singleton hmem] at h
    cases h

/-! ### Logins -/

/-- The characters of a URL that are read: all but tabs and line breaks. -/
def readable (cs : List Char) : List Char := cs.filter fun c => c ≠ '\t' && c ≠ '\n' && c ≠ '\r'

/-- The text without what is dropped around a URL. -/
def trimStart (cs : List Char) : List Char := cs.dropWhile isOuter

def trimEnd (cs : List Char) : List Char := (cs.reverse.dropWhile isOuter).reverse

/-- What follows the scheme of a URL is slashes and a user name, and the colon behind it. A URL of a file has no
user. -/
def OpensLogin (scheme : String) (user rest : List Char) : Prop :=
  match SchemeKind.ofScheme scheme with
  | .file => False
  | .special => rest.dropWhile (fun c => c = '/' || c = '\\') = user ++ [':']
  | .other => rest = '/' :: '/' :: (user ++ [':'])

/-- What stands around the password of a URL: before it scheme, slashes and user name, after it the host and what
follows. -/
structure Login where
  before : List Char
  after : List Char
  scheme : String
  user : List Char
  host : List Char
  opens : ∃ rest, splitScheme? (readable (trimStart before)) = some (scheme, rest) ∧ OpensLogin scheme user rest
  named : ∀ c ∈ user, c ≠ ':' ∧ endsAuthority (.ofScheme scheme) c = false
  closes : readable (trimEnd after) = '@' :: host
  last : '@' ∉ host.takeWhile fun c => !endsAuthority (.ofScheme scheme) c

namespace Login

variable (l : Login)

/-- The text may be a password: something of it is read, and it does not end the authority. -/
def Admits (password : List Char) : Prop :=
  readable password ≠ [] ∧ ∀ c ∈ readable password, endsAuthority (.ofScheme l.scheme) c = false

/-- The URL with a password. -/
def text (password : List Char) : String := String.ofList (l.before ++ password ++ l.after)

theorem text_inj {password other : List Char} : l.text password = l.text other ↔ password = other := by
  rw [text, text, String.ofList_inj, List.append_left_inj, List.append_right_inj]

end Login

/-! ### Reading a login -/

/-- The URL with a password, which is encoded. -/
def login (password : List Char) (u : Url) : Url :=
  { u with password? := some (.ofList (Percent.encode Percent.userinfo password)) }

section Authority

variable {kind : SchemeKind} {user password host : List Char}
  (huser : ∀ c ∈ user, c ≠ ':' ∧ endsAuthority kind c = false)
  (hpassword : password ≠ [] ∧ ∀ c ∈ password, endsAuthority kind c = false)

theorem readUserinfo_login (hname : ∀ c ∈ user, c ≠ ':') (hpassword : password ≠ []) :
    readUserinfo (user ++ ':' :: password) =
      (.ofList (Percent.encode Percent.userinfo user), some (.ofList (Percent.encode Percent.userinfo password))) := by
  have htake : (user ++ ':' :: password).takeWhile (· ≠ ':') = user := by
    rw [List.takeWhile_append_of_pos (by simpa using hname), List.takeWhile_cons_of_neg (by decide), List.append_nil]
  have hdrop : (user ++ ':' :: password).dropWhile (· ≠ ':') = ':' :: password := by
    rw [List.dropWhile_append_of_pos (by simpa using hname), List.dropWhile_cons_of_neg (by decide)]
  simp only [readUserinfo, htake, hdrop, List.drop_succ_cons, List.drop_zero, if_neg hpassword]

include huser hpassword

theorem splitBefore_login :
    splitBefore (endsAuthority kind) (user ++ ':' :: (password ++ '@' :: host)) =
      (user ++ ':' :: password ++ '@' :: (splitBefore (endsAuthority kind) host).1,
        (splitBefore (endsAuthority kind) host).2) := by
  have hopen : ∀ c ∈ user ++ ':' :: password ++ ['@'], (!endsAuthority kind c) = true := by
    intro c hc
    simp only [List.mem_append, List.mem_cons, List.not_mem_nil, or_false] at hc
    rcases hc with (hc | rfl | hc) | rfl
    · rw [(huser c hc).2]
      rfl
    · cases kind <;> rfl
    · rw [hpassword.2 c hc]
      rfl
    · cases kind <;> rfl
  have hassoc : user ++ ':' :: (password ++ '@' :: host) = user ++ ':' :: password ++ ['@'] ++ host := by simp
  rw [hassoc, splitBefore, List.takeWhile_append_of_pos hopen, List.dropWhile_append_of_pos hopen]
  simp [splitBefore]

end Authority

/-- Reads what follows the user name and the password of an authority. -/
def readBehindLogin (scheme username : String) (password? : Option String) (hostAndPort afterAuthority : List Char) :
    Except UrlError Url := do
  let kind := SchemeKind.ofScheme scheme
  let (hostText, portText?) := splitPort false hostAndPort
  let (portText?, afterPort) := match portText? with
    | none => (none, [])
    | some text => let (port, rest) := splitBefore (· = '\\') text; (some port, rest)
  if kind = .special && hostText = [] then throw .emptyHost
  let host ← if kind = .special then Host.parseSpecial hostText else Host.parseOpaque hostText
  if hostText = [] && (portText?.isSome || username ≠ "" || password?.isSome) then throw .emptyHost
  let port? ← match portText? with
    | none => pure none
    | some text => readPort scheme text
  let (path, tail) := splitBefore (fun c => c = '?' || c = '#') (afterPort ++ afterAuthority)
  let u : Url := { scheme, username, password?, host? := some host, port?, path? := some (authorityPath kind path) }
  return u.withTail tail

theorem readAuthority_eq {scheme : String} {cs authority afterAuthority userinfo hostAndPort : List Char}
    (hauthority : splitBefore (endsAuthority (.ofScheme scheme)) cs = (authority, afterAuthority))
    (hlogin : splitLast? '@' authority = some (userinfo, hostAndPort)) (hmark : authority ≠ ['@']) :
    readAuthority scheme cs =
      readBehindLogin scheme (readUserinfo userinfo).1 (readUserinfo userinfo).2 hostAndPort afterAuthority := by
  unfold readAuthority
  simp only [hauthority, hlogin, hmark, decide_false, Bool.and_false, Bool.false_and, Bool.false_eq_true, if_false]
  rfl

theorem bind_eq_map_bind {ε α β γ : Type} {x : Except ε α} {f : α → Except ε γ} {g : α → Except ε β} {h : β → γ}
    (hstep : ∀ a, f a = (g a).map h) : (x >>= f) = (x >>= g).map h := by
  cases x with
  | error e => rfl
  | ok a => exact hstep a

theorem readBehindLogin_password (scheme username password other : String) (hostAndPort afterAuthority : List Char) :
    readBehindLogin scheme username (some password) hostAndPort afterAuthority =
      (readBehindLogin scheme username (some other) hostAndPort afterAuthority).map
        fun u => { u with password? := some password } := by
  unfold readBehindLogin
  dsimp only [Option.isSome_some]
  repeat' first
    | rfl
    | refine bind_eq_map_bind fun _ => ?_
    | split

/-- The authority is read as with another password, but for the password. -/
theorem readAuthority_login {scheme : String} {user password other host : List Char}
    (huser : ∀ c ∈ user, c ≠ ':' ∧ endsAuthority (.ofScheme scheme) c = false)
    (hpassword : password ≠ [] ∧ ∀ c ∈ password, endsAuthority (.ofScheme scheme) c = false)
    (hother : other ≠ [] ∧ ∀ c ∈ other, endsAuthority (.ofScheme scheme) c = false)
    (hhost : '@' ∉ host.takeWhile fun c => !endsAuthority (.ofScheme scheme) c) :
    readAuthority scheme (user ++ ':' :: (password ++ '@' :: host)) =
      (readAuthority scheme (user ++ ':' :: (other ++ '@' :: host))).map (login password) := by
  have hnames : ∀ c ∈ user, c ≠ ':' := fun c hc => (huser c hc).1
  have hread : ∀ {password : List Char}, (password ≠ [] ∧ ∀ c ∈ password, endsAuthority (.ofScheme scheme) c = false) →
      readAuthority scheme (user ++ ':' :: (password ++ '@' :: host)) =
        readBehindLogin scheme (.ofList (Percent.encode Percent.userinfo user))
          (some (.ofList (Percent.encode Percent.userinfo password)))
          (splitBefore (endsAuthority (.ofScheme scheme)) host).1
          (splitBefore (endsAuthority (.ofScheme scheme)) host).2 := by
    intro password hpassword
    have hmark : user ++ ':' :: password ++ '@' :: (splitBefore (endsAuthority (.ofScheme scheme)) host).1 ≠ ['@'] := by
      intro h
      have hlength := congrArg List.length h
      simp only [List.length_append, List.length_cons, List.length_nil] at hlength
      omega
    rw [readAuthority_eq (splitBefore_login huser hpassword) (splitLast?_append hhost _) hmark,
      readUserinfo_login hnames hpassword.1]
    rfl
  rw [hread hpassword, hread hother]
  exact readBehindLogin_password ..

/-! ### Reading the text -/

theorem readable_append (cs ds : List Char) : readable (cs ++ ds) = readable cs ++ readable ds := List.filter_append ..

theorem dropWhile_append_of_ne_nil {p : Char → Bool} {cs : List Char} (h : cs.dropWhile p ≠ []) (ds : List Char) :
    (cs ++ ds).dropWhile p = cs.dropWhile p ++ ds := by
  rw [List.dropWhile_append, if_neg fun hempty => h (List.isEmpty_iff.mp hempty)]

theorem trimStart_append {cs : List Char} (h : trimStart cs ≠ []) (ds : List Char) :
    trimStart (cs ++ ds) = trimStart cs ++ ds :=
  dropWhile_append_of_ne_nil h ds

theorem trimEnd_append (cs : List Char) {ds : List Char} (h : trimEnd ds ≠ []) :
    trimEnd (cs ++ ds) = cs ++ trimEnd ds := by
  have hdrop : ds.reverse.dropWhile isOuter ≠ [] := fun hnil => h (congrArg List.reverse hnil)
  rw [trimEnd, List.reverse_append, dropWhile_append_of_ne_nil hdrop, List.reverse_append, List.reverse_reverse]
  rfl

/-- A scheme is a letter and characters of schemes behind it, up to a colon. -/
theorem splitScheme?_eq_some_iff {cs rest : List Char} {scheme : String} :
    splitScheme? cs = some (scheme, rest) ↔
      ∃ first others, first.isAlpha = true ∧ (∀ c ∈ first :: others, isSchemeChar c = true) ∧
        scheme = String.ofList ((first :: others).map Char.toLower) ∧ cs = first :: others ++ ':' :: rest := by
  constructor
  · intro h
    unfold splitScheme? at h
    split at h
    · cases h
    · rename_i first tail
      split at h
      · cases h
      · rename_i halpha
        have hletter : first.isAlpha = true := by simpa using halpha
        have hfirst : isSchemeChar first = true := by simp [isSchemeChar, Char.isAlphanum, hletter]
        have hjoin := List.takeWhile_append_dropWhile (p := isSchemeChar) (l := first :: tail)
        split at h
        · rename_i rest' hdrop
          cases h
          rw [hdrop, List.takeWhile_cons_of_pos hfirst] at hjoin
          refine ⟨first, tail.takeWhile isSchemeChar, hletter, ?_, ?_, hjoin.symm⟩
          · rw [← List.takeWhile_cons_of_pos hfirst]
            exact fun c hc => List.mem_takeWhile_imp hc
          · rw [List.takeWhile_cons_of_pos hfirst]
        · cases h
  · rintro ⟨first, others, hletter, hscheme, rfl, rfl⟩
    have htake : (first :: others ++ ':' :: rest).takeWhile isSchemeChar = first :: others := by
      rw [List.takeWhile_append_of_pos hscheme, List.takeWhile_cons_of_neg (by decide), List.append_nil]
    have hdrop : (first :: others ++ ':' :: rest).dropWhile isSchemeChar = ':' :: rest := by
      rw [List.dropWhile_append_of_pos hscheme, List.dropWhile_cons_of_neg (by decide)]
    rw [List.cons_append] at htake hdrop ⊢
    simp only [splitScheme?, hletter, htake, hdrop, Bool.not_true, Bool.false_eq_true, if_false]

theorem splitScheme?_append {cs rest : List Char} {scheme : String} (h : splitScheme? cs = some (scheme, rest))
    (ds : List Char) : splitScheme? (cs ++ ds) = some (scheme, rest ++ ds) := by
  obtain ⟨first, others, hletter, hchars, hscheme, rfl⟩ := splitScheme?_eq_some_iff.mp h
  exact splitScheme?_eq_some_iff.mpr ⟨first, others, hletter, hchars, hscheme, List.append_assoc ..⟩

theorem parse_eq (s : String) :
    parse s =
      match splitScheme? (readable (trimEnd (trimStart s.toList))) with
      | none => .error .relativeWithoutBase
      | some (scheme, rest) =>
        match SchemeKind.ofScheme scheme with
        | .file => readFile rest
        | .special => readAuthority scheme (rest.dropWhile fun c => c = '/' || c = '\\')
        | .other => readOther scheme rest := rfl

namespace Login

variable (l : Login)

/-- Whatever the password, the text is read as an authority. -/
theorem parse_eq_readAuthority (password : List Char) :
    parse (l.text password) = readAuthority l.scheme (l.user ++ ':' :: (readable password ++ '@' :: l.host)) := by
  obtain ⟨rest, hscheme, hrest⟩ := l.opens
  unfold OpensLogin at hrest
  have hbefore : trimStart l.before ≠ [] := by
    intro hnil
    rw [hnil] at hscheme
    exact nomatch hscheme
  have hafter : trimEnd l.after ≠ [] := by
    intro hnil
    have hcloses := l.closes
    rw [hnil] at hcloses
    exact nomatch hcloses
  have hreadable : readable (trimEnd (trimStart (l.text password).toList)) =
      readable (trimStart l.before) ++ (readable password ++ '@' :: l.host) := by
    rw [text, String.toList_ofList, List.append_assoc, trimStart_append hbefore, trimEnd_append _ (by
      rw [trimEnd_append _ hafter]
      exact List.append_ne_nil_of_right_ne_nil _ hafter), trimEnd_append _ hafter, readable_append, readable_append,
      l.closes]
  simp only [parse_eq, hreadable, splitScheme?_append hscheme]
  cases hkind : SchemeKind.ofScheme l.scheme with
  | file =>
      rw [hkind] at hrest
      exact hrest.elim
  | special =>
      have hslashes : rest.dropWhile (fun c => c = '/' || c = '\\') = l.user ++ [':'] := by
        rw [hkind] at hrest
        exact hrest
      dsimp only
      rw [dropWhile_append_of_ne_nil (hslashes ▸ List.append_ne_nil_of_right_ne_nil _ (List.cons_ne_nil _ _)), hslashes,
        List.append_assoc, List.singleton_append]
  | other =>
      rw [hkind] at hrest
      have hslashes : rest = '/' :: '/' :: (l.user ++ [':']) := hrest
      dsimp only
      rw [hslashes]
      simp only [List.cons_append, List.append_assoc, List.nil_append, readOther]

/-- The passwords of two texts make no difference but that each is the password of its URL. -/
theorem parse_text {password other : List Char} (hpassword : l.Admits password) (hother : l.Admits other) :
    parse (l.text password) = (parse (l.text other)).map (login (readable password)) := by
  rw [parse_eq_readAuthority, parse_eq_readAuthority]
  exact readAuthority_login l.named hpassword hother l.last

end Login

/-! ### Where a password comes from -/

theorem readUserinfo_eq_some {cs : List Char} {password : String} (h : (readUserinfo cs).2 = some password) :
    ∃ user rest, cs = user ++ ':' :: rest ∧ (∀ c ∈ user, c ≠ ':') ∧ rest ≠ [] := by
  have hrest : (cs.dropWhile (· ≠ ':')).drop 1 ≠ [] := by
    intro hnil
    simp only [readUserinfo, hnil, if_true] at h
    cases h
  have hjoin := List.takeWhile_append_dropWhile (p := (· ≠ ':')) (l := cs)
  cases hdrop : cs.dropWhile (· ≠ ':') with
  | nil =>
      rw [hdrop] at hrest
      exact absurd rfl hrest
  | cons c rest =>
      have hcolon : c = ':' := by
        have hhead := List.head?_dropWhile_not (· ≠ ':') cs
        rw [hdrop] at hhead
        simpa using hhead
      rw [hdrop, hcolon] at hjoin
      rw [hdrop] at hrest
      exact ⟨_, rest, hjoin.symm, fun c hc => by simpa using List.mem_takeWhile_imp hc, hrest⟩

theorem readFile_password? (cs : List Char) : Yields (fun u => u.password? = none) (readFile cs) := by
  unfold readFile
  dsimp only
  repeat' first
    | exact .throw
    | exact .pure rfl
    | refine .ite ?_ ?_
    | refine .bind fun _ => ?_
    | split

theorem readAuthority_password? (scheme : String) (cs : List Char) :
    Yields (fun u => u.password? = (readUserinfo
      (((splitLast? '@' (splitBefore (endsAuthority (.ofScheme scheme)) cs).1).map Prod.fst).getD [])).2)
      (readAuthority scheme cs) := by
  unfold readAuthority
  dsimp only
  cases splitLast? '@' (splitBefore (endsAuthority (.ofScheme scheme)) cs).1
  all_goals
    dsimp only
    repeat' first
      | exact .throw
      | exact .pure rfl
      | refine .ite ?_ ?_
      | refine .bind fun _ => ?_
      | split

/-- An authority that gives a password has one between a colon and the last `@`. -/
theorem exists_password_of_readAuthority {scheme : String} {cs : List Char} {u : Url}
    (h : readAuthority scheme cs = .ok u) (hu : u.password? ≠ none) :
    ∃ user password host, cs = user ++ ':' :: (password ++ '@' :: host) ∧
      (∀ c ∈ user, c ≠ ':' ∧ endsAuthority (.ofScheme scheme) c = false) ∧
      (password ≠ [] ∧ ∀ c ∈ password, endsAuthority (.ofScheme scheme) c = false) ∧
      '@' ∉ host.takeWhile fun c => !endsAuthority (.ofScheme scheme) c := by
  have hread := readAuthority_password? scheme cs u h
  dsimp only at hread
  obtain ⟨text, htext⟩ := Option.ne_none_iff_exists'.mp hu
  rw [htext] at hread
  cases hlast : splitLast? '@' (splitBefore (endsAuthority (.ofScheme scheme)) cs).1 with
  | none =>
      rw [hlast] at hread
      exact nomatch hread
  | some parts =>
      obtain ⟨userinfo, hostAndPort⟩ := parts
      rw [hlast] at hread
      have hread : some text = (readUserinfo userinfo).2 := hread
      obtain ⟨hauthority, hhost⟩ := splitLast?_eq_some hlast
      obtain ⟨user, password, huserinfo, hcolon, hpassword⟩ := readUserinfo_eq_some hread.symm
      have hauthority : cs.takeWhile (fun c => !endsAuthority (.ofScheme scheme) c) =
          user ++ ':' :: (password ++ '@' :: hostAndPort) := by
        rw [show cs.takeWhile _ = _ from hauthority, huserinfo, List.append_assoc, List.cons_append]
      have hopen : ∀ c ∈ user ++ ':' :: (password ++ '@' :: hostAndPort),
          endsAuthority (.ofScheme scheme) c = false := by
        intro c hc
        rw [← hauthority] at hc
        simpa using List.mem_takeWhile_imp hc
      have hjoin := List.takeWhile_append_dropWhile (p := fun c => !endsAuthority (.ofScheme scheme) c) (l := cs)
      rw [hauthority] at hjoin
      refine ⟨user, password, hostAndPort ++ cs.dropWhile fun c => !endsAuthority (.ofScheme scheme) c, ?_, ?_, ?_, ?_⟩
      · exact hjoin.symm.trans (by simp)
      · exact fun c hc => ⟨hcolon c hc, hopen c (List.mem_append_left _ hc)⟩
      · exact ⟨hpassword, fun c hc => hopen c (by simp [hc])⟩
      · rw [List.takeWhile_append_of_pos fun c hc => by rw [hopen c (by simp [hc])]; rfl, List.mem_append, not_or]
        refine ⟨hhost, ?_⟩
        cases hdrop : cs.dropWhile fun c => !endsAuthority (.ofScheme scheme) c with
        | nil => exact List.not_mem_nil
        | cons c rest =>
            have hhead := List.head?_dropWhile_not (fun c => !endsAuthority (.ofScheme scheme) c) cs
            rw [hdrop] at hhead
            have hend : (!endsAuthority (.ofScheme scheme) c) = false := hhead
            rw [List.takeWhile_cons_of_neg (by simp [hend])]
            exact List.not_mem_nil

theorem exists_password_of_readOther {scheme : String} {cs : List Char} {u : Url} (h : readOther scheme cs = .ok u)
    (hu : u.password? ≠ none) : ∃ rest, cs = '/' :: '/' :: rest ∧ readAuthority scheme rest = .ok u := by
  unfold readOther at h
  split at h
  · exact ⟨_, rfl, h⟩
  · cases h
    exact absurd rfl hu
  · cases h
    exact absurd rfl hu

/-- What is left of a text at its start is left of the text without its end. -/
theorem trimStart_of_append {lead cs : List Char} (rest : List Char) (hlead : ∀ c ∈ lead, isOuter c = true)
    (hcs : cs ≠ []) (h : trimStart (lead ++ (cs ++ rest)) = cs ++ rest) : trimStart (lead ++ cs) = cs := by
  obtain ⟨c, cs, rfl⟩ := List.exists_cons_of_ne_nil hcs
  rw [trimStart, List.dropWhile_append_of_pos hlead] at h ⊢
  have hc : isOuter c = false := by
    have hhead := List.head?_dropWhile_not isOuter (c :: cs ++ rest)
    rw [h] at hhead
    simpa using hhead
  rw [List.dropWhile_cons_of_neg (by simp [hc])]

theorem trimEnd_of_append {trail cs : List Char} (rest : List Char) (htrail : ∀ c ∈ trail, isOuter c = true)
    (hcs : cs ≠ []) (h : trimEnd (rest ++ cs ++ trail) = rest ++ cs) : trimEnd (cs ++ trail) = cs := by
  have hreverse := trimStart_of_append rest.reverse (fun c hc => htrail c (List.mem_reverse.mp hc))
    (fun hnil => hcs (List.reverse_eq_nil_iff.mp hnil)) (by
      have hr := congrArg List.reverse h
      simpa [trimEnd, trimStart] using hr)
  rw [trimEnd, List.reverse_append]
  exact (congrArg List.reverse hreverse).trans (List.reverse_reverse cs)

/-- Behind its scheme, a URL with a password is a login. -/
theorem exists_password_of_kind {scheme : String} {rest : List Char} {u : Url}
    (h : (match SchemeKind.ofScheme scheme with
      | .file => readFile rest
      | .special => readAuthority scheme (rest.dropWhile fun c => c = '/' || c = '\\')
      | .other => readOther scheme rest) = .ok u) (hu : u.password? ≠ none) :
    ∃ slashes user password host, rest = slashes ++ user ++ ':' :: (password ++ '@' :: host) ∧
      OpensLogin scheme user (slashes ++ user ++ [':']) ∧
      (∀ c ∈ user, c ≠ ':' ∧ endsAuthority (.ofScheme scheme) c = false) ∧
      (password ≠ [] ∧ ∀ c ∈ password, endsAuthority (.ofScheme scheme) c = false) ∧
      '@' ∉ host.takeWhile fun c => !endsAuthority (.ofScheme scheme) c := by
  unfold OpensLogin
  cases hkind : SchemeKind.ofScheme scheme with
  | file =>
      rw [hkind] at h
      exact absurd (readFile_password? rest u h) hu
  | special =>
      rw [hkind] at h
      obtain ⟨user, password, host, hrest, huser, hpassword, hhost⟩ := exists_password_of_readAuthority h hu
      rw [hkind] at huser hpassword hhost
      refine ⟨rest.takeWhile fun c => c = '/' || c = '\\', user, password, host, ?_, ?_, huser, hpassword, hhost⟩
      · rw [List.append_assoc, ← hrest, List.takeWhile_append_dropWhile]
      · dsimp only
        rw [List.append_assoc, List.dropWhile_append_of_pos fun c hc =>
          List.mem_takeWhile_imp (p := fun c => c = '/' || c = '\\') hc]
        cases user with
        | nil => rfl
        | cons c user =>
            have hc : endsAuthority .special c = false := (huser c List.mem_cons_self).2
            rw [List.cons_append, List.dropWhile_cons_of_neg]
            simp only [endsAuthority, SchemeKind.hasBackslash] at hc
            simp_all
  | other =>
      rw [hkind] at h
      obtain ⟨tail, rfl, hread⟩ := exists_password_of_readOther h hu
      obtain ⟨user, password, host, htail, huser, hpassword, hhost⟩ := exists_password_of_readAuthority hread hu
      rw [hkind] at huser hpassword hhost
      exact ⟨['/', '/'], user, password, host, by rw [htail]; rfl, rfl, huser, hpassword, hhost⟩

theorem exists_trimEnd_append (cs : List Char) : ∃ trail, cs = trimEnd cs ++ trail ∧ ∀ c ∈ trail, isOuter c = true := by
  refine ⟨(cs.reverse.takeWhile isOuter).reverse, ?_, fun c hc => List.mem_takeWhile_imp (List.mem_reverse.mp hc)⟩
  rw [trimEnd, ← List.reverse_append, List.takeWhile_append_dropWhile, List.reverse_reverse]

/-- The parts of what is read of a text are read of parts of the text. -/
theorem exists_parts_of_readable {cs opening middle closing : List Char}
    (h : readable (trimEnd (trimStart cs)) = opening ++ (middle ++ closing)) (hopening : opening ≠ [])
    (hclosing : closing ≠ []) :
    ∃ before raw after, cs = before ++ raw ++ after ∧ readable (trimStart before) = opening ∧
      readable raw = middle ∧ readable (trimEnd after) = closing := by
  obtain ⟨before, behind, hsplit, hbefore, hbehind⟩ := List.filter_eq_append_iff.mp h
  obtain ⟨raw, after, rfl, hraw, hafter⟩ := List.filter_eq_append_iff.mp hbehind
  obtain ⟨trail, htrail, houter⟩ := exists_trimEnd_append (trimStart cs)
  have hlead : cs.takeWhile isOuter ++ trimStart cs = cs := List.takeWhile_append_dropWhile
  have htext : trimStart cs = before ++ (raw ++ after ++ trail) := by
    rw [hsplit] at htrail
    simpa using htrail
  have hstart : trimStart (cs.takeWhile isOuter ++ before) = before := by
    refine trimStart_of_append (raw ++ after ++ trail) (fun c hc => List.mem_takeWhile_imp hc) ?_ ?_
    · rintro rfl
      exact hopening hbefore.symm
    · rw [← htext, hlead]
  have hend : trimEnd (after ++ trail) = after := by
    refine trimEnd_of_append (before ++ raw) houter ?_ ?_
    · rintro rfl
      exact hclosing hafter.symm
    · have hsame : before ++ raw ++ after ++ trail = trimStart cs := by
        rw [htext]
        simp
      rw [hsame, hsplit, List.append_assoc]
  refine ⟨cs.takeWhile isOuter ++ before, raw, after ++ trail, ?_, ?_, hraw, ?_⟩
  · rw [htext] at hlead
    exact hlead.symm.trans (by simp)
  · rw [hstart]
    exact hbefore
  · rw [hend]
    exact hafter

/-- A URL with a password has the text of a login. -/
theorem login_of_parse {s : String} {u : Url} (h : parse s = .ok u) (hu : u.password? ≠ none) :
    ∃ (l : Login) (password : List Char), l.Admits password ∧ s = l.text password := by
  rw [parse_eq] at h
  cases hscheme : splitScheme? (readable (trimEnd (trimStart s.toList))) with
  | none =>
      rw [hscheme] at h
      cases h
  | some parts =>
      obtain ⟨scheme, rest⟩ := parts
      rw [hscheme] at h
      obtain ⟨slashes, user, password, host, rfl, hopens, huser, hpassword, hhost⟩ := exists_password_of_kind h hu
      obtain ⟨first, others, hletter, hchars, hname, hcs⟩ := splitScheme?_eq_some_iff.mp hscheme
      have hparts : readable (trimEnd (trimStart s.toList)) =
          (first :: others ++ ':' :: (slashes ++ user ++ [':'])) ++ (password ++ '@' :: host) := by
        rw [hcs]
        simp
      obtain ⟨before, raw, after, htext, hbefore, hraw, hafter⟩ :=
        exists_parts_of_readable hparts (List.cons_ne_nil _ _) (List.cons_ne_nil _ _)
      let l : Login :=
        { before, after, scheme, user, host
          opens := ⟨_, hbefore ▸ splitScheme?_eq_some_iff.mpr ⟨first, others, hletter, hchars, hname, rfl⟩, hopens⟩
          named := huser
          closes := hafter
          last := hhost }
      refine ⟨l, raw, ?_, ?_⟩
      · rw [Login.Admits, hraw]
        exact hpassword
      · rw [Login.text, ← htext, String.ofList_toList]

end Url

end SampleLoad
