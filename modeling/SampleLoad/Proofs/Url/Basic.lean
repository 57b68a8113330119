import SampleLoad.Url.Basic

/-!
What reading a URL says about its path. Only a URL whose scheme is that of files is read as a file, and the path of
a file has an empty segment in front only if it has no other. Main statement: `Url.hasFilePath_of_parse`.
-/

namespace SampleLoad

/-- The path of a file: an empty segment in front stands alone. -/
def UrlPath.IsFilePath (path : List String) : Prop := path = [""] ∨ path.head? ≠ some ""

theorem UrlPath.withoutEmptyStart_isFilePath (path : List String) : IsFilePath (withoutEmptyStart .file path) := by
  rw [withoutEmptyStart, if_pos rfl]
  cases hrest : path.dropWhile (· = "") with
  | nil => exact .inl rfl
  | cons first rest =>
      refine .inr fun hempty => ?_
      have hkept := List.head?_dropWhile_not (· = "") path
      rw [hrest, List.head?_cons] at hkept
      rw [Option.some.inj hempty] at hkept
      exact Bool.noConfusion hkept

/-- Every value that comes of a computation has a property. -/
def Yields {ε α : Type} (P : α → Prop) (x : Except ε α) : Prop := ∀ a, x = .ok a → P a

namespace Yields

variable {ε α β : Type} {P : β → Prop}

theorem pure {b : β} (h : P b) : Yields P (pure b : Except ε β) := by
  rintro _ ⟨⟩
  exact h

theorem throw {e : ε} : Yields P (throw e : Except ε β) := fun _ h => nomatch h

theorem bind {x : Except ε α} {f : α → Except ε β} (h : ∀ a, Yields P (f a)) : Yields P (x >>= f) := by
  cases x with
  | error e => exact throw
  | ok a => exact h a

theorem ite {c : Prop} [Decidable c] {x y : Except ε β} (hx : Yields P x) (hy : Yields P y) :
    Yields P (if c then x else y) := by
  split
  · exact hx
  · exact hy

end Yields

namespace Url

theorem authorityPath_isFilePath (cs : List Char) : UrlPath.IsFilePath (authorityPath .file cs) := by
  unfold authorityPath
  split
  · exact .inl rfl
  · split <;> exact UrlPath.withoutEmptyStart_isFilePath _

/-- The URL has the path of a file. -/
def HasFilePath (u : Url) : Prop := ∃ path, u.path? = some path ∧ UrlPath.IsFilePath path

theorem fileOn_hasFilePath (host : Host) (cs : List Char) : HasFilePath (fileOn host cs) :=
  ⟨_, rfl, authorityPath_isFilePath _⟩

theorem readFile_hasFilePath (cs : List Char) : Yields HasFilePath (readFile cs) := by
  unfold readFile
  dsimp only
  repeat' first
    | exact .throw
    | exact .pure (fileOn_hasFilePath _ _)
    | refine .ite ?_ ?_
    | refine .bind fun _ => ?_
    | split

theorem readAuthority_scheme (scheme : String) (cs : List Char) :
    Yields (fun u => u.scheme = scheme) (readAuthority scheme cs) := by
  unfold readAuthority
  dsimp only
  repeat' first
    | exact .throw
    | exact .pure rfl
    | refine .ite ?_ ?_
    | refine .bind fun _ => ?_
    | split

theorem readOther_scheme (scheme : String) (cs : List Char) :
    Yields (fun u => u.scheme = scheme) (readOther scheme cs) := by
  unfold readOther
  split
  · exact readAuthority_scheme scheme _
  · exact .pure rfl
  · exact .pure rfl

/-- A URL of a file has the path of one. -/
theorem hasFilePath_of_parse {s : String} {u : Url} (h : parse s = .ok u) (hkind : u.kind = .file) : HasFilePath u := by
  simp only [parse] at h
  split at h
  · cases h
  · rename_i scheme rest _
    split at h
    · exact readFile_hasFilePath _ u h
    · rename_i hscheme
      rw [kind, readAuthority_scheme _ _ u h, hscheme] at hkind
      cases hkind
    · rename_i hscheme
      rw [kind, readOther_scheme _ _ u h, hscheme] at hkind
      cases hkind

end Url

end SampleLoad
