import Mathlib.Data.List.Forall2
import SampleLoad.Proofs.Url.Percent
import SampleLoad.Url.Path

/-!
Names as segments of a path. A name that is not a dot or a double dot, and has no tab or line break, becomes one
segment, which decodes to the name. Any other name is lost, takes the segment before it away, or becomes a segment
that decodes to something else; no later name makes up for that. Main statement: `UrlPath.foldl_push_spells_iff`.
-/

namespace SampleLoad.UrlPath

/-! ### Texts and segments -/

/-- The segment decodes to the text, and has no character at which a URL is split. -/
structure Spells (segment text : String) : Prop where
  decoded : (Percent.decode segment.toList).toByteArray = text.toUTF8
  whole : '/' ∉ segment.toList ∧ '?' ∉ segment.toList ∧ '#' ∉ segment.toList

theorem Spells.unique {segment text other : String} (h : Spells segment text) (hother : Spells segment other) :
    text = other :=
  String.toByteArray_inj.mp (h.decoded.symm.trans hother.decoded)

theorem toUTF8_ofList (cs : List Char) :
    (String.ofList cs).toUTF8 = (cs.flatMap String.utf8EncodeChar).toByteArray :=
  String.toByteArray_ofList

theorem utf8ByteSize_eq (s : String) : s.utf8ByteSize = (s.toList.flatMap String.utf8EncodeChar).length := by
  have h := congrArg ByteArray.size (toUTF8_ofList s.toList)
  rw [String.ofList_toList, List.size_toByteArray] at h
  exact h

/-- A segment is no shorter than what it spells. -/
theorem Spells.utf8ByteSize_le {segment text : String} (h : Spells segment text) :
    text.utf8ByteSize ≤ segment.utf8ByteSize := by
  have hdecoded := congrArg ByteArray.size h.decoded
  rw [List.size_toByteArray] at hdecoded
  rw [utf8ByteSize_eq segment, ← show _ = text.utf8ByteSize from hdecoded]
  exact Percent.length_decode_le _

theorem utf8ByteSize_le_text {segment : String} {path : List String} (h : segment ∈ path) :
    segment.utf8ByteSize ≤ (text path).utf8ByteSize := by
  induction path with
  | nil => cases h
  | cons first rest ih =>
      have htext : text (first :: rest) = "/" ++ first ++ text rest := by simp [text]
      rw [htext, String.utf8ByteSize_append, String.utf8ByteSize_append]
      rcases List.mem_cons.mp h with rfl | hrest
      · omega
      · have hlater := ih hrest
        omega

/-- A name that stands in a path as it is. -/
def Plain (name : String) : Prop :=
  name ≠ "." ∧ name ≠ ".." ∧ '\t' ∉ name.toList ∧ '\n' ∉ name.toList ∧ '\r' ∉ name.toList

instance (name : String) : Decidable (Plain name) := inferInstanceAs (Decidable (_ ∧ _ ∧ _ ∧ _ ∧ _))

/-- What stays of a name: its characters but tabs and line breaks. -/
def kept (name : String) : List Char := name.toList.filter fun c => c ≠ '\t' && c ≠ '\n' && c ≠ '\r'

theorem kept_eq_self_iff (name : String) :
    kept name = name.toList ↔ '\t' ∉ name.toList ∧ '\n' ∉ name.toList ∧ '\r' ∉ name.toList := by
  rw [kept, List.filter_eq_self]
  constructor
  · intro h
    exact ⟨fun hmem => absurd (h _ hmem) (by decide), fun hmem => absurd (h _ hmem) (by decide),
      fun hmem => absurd (h _ hmem) (by decide)⟩
  · rintro ⟨htab, hfeed, hreturn⟩ c hmem
    have hnotTab : c ≠ '\t' := fun hc => htab (hc ▸ hmem)
    have hnotFeed : c ≠ '\n' := fun hc => hfeed (hc ▸ hmem)
    have hnotReturn : c ≠ '\r' := fun hc => hreturn (hc ▸ hmem)
    simp [hnotTab, hnotFeed, hnotReturn]

/-- What a segment cannot hold. -/
def reserved (kind : SchemeKind) : Char → Bool :=
  if kind = .other then Percent.segment else Percent.specialSegment

theorem reserved_of_segment (kind : SchemeKind) {c : Char} (h : Percent.segment c = true) :
    reserved kind c = true := by
  unfold reserved
  split
  · exact h
  · rw [Percent.specialSegment, h, Bool.true_or]

theorem decode_reserved (kind : SchemeKind) (cs : List Char) :
    Percent.decode (Percent.encode (reserved kind) cs) = cs.flatMap String.utf8EncodeChar :=
  Percent.decode_encode (reserved_of_segment kind (by decide)) cs

theorem spells_encode_iff (kind : SchemeKind) (cs : List Char) (text : String) :
    Spells (String.ofList (Percent.encode (reserved kind) cs)) text ↔ String.ofList cs = text := by
  have hspells : Spells (String.ofList (Percent.encode (reserved kind) cs)) (String.ofList cs) := by
    constructor
    · rw [String.toList_ofList, decode_reserved, toUTF8_ofList]
    · have hnone {c : Char} (hreserved : Percent.segment c = true) (hencoding : Percent.isEncoding c = false) :
          c ∉ Percent.encode (reserved kind) cs :=
        Percent.not_mem_encode (reserved_of_segment kind hreserved) hencoding cs
      rw [String.toList_ofList]
      exact ⟨hnone (by decide) (by decide), hnone (by decide) (by decide), hnone (by decide) (by decide)⟩
  constructor
  · exact hspells.unique
  · rintro rfl
    exact hspells

/-! ### Dots -/

/-- Lower case keeps a character, or moves a capital letter. -/
theorem eq_of_toLower {c d : Char} (h : c.toLower = d) :
    c = d ∨ 65 ≤ c.toNat ∧ c.toNat ≤ 90 ∧ d.toNat = c.toNat + 32 := by
  unfold Char.toLower at h
  split at h
  · rename_i hupper
    have hlow : 65 ≤ c.val.toNat := hupper.1
    have hhigh : c.val.toNat ≤ 90 := hupper.2
    refine .inr ⟨hlow, hhigh, ?_⟩
    have hmoved : d.toNat = (c.val.toNat + 32) % 4294967296 := by
      rw [← h]
      exact UInt32.toNat_add c.val 32
    rw [hmoved]
    exact Nat.mod_eq_of_lt (by omega)
  · exact .inl h

theorem eq_of_toLower_of_lt {c d : Char} (hd : d.toNat < 97) (h : c.toLower = d) : c = d := by
  rcases eq_of_toLower h with heq | ⟨hlow, -, hmoved⟩
  · exact heq
  · omega

/-- A dot, possibly encoded. -/
inductive IsDot : List Char → Prop where
  | plain : IsDot ['.']
  | lower : IsDot ['%', '2', 'e']
  | upper : IsDot ['%', '2', 'E']

theorem IsDot.decode_append {cs : List Char} (h : IsDot cs) (rest : List Char) :
    Percent.decode (cs ++ rest) = String.utf8EncodeChar '.' ++ Percent.decode rest := by
  cases h with
  | plain => exact Percent.decode_cons (by decide) rest
  | lower => rfl
  | upper => rfl

theorem IsDot.of_plain {cs : List Char} (h : cs.map Char.toLower = ['.']) : IsDot cs := by
  obtain ⟨dot, rfl, hdot⟩ := List.map_eq_singleton_iff.mp h
  rw [eq_of_toLower_of_lt (by decide) hdot]
  exact .plain

theorem IsDot.of_encoded {cs : List Char} (h : cs.map Char.toLower = ['%', '2', 'e']) : IsDot cs := by
  obtain ⟨mark, _, rfl, hmark, hrest⟩ := List.map_eq_cons_iff.mp h
  obtain ⟨digit, _, rfl, hdigit, hrest⟩ := List.map_eq_cons_iff.mp hrest
  obtain ⟨letter, rfl, hletter⟩ := List.map_eq_singleton_iff.mp hrest
  rw [eq_of_toLower_of_lt (by decide) hmark, eq_of_toLower_of_lt (by decide) hdigit]
  rcases eq_of_toLower hletter with rfl | ⟨-, -, hmoved⟩
  · exact .lower
  · have hcapital : letter = 'E' := Char.toNat_inj.mp (Nat.add_right_cancel (hmoved.symm : letter.toNat + 32 = 69 + 32))
    rw [hcapital]
    exact .upper

theorem IsDot.of_isSingleDot {cs : List Char} (h : isSingleDot cs = true) : IsDot cs := by
  rw [isSingleDot, decide_eq_true_iff, List.mem_cons, List.mem_singleton] at h
  rcases h with h | h
  · exact .of_plain (String.ofList_injective h)
  · exact .of_encoded (String.ofList_injective h)

/-- A double dot is two dots, each encoded or not. -/
theorem isDot_isDot_of_isDoubleDot {cs : List Char} (h : isDoubleDot cs = true) :
    ∃ first second, cs = first ++ second ∧ IsDot first ∧ IsDot second := by
  have hsplit : ∃ first second, cs.map Char.toLower = first ++ second ∧
      (first = ['.'] ∨ first = ['%', '2', 'e']) ∧ (second = ['.'] ∨ second = ['%', '2', 'e']) := by
    rw [isDoubleDot, decide_eq_true_iff] at h
    simp only [List.mem_cons, List.not_mem_nil, or_false] at h
    rcases h with h | h | h | h
    · exact ⟨['.'], ['.'], String.ofList_injective h, .inl rfl, .inl rfl⟩
    · exact ⟨['%', '2', 'e'], ['%', '2', 'e'], String.ofList_injective h, .inr rfl, .inr rfl⟩
    · exact ⟨['%', '2', 'e'], ['.'], String.ofList_injective h, .inr rfl, .inl rfl⟩
    · exact ⟨['.'], ['%', '2', 'e'], String.ofList_injective h, .inl rfl, .inr rfl⟩
  have hdot {cs lowered : List Char} (hcs : cs.map Char.toLower = lowered)
      (h : lowered = ['.'] ∨ lowered = ['%', '2', 'e']) : IsDot cs := by
    rcases h with rfl | rfl
    · exact .of_plain hcs
    · exact .of_encoded hcs
  obtain ⟨first, second, hmap, hfirst, hsecond⟩ := hsplit
  obtain ⟨before, after, rfl, hbefore, hafter⟩ := List.map_eq_append_iff.mp hmap
  exact ⟨before, after, rfl, hdot hbefore hfirst, hdot hafter hsecond⟩

theorem eq_of_decode_eq {kind : SchemeKind} {cs ds : List Char}
    (h : Percent.decode (Percent.encode (reserved kind) cs) = ds.flatMap String.utf8EncodeChar) : cs = ds := by
  rw [decode_reserved] at h
  refine String.ofList_injective (String.toByteArray_inj.mp ?_)
  rw [← String.toUTF8_eq_toByteArray, ← String.toUTF8_eq_toByteArray, toUTF8_ofList, toUTF8_ofList, h]

/-- An encoded text is a dot only if the text is one. -/
theorem eq_of_isSingleDot {kind : SchemeKind} {cs : List Char}
    (h : isSingleDot (Percent.encode (reserved kind) cs) = true) : cs = ['.'] := by
  have hdecoded := (IsDot.of_isSingleDot h).decode_append []
  rw [List.append_nil] at hdecoded
  exact eq_of_decode_eq hdecoded

theorem eq_of_isDoubleDot {kind : SchemeKind} {cs : List Char}
    (h : isDoubleDot (Percent.encode (reserved kind) cs) = true) : cs = ['.', '.'] := by
  obtain ⟨first, second, hsplit, hfirst, hsecond⟩ := isDot_isDot_of_isDoubleDot h
  have hdecoded := hfirst.decode_append (second ++ [])
  rw [hsecond.decode_append, List.append_nil, ← hsplit] at hdecoded
  exact eq_of_decode_eq hdecoded

/-! ### Adding a name -/

theorem push_eq {name : String} (hname : ¬(name = "." ∨ name = "..")) (kind : SchemeKind) (path : List String) :
    push kind path name = withoutEmptyStart kind
      (add kind (if path = [""] then [] else path) (Percent.encode (reserved kind) (kept name)) true) := by
  rw [push, if_neg (by simpa using hname)]
  rfl

/-- A path that is at least two segments long, and may be that of its kind of URL. -/
structure Settled (kind : SchemeKind) (path : List String) : Prop where
  two : 2 ≤ path.length
  start : kind = .file → path.head? ≠ some ""

section Settled

variable {kind : SchemeKind} {path : List String}

theorem withoutEmptyStart_of_head (h : kind = .file → path.head? ≠ some "") (hsome : path ≠ []) :
    withoutEmptyStart kind path = path := by
  unfold withoutEmptyStart
  split
  · rename_i hfile
    cases path with
    | nil => exact absurd rfl hsome
    | cons first rest =>
        have hfirst : first ≠ "" := fun hempty => h hfile (congrArg some hempty)
        rw [List.dropWhile_cons_of_neg (by simpa using hfirst)]
  · rfl

theorem Settled.append (h : Settled kind path) (segments : List String) : Settled kind (path ++ segments) := by
  constructor
  · rw [List.length_append]
    exact Nat.le_add_right_of_le h.two
  · intro hfile
    have hsome : path ≠ [] := List.ne_nil_of_length_pos (Nat.lt_of_lt_of_le Nat.zero_lt_two h.two)
    rw [List.head?_append_of_ne_nil _ hsome]
    exact h.start hfile

theorem Settled.replaceLast (h : Settled kind path) (segment : String) : Settled kind (path.dropLast ++ [segment]) := by
  match path, h with
  | first :: second :: rest, h =>
    constructor
    · rw [List.length_append, List.length_dropLast]
      exact Nat.le_add_left 2 _
    · exact h.start

theorem Settled.withoutEmptyStart (h : Settled kind path) : UrlPath.withoutEmptyStart kind path = path :=
  withoutEmptyStart_of_head h.start (List.ne_nil_of_length_pos (Nat.lt_of_lt_of_le Nat.zero_lt_two h.two))

theorem Settled.add (h : Settled kind path) {segment : List Char} (hsingle : isSingleDot segment = false)
    (hdouble : isDoubleDot segment = false) : UrlPath.add kind path segment true = path ++ [String.ofList segment] := by
  have hsome : path ≠ [] := List.ne_nil_of_length_pos (Nat.lt_of_lt_of_le Nat.zero_lt_two h.two)
  simp [UrlPath.add, hsingle, hdouble, hsome]

theorem Settled.push_eq (h : Settled kind path) {name : String} (hname : ¬(name = "." ∨ name = "..")) :
    push kind path name =
      UrlPath.withoutEmptyStart kind (UrlPath.add kind path (Percent.encode (reserved kind) (kept name)) true) := by
  have hbefore : path ≠ [""] := by
    rintro rfl
    exact absurd h.two (by decide)
  rw [UrlPath.push_eq hname, if_neg hbefore]

theorem shorten_eq (path : List String) : shorten path = path ∨ shorten path = path.dropLast := by
  unfold shorten
  split
  · split
    · exact .inl rfl
    · exact .inr rfl
  · rename_i hnone
    rw [List.getLast?_eq_none_iff.mp hnone]
    exact .inl rfl

theorem not_spells_empty (kind : SchemeKind) {name : String} (hnot : ¬Plain name) : ¬Spells "" name := by
  intro hspells
  have hname : "" = name := (spells_encode_iff kind [] name).mp hspells
  exact hnot (hname ▸ by decide)

/-- What becomes of a name. The segment before it is replaced by an empty one if tabs and line breaks hid a double
dot. -/
theorem Settled.push_cases (h : Settled kind path) (name : String) :
    (¬Plain name ∧ (push kind path name = path ∨ push kind path name = path.dropLast ++ [""])) ∨
      ∃ segment, push kind path name = path ++ [segment] ∧ (Spells segment name ↔ Plain name) := by
  by_cases hdot : name = "."
  · subst hdot
    exact .inl ⟨by decide, .inl rfl⟩
  by_cases hdots : name = ".."
  · subst hdots
    exact .inl ⟨by decide, .inl rfl⟩
  have hplain : Plain name ↔ String.ofList (kept name) = name := by
    rw [Plain, ← kept_eq_self_iff, and_iff_right hdot, and_iff_right hdots]
    constructor
    · intro hkept
      rw [hkept, String.ofList_toList]
    · intro hname
      rw [← String.toList_ofList (l := kept name), hname]
  rw [h.push_eq (not_or.mpr ⟨hdot, hdots⟩)]
  cases hdouble : isDoubleDot (Percent.encode (reserved kind) (kept name)) with
  | true =>
      have hkept := eq_of_isDoubleDot hdouble
      have hnot : ¬Plain name := fun hname => hdots (by rw [← hplain.mp hname, hkept])
      have hadd : UrlPath.add kind path (Percent.encode (reserved kind) (kept name)) true = shorten path ++ [""] := by
        simp [UrlPath.add, hdouble]
      rw [hadd]
      rcases shorten_eq path with hshort | hshort <;> rw [hshort]
      · rw [(h.append [""]).withoutEmptyStart]
        exact .inr ⟨"", rfl, iff_of_false (not_spells_empty kind hnot) hnot⟩
      · rw [(h.replaceLast "").withoutEmptyStart]
        exact .inl ⟨hnot, .inr rfl⟩
  | false =>
      cases hsingle : isSingleDot (Percent.encode (reserved kind) (kept name)) with
      | true =>
          have hkept := eq_of_isSingleDot hsingle
          have hnot : ¬Plain name := fun hname => hdot (by rw [← hplain.mp hname, hkept])
          have hadd : UrlPath.add kind path (Percent.encode (reserved kind) (kept name)) true = path ++ [""] := by
            simp [UrlPath.add, hdouble, hsingle]
          rw [hadd, (h.append [""]).withoutEmptyStart]
          exact .inr ⟨"", rfl, iff_of_false (not_spells_empty kind hnot) hnot⟩
      | false =>
          rw [h.add hsingle hdouble, (h.append _).withoutEmptyStart]
          refine .inr ⟨_, rfl, ?_⟩
          rw [spells_encode_iff, hplain]

theorem Settled.push (h : Settled kind path) (name : String) : Settled kind (push kind path name) := by
  rcases h.push_cases name with ⟨-, hsame | hlost⟩ | ⟨segment, hadded, -⟩
  · rw [hsame]
    exact h
  · rw [hlost]
    exact h.replaceLast ""
  · rw [hadded]
    exact h.append [segment]

theorem Settled.push_length_le (h : Settled kind path) (name : String) :
    (UrlPath.push kind path name).length ≤ path.length + 1 := by
  rcases h.push_cases name with ⟨-, hsame | hlost⟩ | ⟨segment, hadded, -⟩
  · rw [hsame]
    exact Nat.le_succ _
  · rw [hlost, List.length_append, List.length_dropLast, List.length_singleton]
    omega
  · rw [hadded, List.length_append, List.length_singleton]

/-! ### Adding names -/

theorem Settled.foldl_push (h : Settled kind path) (names : List String) :
    Settled kind (names.foldl (UrlPath.push kind) path) := by
  induction names generalizing path with
  | nil => exact h
  | cons name names ih => exact ih (h.push name)

theorem Settled.foldl_push_length_le (h : Settled kind path) (names : List String) :
    (names.foldl (UrlPath.push kind) path).length ≤ path.length + names.length := by
  induction names generalizing path with
  | nil => exact Nat.le_refl _
  | cons name names ih =>
      have hfirst := h.push_length_le name
      have hrest := ih (h.push name)
      rw [List.foldl_cons, List.length_cons]
      omega

/-- No later name makes up for one that has added nothing. -/
theorem Settled.push_of_length (h : Settled kind path) {name : String} {names : List String}
    (hlength : (names.foldl (UrlPath.push kind) (UrlPath.push kind path name)).length =
      path.length + 1 + names.length) :
    ∃ segment, UrlPath.push kind path name = path ++ [segment] ∧ (Spells segment name ↔ Plain name) := by
  have hbound := (h.push name).foldl_push_length_le names
  rcases h.push_cases name with ⟨-, hsame | hlost⟩ | hadded
  · rw [hsame] at hbound hlength
    omega
  · have hlast : (path.dropLast ++ [""]).length = path.length - 1 + 1 := by
      rw [List.length_append, List.length_dropLast, List.length_singleton]
    have htwo := h.two
    rw [hlost] at hbound hlength
    omega
  · exact hadded

/-- If every name has added a segment, nothing of the path before was lost. -/
theorem Settled.prefix_foldl_push (h : Settled kind path) {names : List String}
    (hlength : (names.foldl (UrlPath.push kind) path).length = path.length + names.length) :
    path <+: names.foldl (UrlPath.push kind) path := by
  induction names generalizing path with
  | nil => exact List.prefix_rfl
  | cons name names ih =>
      rw [List.foldl_cons, List.length_cons, ← Nat.add_assoc, Nat.add_right_comm] at hlength
      obtain ⟨segment, hadded, -⟩ := h.push_of_length hlength
      have hagain := ih (h.push name) (by rw [hlength, hadded, List.length_append, List.length_singleton])
      refine List.IsPrefix.trans ?_ hagain
      rw [hadded]
      exact List.prefix_append path [segment]

/-- Names become segments that spell them exactly if all names are plain. -/
theorem Settled.foldl_push_spells_iff (h : Settled kind path) (names : List String) :
    (∃ segments, names.foldl (UrlPath.push kind) path = path ++ segments ∧ List.Forall₂ Spells segments names) ↔
      ∀ name ∈ names, Plain name := by
  induction names generalizing path with
  | nil => exact ⟨fun _ name hname => (nomatch hname), fun _ => ⟨[], (List.append_nil path).symm, .nil⟩⟩
  | cons name names ih =>
      rw [List.forall_mem_cons, List.foldl_cons, ← ih (h.push name)]
      constructor
      · rintro ⟨segments, hfold, hspells⟩
        obtain ⟨segment, rest, hfirst, hrest, rfl⟩ := List.forall₂_cons_right_iff.mp hspells
        have hlength : (names.foldl (UrlPath.push kind) (UrlPath.push kind path name)).length =
            path.length + 1 + names.length := by
          rw [hfold, List.length_append, List.length_cons, hrest.length_eq]
          omega
        obtain ⟨added, hadded, hiff⟩ := h.push_of_length hlength
        have hprefix := (h.push name).prefix_foldl_push
          (by rw [hlength, hadded, List.length_append, List.length_singleton])
        rw [hfold, hadded, List.prefix_append_right_inj, List.cons_prefix_cons] at hprefix
        obtain rfl := hprefix.1
        refine ⟨hiff.mp hfirst, rest, ?_, hrest⟩
        rw [hfold, hadded, List.append_assoc, List.singleton_append]
      · rintro ⟨hname, segments, hfold, hspells⟩
        rcases h.push_cases name with ⟨hnot, -⟩ | ⟨segment, hadded, hiff⟩
        · exact absurd hname hnot
        · refine ⟨segment :: segments, ?_, .cons (hiff.mpr hname) hspells⟩
          rw [hfold, hadded, List.append_assoc, List.singleton_append]

/-- Plain names that make the same path are the same. -/
theorem Settled.foldl_push_injective (h : Settled kind path) (names others : List String)
    (hnames : ∀ name ∈ names, Plain name) (hothers : ∀ name ∈ others, Plain name)
    (hsame : others.foldl (UrlPath.push kind) path = names.foldl (UrlPath.push kind) path) : others = names := by
  obtain ⟨segments, hfold, hspells⟩ := (h.foldl_push_spells_iff names).mpr hnames
  obtain ⟨segments', hfold', hspells'⟩ := (h.foldl_push_spells_iff others).mpr hothers
  obtain rfl : segments' = segments := List.append_cancel_left (hfold'.symm.trans (hsame.trans hfold))
  have hunique : Relator.RightUnique Spells := fun segment text other => Spells.unique
  exact hunique.forall₂ hspells' hspells

end Settled

end SampleLoad.UrlPath
