-- SUMMARY: Where the path of a name within a directory leads.
import FirmwareGen.Proofs.Storage.Changes
/-!
# Names within directories

The path of a name within a directory leads where the name leads from that directory, or from the root
if the name is absolute. Without a step up that place lies below, one name deeper for every component
that is not idle. So the files of one base name lie side by side.
-/

namespace FirmwareGen

/-! ## Components -/

namespace Path

theorem splitSlashes_ne_nil (text : List Char) : splitSlashes text ≠ [] := by
  cases text with
  | nil => simp [splitSlashes]
  | cons c text =>
    rw [splitSlashes]
    split
    · simp
    · split <;> simp

theorem splitSlashes_cons_of_ne {c : Char} (hc : c ≠ '/') (text : List Char) :
    ∃ first rest, splitSlashes text = first :: rest ∧
      splitSlashes (c :: text) = (c :: first) :: rest := by
  cases htext : splitSlashes text with
  | nil => exact absurd htext (splitSlashes_ne_nil text)
  | cons first rest => exact ⟨first, rest, rfl, by rw [splitSlashes, if_neg hc, htext]⟩

theorem splitSlashes_append (text rest : List Char) :
    splitSlashes (text ++ '/' :: rest) = splitSlashes text ++ splitSlashes rest := by
  induction text with
  | nil => rfl
  | cons c text ih =>
    by_cases hc : c = '/'
    · rw [List.cons_append, splitSlashes, splitSlashes, if_pos hc, if_pos hc, ih, List.cons_append]
    · obtain ⟨first, more, htext, hcons⟩ := splitSlashes_cons_of_ne hc text
      obtain ⟨first', more', htext', hcons'⟩ :=
        splitSlashes_cons_of_ne hc (text ++ '/' :: rest)
      rw [ih, htext, List.cons_append, List.cons_eq_cons] at htext'
      rw [List.cons_append, hcons', hcons, List.cons_append, htext'.1, htext'.2]

theorem splitSlashes_of_not_mem {text : List Char} (h : '/' ∉ text) :
    splitSlashes text = [text] := by
  induction text with
  | nil => rfl
  | cons c text ih =>
    rw [List.mem_cons, not_or] at h
    obtain ⟨first, rest, htext, hcons⟩ := splitSlashes_cons_of_ne (Ne.symm h.1) text
    rw [ih h.2, List.cons_eq_cons] at htext
    rw [hcons, htext.1, htext.2]

/-- Text behind the last slash belongs to the last component. -/
theorem splitSlashes_append_of_not_mem (text : List Char) :
    ∃ front last, splitSlashes text = front ++ [last] ∧ ∀ ending, '/' ∉ ending →
      splitSlashes (text ++ ending) = front ++ [last ++ ending] := by
  induction text with
  | nil => exact ⟨[], [], rfl, fun ending hending => splitSlashes_of_not_mem hending⟩
  | cons c text ih =>
    obtain ⟨front, last, htext, happend⟩ := ih
    by_cases hc : c = '/'
    · refine ⟨[] :: front, last, ?_, fun ending hending => ?_⟩
      · rw [splitSlashes, if_pos hc, htext, List.cons_append]
      · rw [List.cons_append, splitSlashes, if_pos hc, happend ending hending, List.cons_append]
    · cases front with
      | nil =>
        refine ⟨[], c :: last, ?_, fun ending hending => ?_⟩
        · rw [splitSlashes, if_neg hc, htext]
          rfl
        · rw [List.cons_append, splitSlashes, if_neg hc, happend ending hending]
          rfl
      | cons first front =>
        refine ⟨(c :: first) :: front, last, ?_, fun ending hending => ?_⟩
        · rw [splitSlashes, if_neg hc, htext]
          rfl
        · rw [List.cons_append, splitSlashes, if_neg hc, happend ending hending]
          rfl

theorem mem_of_mem_splitSlashes {text component : List Char} (h : component ∈ splitSlashes text)
    {c : Char} (hc : c ∈ component) : c ∈ text := by
  induction text generalizing component with
  | nil => simp [splitSlashes] at h; simp [h] at hc
  | cons d text ih =>
    by_cases hd : d = '/'
    · rw [splitSlashes, if_pos hd, List.mem_cons] at h
      rcases h with rfl | h
      · cases hc
      · exact List.mem_cons_of_mem _ (ih h hc)
    · obtain ⟨first, rest, htext, hcons⟩ := splitSlashes_cons_of_ne hd text
      rw [hcons, List.mem_cons] at h
      rcases h with rfl | h
      · rcases List.mem_cons.1 hc with rfl | hc
        · exact List.mem_cons_self
        · exact List.mem_cons_of_mem _ (ih (by simp [htext]) hc)
      · exact List.mem_cons_of_mem _ (ih (by simp [htext, h]) hc)

theorem components_append_slash (front name : String) :
    components (front ++ "/" ++ name) = components front ++ components name := by
  rw [components, String.toList_append, String.toList_append, List.append_assoc]
  show (splitSlashes (front.toList ++ '/' :: name.toList)).map String.ofList = _
  rw [splitSlashes_append, List.map_append]
  rfl

/-! ### Files of a base name -/

/-- The name of a file is the base name with a dot and a letter behind it. -/
def fileOf (base : String) (letter : Char) : String := base ++ String.ofList ['.', letter]

theorem fileOf_inj {base : String} {letter other : Char}
    (h : fileOf base letter = fileOf base other) : letter = other := by
  simpa [fileOf, ← String.toList_inj] using h

theorem isAbsolute_fileOf (base : String) (letter : Char) :
    isAbsolute (fileOf base letter) = isAbsolute base := by
  cases hbase : base.toList with
  | nil => simp [isAbsolute, fileOf, hbase]
  | cons c rest => simp [isAbsolute, fileOf, hbase]

/-- The name of a file ends in its letter. -/
theorem fileOf_ne_ofList {base : String} {letter : Char} (letters : List Char)
    (h : letters.getLast? ≠ some letter) : fileOf base letter ≠ String.ofList letters := by
  intro heq
  have htext := congrArg (fun text => text.toList.getLast?) heq
  simp only [fileOf, String.toList_append, String.toList_ofList] at htext
  rw [← htext] at h
  exact h (by simp)

/-- The steps to a file of a base name lead through the components of that name, the last of which
    the ending belongs to. -/
theorem steps_fileOf {base : String} (hbase : '.' ∉ base.toList) :
    ∃ front last, components base = front ++ [last] ∧ ∀ letter, letter ≠ '/' → letter ≠ '.' →
      ".." ∉ components (fileOf base letter) ∧
      steps (fileOf base letter) =
        front.filter (fun component => !isIdle component) ++ [fileOf last letter] := by
  obtain ⟨front, last, hsplit, happend⟩ := splitSlashes_append_of_not_mem base.toList
  refine ⟨front.map String.ofList, String.ofList last, by simp [components, hsplit], ?_⟩
  intro letter hslash hdot
  have hcomponents : components (fileOf base letter) =
      front.map String.ofList ++ [fileOf (String.ofList last) letter] := by
    rw [components, fileOf, String.toList_append, String.toList_ofList,
      happend ['.', letter] (by simpa using Ne.symm hslash)]
    simp [fileOf]
  have hempty : fileOf (String.ofList last) letter ≠ "" := fileOf_ne_ofList [] (by simp)
  have hhere : fileOf (String.ofList last) letter ≠ "." :=
    fileOf_ne_ofList ['.'] (by simpa using Ne.symm hdot)
  have hup : fileOf (String.ofList last) letter ≠ ".." :=
    fileOf_ne_ofList ['.', '.'] (by simpa using Ne.symm hdot)
  constructor
  · rw [hcomponents, List.mem_append, List.mem_singleton, not_or]
    refine ⟨fun hmem => ?_, Ne.symm hup⟩
    obtain ⟨component, hcomponent, heq⟩ := List.mem_map.1 hmem
    have hchars : component = ['.', '.'] := by
      rw [← String.toList_ofList (l := component), heq]
      rfl
    have hmem : component ∈ splitSlashes base.toList := by
      rw [hsplit]
      exact List.mem_append_left _ hcomponent
    exact hbase (mem_of_mem_splitSlashes hmem (by simp [hchars]))
  · rw [steps, hcomponents, List.filter_append,
      List.filter_cons_of_pos (by simp [isIdle, hempty, hhere])]
    rfl

theorem isAbsolute_of_not_mem {base : String} (hbase : '/' ∉ base.toList) :
    isAbsolute base = false := by
  rw [isAbsolute, beq_eq_false_iff_ne]
  exact fun hhead => hbase (List.mem_of_mem_head? hhead)

theorem components_of_not_mem {base : String} (hbase : '/' ∉ base.toList) :
    components base = [base] := by
  rw [components, splitSlashes_of_not_mem hbase, List.map_singleton, String.ofList_toList]

/-- A base name with a slash behind its beginning leads through another component. -/
theorem steps_front_ne_nil {base last : String} {front : List String} (hbase : '.' ∉ base.toList)
    (hslash : '/' ∈ base.toList) (hrelative : isAbsolute base = false)
    (h : components base = front ++ [last]) :
    front.filter (fun component => !isIdle component) ≠ [] := by
  obtain ⟨before, after, hchars⟩ := List.append_of_mem hslash
  cases before with
  | nil => simp [isAbsolute, hchars] at hrelative
  | cons c before =>
    have hc : c ≠ '/' := by simpa [isAbsolute, hchars] using hrelative
    obtain ⟨first, more, -, hcons⟩ := splitSlashes_cons_of_ne hc before
    have hmem : c :: first ∈ splitSlashes base.toList := by
      rw [hchars, splitSlashes_append, hcons]
      exact List.mem_append_left _ List.mem_cons_self
    rw [components, hchars, splitSlashes_append, hcons, List.map_append, List.map_cons,
      List.cons_append] at h
    cases front with
    | nil =>
      have hempty : splitSlashes after = [] := by
        have hrest := (List.cons_eq_cons.1 h).2
        rw [List.append_eq_nil_iff, List.map_eq_nil_iff] at hrest
        exact List.map_eq_nil_iff.1 hrest.2
      exact absurd hempty (splitSlashes_ne_nil after)
    | cons component front =>
      rw [List.cons_append, List.cons_eq_cons] at h
      have hhere : c :: first ≠ ['.'] :=
        fun hdot => hbase (mem_of_mem_splitSlashes hmem (by simp [hdot]))
      rw [← h.1, List.filter_cons_of_pos]
      · exact List.cons_ne_nil _ _
      · simpa [isIdle, ← String.toList_inj] using hhere

end Path

/-! ## Places -/

namespace FileTree

variable {tree : FileTree} {directory folder place last : Location} {outDir name : String}

/-- Without steps up every component that is not idle leads one name deeper. -/
theorem eq_of_followAll {components : List String} (hup : ".." ∉ components)
    (h : tree.followAll place components = .ok last) :
    last = place ++ components.filter fun component => !Path.isIdle component := by
  induction components generalizing place with
  | nil =>
    rw [followAll, Except.ok.injEq] at h
    simp [h]
  | cons component components ih =>
    rw [List.mem_cons, not_or] at hup
    rw [followAll] at h
    cases hstep : tree.follow place component with
    | error fault => rw [hstep] at h; cases h
    | ok next =>
      rw [hstep] at h
      rw [ih hup.2 h]
      rw [follow_of_isDirectory (isDirectory_of_follow hstep)] at hstep
      split at hstep
      · next hidle => cases hstep; simp [hidle]
      · next hidle =>
        rw [if_neg (Ne.symm hup.1)] at hstep
        split at hstep
        · cases hstep; simp [hidle]
        · cases hstep

/-- An empty component behind a directory stays there. -/
theorem eq_of_followAll_empty (h : tree.followAll place [""] = .ok last) : last = place := by
  simpa [Path.isIdle] using eq_of_followAll (by decide) h

theorem start_join (hname : Path.isAbsolute name = false) :
    start directory (Path.join outDir name) = start directory outDir := by
  by_cases hempty : outDir = ""
  · have habsolute : Path.isAbsolute "" = false := rfl
    subst hempty
    simp [Path.join, start, hname, habsolute]
  · obtain ⟨c, rest, hchars⟩ : ∃ c rest, outDir.toList = c :: rest := by
      cases hchars : outDir.toList with
      | nil => exact absurd (String.toList_eq_nil_iff.1 hchars) hempty
      | cons c rest => exact ⟨c, rest, rfl⟩
    have hjoin : Path.isAbsolute (Path.join outDir name) = Path.isAbsolute outDir := by
      rw [Path.join, hname, Bool.false_or, if_neg (by simpa using hempty)]
      split <;> simp [Path.isAbsolute, hchars]
    rw [start, start, hjoin]

/-- A relative name within a directory leads on from there. -/
theorem followAll_join (hleads : tree.Leads directory outDir folder)
    (hname : Path.isAbsolute name = false) :
    tree.followAll (start directory (Path.join outDir name))
        (Path.components (Path.join outDir name)) =
      tree.followAll folder (Path.components name) := by
  obtain ⟨hfollow, -⟩ := hleads
  rw [start_join hname]
  by_cases hempty : outDir = ""
  · subst hempty
    have hhere : folder = start directory "" := eq_of_followAll_empty hfollow
    simp [Path.join, hhere]
  · rw [Path.join, hname, Bool.false_or, if_neg (by simpa using hempty)]
    split
    · next hslash =>
      obtain ⟨letters, hletters⟩ := List.getLast?_eq_some_iff.1 hslash
      obtain ⟨front, rfl⟩ : ∃ front, outDir = front ++ "/" :=
        ⟨String.ofList letters, by rw [← String.toList_inj]; simpa using hletters⟩
      have hfront : Path.components (front ++ "/") = Path.components front ++ [""] := by
        simpa [Path.components, Path.splitSlashes] using Path.components_append_slash front ""
      rw [hfront, followAll_append] at hfollow
      rw [Path.components_append_slash, followAll_append]
      cases hmiddle : tree.followAll (start directory (front ++ "/")) (Path.components front) with
      | error fault => rw [hmiddle] at hfollow; cases hfollow
      | ok middle =>
        rw [hmiddle] at hfollow
        rw [Except.bind, eq_of_followAll_empty hfollow]
    · rw [Path.components_append_slash, followAll_append, hfollow, Except.bind]

/-- Where a name without steps up lies: below its directory, or below the root if it is absolute. -/
theorem eq_of_locate_join (hleads : tree.Leads directory outDir folder)
    (hup : ".." ∉ Path.components name)
    (h : tree.locate directory (Path.join outDir name) = .ok place) :
    place = (if Path.isAbsolute name then [] else folder) ++ Path.steps name := by
  rw [locate] at h
  split at h
  · cases h
  · split at h
    · cases h
    · cases hname : Path.isAbsolute name with
      | false =>
        rw [followAll_join hleads hname] at h
        exact eq_of_followAll hup h
      | true =>
        have hjoin : Path.join outDir name = name := by simp [Path.join, hname]
        rw [hjoin, start, if_pos hname] at h
        exact eq_of_followAll hup h

end FileTree

end FirmwareGen
